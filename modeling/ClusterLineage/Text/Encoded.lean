import ClusterLineage.Text.Basic
import ClusterLineage.Text.Escape

/-!
# Texts as strings

A string holds characters alone, so a text with surrogates has no string.  `encode` refuses such a
text and says where its first surrogates are; `escapeSurrogates` writes them by their codes.
-/

namespace ClusterLineage.Text

/-- Surrogates next to each other in a text: where they start, and which they are. -/
structure EncodeError where
  position : Nat
  surrogates : List Code
  deriving DecidableEq, Repr

/-- The wording of an error: one code is shown, several are given by their positions. -/
def EncodeError.message (e : EncodeError) : String :=
  let place :=
    match e.surrogates with
    | [c] => "character '" ++ String.ofList (unitEscape c.toNat) ++ "' in position " ++
        toString e.position
    | cs => "characters in position " ++ toString e.position ++ "-" ++
        toString (e.position + cs.length - 1)
  "'utf-8' codec can't encode " ++ place ++ ": surrogates not allowed"

/-- The string of a text, or its first surrogates. -/
def encode (t : Text) : Except EncodeError String :=
  match t.codes.span (!·.isSurrogate) with
  | (cs, []) => .ok (String.ofList (cs.filterMap Code.toChar?))
  | (cs, rest) => .error ⟨cs.length, rest.takeWhile Code.isSurrogate⟩

/-- The string of a text, its surrogates written by their codes. -/
def escapeSurrogates (t : Text) : String :=
  String.ofList (t.codes.flatMap fun c =>
    match c.toChar? with
    | some c => [c]
    | none => unitEscape c.toNat)

end ClusterLineage.Text
