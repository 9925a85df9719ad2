import ClusterLineage.Text.Basic
import ClusterLineage.Text.LetterCase

/-!
# Lower case of a whole text

`lower` writes a text in small letters by the full Unicode rules.  Two of them are not a table of
single characters: the dotted capital I becomes two characters, and a capital sigma takes its
final form at the end of a word, which the letters on both sides of it decide.
-/

namespace ClusterLineage.Text

/-- Whether a code carries a case and separates the letters around it. -/
def isCased (c : Code) : Bool :=
  inRanges casedRanges c.toNat

/-- Whether a code is passed over when the letters around a sigma are looked at. -/
def isCaseIgnorable (c : Code) : Bool :=
  inRanges caseIgnorableRanges c.toNat

/-- Whether the first code that is not passed over carries a case. -/
def startsCased (cs : List Code) : Bool :=
  match cs.dropWhile isCaseIgnorable with
  | [] => false
  | c :: _ => isCased c

/-- The small letter of a code that has just one.  The table starts with the only capital letters
of ASCII, so for codes of ASCII its first entry is enough. -/
def lowerCode (c : Code) : Code :=
  .ofNat (moveCode (if c.toNat < 128 then lowercaseRuns.take 1 else lowercaseRuns) c.toNat)

/-- The small form of one code between the text before it, read backwards, and the text after
it. -/
def lowerAt (before : List Code) (c : Code) (after : List Code) : List Code :=
  if c = 'Σ' then
    if startsCased before && !startsCased after then ['ς'] else ['σ']
  else if c = 'İ' then ['i', '\u0307']
  else [lowerCode c]

/-- The small form of the rest of a text, given what came before it, read backwards. -/
def lowerFrom (before : List Code) : List Code → List Code
  | [] => []
  | c :: after => lowerAt before c after ++ lowerFrom (c :: before) after

/-- A text in small letters. -/
def lower (t : Text) : Text :=
  ⟨lowerFrom [] t.codes⟩

/-- Whether two texts differ at most in letter case. -/
def sameLower (s t : Text) : Bool :=
  lower s == lower t

end ClusterLineage.Text
