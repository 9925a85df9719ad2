import ClusterLineage.Json.Basic
import ClusterLineage.Decimal.FloatText
import ClusterLineage.Text.Escape

/-!
# Writing JSON

Values are written over lines, with two blanks per level, or on one line.  Both are ASCII alone:
every other character is written by its code, as a pair of escapes beyond the first plane.
-/

namespace ClusterLineage.Json

/-- A code inside a written string. -/
def writtenCode (c : Code) : List Char :=
  if c = '\"' then ['\\', '\"']
  else if c = '\\' then ['\\', '\\']
  else if c = '\n' then ['\\', 'n']
  else if c = '\r' then ['\\', 'r']
  else if c = '\t' then ['\\', 't']
  else if c = '\x0c' then ['\\', 'f']
  else if c = '\x08' then ['\\', 'b']
  else if 0x20 ≤ c.toNat && c.toNat < 0x7F then [Char.ofNat c.toNat]
  else if c.toNat < 0x10000 then Text.unitEscape c.toNat
  else
    let code := c.toNat - 0x10000
    Text.unitEscape (0xD800 + code / 0x400) ++ Text.unitEscape (0xDC00 + code % 0x400)

/-- A written string. -/
def writtenString (t : Text) : List Char :=
  '\"' :: t.codes.flatMap writtenCode ++ ['\"']

/-- What stands between the parts of an array or an object, by depth. -/
structure Layout where
  /-- Behind the opening bracket and before the closing one. -/
  edge : Nat → List Char
  /-- Between two items or members. -/
  between : Nat → List Char

/-- The end of a line and the indentation of the next. -/
def newLine (depth : Nat) : List Char :=
  '\n' :: List.replicate (2 * depth) ' '

/-- Every item and every member on a line of its own. -/
def Layout.lines : Layout := ⟨newLine, fun depth => ',' :: newLine depth⟩

/-- Everything on one line. -/
def Layout.oneLine : Layout := ⟨fun _ => [], fun _ => [',', ' ']⟩

mutual

/-- A value written at a depth, its first line without indentation. -/
def written (layout : Layout) (depth : Nat) : Json → List Char
  | null => "null".toList
  | bool true => "true".toList
  | bool false => "false".toList
  | int n => (toString n).toList
  | float x => (Decimal.floatText "Infinity" "NaN" x).toList
  | str s => writtenString s
  | arr [] => ['[', ']']
  | arr (x :: xs) =>
    '[' :: layout.edge (depth + 1) ++ written layout (depth + 1) x ++
      writtenItems layout (depth + 1) xs ++ layout.edge depth ++ [']']
  | obj [] => ['\x7b', '\x7d']
  | obj ((name, value) :: ms) =>
    '\x7b' :: layout.edge (depth + 1) ++ writtenString name ++ ':' :: ' ' ::
      written layout (depth + 1) value ++ writtenMembers layout (depth + 1) ms ++
      layout.edge depth ++ ['\x7d']

/-- The items of an array after the first. -/
def writtenItems (layout : Layout) (depth : Nat) : List Json → List Char
  | [] => []
  | x :: xs => layout.between depth ++ written layout depth x ++ writtenItems layout depth xs

/-- The members of an object after the first. -/
def writtenMembers (layout : Layout) (depth : Nat) : List (Text × Json) → List Char
  | [] => []
  | (name, value) :: ms =>
    layout.between depth ++ writtenString name ++ ':' :: ' ' :: written layout depth value ++
      writtenMembers layout depth ms

end

/-- A value written over lines. -/
def pretty (j : Json) : String :=
  String.ofList (written .lines 0 j)

/-- A value written on one line. -/
def oneLine (j : Json) : String :=
  String.ofList (written .oneLine 0 j)

end ClusterLineage.Json
