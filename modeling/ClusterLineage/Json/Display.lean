import ClusterLineage.Json.Basic
import ClusterLineage.Decimal.FloatText
import ClusterLineage.Text.Quoted

/-!
# The text of a value

Labels are texts; a label of another type counts as the text that `display` gives.  A string is its
own text at the outside and quoted within arrays and objects.
-/

namespace ClusterLineage.Json

mutual

/-- The text of a value within another. -/
def displayInner : Json → Text
  | null => "None"
  | bool true => "True"
  | bool false => "False"
  | int n => toString n
  | float x => Decimal.floatText "inf" "nan" x
  | str s => Text.quoted s
  | arr xs => "[" ++ Text.intercalate ", " (displayItems xs) ++ "]"
  | obj ms => "\x7b" ++ Text.intercalate ", " (displayMembers ms) ++ "\x7d"

/-- The texts of the items of an array. -/
def displayItems : List Json → List Text
  | [] => []
  | x :: xs => displayInner x :: displayItems xs

/-- The texts of the members of an object. -/
def displayMembers : List (Text × Json) → List Text
  | [] => []
  | (name, value) :: ms => (Text.quoted name ++ ": " ++ displayInner value) :: displayMembers ms

end

/-- The text of a value. -/
def display : Json → Text
  | str s => s
  | j => displayInner j

end ClusterLineage.Json
