import ClusterLineage.Text.Basic

/-!
# JSON values

The dynamic data that descriptors are made of.  Objects keep the order of their members, and whole
numbers are apart from floating ones, since the text of a value shows both.  Every reader of a
field answers something for every value: what is absent or of another type counts as `null`.
-/

namespace ClusterLineage

/-- A JSON value. -/
inductive Json where
  | null
  | bool (b : Bool)
  | int (n : Int)
  | float (x : Float)
  | str (s : Text)
  | arr (items : List Json)
  | obj (members : List (Text × Json))
  deriving Inhabited

namespace Json

/-- The members of an object; other values have none. -/
def members : Json → List (Text × Json)
  | obj ms => ms
  | _ => []

/-- The items of an array; other values have none. -/
def items : Json → List Json
  | arr xs => xs
  | _ => []

/-- The value of a member, or `null`. -/
def get (j : Json) (name : Text) : Json :=
  (j.members.lookup name).getD null

/-- The value at the end of a path of members, or `null`. -/
def path (j : Json) (names : List Text) : Json :=
  names.foldl get j

/-- Whether the value is an object. -/
def isObject : Json → Bool
  | obj _ => true
  | _ => false

/-- The text of a string that is not empty. -/
def text? : Json → Option Text
  | str s => if s.isEmpty then none else some s
  | _ => none

/-- The items of an array that are objects. -/
def objects (j : Json) : List Json :=
  j.items.filter isObject

/-- The members of an object that has some. -/
def entries? (j : Json) : Option (List (Text × Json)) :=
  match j.members with
  | [] => none
  | ms => some ms

/-- Whether the value is not nothing: neither `null`, false nor zero, and not empty. -/
def isPresent : Json → Bool
  | null => false
  | bool b => b
  | int n => n != 0
  | float x => !(x == 0)
  | str s => !s.isEmpty
  | arr xs => !xs.isEmpty
  | obj ms => !ms.isEmpty

/-- A text, or `null` without one. -/
def ofText? : Option Text → Json
  | some s => str s
  | none => null

/-- An array of texts. -/
def ofTexts (texts : List Text) : Json :=
  arr (texts.map str)

/-- Replaces the value of a member in its place, or adds the member at the end. -/
def setMember (name : Text) (value : Json) : List (Text × Json) → List (Text × Json)
  | [] => [(name, value)]
  | (n, v) :: rest =>
    if n = name then (n, value) :: rest else (n, v) :: setMember name value rest

/-- A member has the value that it was set to. -/
theorem lookup_setMember_self (name : Text) (value : Json) (ms : List (Text × Json)) :
    (setMember name value ms).lookup name = some value := by
  induction ms with
  | nil => simp [setMember]
  | cons m rest ih =>
    obtain ⟨n, v⟩ := m
    by_cases h : n = name
    · simp [setMember, h]
    · simp [setMember, h, List.lookup_cons, ih, beq_eq_false_iff_ne.mpr (Ne.symm h)]

/-- Setting a member leaves the others as they are. -/
theorem lookup_setMember_of_ne
    {name other : Text} (value : Json) (ms : List (Text × Json))
    (hne : other ≠ name) :
    (setMember name value ms).lookup other = ms.lookup other := by
  induction ms with
  | nil => simp [setMember, List.lookup_cons, beq_eq_false_iff_ne.mpr hne]
  | cons m rest ih =>
    obtain ⟨n, v⟩ := m
    by_cases h : n = name
    · simp [setMember, h, List.lookup_cons, beq_eq_false_iff_ne.mpr hne]
    · simp [setMember, h, List.lookup_cons, ih]

/-- The name of the type of a value, as reports on misplaced values use it. -/
def typeName : Json → String
  | null => "NoneType"
  | bool _ => "bool"
  | int _ => "int"
  | float _ => "float"
  | str _ => "str"
  | arr _ => "list"
  | obj _ => "dict"

end Json

end ClusterLineage
