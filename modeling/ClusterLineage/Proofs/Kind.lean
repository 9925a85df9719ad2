import ClusterLineage.Resource
import Mathlib.Data.List.Nodup

/-!
# Looking up kinds

Of things with different names, each is found by its name.  No two kinds have names that differ only
in letter case, so a text names a known kind exactly when it is the name of that kind up to letter
case.
-/

namespace ClusterLineage

/-- Of things with different names, the one with a given name is found among all of them. -/
theorem find?_name_eq_some_iff
    {α : Type} {all : List α} {name : α → Text} {text : Text} {x : α}
    (hall : ∀ y, y ∈ all)
    (hnodup : (all.map name).Nodup) :
    all.find? (name · == text) = some x ↔ name x = text := by
  constructor
  · intro h
    simpa using List.find?_some h
  · rintro rfl
    cases hfind : all.find? (name · == name x) with
    | none => simpa using List.find?_eq_none.mp hfind x (hall x)
    | some y =>
      have hy : name y = name x := by simpa using List.find?_some hfind
      rw [List.inj_on_of_nodup_map hnodup (hall y) (hall x) hy]

namespace Kind

/-- A text names a kind if it is the name of the kind in any letter case. -/
theorem ofName?_eq_some_iff {text : Text} {k : Kind} :
    ofName? text = some k ↔ Text.lower k.name = Text.lower text :=
  find?_name_eq_some_iff mem_all (by decide +kernel)

/-- The canonical spelling is the same in small letters. -/
theorem lower_canonical (text : Text) : Text.lower (canonical text) = Text.lower text := by
  unfold canonical
  split
  · next k hk => exact ofName?_eq_some_iff.mp hk
  · rfl

/-! ## Labels for counting -/

/-- The labels under which kinds are counted: the names of the known kinds, and one for all
others. -/
def IsCountLabel (label : Text) : Prop :=
  label = "other" ∨ ∃ k : Kind, label = k.name

theorem isCountLabel_countLabel (text : Text) : IsCountLabel (countLabel text) := by
  rw [countLabel]
  split
  · next k _ => exact .inr ⟨k, rfl⟩
  · exact .inl rfl

theorem name_ne_other (k : Kind) : k.name ≠ "other" := by
  cases k <;> decide

theorem countLabel_of_ofName? {text : Text} {k : Kind} (h : ofName? text = some k) :
    countLabel text = k.name := by
  rw [countLabel, h]

theorem canonical_of_ofName? {text : Text} {k : Kind} (h : ofName? text = some k) :
    canonical text = k.name := by
  rw [canonical, h]

end Kind

end ClusterLineage
