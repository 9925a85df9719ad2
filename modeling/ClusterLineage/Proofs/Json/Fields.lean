import ClusterLineage.Json.Basic

/-!
# What fields lead to

Every reader of a field answers something, and what it answers is part of the value that is read, or
nothing.  `Reaches` follows the readers through members and lists, and `Holds` says that a text
stands at the end.
-/

namespace ClusterLineage.Json

variable {j x y : Json} {t : Text}

theorem text?_eq_some_iff : j.text? = some t ↔ j = .str t ∧ t ≠ "" := by
  have hempty (s : Text) : s.isEmpty = true ↔ s = "" := by
    cases s with
    | mk codes => simp [Text.isEmpty, Text.ofString]
  cases j with
  | str s =>
    rw [text?, Option.ite_none_left_eq_some, hempty, Option.some.injEq, Json.str.injEq]
    constructor
    · rintro ⟨hs, rfl⟩
      exact ⟨rfl, hs⟩
    · rintro ⟨rfl, hs⟩
      exact ⟨hs, rfl⟩
  | _ => simp [text?]

theorem get_obj_cons (name : Text) (m : Text × Json) (ms : List (Text × Json)) :
    (Json.obj (m :: ms)).get name = if name = m.1 then m.2 else (Json.obj ms).get name := by
  obtain ⟨key, value⟩ := m
  by_cases h : name = key
  · simp [get, members, h]
  · simp [get, members, List.lookup_cons, beq_eq_false_iff_ne.mpr h, h]

theorem get_filter_notMem
    {apart : List Text}
    {name : Text}
    (hname : name ∉ apart)
    (ms : List (Text × Json)) :
    (Json.obj (ms.filter (·.1 ∉ apart))).get name = (Json.obj ms).get name := by
  induction ms with
  | nil => rfl
  | cons m ms ih =>
    by_cases hm : m.1 ∈ apart
    · have hne : name ≠ m.1 := (ne_of_mem_of_not_mem hm hname).symm
      rw [List.filter_cons_of_neg (by simpa using hm), get_obj_cons, ih, if_neg hne]
    · rw [List.filter_cons_of_pos (by simpa using hm), get_obj_cons, get_obj_cons, ih]

/-- Members of one name do not matter for the others. -/
theorem get_filter_ne
    {name other : Text}
    (hne : other ≠ name)
    (ms : List (Text × Json)) :
    (Json.obj (ms.filter (·.1 ≠ name))).get other = (Json.obj ms).get other := by
  have hapart : other ∉ [name] := mt List.mem_singleton.mp hne
  simpa only [List.mem_singleton] using get_filter_notMem hapart ms

theorem get_filter_self (name : Text) (ms : List (Text × Json)) :
    (Json.obj (ms.filter (·.1 ≠ name))).get name = .null := by
  have hnone : (ms.filter (·.1 ≠ name)).lookup name = none := by
    rw [List.lookup_eq_none_iff]
    intro m hm
    have hne : m.1 ≠ name := of_decide_eq_true (List.mem_filter.mp hm).2
    exact bne_iff_ne.mpr hne.symm
  rw [get, members, hnone, Option.getD_none]

/-- Fields of a value lead to another. -/
inductive Reaches (j : Json) : Json → Prop where
  | self : Reaches j j
  | get {x : Json} (h : Reaches j x) (name : Text) : Reaches j (x.get name)
  | object {x y : Json} (h : Reaches j x) (hy : y ∈ x.objects) : Reaches j y

theorem Reaches.path
    (h : j.Reaches x)
    (names : List Text) :
    j.Reaches (x.path names) := by
  unfold Json.path
  induction names generalizing x with
  | nil => exact h
  | cons name names ih => exact ih (h.get name)

/-- Fields of a value lead to a text that is not empty. -/
def Holds (j : Json) (t : Text) : Prop :=
  ∃ x, j.Reaches x ∧ x.text? = some t

theorem Holds.ne_empty (h : j.Holds t) : t ≠ "" := by
  obtain ⟨x, -, ht⟩ := h
  exact (text?_eq_some_iff.mp ht).2

theorem Reaches.holds (h : j.Reaches x) : ∀ t ∈ x.text?, j.Holds t :=
  fun _ ht => ⟨x, h, ht⟩

/-- What one of two sources gives is held if what either of them gives is. -/
theorem holds_orElse
    {a b : Option Text}
    (ha : ∀ t ∈ a, j.Holds t)
    (hb : ∀ t ∈ b, j.Holds t) :
    ∀ t ∈ (a <|> b), j.Holds t := by
  cases a with
  | none => simpa using hb
  | some t => simpa using ha

end ClusterLineage.Json
