import ClusterLineage.Proofs.Json.Fields
import Mathlib.Data.List.Forall2

/-!
# Values with a broken part

One part of a value, at any depth, can be replaced by a value that says nothing, or be taken out.
What the readers of fields then answer is what they answered before, with that part broken or
missing: a text is the same or none, a field remains a field, and of a list of objects some may be
missing, but none is new and none has moved.
-/

namespace ClusterLineage.Json

/-- One part of the first value has become `null`, a boolean or a number in the second, or it is
gone.  A member that is gone leaves none of its name behind. -/
inductive Broken : Json → Json → Prop where
  | null (j : Json) : Broken j .null
  | bool (j : Json) (b : Bool) : Broken j (.bool b)
  | int (j : Json) (n : Int) : Broken j (.int n)
  | float (j : Json) (x : Float) : Broken j (.float x)
  | member {ms : List (Text × Json)} {name : Text} {v v' : Json} (hv : ms.lookup name = some v)
      (h : Broken v v') : Broken (.obj ms) (.obj (setMember name v' ms))
  | item (before after : List Json) {x x' : Json} (h : Broken x x') :
      Broken (.arr (before ++ x :: after)) (.arr (before ++ x' :: after))
  | memberGone (ms : List (Text × Json)) (name : Text) :
      Broken (.obj ms) (.obj (ms.filter (·.1 ≠ name)))
  | itemGone (before after : List Json) (x : Json) :
      Broken (.arr (before ++ x :: after)) (.arr (before ++ after))

/-- A value is what remains of another when at most one part of that is broken. -/
def RemainsOf (j' j : Json) : Prop :=
  j' = j ∨ Broken j j'

variable {j j' : Json}

theorem RemainsOf.null (j : Json) : Json.null.RemainsOf j :=
  .inr (.null j)

/-- A text that remains is the same. -/
theorem RemainsOf.text?_eq
    {t : Text}
    (h : j'.RemainsOf j)
    (ht : j'.text? = some t) :
    j.text? = some t := by
  obtain rfl | h := h
  · exact ht
  · cases h
    all_goals cases ht

/-- A field remains a field. -/
theorem RemainsOf.get
    (h : j'.RemainsOf j)
    (name : Text) :
    (j'.get name).RemainsOf (j.get name) := by
  obtain rfl | h := h
  · exact .inl rfl
  · cases h with
    | @member ms broken v v' hv h =>
      by_cases hname : name = broken
      · rw [Json.get, Json.get, members, members, hname, hv, lookup_setMember_self]
        exact .inr h
      · rw [Json.get, Json.get, members, members, lookup_setMember_of_ne v' ms hname]
        exact .inl rfl
    | memberGone ms gone =>
      by_cases hname : name = gone
      · rw [hname, get_filter_self]
        exact .null _
      · rw [get_filter_ne hname]
        exact .inl rfl
    | _ => exact .null _

theorem RemainsOf.path
    (h : j'.RemainsOf j)
    (names : List Text) :
    (j'.path names).RemainsOf (j.path names) := by
  unfold Json.path
  induction names generalizing j j' with
  | nil => exact h
  | cons name names ih => exact ih (h.get name)

theorem RemainsOf.isObject
    (h : j'.RemainsOf j)
    (hobject : j'.isObject = true) :
    j.isObject = true := by
  obtain rfl | h := h
  · exact hobject
  · cases h
    all_goals first | rfl | cases hobject

/-! ## Lists -/

section Lists

open List

variable {α : Type} {R : α → α → Prop} {l l' : List α}

theorem sublistForall₂_append
    (hR : ∀ a, R a a)
    (before : List α)
    (h : SublistForall₂ R l l') :
    SublistForall₂ R (before ++ l) (before ++ l') := by
  induction before with
  | nil => exact h
  | cons a before ih => exact .cons (hR a) ih

theorem sublistForall₂_filter
    {test : α → Bool}
    (hR : ∀ a b, R a b → test a = true → test b = true)
    (h : SublistForall₂ R l l') :
    SublistForall₂ R (l.filter test) (l'.filter test) := by
  induction h with
  | nil => exact .nil
  | @cons a b l l' hab _ ih =>
    by_cases ha : test a = true
    · rw [filter_cons_of_pos ha, filter_cons_of_pos (hR a b hab ha)]
      exact .cons hab ih
    · rw [filter_cons_of_neg ha]
      by_cases hb : test b = true
      · rw [filter_cons_of_pos hb]
        exact .cons_right ih
      · rwa [filter_cons_of_neg hb]
  | @cons_right b l l' _ ih =>
    by_cases hb : test b = true
    · rw [filter_cons_of_pos hb]
      exact .cons_right ih
    · rwa [filter_cons_of_neg hb]

/-- What is collected from fewer values, and from each no more, is no more. -/
theorem sublist_flatMap
    {β : Type} {f f' : α → List β}
    (hf : ∀ a b, R a b → (f' a).Sublist (f b))
    (h : SublistForall₂ R l l') :
    (l.flatMap f').Sublist (l'.flatMap f) := by
  induction h with
  | nil => exact nil_sublist _
  | @cons a b l l' hab _ ih =>
    rw [flatMap_cons, flatMap_cons]
    exact (hf a b hab).append ih
  | @cons_right b l l' _ ih =>
    rw [flatMap_cons]
    exact ih.trans (sublist_append_right _ _)

end Lists

/-- Of the items of a list one may be broken or gone. -/
theorem RemainsOf.items (h : j'.RemainsOf j) :
    List.SublistForall₂ RemainsOf j'.items j.items := by
  have hrefl (x : Json) : x.RemainsOf x := .inl rfl
  have hsame (xs : List Json) : List.SublistForall₂ RemainsOf xs xs := by
    simpa using sublistForall₂_append hrefl xs (.nil : List.SublistForall₂ RemainsOf [] [])
  obtain rfl | h := h
  · exact hsame _
  · cases h with
    | item before after h => exact sublistForall₂_append hrefl before (.cons (.inr h) (hsame after))
    | itemGone before after x =>
      exact sublistForall₂_append hrefl before (.cons_right (hsame after))
    | _ => exact .nil

/-- Of the objects in a list one may be broken or gone. -/
theorem RemainsOf.objects (h : j'.RemainsOf j) :
    List.SublistForall₂ RemainsOf j'.objects j.objects :=
  sublistForall₂_filter (fun _ _ hx hobject => hx.isObject hobject) h.items

end ClusterLineage.Json
