import ClusterLineage.Text.Sorted

/-!
# Sorting does not depend on the order

Lists with the same entries are the same once sorted, if ties are settled: either no two entries
tie, or entries that tie come in the same order in both lists.
-/

namespace ClusterLineage

section Stable

variable {α : Type} {le : α → α → Bool} {l l' : List α}

/-- The entries of a list that tie with one entry. -/
def ties (le : α → α → Bool) (a : α) (l : List α) : List α :=
  l.filter fun b => le a b && le b a

/-- Sorted lists with the same entries are the same if entries that tie come in the same order. -/
theorem eq_of_perm_of_ties_eq
    (hrefl : ∀ a, le a a = true)
    (hsorted : l.Pairwise fun a b => le a b = true)
    (hsorted' : l'.Pairwise fun a b => le a b = true)
    (hperm : l.Perm l')
    (hties : ∀ a, ties le a l = ties le a l') :
    l = l' := by
  induction l generalizing l' with
  | nil => exact hperm.nil_eq
  | cons x t ih =>
    cases l' with
    | nil => exact absurd hperm.length_eq (by simp)
    | cons y t' =>
      -- the heads tie, so they are the first of the same ties
      have hxy : le x y = true := by
        rcases List.mem_cons.mp (hperm.mem_iff.mpr List.mem_cons_self) with rfl | hy
        · exact hrefl y
        · exact (List.pairwise_cons.mp hsorted).1 y hy
      have hyx : le y x = true := by
        rcases List.mem_cons.mp (hperm.mem_iff.mp List.mem_cons_self) with rfl | hx
        · exact hrefl x
        · exact (List.pairwise_cons.mp hsorted').1 x hx
      have hheads := hties x
      unfold ties at hheads
      rw [List.filter_cons_of_pos (by simp [hrefl]), List.filter_cons_of_pos (by simp [hxy, hyx])]
        at hheads
      obtain ⟨rfl, -⟩ := List.cons.inj hheads
      congr 1
      apply ih (List.pairwise_cons.mp hsorted).2 (List.pairwise_cons.mp hsorted').2
        ((List.perm_cons x).mp hperm)
      intro a
      have ha := hties a
      unfold ties at ha ⊢
      rw [List.filter_cons, List.filter_cons] at ha
      split at ha
      · exact (List.cons.inj ha).2
      · exact ha

theorem ties_mergeSort
    (htrans : ∀ a b c, le a b = true → le b c = true → le a c = true)
    (htotal : ∀ a b, (le a b || le b a) = true)
    (a : α)
    (l : List α) :
    ties le a (l.mergeSort le) = ties le a l := by
  have hpairwise : (ties le a l).Pairwise fun b c => le b c = true := by
    apply List.pairwise_of_forall_mem_list
    intro b hb c hc
    have hba := (Bool.and_eq_true_iff.mp (List.mem_filter.mp hb).2).2
    have hac := (Bool.and_eq_true_iff.mp (List.mem_filter.mp hc).2).1
    exact htrans b a c hba hac
  have hsublist : (ties le a l).Sublist (l.mergeSort le) :=
    List.sublist_mergeSort htrans htotal hpairwise List.filter_sublist
  have hself : ties le a (ties le a l) = ties le a l := by
    rw [ties, ties, List.filter_filter]
    simp only [Bool.and_self]
  have hties := hsublist.filter fun b => le a b && le b a
  change (ties le a (ties le a l)).Sublist _ at hties
  rw [hself] at hties
  exact (hties.eq_of_length (((List.mergeSort_perm l le).filter _).length_eq).symm).symm

/-- Sorting brings lists with the same entries into the same order if entries that tie come in the
same order in both. -/
theorem mergeSort_eq_of_perm
    (htrans : ∀ a b c, le a b = true → le b c = true → le a c = true)
    (htotal : ∀ a b, (le a b || le b a) = true)
    (hperm : l.Perm l')
    (hties : ∀ a, ties le a l = ties le a l') :
    l.mergeSort le = l'.mergeSort le := by
  apply eq_of_perm_of_ties_eq
  · intro a
    simpa using htotal a a
  · exact List.pairwise_mergeSort htrans htotal l
  · exact List.pairwise_mergeSort htrans htotal l'
  · exact (List.mergeSort_perm l le).trans (hperm.trans (List.mergeSort_perm l' le).symm)
  · intro a
    rw [ties_mergeSort htrans htotal, ties_mergeSort htrans htotal, hties a]

end Stable

namespace Text

variable {α : Type}

theorem le_total_bool (s t : Text) : (s.le t || t.le s) = true :=
  Bool.or_eq_true_iff.mpr (le_total s t)

theorem pairwise_sortedBy (text : α → Text) (l : List α) :
    (sortedBy text l).Pairwise fun a b => (text a).le (text b) = true := by
  apply List.pairwise_mergeSort
  · intro a b c
    exact le_trans
  · intro a b
    exact le_total_bool (text a) (text b)

/-- Things whose texts are all different have one order. -/
theorem sortedBy_eq_of_perm
    {text : α → Text} {l l' : List α}
    (hperm : l.Perm l')
    (hinj : ∀ a ∈ l, ∀ b ∈ l, text a = text b → a = b) :
    sortedBy text l = sortedBy text l' := by
  apply List.Perm.eq_of_pairwise _ (pairwise_sortedBy text l) (pairwise_sortedBy text l')
  · exact (List.mergeSort_perm l _).trans (hperm.trans (List.mergeSort_perm l' _).symm)
  · intro a b ha hb hab hba
    have ha' : a ∈ l := List.mem_mergeSort.mp ha
    have hb' : b ∈ l := hperm.mem_iff.mpr (List.mem_mergeSort.mp hb)
    exact hinj a ha' b hb' (le_antisymm hab hba)

theorem sorted_eq_of_perm {l l' : List Text} (hperm : l.Perm l') : sorted l = sorted l' :=
  @sortedBy_eq_of_perm Text id l l' hperm (fun _ _ _ _ h => h)

/-- Lists of different texts are the same once sorted if they have the same members. -/
theorem sorted_eq_of_mem_iff
    {l l' : List Text}
    (hl : l.Nodup)
    (hl' : l'.Nodup)
    (hmem : ∀ t, t ∈ l ↔ t ∈ l') :
    sorted l = sorted l' :=
  sorted_eq_of_perm ((List.perm_ext_iff_of_nodup hl hl').mpr hmem)

/-- The texts of things in the order of their texts. -/
theorem map_sortedBy (text : α → Text) (l : List α) :
    (sortedBy text l).map text = sorted (l.map text) := by
  apply List.Perm.eq_of_pairwise (fun s t _ _ => le_antisymm)
  · exact List.pairwise_map.mpr (pairwise_sortedBy text l)
  · exact pairwise_sortedBy id (l.map text)
  · exact ((List.mergeSort_perm l _).map text).trans (List.mergeSort_perm _ _).symm

/-- Each text comes before all that follow it and differs from them. -/
def Ascending (l : List Text) : Prop :=
  l.Pairwise fun s t => s.le t = true ∧ s ≠ t

theorem mem_sorted {t : Text} {l : List Text} : t ∈ sorted l ↔ t ∈ l :=
  List.mem_mergeSort

theorem ascending_sorted {l : List Text} (hl : l.Nodup) : Ascending (sorted l) := by
  have hnodup : (sorted l).Nodup := (List.mergeSort_perm l le).nodup_iff.mpr hl
  exact (pairwise_sortedBy id l).and hnodup

/-- Two ascending lists with the same members are the same. -/
theorem Ascending.eq_of_mem_iff
    {l l' : List Text}
    (hl : Ascending l)
    (hl' : Ascending l')
    (hmem : ∀ t, t ∈ l ↔ t ∈ l') :
    l = l' := by
  have hnodup : l.Nodup := hl.imp And.right
  have hnodup' : l'.Nodup := hl'.imp And.right
  apply List.Perm.eq_of_pairwise _ (hl.imp And.left) (hl'.imp And.left)
  · exact (List.perm_ext_iff_of_nodup hnodup hnodup').mpr hmem
  · intro s t _ _ hst hts
    exact le_antisymm hst hts

end Text

end ClusterLineage
