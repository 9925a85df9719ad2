import ClusterLineage.Proofs.Text.Lowercase

/-!
# Texts without surrogates

A text without surrogates has characters alone, and so it is a string.  Texts that are put together
from such texts are of the same kind, and so are their small letters: no run of the table of small
letters leads to a surrogate.
-/

namespace ClusterLineage

variable {c : Code} {s t : Text}

theorem Code.isSurrogate_eq_false_iff :
    c.isSurrogate = false ↔ c.toNat < 0xD800 ∨ 0xDFFF < c.toNat := by
  rw [Bool.eq_false_iff]
  simp only [ne_eq, isSurrogate, isHighSurrogate, isLowSurrogate, Bool.or_eq_true,
    Bool.and_eq_true, decide_eq_true_eq]
  omega

/-- Every code but a surrogate is that of a character. -/
theorem Code.ofChar_ofNat (hc : c.isSurrogate = false) : ofChar (Char.ofNat c.toNat) = c := by
  have hvalid : c.toNat.isValidChar := by
    have hrange := isSurrogate_eq_false_iff.mp hc
    have hlt := c.toNat_lt
    unfold Nat.isValidChar
    omega
  obtain ⟨n, hn⟩ := c
  rw [ofChar, mk.injEq, Char.ofNat, dif_pos hvalid]
  rfl

theorem Code.toChar?_eq_some_iff {d : Char} : c.toChar? = some d ↔ c = d := by
  constructor
  · intro h
    rw [toChar?, Option.ite_none_left_eq_some] at h
    rw [← Option.some.inj h.2, ofChar_ofNat (Bool.of_not_eq_true h.1)]
  · rintro rfl
    exact toChar?_ofChar d

namespace Text

/-- Whether a text has characters alone, and no surrogates. -/
def IsUnicode (t : Text) : Prop :=
  ∀ c ∈ t.codes, c.isSurrogate = false

@[simp]
theorem isUnicode_ofString (s : String) : (ofString s).IsUnicode := by
  intro c hc
  obtain ⟨d, -, rfl⟩ := List.mem_map.mp hc
  exact Code.isSurrogate_ofChar d

@[simp]
theorem isUnicode_append : (s ++ t).IsUnicode ↔ s.IsUnicode ∧ t.IsUnicode := by
  rw [IsUnicode, codes_append, List.forall_mem_append]
  rfl

theorem isUnicode_join {ts : List Text} (h : ∀ t ∈ ts, t.IsUnicode) : (join ts).IsUnicode := by
  intro c hc
  obtain ⟨t, ht, hct⟩ := List.mem_flatMap.mp hc
  exact h t ht c hct

/-- The small letter of a character is one: no run of the table leads to a surrogate. -/
theorem isSurrogate_lowerCode (hc : c.isSurrogate = false) :
    (lowerCode c).isSurrogate = false := by
  have htable : (lowercaseRuns.all (·.avoids ⟨0xD800, 0xDFFF, 1, 0⟩)) = true := by
    decide +kernel
  have hrun (c : Code) :
      (⟨0xD800, 0xDFFF, 1, 0⟩ : CodeRun).contains c.toNat = false ↔ c.isSurrogate = false := by
    simp only [CodeRun.contains, Nat.mod_one, beq_self_eq_true, Bool.and_true,
      Bool.and_eq_false_iff, decide_eq_false_iff_not, Code.isSurrogate_eq_false_iff]
    omega
  rw [← hrun] at hc ⊢
  exact not_contains_lowerCode (List.all_eq_true.mp htable) hc

theorem IsUnicode.lower (ht : t.IsUnicode) : (lower t).IsUnicode := by
  refine forall_mem_lowerFrom ?_ fun c hc _ _ => isSurrogate_lowerCode (ht c hc)
  simp only [List.forall_mem_cons]
  exact ⟨Code.isSurrogate_ofChar _, Code.isSurrogate_ofChar _, Code.isSurrogate_ofChar _,
    Code.isSurrogate_ofChar _, by simp⟩

end Text

/-- Whether what identifies a reference has no surrogates. -/
structure Ref.IsUnicode (r : Ref) : Prop where
  kind : r.kind.IsUnicode
  name : r.name.IsUnicode
  ns : ∀ ns ∈ r.ns, ns.IsUnicode

/-- Whether what identifies a resource has no surrogates. -/
structure Resource.IsUnicode (r : Resource) : Prop where
  kind : r.kind.IsUnicode
  name : r.name.IsUnicode
  ns : ∀ ns ∈ r.ns, ns.IsUnicode

theorem isUnicode_key
    {kind name : Text} {ns : Option Text}
    (hkind : kind.IsUnicode)
    (hname : name.IsUnicode)
    (hns : ∀ ns' ∈ ns, ns'.IsUnicode) :
    (key kind ns name).IsUnicode := by
  apply Text.IsUnicode.lower
  rw [keyText]
  split
  · simp [hkind, hname]
  · next ns' hproper =>
    have hns' : ns'.IsUnicode := hns ns' (Option.mem_filter_iff.mp hproper).1
    simp [hkind, hns', hname]

theorem Ref.IsUnicode.key {r : Ref} (hr : r.IsUnicode) : r.key.IsUnicode :=
  isUnicode_key hr.kind hr.name hr.ns

theorem Resource.IsUnicode.key {r : Resource} (hr : r.IsUnicode) : r.key.IsUnicode :=
  isUnicode_key hr.kind hr.name hr.ns

end ClusterLineage
