import ClusterLineage.Resource

/-!
# Small letters stay small

Writing a text in small letters twice is the same as doing it once.  The rule about the final sigma
looks at the letters around a code, but it only ever applies to capital sigmas, and no capital is
left after the first time.  So all that has to be shown is that no code is moved to one that moves
again, which is a property of the table of runs.  It follows that keys look themselves up.
-/

namespace ClusterLineage.Text

/-- Whether a run moves no code into another run: it moves all of them below or above it, or to the
codes between those that the other run holds. -/
def CodeRun.avoids (r q : CodeRun) : Bool :=
  r.move r.last < q.first || q.last < r.move r.first ||
    ((r.stride == 2 || r.first == r.last) && q.stride == 2 &&
      (r.move r.first + q.first) % 2 == 1)

/-- Whether a run moves its codes to codes, the dotted capital I not among them. -/
def CodeRun.staysCode (r : CodeRun) : Bool :=
  decide (0 ≤ (r.first : Int) + r.offset) && decide ((r.last : Int) + r.offset < 0x110000) &&
    r.avoids ⟨304, 304, 1, 0⟩

theorem CodeRun.not_contains_move
    {r q : CodeRun} {code : Nat}
    (hcode : r.contains code = true)
    (hstays : r.staysCode = true)
    (havoids : r.avoids q = true) :
    q.contains (r.move code) = false := by
  simp only [CodeRun.contains, Bool.and_eq_true, decide_eq_true_eq, beq_iff_eq] at hcode
  simp only [CodeRun.staysCode, Bool.and_eq_true, decide_eq_true_eq] at hstays
  obtain ⟨⟨hfirst, hlast⟩, hstride⟩ := hcode
  obtain ⟨⟨hlow, -⟩, -⟩ := hstays
  rw [Bool.eq_false_iff]
  intro hq
  simp only [CodeRun.contains, Bool.and_eq_true, decide_eq_true_eq, beq_iff_eq] at hq
  simp only [CodeRun.avoids, Bool.or_eq_true, Bool.and_eq_true, decide_eq_true_eq,
    beq_iff_eq] at havoids
  unfold CodeRun.move at hq havoids
  rcases havoids with (hbelow | habove) | ⟨⟨hr | hr, hqs⟩, hodd⟩
  · omega
  · omega
  · rw [hr] at hstride
    rw [hqs] at hq
    omega
  · rw [hqs] at hq
    obtain rfl : code = r.first := by omega
    omega

/-- No run moves a code to one that a run moves. -/
theorem lowercaseRuns_avoid :
    ∀ r ∈ lowercaseRuns, r.staysCode = true ∧ ∀ q ∈ lowercaseRuns, r.avoids q = true := by
  have htable : (lowercaseRuns.all fun r =>
      r.staysCode && lowercaseRuns.all fun q => r.avoids q) = true := by
    decide +kernel
  intro r hr
  have hrow := List.all_eq_true.mp htable r hr
  rw [Bool.and_eq_true, List.all_eq_true] at hrow
  exact hrow

/-- The small letter of a code is the code itself, or one to which a run of the table moves it. -/
theorem lowerCode_cases (c : Code) :
    lowerCode c = c ∨
      ∃ r ∈ lowercaseRuns, r.contains c.toNat = true ∧ (lowerCode c).toNat = r.move c.toNat := by
  have hsame : Code.ofNat c.toNat = c := by
    simp [Code.ofNat, c.toNat_lt]
  have hsub : ∀ runs, runs = lowercaseRuns.take 1 ∨ runs = lowercaseRuns →
      ∀ r, runs.find? (·.contains c.toNat) = some r → r ∈ lowercaseRuns := by
    rintro runs (rfl | rfl) r hr
    · exact List.mem_of_mem_take (List.mem_of_find?_eq_some hr)
    · exact List.mem_of_find?_eq_some hr
  unfold lowerCode moveCode
  generalize hruns : (if c.toNat < 128 then lowercaseRuns.take 1 else lowercaseRuns) = runs
  have hrunsCases : runs = lowercaseRuns.take 1 ∨ runs = lowercaseRuns := by
    split at hruns
    · exact .inl hruns.symm
    · exact .inr hruns.symm
  cases hfind : runs.find? (·.contains c.toNat) with
  | none => exact .inl hsame
  | some r =>
    have hr : r ∈ lowercaseRuns := hsub runs hrunsCases r hfind
    have hc : r.contains c.toNat = true := by
      simpa using List.find?_some hfind
    refine .inr ⟨r, hr, hc, ?_⟩
    have hstays := (lowercaseRuns_avoid r hr).1
    simp only [CodeRun.staysCode, Bool.and_eq_true, decide_eq_true_eq] at hstays
    simp only [CodeRun.contains, Bool.and_eq_true, decide_eq_true_eq] at hc
    have hlt : r.move c.toNat < 0x110000 := by
      simp only [CodeRun.move]
      omega
    simp [Code.ofNat, hlt]

/-- A code outside a run to which no run of the table leads has its small letter outside as well. -/
theorem not_contains_lowerCode
    {q : CodeRun} {c : Code}
    (havoids : ∀ r ∈ lowercaseRuns, r.avoids q = true)
    (hc : q.contains c.toNat = false) :
    q.contains (lowerCode c).toNat = false := by
  rcases lowerCode_cases c with hsame | ⟨r, hr, hcontains, hmoved⟩
  · rwa [hsame]
  · rw [hmoved]
    exact CodeRun.not_contains_move hcontains (lowercaseRuns_avoid r hr).1 (havoids r hr)

/-- A code that no run moves is its own small letter. -/
theorem lowerCode_eq_self
    {c : Code}
    (h : ∀ r ∈ lowercaseRuns, r.contains c.toNat = false) :
    lowerCode c = c := by
  rcases lowerCode_cases c with hsame | ⟨r, hr, hc, -⟩
  · exact hsame
  · simp [h r hr] at hc

/-- A code is settled if writing it in small letters changes nothing, whatever stands around it. -/
def Settled (c : Code) : Prop :=
  c ≠ 'Σ' ∧ c ≠ 'İ' ∧ lowerCode c = c

theorem settled_lowerCode
    {c : Code}
    (hsigma : c ≠ 'Σ')
    (hdotted : c ≠ 'İ') :
    Settled (lowerCode c) := by
  rcases lowerCode_cases c with hsame | ⟨r, hr, hc, hmoved⟩
  · rw [hsame]
    exact ⟨hsigma, hdotted, hsame⟩
  · obtain ⟨hstays, havoids⟩ := lowercaseRuns_avoid r hr
    have hfree : ∀ q ∈ lowercaseRuns, q.contains (lowerCode c).toNat = false := by
      intro q hq
      rw [hmoved]
      exact CodeRun.not_contains_move hc hstays (havoids q hq)
    refine ⟨?_, ?_, lowerCode_eq_self hfree⟩
    · intro heq
      have hmoves : (lowercaseRuns.any fun q => q.contains 0x3A3) = true := by decide +kernel
      obtain ⟨q, hq, hsigmaMoves⟩ := List.any_eq_true.mp hmoves
      have hfixed := hfree q hq
      rw [heq] at hfixed
      exact absurd hsigmaMoves (by simpa using hfixed)
    · intro heq
      have hdot : r.avoids ⟨304, 304, 1, 0⟩ = true := by
        simp only [CodeRun.staysCode, Bool.and_eq_true] at hstays
        exact hstays.2
      have hrun := CodeRun.not_contains_move hc hstays hdot
      rw [← hmoved, heq] at hrun
      exact absurd hrun (by decide)

/-- A property that the codes written for the two special letters have, and the small letters of all
others, holds of all that is written. -/
theorem forall_mem_lowerFrom
    {P : Code → Prop}
    {before cs : List Code}
    (hspecial : ∀ d ∈ (['ς', 'σ', 'i', '\u0307'] : List Code), P d)
    (hlower : ∀ c ∈ cs, c ≠ 'Σ' → c ≠ 'İ' → P (lowerCode c)) :
    ∀ d ∈ lowerFrom before cs, P d := by
  induction cs generalizing before with
  | nil => simp [lowerFrom]
  | cons c cs ih =>
    have hat : ∀ d ∈ lowerAt before c cs, P d := by
      unfold lowerAt
      split
      · split
        all_goals exact List.forall_mem_singleton.mpr (hspecial _ (by simp))
      · next hsigma =>
        split
        · exact List.forall_mem_cons.mpr
            ⟨hspecial _ (by simp), List.forall_mem_singleton.mpr (hspecial _ (by simp))⟩
        · next hdotted =>
          exact List.forall_mem_singleton.mpr (hlower c List.mem_cons_self hsigma hdotted)
    rw [lowerFrom]
    exact List.forall_mem_append.mpr
      ⟨hat, ih fun d hd => hlower d (List.mem_cons_of_mem c hd)⟩

/-- All that is written is settled. -/
theorem settled_of_mem_lowerFrom
    {before cs : List Code} {d : Code}
    (h : d ∈ lowerFrom before cs) :
    Settled d := by
  refine forall_mem_lowerFrom ?_ (fun _ _ => settled_lowerCode) d h
  simp only [List.forall_mem_cons]
  exact ⟨⟨by decide, by decide, by decide +kernel⟩, ⟨by decide, by decide, by decide +kernel⟩,
    ⟨by decide, by decide, by decide +kernel⟩, ⟨by decide, by decide, by decide +kernel⟩, by simp⟩

/-- Without the two special letters, each letter is written small on its own. -/
theorem lowerFrom_eq_map
    {before cs : List Code}
    (h : ∀ c ∈ cs, c ≠ 'Σ' ∧ c ≠ 'İ') :
    lowerFrom before cs = cs.map lowerCode := by
  induction cs generalizing before with
  | nil => rfl
  | cons c cs ih =>
    obtain ⟨hsigma, hdotted⟩ := h c List.mem_cons_self
    rw [lowerFrom, lowerAt, if_neg hsigma, if_neg hdotted,
      ih fun d hd => h d (List.mem_cons_of_mem c hd)]
    rfl

/-- Settled codes stay as they are. -/
theorem lowerFrom_eq_self
    {before cs : List Code}
    (h : ∀ c ∈ cs, Settled c) :
    lowerFrom before cs = cs := by
  rw [lowerFrom_eq_map fun c hc => ⟨(h c hc).1, (h c hc).2.1⟩]
  exact (List.map_congr_left fun c hc => (h c hc).2.2).trans cs.map_id

/-- Characters of ASCII are written small as such. -/
theorem lowerCode_ofChar_of_ascii {c : Char} (hc : c.toNat < 128) :
    lowerCode c = Code.ofChar c.toLower := by
  have hall : ∀ n : Fin 128,
      lowerCode (Char.ofNat n) = Code.ofChar (Char.ofNat n).toLower := by
    decide +kernel
  simpa using hall ⟨c.toNat, hc⟩

theorem codes_lower_of_ascii
    {t : Text} {cs : List Char}
    (ht : t.codes = cs.map Code.ofChar)
    (hcs : ∀ c ∈ cs, c.toNat < 128) :
    (lower t).codes = (cs.map Char.toLower).map Code.ofChar := by
  have hplain : ∀ c ∈ cs.map Code.ofChar, c ≠ 'Σ' ∧ c ≠ 'İ' := by
    intro c hc
    obtain ⟨d, hd, rfl⟩ := List.mem_map.mp hc
    have hne {e : Char} (he : 128 ≤ e.toNat) : Code.ofChar d ≠ e := by
      rintro heq
      rw [← Code.ofChar_inj.mp heq] at he
      exact absurd (hcs d hd) (Nat.not_lt.mpr he)
    exact ⟨hne (by decide), hne (by decide)⟩
  rw [lower, ht]
  dsimp only
  rw [lowerFrom_eq_map hplain, List.map_map, List.map_map]
  exact List.map_congr_left fun c hc => lowerCode_ofChar_of_ascii (hcs c hc)

/-- Writing a text in small letters twice is the same as doing it once. -/
@[simp]
theorem lower_lower (t : Text) : lower (lower t) = lower t := by
  unfold lower
  congr 1
  exact lowerFrom_eq_self fun _ hc => settled_of_mem_lowerFrom hc

end ClusterLineage.Text

namespace ClusterLineage

/-- A key is written in small letters. -/
@[simp]
theorem Resource.lower_key (r : Resource) : Text.lower r.key = r.key :=
  Text.lower_lower _

end ClusterLineage
