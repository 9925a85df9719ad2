import ClusterLineage.Proofs.Text.Lowercase

/-!
# Small letters of single words

How a capital sigma is written small depends on the letters around it, but only as far as the next
code that ends a word.  A slash does, so what stands between slashes is written small on its own,
and a key is made of parts that are small already.  No other code becomes a slash when it is written
small, so texts without slashes can be told apart in what they are joined to by slashes.
-/

namespace ClusterLineage

namespace Text

variable {c : Code} {before cs ds : List Code}

/-- A code ends a word: it carries no case, and it is not passed over. -/
def EndsWord (c : Code) : Prop :=
  isCased c = false ∧ isCaseIgnorable c = false

theorem endsWord_slash : EndsWord '/' :=
  ⟨by decide +kernel, by decide +kernel⟩

/-- Nothing past the end of a word is looked at. -/
theorem startsCased_append (hc : EndsWord c) :
    startsCased (cs ++ c :: ds) = startsCased cs := by
  unfold startsCased
  rw [List.dropWhile_append]
  cases cs.dropWhile isCaseIgnorable with
  | nil => simp [hc.1, hc.2]
  | cons d rest => rfl

theorem lowerAt_append_before (hc : EndsWord c) (d : Code) :
    lowerAt (before ++ c :: ds) d cs = lowerAt before d cs := by
  simp only [lowerAt, startsCased_append hc]

theorem lowerAt_append_after (hc : EndsWord c) (d : Code) :
    lowerAt before d (cs ++ c :: ds) = lowerAt before d cs := by
  simp only [lowerAt, startsCased_append hc]

/-- What comes before the end of a word does not matter after it. -/
theorem lowerFrom_append_before (hc : EndsWord c) :
    lowerFrom (before ++ c :: ds) cs = lowerFrom before cs := by
  induction cs generalizing before with
  | nil => rfl
  | cons d cs ih =>
    rw [lowerFrom, lowerFrom, lowerAt_append_before hc, ← List.cons_append, ih]

theorem lowerAt_slash : lowerAt before '/' cs = [Code.ofChar '/'] := by
  have hcode : lowerCode '/' = Code.ofChar '/' := by decide +kernel
  rw [lowerAt, if_neg (by decide), if_neg (by decide), hcode]

theorem lowerFrom_append_slash :
    lowerFrom before (cs ++ Code.ofChar '/' :: ds) =
      lowerFrom before cs ++ Code.ofChar '/' :: lowerFrom [] ds := by
  induction cs generalizing before with
  | nil =>
    have hrest : lowerFrom (Code.ofChar '/' :: before) ds = lowerFrom [] ds :=
      @lowerFrom_append_before _ [] ds before endsWord_slash
    rw [List.nil_append, lowerFrom, lowerFrom, lowerAt_slash, hrest]
    rfl
  | cons d cs ih =>
    rw [List.cons_append, lowerFrom, lowerFrom, lowerAt_append_after endsWord_slash, ih,
      List.append_assoc]

theorem append_assoc (s t u : Text) : s ++ t ++ u = s ++ (t ++ u) :=
  congrArg mk (List.append_assoc s.codes t.codes u.codes)

theorem codes_append_slash (s t : Text) :
    (s ++ "/" ++ t).codes = s.codes ++ Code.ofChar '/' :: t.codes :=
  List.append_assoc _ _ _

/-- The texts on both sides of a slash are written small each on its own. -/
theorem lower_append_slash (s t : Text) : lower (s ++ "/" ++ t) = lower s ++ "/" ++ lower t := by
  have hlower := codes_append_slash (lower s) (lower t)
  unfold lower at hlower ⊢
  rw [codes_append_slash, lowerFrom_append_slash, ← hlower]

/-- No text loses all its codes when it is written small. -/
theorem isEmpty_lower (t : Text) : (lower t).isEmpty = t.isEmpty := by
  cases t with
  | mk codes =>
    cases codes with
    | nil => rfl
    | cons c cs =>
      have hsome : lowerAt [] c cs ≠ [] := by
        unfold lowerAt
        split
        · split
          · exact List.cons_ne_nil _ _
          · exact List.cons_ne_nil _ _
        · split
          · exact List.cons_ne_nil _ _
          · exact List.cons_ne_nil _ _
      simp [lower, isEmpty, lowerFrom, hsome]

/-! ## Texts without slashes -/

/-- Whether a text has no slash. -/
def Slashless (t : Text) : Prop :=
  Code.ofChar '/' ∉ t.codes

instance (t : Text) : Decidable t.Slashless :=
  inferInstanceAs (Decidable (Code.ofChar '/' ∉ t.codes))

/-- No run of the table leads to a slash. -/
theorem lowerCode_ne_slash (hc : c ≠ '/') : lowerCode c ≠ '/' := by
  have htable : (lowercaseRuns.all (·.avoids ⟨47, 47, 1, 0⟩)) = true := by
    decide +kernel
  have hrun (c : Code) :
      (⟨47, 47, 1, 0⟩ : CodeRun).contains c.toNat = false ↔ c ≠ Code.ofChar '/' := by
    have heq : c = Code.ofChar '/' ↔ c.toNat = 47 := by
      cases c
      simp [Code.ofChar]
    rw [ne_eq, heq, CodeRun.contains, ← Bool.not_eq_true]
    simp only [Nat.mod_one, beq_self_eq_true, Bool.and_true, Bool.and_eq_true, decide_eq_true_eq]
    omega
  rw [← hrun] at hc ⊢
  exact not_contains_lowerCode (List.all_eq_true.mp htable) hc

theorem Slashless.lower {t : Text} (ht : t.Slashless) : (lower t).Slashless := by
  have hcodes : ∀ d ∈ lowerFrom [] t.codes, d ≠ Code.ofChar '/' := by
    refine forall_mem_lowerFrom (by decide) fun d hd _ _ => lowerCode_ne_slash ?_
    rintro rfl
    exact ht hd
  exact fun hslash => hcodes _ hslash rfl

/-- The first slash tells what comes before it from what comes after it. -/
theorem append_slash_inj
    {s s' t t' : Text}
    (hs : s.Slashless)
    (hs' : s'.Slashless) :
    s ++ "/" ++ t = s' ++ "/" ++ t' ↔ s = s' ∧ t = t' := by
  constructor
  · intro h
    have hcodes := congrArg codes h
    rw [codes_append_slash, codes_append_slash] at hcodes
    have hbefore {u : Text} (hu : u.Slashless) (v : List Code) :
        (u.codes ++ Code.ofChar '/' :: v).takeWhile (· ≠ Code.ofChar '/') = u.codes := by
      rw [List.takeWhile_append_of_pos fun c hc => by simpa using ne_of_mem_of_not_mem hc hu]
      simp
    have hfirst : s.codes = s'.codes := by
      rw [← hbefore hs t.codes, hcodes, hbefore hs' t'.codes]
    rw [hfirst, List.append_cancel_left_eq, List.cons.injEq] at hcodes
    cases s
    cases t
    exact ⟨congrArg mk hfirst, congrArg mk hcodes.2⟩
  · rintro ⟨rfl, rfl⟩
    rfl

end Text

open Text

variable {kind kind' : Text}

/-- A key is made of the small kind, namespace and name. -/
theorem key_eq_keyText (kind : Text) (ns : Option Text) (name : Text) :
    key kind ns name = keyText (lower kind) (ns.map lower) (lower name) := by
  unfold key keyText
  cases ns with
  | none => exact lower_append_slash kind name
  | some ns =>
    rw [Option.map_some, proper?, proper?, Option.filter_some, Option.filter_some, isEmpty_lower]
    cases ns.isEmpty with
    | true => exact lower_append_slash kind name
    | false =>
      change lower (kind ++ "/" ++ ns ++ "/" ++ name) =
        lower kind ++ "/" ++ lower ns ++ "/" ++ lower name
      rw [lower_append_slash, lower_append_slash]

/-- Kinds that differ in letter case only give the same key. -/
theorem key_congr
    (hkind : lower kind = lower kind')
    (ns : Option Text)
    (name : Text) :
    key kind ns name = key kind' ns name := by
  rw [key_eq_keyText, key_eq_keyText, hkind]

end ClusterLineage
