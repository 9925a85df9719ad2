import ClusterLineage.Orphan.Rule
import ClusterLineage.Proofs.Kind

/-!
# What the verdict on a resource rests on

A condition looks at a list of incoming edges, but all that it can learn from them is a set of
facts: of which kinds the resources are that reference the one in question, whether one of them
owns it, which kinds it refers to in vain, and whether it is a token.  `Met` reads a condition on
such facts, and `holds_iff_met` shows that evaluating the condition comes to the same.  Every
condition is lost at most by more use: `Met.of_lessUse` is the one induction behind all comparisons
of verdicts.
-/

namespace ClusterLineage.Orphan

/-- What a condition can learn about a resource. -/
@[ext]
structure Facts where
  /-- The kinds of the resources that reference it. -/
  referrers : Text → Prop
  /-- Whether a resource owns it. -/
  owned : Prop
  /-- The kinds that it refers to in vain. -/
  missing : Text → Prop
  /-- Whether it is the token of a service account. -/
  token : Prop

/-- The facts that evidence shows. -/
def Evidence.facts (e : Evidence) : Facts where
  referrers k := (.references, k) ∈ e.incoming
  owned := ∃ k, (.owns, k) ∈ e.incoming
  missing k := k ∈ e.missingKinds
  token := e.isServiceAccountToken = true

/-- A condition is met by facts. -/
inductive Met (f : Facts) : Condition → Prop
  | noIncomingRefs (h : ∀ k, ¬f.referrers k) : Met f .noIncomingRefs
  | noIncomingFrom {kinds : List Text}
      (h : ∀ k, f.referrers k → ∀ wanted ∈ kinds, Text.lower wanted ≠ Text.lower k) :
      Met f (.noIncomingFrom kinds)
  | hasMissingRef {kind k : Text} (hmissing : f.missing k)
      (hkind : Text.lower k = Text.lower kind) : Met f (.hasMissingRef kind)
  | noOwner (h : ¬f.owned) : Met f .noOwner
  | isServiceAccountToken (h : f.token) : Met f .isServiceAccountToken
  | all {conditions : List Condition} (h : ∀ c ∈ conditions, Met f c) : Met f (.all conditions)
  | any {conditions : List Condition} {c : Condition} (hc : c ∈ conditions) (h : Met f c) :
      Met f (.any conditions)

theorem sameLower_iff {s t : Text} :
    Text.sameLower s t = true ↔ Text.lower s = Text.lower t := by
  simp [Text.sameLower]

/-- Evidence shows a token by the type of the resource or by one of its labels. -/
theorem isServiceAccountToken_iff {e : Evidence} :
    e.isServiceAccountToken = true ↔
      e.resourceType = some serviceAccountTokenType ∨
        ∃ labels, e.labels = some labels ∧ ∃ p ∈ labels, p.1 = serviceAccountNameLabel := by
  unfold Evidence.isServiceAccountToken
  cases e.labels with
  | none => simp
  | some labels => simp

mutual

/-- A condition holds on evidence exactly if the facts that the evidence shows meet it. -/
theorem holds_iff_met (e : Evidence) : ∀ c : Condition, c.holds e = true ↔ Met e.facts c
  | .noIncomingRefs => by
    rw [Condition.holds, Bool.not_eq_true', List.any_eq_false]
    constructor
    · intro h
      exact .noIncomingRefs fun k hk => h _ hk (by simp)
    · intro hmet
      cases hmet with
      | noIncomingRefs h =>
        rintro ⟨type, k⟩ hk htype
        simp only [beq_iff_eq] at htype
        subst htype
        exact h k hk
  | .noIncomingFrom kinds => by
    rw [Condition.holds, Bool.not_eq_true', List.any_eq_false]
    constructor
    · intro h
      refine .noIncomingFrom fun k hk wanted hwanted hsame => h _ hk ?_
      simp only [BEq.rfl, Bool.true_and, List.any_eq_true]
      exact ⟨wanted, hwanted, sameLower_iff.mpr hsame.symm⟩
    · intro hmet
      cases hmet with
      | noIncomingFrom h =>
        rintro ⟨type, k⟩ hk hboth
        simp only [Bool.and_eq_true, beq_iff_eq, List.any_eq_true] at hboth
        obtain ⟨rfl, wanted, hwanted, hsame⟩ := hboth
        exact h k hk wanted hwanted (sameLower_iff.mp hsame).symm
  | .hasMissingRef kind => by
    rw [Condition.holds, List.any_eq_true]
    constructor
    · rintro ⟨k, hk, hsame⟩
      exact .hasMissingRef hk (sameLower_iff.mp hsame).symm
    · intro hmet
      cases hmet with
      | hasMissingRef hk hsame => exact ⟨_, hk, sameLower_iff.mpr hsame.symm⟩
  | .noOwner => by
    rw [Condition.holds, Bool.not_eq_true', List.any_eq_false]
    constructor
    · intro h
      exact .noOwner fun ⟨k, hk⟩ => h _ hk (by simp)
    · intro hmet
      cases hmet with
      | noOwner h =>
        rintro ⟨type, k⟩ hk htype
        simp only [beq_iff_eq] at htype
        subst htype
        exact h ⟨k, hk⟩
  | .isServiceAccountToken => by
    rw [Condition.holds]
    constructor
    · intro h
      exact .isServiceAccountToken h
    · intro hmet
      cases hmet with
      | isServiceAccountToken h => exact h
  | .all conditions => by
    rw [Condition.holds, allHold_iff_met e conditions]
    constructor
    · intro h
      exact .all h
    · intro hmet
      cases hmet with
      | all h => exact h
  | .any conditions => by
    rw [Condition.holds, anyHolds_iff_met e conditions]
    constructor
    · rintro ⟨c, hc, h⟩
      exact .any hc h
    · intro hmet
      cases hmet with
      | any hc h => exact ⟨_, hc, h⟩

theorem allHold_iff_met (e : Evidence) :
    ∀ cs : List Condition, Condition.allHold e cs = true ↔ ∀ c ∈ cs, Met e.facts c
  | [] => by simp [Condition.allHold]
  | c :: cs => by
    rw [Condition.allHold, Bool.and_eq_true, holds_iff_met e c, allHold_iff_met e cs,
      List.forall_mem_cons]

theorem anyHolds_iff_met (e : Evidence) :
    ∀ cs : List Condition, Condition.anyHolds e cs = true ↔ ∃ c ∈ cs, Met e.facts c
  | [] => by simp [Condition.anyHolds]
  | c :: cs => by
    rw [Condition.anyHolds, Bool.or_eq_true, holds_iff_met e c, anyHolds_iff_met e cs,
      List.exists_mem_cons_iff]

end

/-- The first facts show no more use of a resource than the second: no kind of referrer that the
second do not show, no owner unless the second show one, and every kind that is missing and every
token that the second show.  Kinds count up to letter case. -/
structure Facts.LessUse (f f' : Facts) : Prop where
  referrers : ∀ k, f.referrers k → ∃ k', f'.referrers k' ∧ Text.lower k' = Text.lower k
  owned : f.owned → f'.owned
  missing : ∀ k, f'.missing k → ∃ k', f.missing k' ∧ Text.lower k' = Text.lower k
  token : f'.token → f.token

/-- A condition that is met stays met when less use is shown. -/
theorem Met.of_lessUse
    {f f' : Facts} {c : Condition}
    (hc : Met f' c)
    (hless : f.LessUse f') :
    Met f c := by
  induction hc with
  | noIncomingRefs h =>
    refine .noIncomingRefs fun k hk => ?_
    obtain ⟨k', hk', -⟩ := hless.referrers k hk
    exact h k' hk'
  | noIncomingFrom h =>
    refine .noIncomingFrom fun k hk wanted hwanted hsame => ?_
    obtain ⟨k', hk', hlower⟩ := hless.referrers k hk
    exact h k' hk' wanted hwanted (hsame.trans hlower.symm)
  | hasMissingRef hmissing hkind =>
    obtain ⟨k', hk', hlower⟩ := hless.missing _ hmissing
    exact .hasMissingRef hk' (hlower.trans hkind)
  | noOwner h => exact .noOwner fun howned => h (hless.owned howned)
  | isServiceAccountToken h => exact .isServiceAccountToken (hless.token h)
  | all _ ih => exact .all ih
  | any hc _ ih => exact .any hc ih

/-- A resource of some kind, name and namespace is an orphan on some facts: its kind has a rule, in
whatever letter case it is written, the rule exempts neither the name nor the namespace, and the
facts meet its condition. -/
def OrphanOn (kind name : Text) (ns : Option Text) (f : Facts) : Prop :=
  ∃ k rule, Text.lower kind = Text.lower k.name ∧ Rule.ofKind? k = some rule ∧
    rule.exempts name ns = false ∧ Met f rule.condition

theorem OrphanOn.of_lessUse
    {kind name : Text} {ns : Option Text} {f f' : Facts}
    (h : OrphanOn kind name ns f')
    (hless : f.LessUse f') :
    OrphanOn kind name ns f := by
  obtain ⟨k, rule, hkind, hrule, hexempts, hmet⟩ := h
  exact ⟨k, rule, hkind, hrule, hexempts, hmet.of_lessUse hless⟩

/-- The verdict on evidence is the verdict on the facts that it shows. -/
theorem isOrphan_eq_true_iff {kind name : Text} {ns : Option Text} {e : Evidence} :
    isOrphan kind name ns e = true ↔ OrphanOn kind name ns e.facts := by
  unfold isOrphan
  constructor
  · intro h
    split at h
    · exact absurd h Bool.false_ne_true
    · next rule hrule =>
      obtain ⟨k, hk, hrule⟩ := Option.bind_eq_some_iff.mp hrule
      rw [Bool.and_eq_true, Bool.not_eq_true', holds_iff_met] at h
      exact ⟨k, rule, (Kind.ofName?_eq_some_iff.mp hk).symm, hrule, h.1, h.2⟩
  · rintro ⟨k, rule, hkind, hrule, hexempts, hmet⟩
    rw [Kind.ofName?_eq_some_iff.mpr hkind.symm, Option.bind_some, hrule]
    rw [Bool.and_eq_true, Bool.not_eq_true', holds_iff_met]
    exact ⟨hexempts, hmet⟩

end ClusterLineage.Orphan
