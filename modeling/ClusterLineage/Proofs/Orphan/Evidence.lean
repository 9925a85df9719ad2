import ClusterLineage.Proofs.Orphan.Facts
import Mathlib.Data.Set.Basic

/-!
# More evidence of use

Evidence about a resource lists edges, labels and kinds as they were written, in some order.  A
verdict depends on three things in it: the types of the incoming edges with the kinds of their
sources in small letters, the kinds that are missing in small letters, and whether the resource is
a token.  The more use they show, the fewer conditions hold.
-/

namespace ClusterLineage.Orphan

/-- The type of an edge with the kind of its source in small letters. -/
def lowerEdge (edge : EdgeType × Text) : EdgeType × Text :=
  (edge.1, Text.lower edge.2)

namespace Evidence

/-- The types of the incoming edges, each with the kind of its source in small letters. -/
def uses (e : Evidence) : Set (EdgeType × Text) :=
  {use | use ∈ e.incoming.map lowerEdge}

/-- The kinds that the resource refers to in vain, in small letters. -/
def missing (e : Evidence) : Set Text :=
  {kind | kind ∈ e.missingKinds.map Text.lower}

/-- The resource is the token of a service account, by its type or by one of its labels. -/
def IsToken (e : Evidence) : Prop :=
  e.resourceType = some serviceAccountTokenType ∨
    ∃ labels, e.labels = some labels ∧ ∃ p ∈ labels, p.1 = serviceAccountNameLabel

/-- The first evidence shows no more use of the resource than the second. -/
structure LessUse (e e' : Evidence) : Prop where
  uses : e.uses ⊆ e'.uses
  missing : e'.missing ⊆ e.missing
  token : e'.IsToken → e.IsToken

/-- Both show the same use. -/
structure SameUse (e e' : Evidence) : Prop where
  uses : e.uses = e'.uses
  missing : e.missing = e'.missing
  token : e.IsToken ↔ e'.IsToken

/-- Neither a condition nor an orphan rule tells the two apart. -/
structure SameVerdicts (e e' : Evidence) : Prop where
  holds : ∀ c : Condition, c.holds e = c.holds e'
  isOrphan : ∀ kind name ns, isOrphan kind name ns e = Orphan.isOrphan kind name ns e'

variable {e e' : Evidence} {c : Condition} {kind name : Text} {ns : Option Text}

theorem mem_uses {type : EdgeType} {t : Text} :
    (type, t) ∈ e.uses ↔ ∃ k, (type, k) ∈ e.incoming ∧ Text.lower k = t := by
  simp [uses, lowerEdge]

theorem mem_missing {t : Text} : t ∈ e.missing ↔ ∃ k ∈ e.missingKinds, Text.lower k = t :=
  List.mem_map

/-- Less use in the evidence is less use in the facts that it shows. -/
theorem LessUse.facts (h : e.LessUse e') : e.facts.LessUse e'.facts where
  referrers _ hk := mem_uses.mp (h.uses (mem_uses.mpr ⟨_, hk, rfl⟩))
  owned := by
    rintro ⟨k, hk⟩
    obtain ⟨k', hk', -⟩ := mem_uses.mp (h.uses (mem_uses.mpr ⟨k, hk, rfl⟩))
    exact ⟨k', hk'⟩
  missing _ hk := mem_missing.mp (h.missing (mem_missing.mpr ⟨_, hk, rfl⟩))
  token htoken := isServiceAccountToken_iff.mpr (h.token (isServiceAccountToken_iff.mp htoken))

theorem LessUse.holds
    (h : e.LessUse e')
    (hc : c.holds e' = true) :
    c.holds e = true := by
  rw [holds_iff_met] at hc ⊢
  exact hc.of_lessUse h.facts

theorem LessUse.isOrphan
    (h : e.LessUse e')
    (horphan : Orphan.isOrphan kind name ns e' = true) :
    Orphan.isOrphan kind name ns e = true := by
  rw [isOrphan_eq_true_iff] at horphan ⊢
  exact horphan.of_lessUse h.facts

theorem SameUse.symm (h : e.SameUse e') : e'.SameUse e :=
  ⟨h.uses.symm, h.missing.symm, h.token.symm⟩

theorem SameUse.lessUse (h : e.SameUse e') : e.LessUse e' :=
  ⟨h.uses.subset, h.missing.superset, h.token.mpr⟩

theorem SameUse.sameVerdicts (h : e.SameUse e') : e.SameVerdicts e' where
  holds _ := Bool.eq_iff_iff.mpr ⟨h.symm.lessUse.holds, h.lessUse.holds⟩
  isOrphan _ _ _ := Bool.eq_iff_iff.mpr ⟨h.symm.lessUse.isOrphan, h.lessUse.isOrphan⟩

/-- Edges in another order, or repeated, show the same use. -/
theorem sameUse_of_mem_iff
    {incoming : List (EdgeType × Text)}
    (h : ∀ edge, edge ∈ incoming ↔ edge ∈ e.incoming) :
    SameUse { e with incoming := incoming } e where
  uses := by simp only [uses, List.mem_map, h]
  missing := rfl
  token := .rfl

/-- Kinds in other letter case show the same use. -/
theorem sameUse_of_map_eq
    {incoming : List (EdgeType × Text)} {missingKinds : List Text}
    (hincoming : incoming.map lowerEdge = e.incoming.map lowerEdge)
    (hmissing : missingKinds.map Text.lower = e.missingKinds.map Text.lower) :
    SameUse { e with incoming := incoming, missingKinds := missingKinds } e where
  uses := by simp only [uses, hincoming]
  missing := by simp only [missing, hmissing]
  token := .rfl

end Evidence

/-- Conditions of any shape, and with them the verdict on a resource, can only be cleared by more
evidence of use.  So evidence that shows the same use, as it does with its edges in another order or
repeated and with its kinds in other letter case, leads to the same verdicts. -/
theorem use_clears_verdicts :
    (∀ e e' : Evidence, e.LessUse e' →
      (∀ c : Condition, c.holds e' = true → c.holds e = true) ∧
        ∀ kind name ns, isOrphan kind name ns e' = true → isOrphan kind name ns e = true) ∧
      (∀ e e' : Evidence, e.SameUse e' → e.SameVerdicts e') ∧
      (∀ (e : Evidence) (incoming : List (EdgeType × Text)),
        (∀ edge, edge ∈ incoming ↔ edge ∈ e.incoming) →
          Evidence.SameVerdicts { e with incoming := incoming } e) ∧
      ∀ (e : Evidence) (incoming : List (EdgeType × Text)) (missingKinds : List Text),
        incoming.map lowerEdge = e.incoming.map lowerEdge →
          missingKinds.map Text.lower = e.missingKinds.map Text.lower →
            Evidence.SameVerdicts
              { e with incoming := incoming, missingKinds := missingKinds } e := by
  refine ⟨?_, ?_, ?_, ?_⟩
  · intro e e' h
    exact ⟨fun _ => h.holds, fun _ _ _ => h.isOrphan⟩
  · intro e e' h
    exact h.sameVerdicts
  · intro e incoming h
    exact (Evidence.sameUse_of_mem_iff h).sameVerdicts
  · intro e incoming missingKinds hincoming hmissing
    exact (Evidence.sameUse_of_map_eq hincoming hmissing).sameVerdicts

/-- A job references a resource that refers to a role in vain.  That a node references it too, and
that one reference less is in vain, clears no verdict of these, and neither does the letter case. -/
theorem use_clears_verdicts_not_by_node :
    let c : Condition := .any [.all [.noIncomingFrom ["Pod"], .hasMissingRef "Role"],
      .all [.noOwner, .any []]]
    let e : Evidence := { incoming := [(.references, "Job")], missingKinds := ["role", "Job"] }
    let e' : Evidence :=
      { incoming := [(.references, "Node"), (.references, "JOB"), (.references, "job")],
        missingKinds := ["ROLE"] }
    e.LessUse e' ∧ c.holds e' = true ∧ c.holds e = true ∧
      isOrphan "replicaset" "web" (some "ci") e' = true ∧
      isOrphan "replicaset" "web" (some "ci") e = true ∧
      Evidence.SameVerdicts { e with incoming := [(.references, "joB")] } e := by
  intro c e e'
  have huses : ∀ use ∈ e.incoming.map lowerEdge, use ∈ e'.incoming.map lowerEdge := by decide
  have hmissing : ∀ kind ∈ e'.missingKinds.map Text.lower,
      kind ∈ e.missingKinds.map Text.lower := by decide
  have hless : e.LessUse e' := ⟨huses, hmissing, id⟩
  have hc : c.holds e' = true := by decide
  have horphan : isOrphan "replicaset" "web" (some "ci") e' = true := by decide +kernel
  have hrespelled : [(EdgeType.references, Text.ofString "joB")].map lowerEdge =
      e.incoming.map lowerEdge := by decide +kernel
  obtain ⟨hcleared, -, -, hspelling⟩ := use_clears_verdicts
  obtain ⟨hholds, hverdict⟩ := hcleared e e' hless
  exact ⟨hless, hc, hholds c hc, horphan, hverdict _ _ _ horphan,
    hspelling e _ e.missingKinds hrespelled rfl⟩

end ClusterLineage.Orphan
