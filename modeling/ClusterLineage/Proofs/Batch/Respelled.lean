import ClusterLineage.Lineage.Impact
import ClusterLineage.Lineage.Selection
import ClusterLineage.Proofs.Lineage.Numbers
import ClusterLineage.Proofs.Lineage.Session
import ClusterLineage.Proofs.Orphan.Facts
import ClusterLineage.Proofs.Text.Words
import Mathlib.Data.List.Forall2

/-!
# Resources with kinds in other letter case

Kinds are compared at many places: in keys, where a selector passes over configuration, where the
rule of an orphan is looked up and where its condition asks for the kinds of referrers.  At each of
them the letter case is left out.  So resources that differ in nothing else are linked to the same
lineage, number by number.
-/

namespace ClusterLineage

section Forall₂

variable {α β γ : Type} {R : α → β → Prop} {l : List α} {l' : List β}

theorem map_eq_of_forall₂
    {f : α → γ} {f' : β → γ}
    (h : List.Forall₂ R l l')
    (hf : ∀ a b, R a b → f a = f' b) :
    l.map f = l'.map f' := by
  induction h with
  | nil => rfl
  | cons hab _ ih => rw [List.map_cons, List.map_cons, hf _ _ hab, ih]

theorem flatMap_eq_of_forall₂
    {f : α → List γ} {f' : β → List γ}
    (h : List.Forall₂ R l l')
    (hf : ∀ a b, R a b → f a = f' b) :
    l.flatMap f = l'.flatMap f' := by
  rw [List.flatMap_def, List.flatMap_def, map_eq_of_forall₂ h hf]

theorem exists_getElem?_of_forall₂
    {i : Nat} {a : α}
    (h : List.Forall₂ R l l')
    (ha : l[i]? = some a) :
    ∃ b, l'[i]? = some b ∧ R a b := by
  induction h generalizing i with
  | nil => simp at ha
  | @cons c d _ _ hcd _ ih =>
    cases i with
    | zero =>
      obtain rfl : c = a := Option.some.inj ha
      exact ⟨d, rfl, hcd⟩
    | succ i => exact ih ha

theorem forall₂_zipIdx
    (h : List.Forall₂ R l l')
    (n : Nat) :
    List.Forall₂ (fun p q => R p.1 q.1 ∧ p.2 = q.2) (l.zipIdx n) (l'.zipIdx n) := by
  induction h generalizing n with
  | nil => exact .nil
  | cons hab _ ih => exact .cons ⟨hab, rfl⟩ (ih (n + 1))

theorem map_zipIdx_eq_of_forall₂
    {f : α × Nat → γ} {f' : β × Nat → γ}
    (h : List.Forall₂ R l l')
    (n : Nat)
    (hf : ∀ a b i, R a b → f (a, i) = f' (b, i)) :
    (l.zipIdx n).map f = (l'.zipIdx n).map f' := by
  apply map_eq_of_forall₂ (forall₂_zipIdx h n)
  intro p q hpq
  calc
    f p = f' (q.1, p.2) := hf p.1 q.1 p.2 hpq.1
    _ = f' q := by rw [hpq.2]

theorem flatMap_zipIdx_eq_of_forall₂
    {f : α × Nat → List γ} {f' : β × Nat → List γ}
    (h : List.Forall₂ R l l')
    (n : Nat)
    (hf : ∀ a b i, R a b → f (a, i) = f' (b, i)) :
    (l.zipIdx n).flatMap f = (l'.zipIdx n).flatMap f' := by
  rw [List.flatMap_def, List.flatMap_def, map_zipIdx_eq_of_forall₂ h n hf]

end Forall₂

/-- Whether a text names a kind does not depend on its letter case. -/
theorem Kind.ofName?_congr {s t : Text} (h : Text.lower s = Text.lower t) : ofName? s = ofName? t := by
  rw [ofName?, ofName?, h]

/-- Two resources differ at most in the letter case of kinds, their own and those of their owners,
and in what they carry along for display. -/
structure Resource.Respelled (r r' : Resource) : Prop where
  kind : Text.lower r.kind = Text.lower r'.kind
  name : r.name = r'.name
  ns : r.ns = r'.ns
  labels : r.labels = r'.labels
  selectors : r.selectors = r'.selectors
  owners : r.owners.map Ref.key = r'.owners.map Ref.key
  relations : r.relations = r'.relations
  resourceType : r.resourceType = r'.resourceType

namespace Resource.Respelled

variable {r r' target target' : Resource}

theorem refl (r : Resource) : r.Respelled r :=
  ⟨rfl, rfl, rfl, rfl, rfl, rfl, rfl, rfl⟩

theorem symm (h : r.Respelled r') : r'.Respelled r :=
  ⟨h.kind.symm, h.name.symm, h.ns.symm, h.labels.symm, h.selectors.symm, h.owners.symm,
    h.relations.symm, h.resourceType.symm⟩

theorem key_eq (h : r.Respelled r') : r.key = r'.key := by
  rw [Resource.key, Resource.key, h.name, h.ns]
  exact key_congr h.kind r'.ns r'.name

theorem isSensitive_eq (h : r.Respelled r') : r.isSensitive = r'.isSensitive := by
  rw [isSensitive, isSensitive, Kind.ofName?_congr h.kind]

theorem selects_eq
    (h : r.Respelled r')
    (htarget : target.Respelled target') :
    r.selects target = r'.selects target' := by
  rw [selects, selects, h.selectors, htarget.labels, htarget.isSensitive_eq]

theorem ownerOf_eq
    (h : r.Respelled r')
    (keys : List Text) :
    Links.ownerOf keys r = Links.ownerOf keys r' := by
  have hresolve (owners : List Ref) : owners.head?.bind (Links.resolve? keys) =
      (owners.map Ref.key).head?.bind (keys.idxOf? ·) := by
    cases owners with
    | nil => rfl
    | cons owner owners => rfl
  rw [Links.ownerOf, Links.ownerOf, hresolve, hresolve, h.owners]

theorem unresolvedOf_eq
    (h : r.Respelled r')
    (keys : List Text) :
    Links.unresolvedOf keys r = Links.unresolvedOf keys r' := by
  have hofRef : Unresolved.ofRef r = Unresolved.ofRef r' := by
    funext ref
    rw [Unresolved.ofRef, Unresolved.ofRef, h.key_eq]
  rw [Links.unresolvedOf, Links.unresolvedOf, h.relations, hofRef]

end Resource.Respelled

/-- Resources that differ in spelling only, one by one. -/
abbrev Respelled (rs rs' : List Resource) : Prop :=
  List.Forall₂ Resource.Respelled rs rs'

variable {rs rs' : List Resource}

theorem Respelled.symm (h : Respelled rs rs') : Respelled rs' rs :=
  (h.imp fun _ _ hr => hr.symm).flip

theorem Respelled.map_key_eq (h : Respelled rs rs') :
    rs.map Resource.key = rs'.map Resource.key :=
  map_eq_of_forall₂ h fun _ _ hr => hr.key_eq

/-- The same resources are taken in. -/
theorem Respelled.accepted
    (h : Respelled rs rs')
    (taken : List Text) :
    Respelled (accepted taken rs) (accepted taken rs') := by
  induction h generalizing taken with
  | nil => exact .nil
  | cons hr _ ih =>
    rw [ClusterLineage.accepted, ClusterLineage.accepted, hr.key_eq]
    split
    · exact ih taken
    · exact .cons hr (ih _)

namespace Links

variable {nodes nodes' members members' : List Resource} {edges : List Edge}

theorem ownerEdges_eq_of_respelled
    (h : Respelled members members')
    (keys : List Text) :
    ownerEdges keys members = ownerEdges keys members' := by
  apply map_zipIdx_eq_of_forall₂ h 1
  intro r r' i hr
  dsimp only
  rw [hr.ownerOf_eq]

theorem selectorEdges_eq_of_respelled (h : Respelled members members') :
    selectorEdges members = selectorEdges members' := by
  apply flatMap_zipIdx_eq_of_forall₂ h 1
  intro r r' i hr
  apply flatMap_zipIdx_eq_of_forall₂ h 1
  intro target target' j htarget
  dsimp only
  rw [hr.selects_eq htarget]

theorem relationEdges_eq_of_respelled
    (h : Respelled members members')
    (keys : List Text) :
    relationEdges keys members = relationEdges keys members' := by
  apply flatMap_zipIdx_eq_of_forall₂ h 1
  intro r r' i hr
  dsimp only
  rw [hr.relations]

/-- The evidence about a resource shows the same facts, up to the letter case of kinds. -/
theorem evidence_lessUse
    {r r' : Resource}
    (h : Respelled nodes nodes')
    (hr : r.Respelled r')
    (i : Nat) :
    (evidence nodes edges r i).facts.LessUse (evidence nodes' edges r' i).facts := by
  have hincoming : ∀ type k, (type, k) ∈ (evidence nodes edges r i).incoming →
      ∃ k', (type, k') ∈ (evidence nodes' edges r' i).incoming ∧ Text.lower k' = Text.lower k := by
    intro type k hk
    obtain ⟨e, he, hsome⟩ := List.mem_filterMap.mp hk
    split at hsome
    · next hends =>
      obtain ⟨source, hsource, hpair⟩ := Option.map_eq_some_iff.mp hsome
      obtain ⟨source', hsource', hsame⟩ := exists_getElem?_of_forall₂ h hsource
      obtain ⟨rfl, rfl⟩ := Prod.mk.inj hpair
      refine ⟨source'.kind, List.mem_filterMap.mpr ⟨e, he, ?_⟩, hsame.kind.symm⟩
      rw [if_pos hends, hsource', Option.map_some]
    · cases hsome
  refine ⟨hincoming .references, ?_, ?_, ?_⟩
  · intro howned
    obtain ⟨k, hk⟩ := howned
    obtain ⟨k', hk', -⟩ := hincoming .owns k hk
    exact ⟨k', hk'⟩
  · intro k hk
    refine ⟨k, ?_, rfl⟩
    change k ∈ (unresolvedOf (nodes.map Resource.key) r).map Unresolved.kind
    rw [hr.unresolvedOf_eq, h.map_key_eq]
    exact hk
  · intro htoken
    simpa only [Orphan.Evidence.facts, Orphan.Evidence.isServiceAccountToken, evidence, hr.labels,
      hr.resourceType] using htoken

theorem isOrphan_of_respelled
    {r r' : Resource} {i : Nat}
    (h : Respelled nodes nodes')
    (hr : r.Respelled r')
    (horphan : isOrphan nodes' edges r' i = true) :
    isOrphan nodes edges r i = true := by
  rw [isOrphan, Orphan.isOrphan_eq_true_iff] at horphan ⊢
  obtain ⟨k, rule, hkind, hrule, hexempts, hmet⟩ := horphan.of_lessUse (evidence_lessUse h hr i)
  exact ⟨k, rule, hr.kind.trans hkind, hrule, hr.name ▸ hr.ns ▸ hexempts, hmet⟩

theorem isOrphan_eq_of_respelled
    {r r' : Resource}
    (h : Respelled nodes nodes')
    (hr : r.Respelled r')
    (i : Nat) :
    isOrphan nodes edges r i = isOrphan nodes' edges r' i := by
  rw [Bool.eq_iff_iff]
  exact ⟨isOrphan_of_respelled h.symm hr.symm, isOrphan_of_respelled h hr⟩

/-- Linking derives the same. -/
theorem of_eq_of_respelled
    (root : Resource)
    (h : Respelled members members') :
    Links.of root members = Links.of root members' := by
  have hnodes : Respelled (root :: members) (root :: members') := .cons (.refl root) h
  have hkeys := hnodes.map_key_eq
  have horphans (edges : List Edge) :
      ((numbered members).filter fun p => isOrphan (root :: members) edges p.1 p.2).map (·.2) =
        ((numbered members').filter fun p =>
          isOrphan (root :: members') edges p.1 p.2).map (·.2) := by
    have hsame : ∀ p q : Resource × Nat, p.1.Respelled q.1 ∧ p.2 = q.2 →
        (isOrphan (root :: members) edges p.1 p.2 = true ↔
          isOrphan (root :: members') edges q.1 q.2 = true) := by
      intro p q hpq
      rw [isOrphan_eq_of_respelled hnodes hpq.1, hpq.2]
    exact map_eq_of_forall₂ (List.rel_filter (fun p q => hsame p q) (forall₂_zipIdx h 1))
      fun _ _ hpq => hpq.2
  have hunresolved (keys : List Text) :
      members.flatMap (unresolvedOf keys) = members'.flatMap (unresolvedOf keys) :=
    flatMap_eq_of_forall₂ h fun _ _ hr => hr.unresolvedOf_eq keys
  simp only [Links.of, hkeys, ownerEdges_eq_of_respelled h, selectorEdges_eq_of_respelled h,
    relationEdges_eq_of_respelled h, hunresolved, horphans]

end Links

end ClusterLineage
