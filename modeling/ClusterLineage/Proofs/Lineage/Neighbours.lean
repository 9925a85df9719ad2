import ClusterLineage.Lineage.Neighbours
import Mathlib.Data.List.Nodup

/-!
# Neighbours of a node

Each node is a neighbour of another just once, whatever the number of edges between them.
-/

namespace ClusterLineage

/-- What is left of a list without its duplicates. -/
theorem nodup_eraseDups {α : Type} [BEq α] [LawfulBEq α] (l : List α) : l.eraseDups.Nodup := by
  cases l with
  | nil => simp
  | cons a rest =>
    rw [List.eraseDups_cons, List.nodup_cons, List.mem_eraseDups]
    constructor
    · simp
    · exact nodup_eraseDups _
termination_by l.length
decreasing_by
  have hshort := List.length_filter_le (fun b => !b == a) rest
  simp only [List.length_cons]
  omega

namespace Lineage

variable {g : Lineage} {i j : Nat} {type : EdgeType}

theorem mem_successors : j ∈ g.successors i type ↔ (⟨i, j, type⟩ : Edge) ∈ g.edges := by
  simp only [successors, targets, edgesFrom, hasEdge, List.mem_filter, List.mem_eraseDups,
    List.mem_map, List.contains_iff_mem, beq_iff_eq]
  constructor
  · rintro ⟨-, h⟩
    exact h
  · intro h
    exact ⟨⟨_, ⟨h, rfl⟩, rfl⟩, h⟩

theorem mem_predecessors : j ∈ g.predecessors i type ↔ (⟨j, i, type⟩ : Edge) ∈ g.edges := by
  simp only [predecessors, sources, edgesTo, hasEdge, List.mem_filter, List.mem_eraseDups,
    List.mem_map, List.contains_iff_mem, beq_iff_eq]
  constructor
  · rintro ⟨-, h⟩
    exact h
  · intro h
    exact ⟨⟨_, ⟨h, rfl⟩, rfl⟩, h⟩

theorem nodup_successors (g : Lineage) (i : Nat) (type : EdgeType) :
    (g.successors i type).Nodup :=
  (nodup_eraseDups _).filter _

theorem nodup_predecessors (g : Lineage) (i : Nat) (type : EdgeType) :
    (g.predecessors i type).Nodup :=
  (nodup_eraseDups _).filter _

end Lineage

end ClusterLineage
