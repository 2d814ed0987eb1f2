import Mathlib

/-!
# Walks over trees

What a walk descends into is a function from a node to the list of its subnodes, which
must be well founded.  One type of trees can have several such functions: all the
subnodes there are, and those a particular traversal knows about.

* `Branching.walk` — the walk that stops below every node it accepts.
* `Branching.walk_iff` — **a walk finds something exactly if a node it accepts can be
  reached**.
* `Branching.nodes` — the nodes that a walk visits, in order.
-/

namespace TreeWalk

/-- The subnodes a walk descends into. -/
structure Branching (α : Type*) where
  kids : α → List α
  wf : WellFounded fun m n => m ∈ kids n

/-- A way down is well founded if it makes some size smaller. -/
theorem wf_of_size {α : Type*} {kids : α → List α} (size : α → ℕ)
    (h : ∀ n, ∀ m ∈ kids n, size m < size n) : WellFounded fun m n => m ∈ kids n :=
  Subrelation.wf (fun {m n} hm => h n m hm) (measure size).wf

namespace Branching

variable {α : Type*} (b : Branching α)

/-- Visit a node and, unless it is accepted, what is below it. -/
def walk (found : α → Bool) (n : α) : Bool :=
  found n || (b.kids n).attach.any fun m => walk found m.1
termination_by b.wf.wrap n
decreasing_by exact m.2

/-- The nodes a walk visits that accepts none, in order. -/
def nodes (n : α) : List α :=
  n :: (b.kids n).attach.flatMap fun m => nodes m.1
termination_by b.wf.wrap n
decreasing_by exact m.2

/-- `m` is `n` or lies below it. -/
def Reaches : α → α → Prop := Relation.ReflTransGen fun n m => m ∈ b.kids n

variable {b} {found : α → Bool} {n m : α} {P : α → Prop}

theorem walk_eq (n : α) : b.walk found n = (found n || (b.kids n).any (b.walk found)) := by
  rw [walk, List.any_subtype (fun _ _ => rfl), List.unattach_attach]

theorem Reaches.refl (n : α) : b.Reaches n n := Relation.ReflTransGen.refl

theorem Reaches.head {k : α} (hk : k ∈ b.kids n) (h : b.Reaches k m) : b.Reaches n m :=
  Relation.ReflTransGen.head hk h

/-- Something is at a node, or below one of its subnodes. -/
theorem exists_reaches_iff :
    (∃ m, b.Reaches n m ∧ P m) ↔ P n ∨ ∃ k ∈ b.kids n, ∃ m, b.Reaches k m ∧ P m := by
  constructor
  · rintro ⟨m, hnm, hm⟩
    rcases hnm.cases_head with rfl | ⟨k, hk, hkm⟩
    · exact Or.inl hm
    · exact Or.inr ⟨k, hk, m, hkm, hm⟩
  · rintro (hn | ⟨k, hk, m, hkm, hm⟩)
    · exact ⟨n, Reaches.refl n, hn⟩
    · exact ⟨m, Reaches.head hk hkm, hm⟩

theorem walk_iff : b.walk found n = true ↔ ∃ m, b.Reaches n m ∧ found m = true := by
  -- along the way down, as `walk` itself
  induction n using b.wf.induction with
  | _ n ih =>
    rw [walk_eq, Bool.or_eq_true, exists_reaches_iff, List.any_eq_true]
    exact or_congr_right (exists_congr fun k => and_congr_right fun hk => ih k hk)

theorem nodes_eq (n : α) : b.nodes n = n :: (b.kids n).flatMap b.nodes := by
  rw [nodes, List.flatMap_subtype fun _ _ => rfl, List.unattach_attach]

end Branching

end TreeWalk
