import Mathlib

/-!
# Machines that read one symbol after the other

A reader is a step function that may fail.  `Reads P input Q` is the total correctness of the
reader on an input: from a state with `P` it does not fail and ends in a state with `Q`.

* `Reads.cons`, `Reads.append` — one symbol, and one input after another.
* `Reads.of_blocks` — an input made of blocks, with an invariant that is indexed by the blocks
  already read.
-/

namespace Reader

variable {σ α β : Type} {step : σ → α → Option σ}

/-- From `P`, the whole input is read, and `Q` holds at its end. -/
def Reads (step : σ → α → Option σ) (P : σ → Prop) (input : List α) (Q : σ → Prop) : Prop :=
  ∀ s, P s → ∃ s', input.foldlM step s = some s' ∧ Q s'

variable {P Q R : σ → Prop} {a : α} {input rest : List α}

theorem Reads.nil : Reads step P [] P :=
  fun s hs => ⟨s, rfl, hs⟩

theorem Reads.cons (hstep : ∀ s, P s → ∃ t, step s a = some t ∧ R t)
    (hrest : Reads step R rest Q) : Reads step P (a :: rest) Q := by
  intro s hs
  obtain ⟨t, ht, hR⟩ := hstep s hs
  obtain ⟨s', hs', hQ⟩ := hrest t hR
  refine ⟨s', ?_, hQ⟩
  rw [List.foldlM_cons, ht]
  exact hs'

theorem Reads.append (hfirst : Reads step P input R) (hrest : Reads step R rest Q) :
    Reads step P (input ++ rest) Q := by
  intro s hs
  obtain ⟨t, ht, hR⟩ := hfirst s hs
  obtain ⟨s', hs', hQ⟩ := hrest t hR
  refine ⟨s', ?_, hQ⟩
  rw [List.foldlM_append, ht]
  exact hs'

/-- Blocks that are read one after the other: the invariant speaks of those that were read. -/
theorem Reads.of_blocks {text : β → List α} {I : List β → σ → Prop} (blocks : List β)
    (hblock : ∀ before b after, blocks = before ++ b :: after →
      Reads step (I before) (text b) (I (before ++ [b]))) :
    Reads step (I []) (blocks.flatMap text) (I blocks) := by
  induction blocks using List.reverseRecOn with
  | nil => exact Reads.nil
  | append_singleton before b ih =>
    rw [List.flatMap_append, List.flatMap_singleton]
    refine Reads.append (ih fun first c after h => ?_) (hblock before b [] rfl)
    exact hblock first c (after ++ [b]) (by rw [h, List.append_assoc, List.cons_append])

end Reader
