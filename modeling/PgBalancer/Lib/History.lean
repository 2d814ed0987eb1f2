import Mathlib

/-!
# Properties of histories

A property of the states that a system goes through, as one of the lists of events that lead to
them.

* `forall_history_iff` — **a property holds at every moment of a history if and only if every
  event of it meets the condition under which it keeps the property**.
* `exists_run`, `run_keeps` — invariants of runs whose steps may have no result.
-/

namespace History

variable {α : Type*} {P : List α → Prop} {Meets : List α → α → Prop}

theorem forall_history_iff (hnil : P [])
    (hstep : ∀ l a, (∀ before, before <+: l → P before) → (P (l ++ [a]) ↔ Meets l a)) (l : List α) :
    (∀ before, before <+: l → P before) ↔ ∀ before a, before ++ [a] <+: l → Meets before a := by
  constructor
  · intro h before a hnext
    refine (hstep before a fun b hb => h b ?_).1 (h _ hnext)
    exact hb.trans ((List.prefix_append before [a]).trans hnext)
  · intro h
    induction l using List.reverseRecOn with
    | nil =>
      intro before hbefore
      rwa [List.prefix_nil.1 hbefore]
    | append_singleton l a ih =>
      have hl := ih fun before b hb => h before b (hb.trans (List.prefix_append _ _))
      intro before hbefore
      rcases List.prefix_concat_iff.1 hbefore with rfl | hbefore
      · exact (hstep l a hl).2 (h l a (List.prefix_refl _))
      · exact hl before hbefore

variable {σ : Type*} {step : σ → α → Option σ} {I : σ → Prop} {l : List α} {s s' : σ}

theorem exists_run (hstep : ∀ a ∈ l, ∀ s, I s → ∃ s', step s a = some s' ∧ I s') (h : I s) :
    ∃ s', l.foldlM step s = some s' ∧ I s' := by
  induction l generalizing s with
  | nil => exact ⟨s, rfl, h⟩
  | cons a l ih =>
    obtain ⟨s₁, heq, h₁⟩ := hstep a (.head _) s h
    rw [List.foldlM_cons, heq]
    exact ih (fun b hb => hstep b (.tail _ hb)) h₁

theorem run_keeps (hstep : ∀ a ∈ l, ∀ s s', I s → step s a = some s' → I s') (h : I s)
    (hrun : l.foldlM step s = some s') : I s' := by
  induction l generalizing s with
  | nil => exact Option.some.inj hrun ▸ h
  | cons a l ih =>
    rw [List.foldlM_cons] at hrun
    obtain ⟨s₁, heq, hrun⟩ := Option.bind_eq_some_iff.1 hrun
    exact ih (fun b hb => hstep b (.tail _ hb)) (hstep a (.head _) s s₁ h heq) hrun

end History
