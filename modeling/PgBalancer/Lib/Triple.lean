import Mathlib

/-!
# Programs that keep their state when they fail

A C function that may leave by a long jump is an `EStateM` program: it ends in a value
or an error, and in a state either way.  `Std.Do` has Hoare triples for such programs;
this file says what a triple means for a run and adds the rules for alternatives.

* `triple_iff` — a triple is a statement about the run from each state; `Ends` — triples about
  states only.
* `triple_or`, `triple_mono`, `triple_modify` — cases in the precondition, consequence,
  assignment.
* `final_of_triple` — what holds at both ends holds in the state the run ends in.
* `bind_apply_congr` — congruence along a run, to show that a bound on the number of turns
  of a loop does not matter.
-/

open Std.Do

namespace EStateM

variable {ε σ α : Type}

/-- The state a run ends in. -/
def final (p : EStateM ε σ α) (s : σ) : σ :=
  match p s with
  | .ok _ s' => s'
  | .error _ s' => s'

/-- Does the run end in a value? -/
def returns (p : EStateM ε σ α) (s : σ) : Prop := ∃ a s', p s = .ok a s'

instance (p : EStateM ε σ α) (s : σ) : Decidable (p.returns s) :=
  match h : p s with
  | .ok a s' => isTrue ⟨a, s', h⟩
  | .error _ _ => isFalse (by rintro ⟨a, s', h'⟩; cases h.symm.trans h')

/-- **What a triple says about a run.** -/
theorem triple_iff {p : EStateM ε σ α} {P : σ → Prop} {Q : α → σ → Prop} {E : ε → σ → Prop} :
    ⦃fun s => ⌜P s⌝⦄ p ⦃post⟨fun a s => ⌜Q a s⌝, fun e s => ⌜E e s⌝⟩⦄ ↔
      ∀ s, P s → (∀ a s', p s = .ok a s' → Q a s') ∧ ∀ e s', p s = .error e s' → E e s' := by
  have hwp : ∀ s, (wp⟦p⟧ post⟨fun a s => ⌜Q a s⌝, fun e s => ⌜E e s⌝⟩ s).down ↔
      (∀ a s', p s = .ok a s' → Q a s') ∧ ∀ e s', p s = .error e s' → E e s' := by
    intro s
    cases hrun : p s with
    | ok a s' => simp [WP.wp, PredTrans.apply, EStateM.run, hrun]
    | error e s' => simp [WP.wp, PredTrans.apply, EStateM.run, hrun]
  constructor
  · exact fun h s hs => (hwp s).1 (h s hs)
  · exact fun h s hs => (hwp s).2 (h s hs)

/-- The triples of programs whose values and errors do not matter. -/
abbrev Ends (P : σ → Prop) (p : EStateM ε σ α) (Q E : σ → Prop) : Prop :=
  ⦃fun s => ⌜P s⌝⦄ p ⦃post⟨fun _ s => ⌜Q s⌝, fun _ s => ⌜E s⌝⟩⦄

variable {p : EStateM ε σ α} {P P₁ P₂ : σ → Prop} {Q Q' : α → σ → Prop} {E E' : ε → σ → Prop}

/-- A precondition with two cases. -/
theorem triple_or (h₁ : ⦃fun s => ⌜P₁ s⌝⦄ p ⦃post⟨fun a s => ⌜Q a s⌝, fun e s => ⌜E e s⌝⟩⦄)
    (h₂ : ⦃fun s => ⌜P₂ s⌝⦄ p ⦃post⟨fun a s => ⌜Q a s⌝, fun e s => ⌜E e s⌝⟩⦄) :
    ⦃fun s => ⌜P₁ s ∨ P₂ s⌝⦄ p ⦃post⟨fun a s => ⌜Q a s⌝, fun e s => ⌜E e s⌝⟩⦄ := by
  rw [triple_iff] at *
  rintro s (hs | hs)
  · exact h₁ s hs
  · exact h₂ s hs

/-- The rule of consequence. -/
theorem triple_mono (h : ⦃fun s => ⌜P s⌝⦄ p ⦃post⟨fun a s => ⌜Q a s⌝, fun e s => ⌜E e s⌝⟩⦄)
    (hQ : ∀ a s, Q a s → Q' a s) (hE : ∀ e s, E e s → E' e s) :
    ⦃fun s => ⌜P s⌝⦄ p ⦃post⟨fun a s => ⌜Q' a s⌝, fun e s => ⌜E' e s⌝⟩⦄ := by
  rw [triple_iff] at *
  intro s hs
  obtain ⟨hok, herror⟩ := h s hs
  exact ⟨fun a s' hrun => hQ a s' (hok a s' hrun), fun e s' hrun => hE e s' (herror e s' hrun)⟩

/-- The rule of assignment. -/
theorem triple_modify {f : σ → σ} {R : σ → Prop} (h : ∀ s, P s → R (f s)) :
    ⦃fun s => ⌜P s⌝⦄ (modify f : EStateM ε σ PUnit)
    ⦃post⟨fun _ s => ⌜R s⌝, fun _ _ => ⌜False⌝⟩⦄ := by
  rw [triple_iff]
  intro s hs
  constructor
  · rintro a s' ⟨⟩
    exact h s hs
  · rintro e s' ⟨⟩

/-- What a triple says about a run that ends in a value. -/
theorem ok_of_triple (h : ⦃fun s => ⌜P s⌝⦄ p ⦃post⟨fun a s => ⌜Q a s⌝, fun e s => ⌜E e s⌝⟩⦄)
    {s s' : σ} {a : α} (hs : P s) (hrun : p s = .ok a s') : Q a s' :=
  (triple_iff.1 h s hs).1 a s' hrun

theorem final_of_triple {F : σ → Prop}
    (h : ⦃fun s => ⌜P s⌝⦄ p ⦃post⟨fun _ s => ⌜F s⌝, fun _ s => ⌜F s⌝⟩⦄) {s : σ} (hs : P s) :
    F (final p s) := by
  rw [triple_iff] at h
  obtain ⟨hok, herror⟩ := h s hs
  unfold final
  split
  · next hrun => exact hok _ _ hrun
  · next hrun => exact herror _ _ hrun

/-- A run of two programs in turn. -/
theorem bind_eq_ok {β : Type} {f : α → EStateM ε σ β} {s s' : σ} {b : β} :
    (p >>= f) s = .ok b s' ↔ ∃ a s₁, p s = .ok a s₁ ∧ f a s₁ = .ok b s' := by
  change EStateM.bind p f s = _ ↔ _
  unfold EStateM.bind
  cases p s with
  | ok a s₁ => simp
  | error e s₁ => simp

/-- Two programs that start alike and go on alike are alike. -/
theorem bind_apply_congr {β : Type} {f g : α → EStateM ε σ β} {s : σ}
    (h : ∀ a s', p s = .ok a s' → f a s' = g a s') : (p >>= f) s = (p >>= g) s := by
  change EStateM.bind p f s = EStateM.bind p g s
  unfold EStateM.bind
  split
  · next a s' hrun => exact h a s' hrun
  · rfl

end EStateM
