import Mathlib

/-!
# Counting processes by what they are doing

A system of finitely many processes, each in a state of its own.  One step changes the
state of one process, so a head count changes by at most one.

* `count_update` — **the head count after a step**, as an equation between natural numbers.
* `count_le_count` — a head count that is contained in another.
* `not_of_count_eq_zero` — nobody is there when the count is zero.
* `count_eq_card_filter` — a head count as the size of a set.
-/

namespace Census

variable {ι σ : Type*} [Fintype ι] (p q : σ → Bool) (f : ι → σ)

/-- How many processes are in a state with `p`. -/
def count : ℕ := ∑ i, (p (f i)).toNat

variable {p q f}

theorem count_update [DecidableEq ι] (p : σ → Bool) (f : ι → σ) (i : ι) (a : σ) :
    count p (Function.update f i a) + (p (f i)).toNat = count p f + (p a).toNat := by
  have hupdate : (fun j => (p (Function.update f i a j)).toNat) =
      Function.update (fun j => (p (f j)).toNat) i (p a).toNat := by
    funext j
    by_cases hj : j = i
    · subst hj
      simp
    · simp [Function.update_of_ne hj]
  have hf := Finset.add_sum_erase Finset.univ (fun j => (p (f j)).toNat) (Finset.mem_univ i)
  unfold count
  rw [hupdate, Finset.sum_update_of_mem (Finset.mem_univ i), ← hf, Finset.sdiff_singleton_eq_erase]
  omega

theorem count_le_count (h : ∀ i, p (f i) = true → q (f i) = true) : count p f ≤ count q f := by
  refine Finset.sum_le_sum fun i _ => ?_
  cases hp : p (f i) with
  | false => exact Nat.zero_le _
  | true => rw [h i hp]

theorem count_le_card (p : σ → Bool) (f : ι → σ) : count p f ≤ Fintype.card ι := by
  have hle := Finset.sum_le_card_nsmul Finset.univ (fun i => (p (f i)).toNat) 1
    fun i _ => Bool.toNat_le (p (f i))
  simpa [count] using hle

theorem count_pos {i : ι} (h : p (f i) = true) : 0 < count p f := by
  have hle : (p (f i)).toNat ≤ count p f :=
    Finset.single_le_sum (f := fun j => (p (f j)).toNat) (fun _ _ => Nat.zero_le _)
      (Finset.mem_univ i)
  rw [h] at hle
  exact hle

theorem not_of_count_eq_zero (h : count p f = 0) (i : ι) : p (f i) = false := by
  cases hp : p (f i) with
  | false => rfl
  | true => exact absurd h (count_pos hp).ne'

theorem count_eq_zero (h : ∀ i, p (f i) = false) : count p f = 0 :=
  Finset.sum_eq_zero fun i _ => by rw [h i]; rfl

theorem count_eq_card_filter (p : σ → Bool) (f : ι → σ) :
    count p f = (Finset.univ.filter fun i => p (f i) = true).card := by
  rw [Finset.card_filter]
  refine Finset.sum_congr rfl fun i _ => ?_
  cases p (f i) <;> rfl

end Census
