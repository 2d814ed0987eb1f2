import Mathlib

/-!
# Singly linked chains

Elements of some array point to each other by `next`.  What hangs off a pointer is described by the
list of the elements that are met when one follows the pointers: `Linked next s l`.  Distinct chains
of one array do not disturb each other as long as their lists have no element in common, which is
all that is needed to reason about pushing, popping and unlinking.

* `find`, `findLink` — the two loops over a chain, with a bound on the number of turns; the second
  one remembers the pointer by which the element was reached.
* `Linked.find_eq`, `Linked.findLink_eq` — both find what `List.find?` finds, for every bound above
  the length of the chain.
* `Linked.push`, `Linked.unlink` — putting an element in front, and taking one out in the middle.
* `flatMap_update_perm` — **an array of chains, one of which has changed by one element**.
-/

namespace LinkedChain

open List Function

variable {ι : Type} {f : Nat → List ι} {b n : Nat} {i : ι} {l : List ι}

/-- Following `next` from the pointer one meets the elements of the list, and then the end. -/
inductive Linked (next : ι → Option ι) : Option ι → List ι → Prop
  | nil : Linked next none []
  | cons {i : ι} {l : List ι} : Linked next (next i) l → Linked next (some i) (i :: l)

/-- Where a pointer to an element is kept: at the head of the chain, or in another element. -/
inductive Link (ι : Type) where
  | head
  | after (i : ι)
  deriving DecidableEq

/-- Follow the chain to the first element with the property.  `none` when the end is not reached
within `fuel` turns. -/
def find (next : ι → Option ι) (p : ι → Bool) : (fuel : Nat) → Option ι → Option (Option ι)
  | 0, _ => none
  | _ + 1, none => some none
  | fuel + 1, some i => if p i then some (some i) else find next p fuel (next i)

/-- Like `find`, but with the place of the pointer to the element. -/
def findLink (next : ι → Option ι) (p : ι → Bool) :
    (fuel : Nat) → Link ι → Option ι → Option (Option (Link ι × ι))
  | 0, _, _ => none
  | _ + 1, _, none => some none
  | fuel + 1, link, some i =>
    if p i then some (some (link, i)) else findLink next p fuel (.after i) (next i)

/-- The place of the pointer that ends the chain `l`, if `link` is where the chain starts. -/
def lastLink (link : Link ι) (l : List ι) : Link ι := l.getLast?.elim link .after

theorem lastLink_cons (link : Link ι) (i : ι) (l : List ι) :
    lastLink link (i :: l) = lastLink (.after i) l := by
  unfold lastLink
  rw [List.getLast?_cons]
  cases l.getLast? with
  | none => rfl
  | some j => rfl

namespace Linked

variable {next : ι → Option ι} {s : Option ι} {l l₁ l₂ : List ι} {i : ι} {p : ι → Bool} {fuel : Nat}

theorem eq_none (h : Linked next s []) : s = none := by
  cases h
  rfl

theorem eq_some (h : Linked next s (i :: l)) : s = some i := by
  cases h
  rfl

theorem pop (h : Linked next s (i :: l)) : Linked next (next i) l := by
  cases h with
  | cons h => exact h

theorem find_eq (h : Linked next s l) (hfuel : l.length < fuel) :
    find next p fuel s = some (l.find? p) := by
  induction h generalizing fuel with
  | nil =>
    obtain ⟨fuel, rfl⟩ := Nat.exists_eq_succ_of_ne_zero (Nat.ne_zero_of_lt hfuel)
    rfl
  | @cons i l _ ih =>
    obtain ⟨fuel, rfl⟩ := Nat.exists_eq_succ_of_ne_zero (Nat.ne_zero_of_lt hfuel)
    rw [find, List.find?_cons]
    cases hp : p i with
    | true => simp
    | false => simpa using ih (Nat.lt_of_succ_lt_succ hfuel)

/-- The loop that remembers where it came from splits the chain at the first element with the
property. -/
theorem findLink_eq (h : Linked next s l) (hfuel : l.length < fuel) (link : Link ι) :
    (findLink next p fuel link s = some none ∧ ∀ j ∈ l, p j = false) ∨
      ∃ l₁ i l₂, l = l₁ ++ i :: l₂ ∧ (∀ j ∈ l₁, p j = false) ∧ p i = true ∧
        findLink next p fuel link s = some (some (lastLink link l₁, i)) := by
  induction h generalizing fuel link with
  | nil =>
    obtain ⟨fuel, rfl⟩ := Nat.exists_eq_succ_of_ne_zero (Nat.ne_zero_of_lt hfuel)
    exact .inl ⟨rfl, nofun⟩
  | @cons i l _ ih =>
    obtain ⟨fuel, rfl⟩ := Nat.exists_eq_succ_of_ne_zero (Nat.ne_zero_of_lt hfuel)
    cases hp : p i with
    | true =>
      refine .inr ⟨[], i, l, rfl, nofun, hp, ?_⟩
      rw [findLink, if_pos hp]
      rfl
    | false =>
      have hstep : findLink next p (fuel + 1) link (some i) =
          findLink next p fuel (.after i) (next i) := by
        rw [findLink, if_neg (by simp [hp])]
      rcases ih (Nat.lt_of_succ_lt_succ hfuel) (.after i) with
        ⟨hnone, hall⟩ | ⟨l₁, j, l₂, rfl, hall, hj, hfound⟩
      · exact .inl ⟨hstep.trans hnone, forall_mem_cons.2 ⟨hp, hall⟩⟩
      · refine .inr ⟨i :: l₁, j, l₂, rfl, forall_mem_cons.2 ⟨hp, hall⟩, hj, ?_⟩
        rw [lastLink_cons]
        exact hstep.trans hfound

/-- What follows an element is chained to it. -/
theorem tail (h : Linked next s (l₁ ++ i :: l₂)) : Linked next (next i) l₂ := by
  induction l₁ generalizing s with
  | nil => exact h.pop
  | cons j l₁ ih => exact ih h.pop

section Update

variable [DecidableEq ι] {v : Option ι} {l₁ l₂ l₃ : List ι}

/-- A chain is not disturbed by a change outside of it. -/
theorem update (h : Linked next s l) (hi : i ∉ l) : Linked (Function.update next i v) s l := by
  induction h with
  | nil => exact .nil
  | @cons j l _ ih =>
    obtain ⟨hij, hil⟩ := not_or.1 (mt mem_cons.2 hi)
    refine .cons ?_
    rw [update_of_ne (Ne.symm hij)]
    exact ih hil

theorem push (h : Linked next s l) (hi : i ∉ l) :
    Linked (Function.update next i s) (some i) (i :: l) := by
  refine .cons ?_
  rw [update_self]
  exact h.update hi

/-- Redirecting the pointer of an element replaces what follows it. -/
theorem redirect (h : Linked next s (l₁ ++ i :: l₂)) (hv : Linked next v l₃) (h₁ : i ∉ l₁)
    (h₃ : i ∉ l₃) : Linked (Function.update next i v) s (l₁ ++ i :: l₃) := by
  induction l₁ generalizing s with
  | nil =>
    obtain rfl := h.eq_some
    refine .cons ?_
    rw [update_self]
    exact hv.update h₃
  | cons j l₁ ih =>
    obtain ⟨hij, hil⟩ := not_or.1 (mt mem_cons.2 h₁)
    obtain rfl := h.eq_some
    refine .cons ?_
    rw [update_of_ne (Ne.symm hij)]
    exact ih h.pop hil

/-- Taking an element out: the pointer to it, at the head or in the element before, gets its
`next`. -/
theorem unlink (h : Linked next s (l₁ ++ i :: l₂)) (hnodup : (l₁ ++ i :: l₂).Nodup) :
    (lastLink .head l₁ = .head ∧ Linked next (next i) (l₁ ++ l₂)) ∨
      ∃ j ∈ l₁, lastLink .head l₁ = .after j ∧
        Linked (Function.update next j (next i)) s (l₁ ++ l₂) := by
  rcases eq_nil_or_concat l₁ with rfl | ⟨l₀, j, rfl⟩
  · exact .inl ⟨rfl, h.tail⟩
  · have htail := h.tail
    rw [concat_eq_append] at h hnodup ⊢
    have hlink : lastLink .head (l₀ ++ [j]) = .after j := by
      rw [lastLink, List.getLast?_concat]
      rfl
    rw [append_assoc] at hnodup
    have hdisj := (nodup_append.1 hnodup)
    have hj₀ : j ∉ l₀ := fun hmem => hdisj.2.2 j hmem j (by simp) rfl
    have hj₂ : j ∉ l₂ := fun hmem =>
      (nodup_cons.1 hdisj.2.1).1 (mem_cons_of_mem _ hmem)
    refine .inr ⟨j, by simp, hlink, ?_⟩
    rw [append_assoc] at h ⊢
    exact redirect h htail hj₀ hj₂

end Update

end Linked

/-! ## Arrays of chains -/

theorem flatMap_update_perm (hb : b < n) (h : l.Perm (i :: f b)) :
    ((List.range n).flatMap (Function.update f b l)).Perm (i :: (List.range n).flatMap f) := by
  induction n with
  | zero => exact absurd hb (Nat.not_lt_zero b)
  | succ n ih =>
    rw [range_succ, flatMap_append, flatMap_append, flatMap_singleton,
      flatMap_singleton]
    rcases Nat.lt_succ_iff_lt_or_eq.1 hb with hlt | rfl
    · rw [update_of_ne (Nat.ne_of_gt hlt)]
      exact (ih hlt).append_right _
    · have hrest : (List.range b).flatMap (Function.update f b l) = (List.range b).flatMap f :=
        flatMap_congr fun x hx =>
          by rw [update_of_ne (Nat.ne_of_lt (mem_range.1 hx))]
      rw [hrest, update_self]
      exact (h.append_left _).trans perm_middle

end LinkedChain
