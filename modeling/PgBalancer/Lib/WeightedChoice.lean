import Mathlib

/-!
# Choice by weight

The elements of a list share an interval according to their weights, one after the other, and a
number in it selects the element in whose share it is.

* `pick` — the walk over the running total, which keeps the last element that is reached.
* `IntervalRule` — a choice by a draw from `[0, 1)` follows the shares.
* `intervalRule_pick` — **the walk with the scaled draw does**.
-/

namespace WeightedChoice

variable {ι R : Type} [DecidableEq ι] [Field R] [LinearOrder R] [IsStrictOrderedRing R]
variable (w : ι → R)

/-- The loop: an element without a weight is passed over. -/
def pick (r : R) (selected : ι) (total : R) : List ι → ι
  | [] => selected
  | i :: rest =>
    if 0 < w i then if total ≤ r then pick r i (total + w i) rest else selected
    else pick r selected total rest

/-- The length of the interval. -/
def total (l : List ι) : R := (l.map w).sum

/-- The weights that stand before an element. -/
def before (i : ι) : List ι → R
  | [] => 0
  | j :: rest => if j = i then 0 else w j + before i rest

/-- The element with the share `[before i, before i + w i)` is chosen if the scaled draw is in it;
this share of the draws is `w i / total`, and no other elements are chosen. -/
structure IntervalRule (l : List ι) (choice : R → ι) : Prop where
  mem : ∀ d, 0 ≤ d → d < 1 → choice d ∈ l ∧ 0 < w (choice d)
  interval : ∀ i ∈ l, 0 < w i → ∀ d, 0 ≤ d → d < 1 →
    (choice d = i ↔ before w i l ≤ d * total w l ∧ d * total w l < before w i l + w i)
  share : ∀ i ∈ l, 0 < w i → {d | 0 ≤ d ∧ d < 1 ∧ choice d = i} =
    Set.Ico (before w i l / total w l) (before w i l / total w l + w i / total w l)

variable {w} {l : List ι} {i : ι} {r t : R}

omit [IsStrictOrderedRing R] in
theorem IntervalRule.congr {choice choice' : R → ι} (h : IntervalRule w l choice)
    (heq : ∀ d, 0 ≤ d → choice' d = choice d) : IntervalRule w l choice' where
  mem d h0 h1 := heq d h0 ▸ h.mem d h0 h1
  interval i hi hpos d h0 h1 := heq d h0 ▸ h.interval i hi hpos d h0 h1
  share i hi hpos := by
    rw [← h.share i hi hpos]
    exact Set.ext fun d => and_congr_right fun h0 => by rw [heq d h0]

omit [DecidableEq ι] [IsStrictOrderedRing R] in
theorem pick_of_lt {selected : ι} (h : r < t) : pick w r selected t l = selected := by
  induction l with
  | nil => rfl
  | cons j l ih => rw [pick, if_neg h.not_ge, ih, ite_self]

omit [DecidableEq ι] [IsStrictOrderedRing R] in
theorem pick_of_forall {P : ι → Prop} {selected : ι} (hsel : P selected) (hl : ∀ j ∈ l, P j) :
    P (pick w r selected t l) := by
  induction l generalizing selected t with
  | nil => exact hsel
  | cons j l ih =>
    rw [List.forall_mem_cons] at hl
    rw [pick]
    split_ifs
    · exact ih hl.1 hl.2
    · exact hsel
    · exact ih hsel hl.2

theorem before_nonneg (hw : ∀ j ∈ l, 0 ≤ w j) : 0 ≤ before w i l := by
  induction l with
  | nil => exact le_rfl
  | cons j l ih =>
    rw [List.forall_mem_cons] at hw
    rw [before]
    split_ifs
    · exact le_rfl
    · exact add_nonneg hw.1 (ih hw.2)

theorem before_add_le_total (hw : ∀ j ∈ l, 0 ≤ w j) (hi : i ∈ l) :
    before w i l + w i ≤ total w l := by
  induction l with
  | nil => cases hi
  | cons j l ih =>
    rw [List.forall_mem_cons] at hw
    rw [before, total, List.map_cons, List.sum_cons]
    split_ifs with hj
    · have : 0 ≤ (l.map w).sum := List.sum_nonneg (by simpa using hw.2)
      rw [hj]
      linarith
    · have := ih hw.2 ((List.mem_cons.1 hi).resolve_left (Ne.symm hj))
      rw [total] at this
      linarith

theorem pick_eq (hw : ∀ j ∈ l, 0 ≤ w j) (hi : i ∈ l) (hpos : 0 < w i) {selected : ι}
    (hlo : t + before w i l ≤ r) (hhi : r < t + before w i l + w i) :
    pick w r selected t l = i := by
  induction l generalizing selected t with
  | nil => cases hi
  | cons j l ih =>
    rw [List.forall_mem_cons] at hw
    rw [before] at hlo hhi
    rw [pick]
    split_ifs at hlo hhi with hj
    · subst hj
      rw [if_pos hpos, if_pos (by linarith), pick_of_lt (by linarith)]
    · have hmem := (List.mem_cons.1 hi).resolve_left (Ne.symm hj)
      have hnonneg := before_nonneg hw.2 (i := i)
      split_ifs with hwj hle
      · exact ih hw.2 hmem (by linarith) (by linarith)
      · linarith
      · have hzero : w j = 0 := le_antisymm (not_lt.1 hwj) hw.1
        exact ih hw.2 hmem (by linarith) (by linarith)

theorem exists_share (hw : ∀ j ∈ l, 0 ≤ w j) (hnd : l.Nodup) (hlo : t ≤ r)
    (hhi : r < t + total w l) :
    ∃ i ∈ l, 0 < w i ∧ t + before w i l ≤ r ∧ r < t + before w i l + w i := by
  induction l generalizing t with
  | nil =>
    rw [total, List.map_nil, List.sum_nil] at hhi
    linarith
  | cons j l ih =>
    rw [List.forall_mem_cons] at hw
    rw [total, List.map_cons, List.sum_cons] at hhi
    rcases lt_or_ge r (t + w j) with hj | hj
    · refine ⟨j, List.mem_cons_self, by linarith, ?_⟩
      rw [before, if_pos rfl]
      constructor <;> linarith
    · obtain ⟨i, hi, hpos, h1, h2⟩ := ih hw.2 hnd.of_cons hj (by rw [total]; linarith)
      refine ⟨i, List.mem_cons_of_mem j hi, hpos, ?_⟩
      rw [before, if_neg (by rintro rfl; exact hnd.notMem hi)]
      constructor <;> linarith

/-- **The walk over the running total follows the shares.** -/
theorem intervalRule_pick (hw : ∀ j ∈ l, 0 ≤ w j) (hnd : l.Nodup) (htotal : 0 < total w l)
    (selected : ι) : IntervalRule w l fun d => pick w (d * total w l) selected 0 l := by
  have hshare : ∀ d, 0 ≤ d → d < 1 → ∃ i ∈ l, 0 < w i ∧ before w i l ≤ d * total w l ∧
      d * total w l < before w i l + w i := by
    intro d h0 h1
    simpa only [zero_add] using exists_share hw hnd (mul_nonneg h0 htotal.le)
      (by rw [zero_add]; exact mul_lt_of_lt_one_left htotal h1)
  have hpick : ∀ {d i}, i ∈ l → 0 < w i → before w i l ≤ d * total w l →
      d * total w l < before w i l + w i → pick w (d * total w l) selected 0 l = i :=
    fun hi hpos h1 h2 => pick_eq hw hi hpos (by rwa [zero_add]) (by rwa [zero_add])
  have hinterval : ∀ i ∈ l, 0 < w i → ∀ d, 0 ≤ d → d < 1 →
      (pick w (d * total w l) selected 0 l = i ↔
        before w i l ≤ d * total w l ∧ d * total w l < before w i l + w i) := by
    refine fun i hi hpos d h0 h1 => ⟨fun h => ?_, fun h => hpick hi hpos h.1 h.2⟩
    obtain ⟨j, hj, hjpos, hlo, hhi⟩ := hshare d h0 h1
    obtain rfl : j = i := (hpick hj hjpos hlo hhi).symm.trans h
    exact ⟨hlo, hhi⟩
  refine ⟨fun d h0 h1 => ?_, hinterval, fun i hi hpos => ?_⟩
  · obtain ⟨j, hj, hjpos, hlo, hhi⟩ := hshare d h0 h1
    rw [hpick hj hjpos hlo hhi]
    exact ⟨hj, hjpos⟩
  · ext d
    have hle := before_add_le_total hw hi
    simp only [Set.mem_ofPred_eq, Set.mem_Ico, ← add_div, div_le_iff₀ htotal, lt_div_iff₀ htotal]
    constructor
    · rintro ⟨h0, h1, h⟩
      exact (hinterval i hi hpos d h0 h1).1 h
    · rintro ⟨hlo, hhi⟩
      have h0 : 0 ≤ d := nonneg_of_mul_nonneg_left ((before_nonneg hw).trans hlo) htotal
      have h1 : d < 1 := by
        by_contra h
        linarith [mul_le_mul_of_nonneg_right (not_lt.1 h) htotal.le]
      exact ⟨h0, h1, hpick hi hpos hlo hhi⟩

end WeightedChoice
