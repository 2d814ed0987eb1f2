import Mathlib

/-!
# Quorum and consensus counts of the watchdog

A watchdog that leads a cluster of `N` members counts the remote nodes that have
joined it as standbys, never itself, and compares the count with thresholds that
are computed from the number of remote members, `N - 1`.

* `voters_intersect`, `leader_counted_of_both_quorum` — **two majorities share a
  member.**  Two leaders can both hold the quorum with disjoint standby lists only
  if one of them is counted as a standby of the other.
-/

namespace PgBalancer.Watchdog

/-- `WD_STATES` -/
inductive WdState where
  | dead
  | loading
  | joining
  | initializing
  | coordinator
  | participateInElection
  | standForCoordinator
  | standby
  | lost
  | inNwTrouble
  | shutdown
  | addMessageSent
  | networkIsolation
  deriving DecidableEq

/-- `get_minimum_remote_nodes_required_for_quorum` -/
def getMinimumRemoteNodesRequiredForQuorum (memberRemoteNodeCount : Int) : Int :=
  if memberRemoteNodeCount.tmod 2 = 0 then memberRemoteNodeCount.tdiv 2
  else (memberRemoteNodeCount - 1).tdiv 2

/-- `get_minimum_votes_to_resolve_consensus`; `halfVotes` is
`enable_consensus_with_half_votes`. -/
def getMinimumVotesToResolveConsensus (halfVotes : Bool) (memberRemoteNodeCount : Int) : Int :=
  let requiredNodeCount := getMinimumRemoteNodesRequiredForQuorum memberRemoteNodeCount + 1
  if memberRemoteNodeCount.tmod 2 ≠ 0 then
    if halfVotes = false then requiredNodeCount + 1 else requiredNodeCount
  else requiredNodeCount

/-- The value `update_quorum_status` gives to `quorum_status`. -/
def quorumStatus (halfVotes : Bool) (memberRemoteNodeCount standbyNodesCount : Int) : Int :=
  let minimum := getMinimumRemoteNodesRequiredForQuorum memberRemoteNodeCount
  if standbyNodesCount > minimum then 1
  else if standbyNodesCount = minimum then
    if memberRemoteNodeCount.tmod 2 ≠ 0 then if halfVotes then 0 else -1 else 1
  else -1

/-! ## More than half -/

/-- The remote nodes that make a quorum together with the leader, out of `N` members. -/
theorem minimumRemoteNodes_eq {N : Int} (hN : 1 ≤ N) :
    getMinimumRemoteNodesRequiredForQuorum (N - 1) = (N - 1) / 2 := by
  have hmod : (N - 1).tmod 2 = (N - 1) % 2 := Int.tmod_eq_emod_of_nonneg (by omega)
  have hdiv : (N - 1).tdiv 2 = (N - 1) / 2 := Int.tdiv_eq_ediv_of_nonneg (by omega)
  unfold getMinimumRemoteNodesRequiredForQuorum
  rw [hmod]
  split
  case isTrue => exact hdiv
  case isFalse hodd =>
    have hdiv' : (N - 1 - 1).tdiv 2 = (N - 1 - 1) / 2 := Int.tdiv_eq_ediv_of_nonneg (by omega)
    omega

/-- The quorum exists exactly if the leader and its standbys are more than half of
the members. -/
theorem quorumStatus_eq {N : Int} (hN : 1 ≤ N) (standbys : Int) :
    quorumStatus false (N - 1) standbys = if N < 2 * (standbys + 1) then 1 else -1 := by
  have hmod : (N - 1).tmod 2 = (N - 1) % 2 := Int.tmod_eq_emod_of_nonneg (by omega)
  simp only [quorumStatus, minimumRemoteNodes_eq hN, hmod, Bool.false_eq_true, if_false]
  by_cases hgt : standbys > (N - 1) / 2
  · rw [if_pos hgt, if_pos (by omega)]
  · rw [if_neg hgt]
    by_cases heq : standbys = (N - 1) / 2
    · rw [if_pos heq]
      by_cases hodd : (N - 1) % 2 ≠ 0
      · rw [if_pos hodd, if_neg (by omega)]
      · rw [if_neg hodd, if_pos (by omega)]
    · rw [if_neg heq, if_neg (by omega)]

theorem lt_two_mul_minimumVotes {N : Int} (hN : 1 ≤ N) :
    N < 2 * getMinimumVotesToResolveConsensus false (N - 1) := by
  have hmod : (N - 1).tmod 2 = (N - 1) % 2 := Int.tmod_eq_emod_of_nonneg (by omega)
  simp only [getMinimumVotesToResolveConsensus, minimumRemoteNodes_eq hN, hmod, if_true]
  by_cases hodd : (N - 1) % 2 ≠ 0
  · rw [if_pos hodd]
    omega
  · rw [if_neg hodd]
    omega

section Groups

variable {ν : Type} [DecidableEq ν] {members S T : Finset ν}

/-- Two sets of voters that are enough for a consensus have a member in common. -/
theorem voters_intersect (hS : S ⊆ members) (hT : T ⊆ members) (hne : members.Nonempty)
    (hSv : getMinimumVotesToResolveConsensus false (members.card - 1) ≤ S.card)
    (hTv : getMinimumVotesToResolveConsensus false (members.card - 1) ≤ T.card) :
    (S ∩ T).Nonempty := by
  have hpos : 0 < members.card := hne.card_pos
  have hvotes := lt_two_mul_minimumVotes (N := members.card) (by omega)
  exact Finset.inter_nonempty_of_card_lt_card_add_card hS hT (by omega)

/-- Of two leaders with a quorum, one is counted by the other. -/
theorem leader_counted_of_both_quorum {a b : ν} (hab : a ≠ b) (ha : a ∈ members)
    (hb : b ∈ members) (hS : S ⊆ members) (hT : T ⊆ members) (haS : a ∉ S) (hbT : b ∉ T)
    (hdisjoint : Disjoint S T) (hqa : 0 ≤ quorumStatus false (members.card - 1) S.card)
    (hqb : 0 ≤ quorumStatus false (members.card - 1) T.card) : b ∈ S ∨ a ∈ T := by
  have hpos : 0 < members.card := Finset.card_pos.2 ⟨a, ha⟩
  have hcount : ∀ k : Int, 0 ≤ quorumStatus false (members.card - 1) k →
      (members.card : Int) < 2 * (k + 1) := by
    intro k hk
    rw [quorumStatus_eq (N := members.card) (by omega)] at hk
    by_contra hlt
    simp [hlt] at hk
  have hinter : (insert a S ∩ insert b T).Nonempty := by
    refine Finset.inter_nonempty_of_card_lt_card_add_card (s := members)
      (Finset.insert_subset ha hS) (Finset.insert_subset hb hT) ?_
    rw [Finset.card_insert_of_notMem haS, Finset.card_insert_of_notMem hbT]
    have := hcount _ hqa
    have := hcount _ hqb
    omega
  obtain ⟨x, hx⟩ := hinter
  rw [Finset.mem_inter, Finset.mem_insert, Finset.mem_insert] at hx
  rcases hx with ⟨rfl | hxS, rfl | hxT⟩
  · exact absurd rfl hab
  · exact .inr hxT
  · exact .inl hxS
  · exact absurd hxT (Finset.disjoint_left.1 hdisjoint hxS)

end Groups

end PgBalancer.Watchdog
