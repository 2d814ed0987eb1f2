import PgBalancer.Watchdog.Quorum

/-!
# Cluster membership as one watchdog sees it

Each watchdog keeps a record of every remote node: its last known state, whether
it still counts as a member, why and since when it is lost.  A leader also keeps
the list of the nodes that have joined it as standbys.  Messages, timeouts and the
life-check change these records in `watchdog_state_machine` and the functions it
calls; one event of this model is one such call, together with the clock reading
it makes.

* `quorum_of_members` — **at most one group holds the quorum**, in every run of such
  events.  A node that is lost for a reason other than the life-check may join, is
  then counted while it is lost, and goes on being counted after its membership is
  revoked (`lost_node_counted`).
-/

namespace PgBalancer.Watchdog

/-- `WD_NODE_MEMBERSHIP_STATUS` -/
inductive Membership where
  | active
  | revokedShutdown
  | revokedNoShow
  | revokedLost
  deriving DecidableEq

/-- `WD_NODE_LOST_REASONS` -/
inductive LostReason where
  | unknownReason
  | byLifecheck
  | bySendFailure
  | byMissingBeacon
  | byReceiveTimeout
  | byNotReachable
  | shutdown
  deriving DecidableEq

/-- What a watchdog knows of a remote node.  Times are in microseconds. -/
structure RemoteNode where
  state : WdState
  membership : Membership
  nodeLostReason : LostReason
  /-- `lost_time`; `0` is never a clock reading and stands for none -/
  lostTime : Int
  deriving DecidableEq

/-- The settings the membership depends on; timeouts are in seconds. -/
structure WdConfig where
  wdLostNodeRemovalTimeout : Int
  wdNoShowNodeRemovalTimeout : Int
  wdRemoveShutdownNodes : Bool

/-- The local watchdog's view of a cluster with `n` remote nodes. -/
structure Cluster (n : Nat) where
  localState : WdState
  startupTime : Int
  nodes : Fin n → RemoteNode
  /-- `standbyNodes`, the first `standby_nodes_count` entries -/
  standbyNodes : List (Fin n)
  memberRemoteNodeCount : Int

/-- `WD_TIME_DIFF_SEC` -/
def wdTimeDiffSec (a b : Int) : Int := (a - b).tdiv 1000000

variable {n : Nat} {j : Fin n}

scoped instance lawfulNode : LawfulBEq (Fin n) := inferInstance

scoped instance neZeroTwo : NeZero 2 := ⟨two_ne_zero⟩

namespace Cluster

/-! ## Changing one record -/

/-- Change the record of node `i`. -/
def modify (c : Cluster n) (i : Fin n) (f : RemoteNode → RemoteNode) : Cluster n :=
  { c with nodes := Function.update c.nodes i (f (c.nodes i)) }

/-- Set `state`. -/
def setNodeState (c : Cluster n) (i : Fin n) (s : WdState) : Cluster n :=
  c.modify i fun node => { node with state := s }

/-- Set `lost_time`. -/
def setLostTime (c : Cluster n) (i : Fin n) (t : Int) : Cluster n :=
  c.modify i fun node => { node with lostTime := t }

/-- Set `node_lost_reason`. -/
def setLostReason (c : Cluster n) (i : Fin n) (r : LostReason) : Cluster n :=
  c.modify i fun node => { node with nodeLostReason := r }

/-! ## The functions of the membership and of the standby list -/

/-- `update_cluster_memberships` -/
def updateClusterMemberships (c : Cluster n) : Cluster n :=
  { c with
    memberRemoteNodeCount :=
      n - ((List.finRange n).countP fun i => (c.nodes i).membership ≠ .active : Nat) }

/-- `revoke_cluster_membership_of_node` -/
def revokeClusterMembershipOfNode (c : Cluster n) (i : Fin n) (status : Membership) : Cluster n :=
  if (c.nodes i).membership = .active then
    { c.modify i fun node => { node with membership := status } with
      memberRemoteNodeCount := c.memberRemoteNodeCount - 1 }
  else c

/-- `restore_cluster_membership_of_node` -/
def restoreClusterMembershipOfNode (c : Cluster n) (i : Fin n) : Cluster n :=
  if (c.nodes i).membership ≠ .active then
    { c.modify i fun node => { node with membership := .active, lostTime := 0 } with
      memberRemoteNodeCount := c.memberRemoteNodeCount + 1 }
  else c

/-- `reset_lost_timers` -/
def resetLostTimers (c : Cluster n) : Cluster n :=
  { c with nodes := fun i => { c.nodes i with lostTime := 0 } }

/-- `standby_node_join_cluster` -/
def standbyNodeJoinCluster (c : Cluster n) (i : Fin n) : Cluster n :=
  if c.localState = .coordinator then
    let c := c.setLostTime i 0
    if i ∈ c.standbyNodes then c else { c with standbyNodes := c.standbyNodes ++ [i] }
  else c

/-- `standby_node_left_cluster` at time `now` -/
def standbyNodeLeftCluster (c : Cluster n) (now : Int) (i : Fin n) : Cluster n :=
  if c.localState = .coordinator ∧ i ∈ c.standbyNodes then
    { c.setLostTime i now with standbyNodes := c.standbyNodes.erase i }
  else c

/-- `set_state`: leaving the coordinator state clears the standby list. -/
def setState (c : Cluster n) (s : WdState) : Cluster n :=
  if c.localState = s then c
  else
    { c with
      localState := s
      standbyNodes := if c.localState = .coordinator then [] else c.standbyNodes }

/-! ## Events -/

/-- `watchdog_state_machine` for `WD_EVENT_REMOTE_NODE_LOST` -/
def remoteNodeLost (cfg : WdConfig) (c : Cluster n) (now : Int) (i : Fin n) : Cluster n :=
  let c :=
    if (c.nodes i).state = .shutdown then
      if cfg.wdRemoveShutdownNodes then c.revokeClusterMembershipOfNode i .revokedShutdown else c
    else c.setNodeState i .lost
  -- `watchdog_state_machine_coordinator`; in the other states the list is not touched
  c.standbyNodeLeftCluster now i

/-- `watchdog_state_machine` for `WD_EVENT_REMOTE_NODE_FOUND` -/
def remoteNodeFound (c : Cluster n) (i : Fin n) : Cluster n :=
  ((c.setLostReason i .unknownReason).setNodeState i .loading).restoreClusterMembershipOfNode i

/-- `standard_packet_processor` for `WD_INFO_MESSAGE` with the sender's own state `s` -/
def infoMessage (c : Cluster n) (now : Int) (i : Fin n) (s : WdState) : Cluster n :=
  let old := (c.nodes i).state
  let c := c.setNodeState i s
  let c := if old = .standby ∧ s ≠ old then c.standbyNodeLeftCluster now i else c
  if old = .lost then
    if (c.nodes i).nodeLostReason = .byLifecheck then c.setNodeState i .lost
    else c.remoteNodeFound i
  else c

/-- `WD_INFORM_I_AM_GOING_DOWN` -/
def goingDown (cfg : WdConfig) (c : Cluster n) (now : Int) (i : Fin n) : Cluster n :=
  remoteNodeLost cfg ((c.setNodeState i .shutdown).setLostReason i .shutdown) now i

/-- `WD_ADD_NODE_MESSAGE` on a new connection, with the sender's own state `s` -/
def addNode (c : Cluster n) (now : Int) (i : Fin n) (s : WdState) : Cluster n :=
  let old := (c.nodes i).state
  let c := (c.setNodeState i s).restoreClusterMembershipOfNode i
  if old = .shutdown then c.standbyNodeLeftCluster now i
  else if old = .lost then (c.standbyNodeLeftCluster now i).remoteNodeFound i
  else c

/-- `WD_JOIN_COORDINATOR_MESSAGE`: a coordinator takes the sender in, unless the
life-check has reported it lost. -/
def joinCoordinator (c : Cluster n) (i : Fin n) : Cluster n :=
  if c.localState = .coordinator then
    if (c.nodes i).state = .lost ∧ (c.nodes i).nodeLostReason = .byLifecheck then c
    else c.standbyNodeJoinCluster i
  else c

/-- `WD_DECLARE_COORDINATOR_MESSAGE` finished on a coordinator -/
def declareCoordinatorFinished (c : Cluster n) : Cluster n :=
  if c.localState = .coordinator then c.updateClusterMemberships.resetLostTimers else c

/-- `is_node_active` -/
def isNodeActive (c : Cluster n) (i : Fin n) : Bool :=
  (c.nodes i).state ≠ .dead ∧ (c.nodes i).state ≠ .lost ∧ (c.nodes i).state ≠ .shutdown

/-- The body of the loop of `service_unreachable_nodes` for node `i`.  The result
of looking at its sockets, counters and timers is `detected`: the reason to take it
for lost, if there is one. -/
def serviceUnreachableNode (cfg : WdConfig) (now : Int) (detected : Fin n → Option LostReason)
    (c : Cluster n) (i : Fin n) : Cluster n :=
  let node := c.nodes i
  if node.state = .lost ∧ node.membership = .active ∧ cfg.wdLostNodeRemovalTimeout ≠ 0 then
    if wdTimeDiffSec now node.lostTime ≥ cfg.wdLostNodeRemovalTimeout then
      c.revokeClusterMembershipOfNode i .revokedLost
    else c
  else if node.state = .dead ∧ node.membership = .active ∧ cfg.wdNoShowNodeRemovalTimeout ≠ 0 then
    if wdTimeDiffSec now c.startupTime ≥ cfg.wdNoShowNodeRemovalTimeout then
      c.revokeClusterMembershipOfNode i .revokedNoShow
    else c
  else if c.isNodeActive i = false then c
  else
    match detected i with
    | none => c
    | some reason => (c.setLostReason i reason).remoteNodeLost cfg now i

/-- `service_unreachable_nodes` -/
def serviceUnreachableNodes (cfg : WdConfig) (now : Int) (detected : Fin n → Option LostReason)
    (c : Cluster n) : Cluster n :=
  (List.finRange n).foldl (serviceUnreachableNode cfg now detected) c

end Cluster

/-- The events that change the records of remote nodes or the standby list. -/
inductive WdEvent (n : Nat) where
  /-- `set_state`, called from many places -/
  | setState (s : WdState)
  /-- `WD_EVENT_REMOTE_NODE_LOST` for the reason given, from the life-check -/
  | remoteNodeLost (i : Fin n) (reason : LostReason)
  /-- `WD_EVENT_REMOTE_NODE_FOUND`, from the life-check -/
  | remoteNodeFound (i : Fin n)
  /-- `WD_INFO_MESSAGE` -/
  | infoMessage (i : Fin n) (s : WdState)
  /-- `WD_INFORM_I_AM_GOING_DOWN` -/
  | goingDown (i : Fin n)
  /-- `WD_ADD_NODE_MESSAGE` on a new connection -/
  | addNode (i : Fin n) (s : WdState)
  /-- `WD_JOIN_COORDINATOR_MESSAGE` -/
  | joinCoordinator (i : Fin n)
  /-- the coordinator calls `standby_node_left_cluster`: the node says it has lost
  us, has rejected our beacon or sends `WD_ADD_NODE_MESSAGE` on its old connection -/
  | standbyLeft (i : Fin n)
  /-- `beacon_message_received_from_node` -/
  | beacon (i : Fin n) (s : WdState)
  /-- a standby has missed three beacons of its leader `i` -/
  | leaderLost (i : Fin n)
  /-- `WD_ADD_NODE_MESSAGE` was sent to the dead node `i` -/
  | addMessageSent (i : Fin n)
  | declareCoordinatorFinished
  | serviceUnreachableNodes (detected : Fin n → Option LostReason)

/-- One event at time `now`. -/
def step (cfg : WdConfig) (c : Cluster n) (now : Int) : WdEvent n → Cluster n
  | .setState s => c.setState s
  | .remoteNodeLost i reason => (c.setLostReason i reason).remoteNodeLost cfg now i
  | .remoteNodeFound i => c.remoteNodeFound i
  | .infoMessage i s => c.infoMessage now i s
  | .goingDown i => c.goingDown cfg now i
  | .addNode i s => c.addNode now i s
  | .joinCoordinator i => c.joinCoordinator i
  | .standbyLeft i => c.standbyNodeLeftCluster now i
  | .beacon i s => c.setNodeState i s
  | .leaderLost i =>
    if c.localState = .standby then (c.setNodeState i .lost).setState .joining else c
  | .addMessageSent i =>
    if (c.nodes i).state = .dead then c.setNodeState i .addMessageSent else c
  | .declareCoordinatorFinished => c.declareCoordinatorFinished
  | .serviceUnreachableNodes detected => c.serviceUnreachableNodes cfg now detected

/-- The cluster at start-up: nobody has shown up and all configured nodes count as
members. -/
def initialCluster (n : Nat) (startupTime : Int) : Cluster n where
  localState := .dead
  startupTime := startupTime
  nodes := fun _ => ⟨.dead, .active, .unknownReason, 0⟩
  standbyNodes := []
  memberRemoteNodeCount := n

/-! ## The invariant -/

/-- A state that a node in the standby list must not be in. -/
def WdState.Gone (s : WdState) : Prop := s = .lost ∨ s = .shutdown ∨ s = .dead

instance : DecidablePred WdState.Gone := fun s =>
  inferInstanceAs (Decidable (s = .lost ∨ s = .shutdown ∨ s = .dead))

/-- A node that may be counted as a standby. -/
def RemoteNode.Up (node : RemoteNode) : Prop := node.membership = .active ∧ ¬ node.state.Gone

instance : DecidablePred RemoteNode.Up := fun node =>
  inferInstanceAs (Decidable (node.membership = .active ∧ ¬ node.state.Gone))

/-- The nodes that are members. -/
def Cluster.members (c : Cluster n) : Finset (Fin n) :=
  Finset.univ.filter fun i => (c.nodes i).membership = .active

@[simp] theorem mem_members {c : Cluster n} {i : Fin n} :
    i ∈ c.members ↔ (c.nodes i).membership = .active := by
  simp [Cluster.members]

@[simp] theorem nodes_modify_self (c : Cluster n) (i : Fin n) (f : RemoteNode → RemoteNode) :
    (c.modify i f).nodes i = f (c.nodes i) := by
  simp [Cluster.modify]

@[simp] theorem nodes_modify_of_ne (c : Cluster n) {i : Fin n} (h : j ≠ i)
    (f : RemoteNode → RemoteNode) : (c.modify i f).nodes j = c.nodes j := by
  simp [Cluster.modify, h]

/-- The standby list is a list of members that are up, `skip` apart, which is about
to be removed from it. -/
structure InvBut (skip : Option (Fin n)) (c : Cluster n) : Prop where
  nodup : c.standbyNodes.Nodup
  up : ∀ i ∈ c.standbyNodes, some i ≠ skip → (c.nodes i).Up
  nil_of_ne : c.localState ≠ .coordinator → c.standbyNodes = []
  count : c.memberRemoteNodeCount = c.members.card

/-- The invariant. -/
abbrev Inv (c : Cluster n) : Prop := InvBut none c

variable {cfg : WdConfig} {c : Cluster n} {i : Fin n} {skip : Option (Fin n)} {now : Int}

theorem countP_finRange (p : Fin n → Prop) [DecidablePred p] :
    (List.finRange n).countP (fun i => p i) = (Finset.univ.filter p).card := by
  rw [Finset.card_def, Finset.filter_val, ← Multiset.countP_eq_card_filter]
  exact (Multiset.coe_countP p (List.finRange n)).symm

/-! ## What the primitive changes keep -/

section Primitives

theorem InvBut.weaken (h : Inv c) : InvBut skip c :=
  ⟨h.nodup, fun j hj _ => h.up j hj (by simp), h.nil_of_ne, h.count⟩

section

variable (h : InvBut skip c) {f : RemoteNode → RemoteNode} {s : WdState} {status : Membership}
include h

/-- A change of one record that leaves the membership alone keeps the invariant for
the other nodes. -/
theorem InvBut.modify (hf : ∀ node, (f node).membership = node.membership)
    (hup : some i = skip ∨ ((c.nodes i).Up → (f (c.nodes i)).Up)) : InvBut skip (c.modify i f) := by
  have hmembers : (c.modify i f).members = c.members := by
    ext j
    by_cases hj : j = i
    · subst hj
      simp [hf]
    · simp [hj]
  refine ⟨h.nodup, fun j hj hskip => ?_, h.nil_of_ne, by rw [hmembers]; exact h.count⟩
  by_cases hji : j = i
  · subst hji
    have hkeep := hup.resolve_left hskip
    simpa using hkeep (h.up j hj hskip)
  · simpa [hji] using h.up j hj hskip

theorem InvBut.setLostTime (i : Fin n) (t : Int) : InvBut skip (c.setLostTime i t) :=
  h.modify (fun _ => rfl) (.inr id)

theorem InvBut.setLostReason (i : Fin n) (r : LostReason) : InvBut skip (c.setLostReason i r) :=
  h.modify (fun _ => rfl) (.inr id)

theorem InvBut.setNodeState (hs : some i = skip ∨ ¬ s.Gone) : InvBut skip (c.setNodeState i s) :=
  h.modify (fun _ => rfl) (hs.imp_right fun hgone hup => ⟨hup.1, hgone⟩)

/-- A node leaves the cluster. -/
theorem InvBut.revoke (hstatus : status ≠ .active) (hi : i ∈ c.standbyNodes → some i = skip) :
    InvBut skip (c.revokeClusterMembershipOfNode i status) := by
  unfold Cluster.revokeClusterMembershipOfNode
  split
  case isFalse => exact h
  case isTrue hactive =>
    have hmem : i ∈ c.members := mem_members.2 hactive
    refine ⟨h.nodup, fun j hj hskip => ?_, h.nil_of_ne, ?_⟩
    · have hji : j ≠ i := fun heq => hskip (heq ▸ hi (heq ▸ hj))
      simpa [hji] using h.up j hj hskip
    · have herase : ({ c.modify i fun node => { node with membership := status } with
          memberRemoteNodeCount := c.memberRemoteNodeCount - 1 } : Cluster n).members =
          c.members.erase i := by
        ext j
        by_cases hji : j = i
        · subst hji
          simp [hstatus]
        · simp [hji]
      rw [herase, Finset.card_erase_of_mem hmem]
      show c.memberRemoteNodeCount - 1 = _
      rw [h.count]
      have : 0 < c.members.card := Finset.card_pos.2 ⟨i, hmem⟩
      omega

/-- A node comes back. -/
theorem InvBut.restore (i : Fin n) : InvBut skip (c.restoreClusterMembershipOfNode i) := by
  unfold Cluster.restoreClusterMembershipOfNode
  split
  case isFalse => exact h
  case isTrue hrevoked =>
    have hmem : i ∉ c.members := fun h => hrevoked (mem_members.1 h)
    refine ⟨h.nodup, fun j hj hskip => ?_, h.nil_of_ne, ?_⟩
    · have hup := h.up j hj hskip
      have hji : j ≠ i := fun heq => hrevoked (heq ▸ hup.1)
      simpa [hji] using hup
    · have hinsert :
          ({ c.modify i fun node => { node with membership := .active, lostTime := 0 } with
          memberRemoteNodeCount := c.memberRemoteNodeCount + 1 } : Cluster n).members =
          insert i c.members := by
        ext j
        by_cases hji : j = i
        · subst hji
          simp
        · simp [hji]
      rw [hinsert, Finset.card_insert_of_notMem hmem]
      show c.memberRemoteNodeCount + 1 = _
      rw [h.count]
      omega

end

/-- Leaving removes the node from the list, so that nothing is left to be skipped. -/
theorem InvBut.left (h : InvBut (some i) c) (now : Int) : Inv (c.standbyNodeLeftCluster now i) := by
  unfold Cluster.standbyNodeLeftCluster
  split
  case isTrue hin =>
    have h' := h.setLostTime i now
    refine ⟨h.nodup.erase i, fun j hj _ => ?_, fun hlocal => absurd hin.1 hlocal, h'.count⟩
    obtain ⟨hji, hj⟩ := (h.nodup.mem_erase_iff).1 hj
    exact h'.up j hj (by simpa using hji)
  case isFalse hout =>
    refine ⟨h.nodup, fun j hj _ => h.up j hj ?_, h.nil_of_ne, h.count⟩
    rintro heq
    obtain rfl := Option.some.inj heq
    have hlocal : c.localState ≠ .coordinator := fun hl => hout ⟨hl, hj⟩
    simp [h.nil_of_ne hlocal] at hj

theorem Inv.join (h : Inv c) (hup : (c.nodes i).Up) : Inv (c.standbyNodeJoinCluster i) := by
  unfold Cluster.standbyNodeJoinCluster
  split
  case isFalse => exact h
  case isTrue hlocal =>
    have h' : Inv (c.setLostTime i 0) := InvBut.setLostTime h i 0
    show Inv (if i ∈ (c.setLostTime i 0).standbyNodes then _ else _)
    split
    case isTrue => exact h'
    case isFalse hnew =>
      refine ⟨?_, ?_, fun hne => absurd hlocal hne, h'.count⟩
      · show ((c.setLostTime i 0).standbyNodes ++ [i]).Nodup
        rw [← List.concat_eq_append]
        exact h'.nodup.concat hnew
      · intro j hj _
        rcases List.mem_append.1 hj with hj | hj
        · exact h'.up j hj (by simp)
        · obtain rfl := List.mem_singleton.1 hj
          simpa [Cluster.setLostTime, RemoteNode.Up] using hup

theorem Inv.setState (h : Inv c) (s : WdState) : Inv (c.setState s) := by
  unfold Cluster.setState
  split
  case isTrue => exact h
  case isFalse =>
    by_cases hlocal : c.localState = .coordinator
    · exact ⟨by simp [hlocal], by simp [hlocal], fun _ => by simp [hlocal], h.count⟩
    · have hnil := h.nil_of_ne hlocal
      exact ⟨by simp [hlocal, hnil], by simp [hlocal, hnil],
        fun _ => by simp [hlocal, hnil], h.count⟩

end Primitives

/-! ## What the events keep -/

/-- An event that does not count a node that is not up: a node that is let in is a
member that is up, and no message reports a listed node as gone. -/
def Sound (c : Cluster n) : WdEvent n → Prop
  | .joinCoordinator i => (c.nodes i).Up
  | .infoMessage i s | .addNode i s | .beacon i s => i ∈ c.standbyNodes → ¬ s.Gone
  | _ => True

/-- A node that is lost is taken off the list, whatever it was marked as before. -/
theorem InvBut.remoteNodeLost (h : InvBut (some i) c) (cfg : WdConfig) (now : Int) :
    Inv (c.remoteNodeLost cfg now i) := by
  unfold Cluster.remoteNodeLost
  refine InvBut.left ?_ now
  split
  · split
    · exact h.revoke (by simp) fun _ => rfl
    · exact h
  · exact h.setNodeState (.inl rfl)

section

variable (h : Inv c) {s : WdState}
include h

theorem Inv.remoteNodeFound (i : Fin n) : Inv (c.remoteNodeFound i) :=
  ((InvBut.setLostReason h i .unknownReason).setNodeState (.inr (by decide))).restore i

theorem Inv.setNodeState (hs : i ∈ c.standbyNodes → ¬ s.Gone) : Inv (c.setNodeState i s) := by
  by_cases hi : i ∈ c.standbyNodes
  · exact InvBut.setNodeState h (.inr (hs hi))
  · have h' : InvBut (some i) (c.setNodeState i s) := (InvBut.weaken h).setNodeState (.inl rfl)
    refine ⟨h'.nodup, fun j hj _ => h'.up j hj ?_, h'.nil_of_ne, h'.count⟩
    rintro heq
    exact hi (Option.some.inj heq ▸ hj)

theorem Inv.left (now : Int) (i : Fin n) : Inv (c.standbyNodeLeftCluster now i) :=
  InvBut.left (InvBut.weaken h) now

/-- A node that is lost is not listed, so that it may well be marked as lost again. -/
theorem Inv.infoMessage (hs : i ∈ c.standbyNodes → ¬ s.Gone) : Inv (c.infoMessage now i s) := by
  have hset := h.setNodeState hs
  have hleft : Inv (if (c.nodes i).state = .standby ∧ s ≠ (c.nodes i).state then
      (c.setNodeState i s).standbyNodeLeftCluster now i else c.setNodeState i s) := by
    split
    · exact hset.left now i
    · exact hset
  simp only [Cluster.infoMessage]
  split
  case isFalse => exact hleft
  case isTrue hlost =>
    have hstandby : ¬ ((c.nodes i).state = .standby ∧ s ≠ (c.nodes i).state) := by simp [hlost]
    rw [if_neg hstandby]
    have hout : i ∉ c.standbyNodes := fun hi => (h.up i hi (by simp)).2 (.inl hlost)
    split
    · exact hset.setNodeState fun hi => absurd hi hout
    · exact hset.remoteNodeFound i

theorem Inv.addNode (hs : i ∈ c.standbyNodes → ¬ s.Gone) : Inv (c.addNode now i s) := by
  have hrestored := (h.setNodeState hs).restore i
  simp only [Cluster.addNode]
  split
  · exact Inv.left hrestored now i
  · split
    · exact (Inv.left hrestored now i).remoteNodeFound i
    · exact hrestored

section

variable (detected : Fin n → Option LostReason)

theorem Inv.serviceUnreachableNode (i : Fin n) :
    Inv (Cluster.serviceUnreachableNode cfg now detected c i) := by
  have hout : (c.nodes i).state.Gone → i ∉ c.standbyNodes :=
    fun hgone hi => (h.up i hi (by simp)).2 hgone
  fun_cases Cluster.serviceUnreachableNode cfg now detected c i with
  | case1 _ hlost => exact InvBut.revoke h (by simp) fun hi => absurd hi (hout (.inl hlost.1))
  | case3 _ _ hdead =>
    exact InvBut.revoke h (by simp) fun hi => absurd hi (hout (.inr (.inr hdead.1)))
  | case7 => exact ((InvBut.weaken h).setLostReason i _).remoteNodeLost cfg now
  | case2 | case4 | case5 | case6 => exact h

theorem Inv.serviceUnreachableNodes : Inv (c.serviceUnreachableNodes cfg now detected) := by
  unfold Cluster.serviceUnreachableNodes
  generalize List.finRange n = order
  induction order generalizing c with
  | nil => exact h
  | cons i order ih => exact ih (h.serviceUnreachableNode detected i)

end

theorem Inv.declareCoordinatorFinished : Inv c.declareCoordinatorFinished := by
  unfold Cluster.declareCoordinatorFinished
  split
  case isFalse => exact h
  case isTrue =>
    have hcard : (c.members.card : Int) =
        n - ((List.finRange n).countP fun i => (c.nodes i).membership ≠ .active : Nat) := by
      rw [countP_finRange fun i => (c.nodes i).membership ≠ .active]
      have := Finset.card_filter_add_card_filter_not (s := (Finset.univ : Finset (Fin n)))
        fun i => (c.nodes i).membership = .active
      simp only [Finset.card_univ, Fintype.card_fin] at this
      simp only [Cluster.members, ne_eq]
      omega
    have hmembers : c.updateClusterMemberships.resetLostTimers.members = c.members := by
      ext j
      simp [Cluster.updateClusterMemberships, Cluster.resetLostTimers]
    refine ⟨h.nodup, fun j hj hskip => h.up j hj hskip, h.nil_of_ne, ?_⟩
    rw [hmembers, hcard]
    rfl

/-- One event keeps the lists consistent. -/
theorem step_inv (e : WdEvent n) (he : Sound c e) : Inv (step cfg c now e) := by
  cases e with
  | setState s => exact h.setState s
  | remoteNodeLost i reason =>
    exact ((InvBut.weaken h).setLostReason i reason).remoteNodeLost cfg now
  | remoteNodeFound i => exact h.remoteNodeFound i
  | infoMessage i s => exact h.infoMessage he
  | goingDown i =>
    exact (((InvBut.weaken h).setNodeState (.inl rfl)).setLostReason i .shutdown).remoteNodeLost
      cfg now
  | addNode i s => exact h.addNode he
  | joinCoordinator i =>
    simp only [step, Cluster.joinCoordinator]
    split
    · split
      · exact h
      · exact h.join he
    · exact h
  | standbyLeft i => exact h.left now i
  | beacon i s => exact h.setNodeState he
  | leaderLost i =>
    simp only [step]
    split
    case isTrue hstandby =>
      have hnil := h.nil_of_ne (by simp [hstandby])
      exact (h.setNodeState fun hi => absurd hi (by simp [hnil])).setState .joining
    case isFalse => exact h
  | addMessageSent i =>
    simp only [step]
    split
    · exact h.setNodeState fun _ => by decide
    · exact h
  | declareCoordinatorFinished => exact h.declareCoordinatorFinished
  | serviceUnreachableNodes detected => exact h.serviceUnreachableNodes detected

end

/-! ## Runs -/

/-- The cluster after a list of events, each with its clock reading. -/
def run (cfg : WdConfig) (c : Cluster n) (es : List (Int × WdEvent n)) : Cluster n :=
  es.foldl (fun c e => step cfg c e.1 e.2) c

/-- Every event of the run is sound in the state it meets. -/
def SoundRun (cfg : WdConfig) (c : Cluster n) : List (Int × WdEvent n) → Prop
  | [] => True
  | (now, e) :: es => Sound c e ∧ SoundRun cfg (step cfg c now e) es

theorem run_inv (h : Inv c) (es : List (Int × WdEvent n)) (hes : SoundRun cfg c es) :
    Inv (run cfg c es) := by
  induction es generalizing c with
  | nil => exact h
  | cons e es ih => exact ih (step_inv h e.2 hes.1) hes.2

theorem inv_initialCluster (startupTime : Int) : Inv (initialCluster n startupTime) := by
  refine ⟨List.nodup_nil, by simp [initialCluster], fun _ => rfl, ?_⟩
  simp [initialCluster, Cluster.members]

/-- The nodes that a leader counts are distinct members that are up, and together
with the leader they are some of the members. -/
def CountsMembers (c : Cluster n) : Prop :=
  c.standbyNodes.Nodup ∧ (∀ i ∈ c.standbyNodes, (c.nodes i).Up) ∧
    (c.standbyNodes.length : Int) ≤ c.memberRemoteNodeCount

theorem Inv.countsMembers (h : Inv c) : CountsMembers c := by
  refine ⟨h.nodup, fun i hi => h.up i hi (by simp), ?_⟩
  rw [h.count, ← List.toFinset_card_of_nodup h.nodup, Nat.cast_le]
  refine Finset.card_le_card fun i hi => ?_
  exact mem_members.2 (h.up i (List.mem_toFinset.1 hi) (by simp)).1

/-- **At most one group holds the quorum.**  Without half votes the quorum exists
exactly for more than half of the members, two sets of enough voters intersect, and
of two leaders with disjoint standby lists that both hold the quorum, one is a
standby of the other.  In every run of sound events from start-up, what a leader
counts are distinct members that are up. -/
theorem quorum_of_members (n : Nat) (cfg : WdConfig) (startupTime : Int)
    (es : List (Int × WdEvent n)) (hes : SoundRun cfg (initialCluster n startupTime) es) :
    (∀ N standbys : Int, 1 ≤ N →
      quorumStatus false (N - 1) standbys = if N < 2 * (standbys + 1) then 1 else -1) ∧
    (∀ (ν : Type) [DecidableEq ν] (members S T : Finset ν), members.Nonempty →
      S ⊆ members → T ⊆ members →
      getMinimumVotesToResolveConsensus false (members.card - 1) ≤ S.card →
      getMinimumVotesToResolveConsensus false (members.card - 1) ≤ T.card → (S ∩ T).Nonempty) ∧
    (∀ (ν : Type) [DecidableEq ν] (members S T : Finset ν) (a b : ν), a ≠ b →
      a ∈ members → b ∈ members → S ⊆ members → T ⊆ members → a ∉ S → b ∉ T → Disjoint S T →
      b ∉ S → a ∉ T → ¬ (0 ≤ quorumStatus false (members.card - 1) S.card ∧
        0 ≤ quorumStatus false (members.card - 1) T.card)) ∧
    CountsMembers (run cfg (initialCluster n startupTime) es) := by
  refine ⟨fun N standbys hN => quorumStatus_eq hN standbys, ?_, ?_, ?_⟩
  · intro ν _ members S T hne hS hT hSv hTv
    exact voters_intersect hS hT hne hSv hTv
  · intro ν _ members S T a b hab ha hb hS hT haS hbT hdisjoint hbS haT hquorum
    exact (leader_counted_of_both_quorum hab ha hb hS hT haS hbT hdisjoint hquorum.1
      hquorum.2).elim hbS haT
  · exact (run_inv (inv_initialCluster startupTime) es hes).countsMembers

/-- Lost nodes are removed after a minute, others never. -/
def minuteConfig : WdConfig := ⟨60, 0, false⟩

/-- A coordinator with two remote nodes lets node `0` in, which has reported itself
as a standby. -/
def joinedRun : List (Int × WdEvent 2) :=
  [(100000000, .setState .coordinator), (100000000, .infoMessage 0 .standby),
    (100000000, .joinCoordinator 0)]

/-- The node is a member, and is counted. -/
theorem quorum_of_joinedRun : SoundRun minuteConfig (initialCluster 2 100000000) joinedRun ∧
      (run minuteConfig (initialCluster 2 100000000) joinedRun).standbyNodes = [0] ∧
      CountsMembers (run minuteConfig (initialCluster 2 100000000) joinedRun) := by
  have hsound : SoundRun minuteConfig (initialCluster 2 100000000) joinedRun :=
    ⟨trivial, fun _ => by decide, by show RemoteNode.Up _; decide, trivial⟩
  exact ⟨hsound, by decide, (quorum_of_members 2 minuteConfig 100000000 joinedRun hsound).2.2.2⟩

/-- Node `0` misses its beacons, asks to join again and is looked at by
`service_unreachable_nodes` a second later. -/
def lostThenJoinRun : List (Int × WdEvent 2) :=
  joinedRun ++ [(200000000, .remoteNodeLost 0 .byMissingBeacon), (200000000, .joinCoordinator 0),
    (201000000, .serviceUnreachableNodes fun _ => none)]

/-- The leader counts a node that is lost and no member any more, and so holds the
quorum alone.  And of three members two leaders hold the quorum whose standby lists
are disjoint. -/
theorem lost_node_counted :
    (run minuteConfig (initialCluster 2 100000000) lostThenJoinRun).standbyNodes = [0] ∧
      (run minuteConfig (initialCluster 2 100000000) lostThenJoinRun).nodes 0 =
        ⟨.lost, .revokedLost, .byMissingBeacon, 0⟩ ∧
      (run minuteConfig (initialCluster 2 100000000) lostThenJoinRun).memberRemoteNodeCount = 1 ∧
      quorumStatus false 1 1 = 1 ∧ Disjoint ({1} : Finset (Fin 3)) {2} ∧
      quorumStatus false 2 ({1} : Finset (Fin 3)).card = 1 ∧
      quorumStatus false 2 ({2} : Finset (Fin 3)).card = 1 := by
  decide

end PgBalancer.Watchdog
