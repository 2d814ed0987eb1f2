import PgBalancer.Watchdog.Membership

/-!
# When a lost node is dropped from the membership

`service_unreachable_nodes` revokes the membership of a node in state LOST once
`wd_lost_node_removal_timeout` seconds have gone by since its `lost_time`.  That
time is written when the node is taken off the standby list of a coordinator, and
zeroed when the node joins, when its membership is restored and when the local node
has been accepted as coordinator.  A zero counts as a time long ago.

Next to the cluster, `Watched` records since when each node has been seen in state
LOST without a break.

* `revoked_after_timeout` — **in a run of events that keep the timers, no node is
  dropped before its time.**  A node that is lost while it is on no standby list is
  dropped at once (`dropped_after_one_second`).
-/

namespace PgBalancer.Watchdog

open List Function

variable {n : Nat} {cfg : WdConfig} {c c' c'' : Cluster n} {i j : Fin n} {now : Int}

open Function (update)

/-! ## The records after the primitive changes -/

section Records

variable (c : Cluster n) (i : Fin n)

@[simp] theorem nodes_setNodeState (s : WdState) :
    (c.setNodeState i s).nodes = update c.nodes i { c.nodes i with state := s } := rfl

@[simp] theorem nodes_setLostTime (t : Int) :
    (c.setLostTime i t).nodes = update c.nodes i { c.nodes i with lostTime := t } := rfl

@[simp] theorem nodes_setLostReason (r : LostReason) : (c.setLostReason i r).nodes =
      update c.nodes i { c.nodes i with nodeLostReason := r } := rfl

@[simp] theorem nodes_revoke (status : Membership) :
    (c.revokeClusterMembershipOfNode i status).nodes = if (c.nodes i).membership = .active then
        update c.nodes i { c.nodes i with membership := status }
      else c.nodes := by
  unfold Cluster.revokeClusterMembershipOfNode
  split <;> rfl

@[simp] theorem nodes_restore : (c.restoreClusterMembershipOfNode i).nodes =
      if (c.nodes i).membership ≠ .active then
        update c.nodes i { c.nodes i with membership := .active, lostTime := 0 }
      else c.nodes := by
  unfold Cluster.restoreClusterMembershipOfNode
  split <;> rfl

@[simp] theorem nodes_left : (c.standbyNodeLeftCluster now i).nodes =
      if c.localState = .coordinator ∧ i ∈ c.standbyNodes then
        update c.nodes i { c.nodes i with lostTime := now }
      else c.nodes := by
  unfold Cluster.standbyNodeLeftCluster
  split <;> rfl

@[simp] theorem nodes_setState (s : WdState) : (c.setState s).nodes = c.nodes := by
  unfold Cluster.setState
  split <;> rfl

/-- What becomes of the record of a node that is found lost, but for its timer. -/
def RemoteNode.onLost (cfg : WdConfig) (node : RemoteNode) : RemoteNode :=
  if node.state = .shutdown then
    if cfg.wdRemoveShutdownNodes = true ∧ node.membership = .active then
      { node with membership := .revokedShutdown }
    else node
  else { node with state := .lost }

theorem nodes_remoteNodeLost : (c.remoteNodeLost cfg now i).nodes = update c.nodes i
      (if c.localState = .coordinator ∧ i ∈ c.standbyNodes then
        { (c.nodes i).onLost cfg with lostTime := now }
      else (c.nodes i).onLost cfg) := by
  obtain ⟨d, hd, hnodes, hstate, hstandby⟩ : ∃ d : Cluster n, c.remoteNodeLost cfg now i =
      d.standbyNodeLeftCluster now i ∧ d.nodes = update c.nodes i ((c.nodes i).onLost cfg) ∧
      d.localState = c.localState ∧ d.standbyNodes = c.standbyNodes := by
    refine ⟨_, rfl, ?_, ?_⟩
    · unfold RemoteNode.onLost
      split
      · split
        case isTrue hremove =>
          by_cases hactive : (c.nodes i).membership = .active <;> simp [hactive, hremove]
        case isFalse hremove => simp [hremove]
      · rfl
    · unfold Cluster.revokeClusterMembershipOfNode
      split_ifs <;> exact ⟨rfl, rfl⟩
  rw [hd, nodes_left, hstate, hstandby, hnodes]
  split <;> simp

theorem nodes_remoteNodeFound : (c.remoteNodeFound i).nodes = update c.nodes i
      ⟨.loading, .active, .unknownReason,
        if (c.nodes i).membership = .active then (c.nodes i).lostTime else 0⟩ := by
  by_cases hactive : (c.nodes i).membership = .active <;>
    simp [Cluster.remoteNodeFound, hactive]

end Records

/-! ## What an event can do to one record -/

/-- The effect of an event at time `now` on the record of one node: a member is lost
only with a timer that was running or starts now, and a membership is revoked for
loss only when the timer has run out. -/
structure NodeStep (cfg : WdConfig) (now : Int) (old new : RemoteNode) : Prop where
  timer : new.state = .lost → new.membership = .active →
    (old.state = .lost ∧ old.membership = .active ∧
      (new.lostTime = old.lostTime ∨ new.lostTime = now)) ∨
    (old.state ≠ .lost ∧ new.lostTime = now)
  revoke : old.membership = .active → new.membership = .revokedLost →
    old.state = .lost ∧ cfg.wdLostNodeRemovalTimeout ≤ wdTimeDiffSec now old.lostTime

theorem NodeStep.refl (node : RemoteNode) : NodeStep cfg now node node :=
  ⟨fun hs hm => .inl ⟨hs, hm, .inl rfl⟩, fun hm hr => by simp [hm] at hr⟩

variable {new old node : RemoteNode} {reason : LostReason} {listed : Prop}

/-- An event after which the node is not lost and that does not revoke for loss. -/
theorem NodeStep.of_not_lost (hs : new.state ≠ .lost)
    (hm : new.membership = .revokedLost → old.membership = .revokedLost) :
    NodeStep cfg now old new :=
  ⟨fun h => absurd h hs, fun hactive hrevoked => by simp [hm hrevoked] at hactive⟩

/-- An event that leaves the membership alone, and the timer unless it starts now. -/
theorem NodeStep.of_timer (hm : new.membership = old.membership)
    (hs : old.state = .lost ∨ new.lostTime = now)
    (ht : new.lostTime = old.lostTime ∨ new.lostTime = now) : NodeStep cfg now old new := by
  refine ⟨fun _ hactive => ?_, fun hactive hrevoked => ?_⟩
  · by_cases hold : old.state = .lost
    · exact .inl ⟨hold, hm ▸ hactive, ht⟩
    · exact .inr ⟨hold, hs.resolve_left hold⟩
  · rw [hm, hactive] at hrevoked
    cases hrevoked

open NodeStep (of_not_lost of_timer)

/-! ## Events that keep the timers -/

/-- When node `i` is found lost, its timer starts: it is on the standby list of a
coordinator, unless it is lost or shut down already. -/
def Cluster.LossTimed (c : Cluster n) (i : Fin n) : Prop :=
  (c.nodes i).state = .lost ∨ (c.nodes i).state = .shutdown ∨
    c.localState = .coordinator ∧ i ∈ c.standbyNodes

/-- An event that keeps the timers: a node that is found lost is on the standby
list, no message and no missed beacon makes a node lost, a lost node does not join,
and no member is lost when the local node is accepted as coordinator. -/
def KeepsTimers (c : Cluster n) : WdEvent n → Prop
  | .remoteNodeLost i _ => c.LossTimed i
  | .serviceUnreachableNodes detected =>
    ∀ i, detected i ≠ none → c.isNodeActive i = true → c.LossTimed i
  | .infoMessage _ s | .addNode _ s | .beacon _ s => s ≠ .lost
  | .leaderLost i => (c.nodes i).state = .lost
  | .joinCoordinator i => (c.nodes i).state ≠ .lost
  | .declareCoordinatorFinished => ∀ i, (c.nodes i).state = .lost → (c.nodes i).membership ≠ .active
  | _ => True

theorem NodeStep.update (h : NodeStep cfg now (c.nodes i) new) (j : Fin n) :
    NodeStep cfg now (c.nodes j) (update c.nodes i new j) := by
  by_cases hj : j = i
  · subst hj
    simpa using h
  · simpa [hj] using NodeStep.refl (c.nodes j)

theorem onLost_state (h : node.state = .shutdown) : (node.onLost cfg).state = .shutdown := by
  unfold RemoteNode.onLost
  rw [if_pos h]
  split <;> exact h

theorem onLost_membership (cfg : WdConfig) (node : RemoteNode)
    (h : (node.onLost cfg).membership = .revokedLost) : node.membership = .revokedLost := by
  unfold RemoteNode.onLost at h
  split at h
  · split at h
    · cases h
    · exact h
  · exact h

/-- The record of a node that is found lost; `listed` says whether it is on the
standby list of a coordinator. -/
theorem onLost_node [Decidable listed] (h : node.state = .lost ∨ node.state = .shutdown ∨ listed) :
    NodeStep cfg now node (if listed then
        { RemoteNode.onLost cfg { node with nodeLostReason := reason } with lostTime := now }
      else RemoteNode.onLost cfg { node with nodeLostReason := reason }) := by
  by_cases hshutdown : node.state = .shutdown
  · refine of_not_lost ?_ fun hrevoked => ?_
    · split <;> simp [onLost_state, hshutdown]
    · refine onLost_membership cfg { node with nodeLostReason := reason } ?_
      split at hrevoked <;> exact hrevoked
  · refine of_timer ?_ ?_ ?_
    · split <;> simp [RemoteNode.onLost, hshutdown]
    · rcases h with hlost | hdown | hlisted
      · exact .inl hlost
      · exact absurd hdown hshutdown
      · simp [hlisted]
    · split <;> simp [RemoteNode.onLost, hshutdown]

theorem remoteNodeLost_node (hlost : c.LossTimed i) : NodeStep cfg now (c.nodes j)
      (((c.setLostReason i reason).remoteNodeLost cfg now i).nodes j) := by
  rw [nodes_remoteNodeLost]
  simp only [nodes_setLostReason, update_self, update_idem]
  exact NodeStep.update (onLost_node hlost) j

theorem left_node : NodeStep cfg now (c.nodes j) ((c.standbyNodeLeftCluster now i).nodes j) := by
  rw [nodes_left]
  split
  · refine NodeStep.update ⟨fun hs hm => ?_, fun hm hr => by simp [hm] at hr⟩ j
    by_cases hold : (c.nodes i).state = .lost
    · exact .inl ⟨hold, hm, .inr rfl⟩
    · exact .inr ⟨hold, rfl⟩
  · exact NodeStep.refl _

variable {s : WdState}

theorem setNodeState_node (hs : s ≠ .lost) :
    NodeStep cfg now (c.nodes j) ((c.setNodeState i s).nodes j) := by
  apply NodeStep.update
  exact of_not_lost hs fun h => h

theorem remoteNodeFound_node : NodeStep cfg now (c.nodes j) ((c.remoteNodeFound i).nodes j) := by
  rw [nodes_remoteNodeFound]
  exact NodeStep.update (of_not_lost (by simp) (by simp)) j

theorem infoMessage_node (hs : s ≠ .lost) :
    NodeStep cfg now (c.nodes j) ((c.infoMessage now i s).nodes j) := by
  simp only [Cluster.infoMessage]
  by_cases hlost : (c.nodes i).state = .lost
  · have hstandby : ¬ ((c.nodes i).state = .standby ∧ s ≠ (c.nodes i).state) := by simp [hlost]
    rw [if_neg hstandby, if_pos hlost]
    split
    -- reported by the life-check: the node stays lost
    · simp only [nodes_setNodeState, update_self, update_idem]
      apply NodeStep.update
      exact of_timer rfl (.inl hlost) (.inl rfl)
    · rw [nodes_remoteNodeFound]
      simp only [nodes_setNodeState, update_self, update_idem]
      exact NodeStep.update (of_not_lost (by simp) (by simp)) j
  · rw [if_neg hlost]
    split
    · rw [nodes_left]
      split
      · simp only [nodes_setNodeState, update_self, update_idem]
        apply NodeStep.update
        exact of_not_lost hs fun h => h
      · exact setNodeState_node hs
    · exact setNodeState_node hs

theorem goingDown_node : NodeStep cfg now (c.nodes j) ((c.goingDown cfg now i).nodes j) := by
  rw [Cluster.goingDown, nodes_remoteNodeLost]
  simp only [nodes_setLostReason, nodes_setNodeState, update_self, update_idem]
  refine NodeStep.update (of_not_lost ?_ fun hrevoked => ?_) j
  · split <;> simp [onLost_state]
  · refine onLost_membership cfg
      { c.nodes i with state := .shutdown, nodeLostReason := .shutdown } ?_
    split at hrevoked <;> exact hrevoked

theorem addNode_node (hs : s ≠ .lost) :
    NodeStep cfg now (c.nodes j) ((c.addNode now i s).nodes j) := by
  have hrestored : ((c.setNodeState i s).restoreClusterMembershipOfNode i).nodes =
      update c.nodes i { c.nodes i with
        state := s
        membership := .active
        lostTime := if (c.nodes i).membership = .active then (c.nodes i).lostTime else 0 } := by
    by_cases hactive : (c.nodes i).membership = .active <;> simp [hactive]
  simp only [Cluster.addNode]
  split
  · rw [nodes_left, hrestored]
    split
    · simp only [update_self, update_idem]
      apply NodeStep.update
      exact of_not_lost hs (by simp)
    · apply NodeStep.update
      exact of_not_lost hs (by simp)
  · split
    · rw [nodes_remoteNodeFound, nodes_left, hrestored]
      split <;>
      · simp only [update_self, update_idem]
        apply NodeStep.update
        exact of_not_lost (by simp) (by simp)
    · rw [hrestored]
      apply NodeStep.update
      exact of_not_lost hs (by simp)

theorem joinCoordinator_node (hs : (c.nodes i).state ≠ .lost) :
    NodeStep cfg now (c.nodes j) ((c.joinCoordinator i).nodes j) := by
  have hjoin : (c.standbyNodeJoinCluster i).nodes =
      if c.localState = .coordinator then
        update c.nodes i { c.nodes i with lostTime := 0 }
      else c.nodes := by
    unfold Cluster.standbyNodeJoinCluster
    split
    · show Cluster.nodes (if i ∈ (c.setLostTime i 0).standbyNodes then _ else _) = _
      split <;> rfl
    · rfl
  unfold Cluster.joinCoordinator
  split
  case isTrue hlocal =>
    rw [if_neg fun h => hs h.1, hjoin, if_pos hlocal]
    apply NodeStep.update
    exact of_not_lost hs fun h => h
  case isFalse => exact NodeStep.refl _

theorem declareCoordinatorFinished_node
    (hmembers : ∀ i, (c.nodes i).state = .lost → (c.nodes i).membership ≠ .active) :
    NodeStep cfg now (c.nodes j) (c.declareCoordinatorFinished.nodes j) := by
  unfold Cluster.declareCoordinatorFinished
  split
  · exact ⟨fun hs hm => absurd hm (hmembers j hs), fun hm hr => absurd (hm.symm.trans hr) (by simp)⟩
  · exact NodeStep.refl _

/-! ## The loop of `service_unreachable_nodes` -/

/-- Two views of the cluster that agree on all that the loop body for node `j` reads. -/
structure SameFor (j : Fin n) (c c' : Cluster n) : Prop where
  node : c'.nodes j = c.nodes j
  localState : c'.localState = c.localState
  startupTime : c'.startupTime = c.startupTime
  listed : j ∈ c'.standbyNodes ↔ j ∈ c.standbyNodes

theorem SameFor.trans (h : SameFor j c c') (h' : SameFor j c' c'') : SameFor j c c'' :=
  ⟨h'.node.trans h.node, h'.localState.trans h.localState, h'.startupTime.trans h.startupTime,
    h'.listed.trans h.listed⟩

section

variable (h : j ≠ i)
include h

theorem sameFor_modify (f : RemoteNode → RemoteNode) : SameFor j c (c.modify i f) :=
  ⟨by simp [h], rfl, rfl, Iff.rfl⟩

theorem sameFor_revoke (status : Membership) :
    SameFor j c (c.revokeClusterMembershipOfNode i status) := by
  unfold Cluster.revokeClusterMembershipOfNode
  split
  · exact ⟨by simp [h], rfl, rfl, Iff.rfl⟩
  · exact ⟨rfl, rfl, rfl, Iff.rfl⟩

theorem sameFor_left : SameFor j c (c.standbyNodeLeftCluster now i) := by
  unfold Cluster.standbyNodeLeftCluster
  split
  · exact ⟨by simp [h], rfl, rfl, mem_erase_of_ne h⟩
  · exact ⟨rfl, rfl, rfl, Iff.rfl⟩

theorem sameFor_remoteNodeLost : SameFor j c (c.remoteNodeLost cfg now i) := by
  refine SameFor.trans ?_ (sameFor_left h)
  split
  · split
    · exact sameFor_revoke h _
    · exact ⟨rfl, rfl, rfl, Iff.rfl⟩
  · exact sameFor_modify h _

theorem sameFor_serviceUnreachableNode (detected : Fin n → Option LostReason) :
    SameFor j c (Cluster.serviceUnreachableNode cfg now detected c i) := by
  fun_cases Cluster.serviceUnreachableNode cfg now detected c i with
  | case1 | case3 => exact sameFor_revoke h _
  | case7 _ _ _ _ reason =>
    have hreason : SameFor j c (c.setLostReason i reason) := sameFor_modify h _
    exact hreason.trans (sameFor_remoteNodeLost h)
  | case2 | case4 | case5 | case6 => exact ⟨rfl, rfl, rfl, Iff.rfl⟩

end

/-- The condition on the loop body for node `j`. -/
def Cluster.ServiceTimed (c : Cluster n) (detected : Fin n → Option LostReason)
    (j : Fin n) : Prop :=
  detected j ≠ none → c.isNodeActive j = true → c.LossTimed j

variable {detected : Fin n → Option LostReason}

theorem SameFor.serviceTimed (h : SameFor j c c') (ht : c.ServiceTimed detected j) :
    c'.ServiceTimed detected j := by
  intro hdetected hactive
  simp only [Cluster.isNodeActive, Cluster.LossTimed, h.node, h.localState, h.listed] at hactive ⊢
  exact ht hdetected hactive

theorem serviceUnreachableNode_node (ht : c.ServiceTimed detected j) : NodeStep cfg now (c.nodes j)
      ((Cluster.serviceUnreachableNode cfg now detected c j).nodes j) := by
  fun_cases Cluster.serviceUnreachableNode cfg now detected c j with
  | case1 _ hlost hlate =>
    rw [nodes_revoke, if_pos hlost.2.1]
    apply NodeStep.update
    exact ⟨fun _ hactive => (by cases hactive), fun _ _ => ⟨hlost.1, hlate⟩⟩
  | case3 _ _ hdead =>
    have hstate : (c.nodes j).state = .dead := hdead.1
    rw [nodes_revoke, if_pos hdead.2.1]
    apply NodeStep.update
    exact of_not_lost (by simp [hstate]) (by simp)
  | case7 _ _ _ hactive reason hreason =>
    exact remoteNodeLost_node (ht (by simp [hreason]) (by simpa using hactive))
  | case2 | case4 | case5 | case6 => exact NodeStep.refl _

theorem sameFor_foldl_service (order : List (Fin n)) (h : j ∉ order) :
    SameFor j c (order.foldl (Cluster.serviceUnreachableNode cfg now detected) c) := by
  induction order generalizing c with
  | nil => exact ⟨rfl, rfl, rfl, Iff.rfl⟩
  | cons i order ih =>
    have hij : j ≠ i := fun heq => h (by simp [heq])
    exact (sameFor_serviceUnreachableNode hij detected).trans
      (ih fun hmem => h (mem_cons_of_mem _ hmem))

theorem serviceUnreachableNodes_node (ht : ∀ i, c.ServiceTimed detected i) :
    NodeStep cfg now (c.nodes j) ((c.serviceUnreachableNodes cfg now detected).nodes j) := by
  obtain ⟨pre, post, hsplit⟩ := append_of_mem (mem_finRange j)
  have hnodup : (pre ++ j :: post).Nodup := hsplit ▸ nodup_finRange n
  have hpre : j ∉ pre := fun h => (nodup_append.1 hnodup).2.2 j h j (by simp) rfl
  have hpost : j ∉ post := (nodup_cons.1 (nodup_append.1 hnodup).2.1).1
  rw [Cluster.serviceUnreachableNodes, hsplit, foldl_append, foldl_cons]
  have hbefore : SameFor j c (pre.foldl (Cluster.serviceUnreachableNode cfg now detected) c) :=
    sameFor_foldl_service pre hpre
  rw [(sameFor_foldl_service post hpost).node, ← hbefore.node]
  exact serviceUnreachableNode_node (hbefore.serviceTimed (ht j))

/-! ## Every event -/

variable {e : WdEvent n}

/-- What one event can do to the timer of a node. -/
theorem step_node (he : KeepsTimers c e) :
    NodeStep cfg now (c.nodes j) ((step cfg c now e).nodes j) := by
  cases e with
  | setState s =>
    rw [step, nodes_setState]
    exact NodeStep.refl _
  | remoteNodeLost i reason => exact remoteNodeLost_node he
  | remoteNodeFound i => exact remoteNodeFound_node
  | infoMessage i s => exact infoMessage_node he
  | goingDown i => exact goingDown_node
  | addNode i s => exact addNode_node he
  | joinCoordinator i => exact joinCoordinator_node he
  | standbyLeft i => exact left_node
  | beacon i s => exact setNodeState_node he
  | leaderLost i =>
    simp only [step]
    split
    · rw [nodes_setState]
      apply NodeStep.update
      exact of_timer rfl (.inl he) (.inl rfl)
    · exact NodeStep.refl _
  | addMessageSent i =>
    simp only [step]
    split
    · exact setNodeState_node (by decide)
    · exact NodeStep.refl _
  | declareCoordinatorFinished => exact declareCoordinatorFinished_node he
  | serviceUnreachableNodes detected => exact serviceUnreachableNodes_node he

/-! ## Runs -/

/-- The cluster, and since when each node has been seen in state LOST without a break. -/
structure Watched (n : Nat) where
  cluster : Cluster n
  lostSince : Fin n → Option Int

/-- One event at time `now`, seen by an observer. -/
def watchStep (cfg : WdConfig) (w : Watched n) (now : Int) (e : WdEvent n) : Watched n where
  cluster := step cfg w.cluster now e
  lostSince i :=
    if ((step cfg w.cluster now e).nodes i).state = .lost then
      if (w.cluster.nodes i).state = .lost then w.lostSince i else some now
    else none

/-- A list of events, each with its clock reading. -/
def watchRun (cfg : WdConfig) (w : Watched n) (es : List (Int × WdEvent n)) : Watched n :=
  es.foldl (fun w e => watchStep cfg w e.1 e.2) w

/-- Every event of the run keeps the timers in the state it meets. -/
def TimedRun (cfg : WdConfig) (w : Watched n) : List (Int × WdEvent n) → Prop
  | [] => True
  | (now, e) :: es => KeepsTimers w.cluster e ∧ TimedRun cfg (watchStep cfg w now e) es

/-- The timer of a lost member was started at the loss or later, and the loss was
not after the last clock reading `t`. -/
def TimerInv (t : Int) (w : Watched n) : Prop :=
  ∀ i, (w.cluster.nodes i).state = .lost → (w.cluster.nodes i).membership = .active →
    ∃ since, w.lostSince i = some since ∧ since ≤ (w.cluster.nodes i).lostTime ∧ since ≤ t

variable {t a b seconds : Int} {w : Watched n} {post pre : List (Int × WdEvent n)}

theorem watchStep_inv (h : TimerInv t w) (ht : t ≤ now) (he : KeepsTimers w.cluster e) :
    TimerInv now (watchStep cfg w now e) := by
  intro i hs hm
  have hlost : ((step cfg w.cluster now e).nodes i).state = .lost := hs
  rcases (step_node he).timer hs hm with ⟨hold, hmold, htime⟩ | ⟨hnew, htime⟩
  · obtain ⟨since, hsince, hle, hlet⟩ := h i hold hmold
    refine ⟨since, by simp [watchStep, hlost, hold, hsince], ?_, by omega⟩
    show since ≤ ((step cfg w.cluster now e).nodes i).lostTime
    rcases htime with htime | htime <;> omega
  · refine ⟨now, by simp [watchStep, hlost, hnew], ?_, le_refl _⟩
    exact htime.ge

theorem le_of_le_wdTimeDiffSec (hpos : 0 < seconds) (h : seconds ≤ wdTimeDiffSec a b) :
    b + seconds * 1000000 ≤ a := by
  unfold wdTimeDiffSec at h
  by_cases hle : b ≤ a
  · rw [Int.tdiv_eq_ediv_of_nonneg (by omega)] at h
    omega
  · have hneg : (a - b).tdiv 1000000 = -(b - a).tdiv 1000000 := by
      rw [← Int.neg_tdiv, neg_sub]
    have := Int.tdiv_nonneg (a := b - a) (b := 1000000) (by omega) (by omega)
    omega

/-- At this event, a membership is revoked for loss only if the node has been seen
in state LOST for the whole removal timeout. -/
def OnTime (cfg : WdConfig) (w : Watched n) (now : Int) (e : WdEvent n) : Prop :=
  ∀ i, (w.cluster.nodes i).membership = .active →
    ((step cfg w.cluster now e).nodes i).membership = .revokedLost →
    ∃ since, w.lostSince i = some since ∧ since + cfg.wdLostNodeRemovalTimeout * 1000000 ≤ now

theorem onTime_of_inv (htimeout : 0 < cfg.wdLostNodeRemovalTimeout) (h : TimerInv t w)
    (he : KeepsTimers w.cluster e) : OnTime cfg w now e := by
  intro i hactive hrevoked
  obtain ⟨hlost, hlate⟩ := (step_node he).revoke hactive hrevoked
  obtain ⟨since, hsince, hle, -⟩ := h i hlost hactive
  have := le_of_le_wdTimeDiffSec htimeout hlate
  exact ⟨since, hsince, by omega⟩

theorem onTime_of_run (htimeout : 0 < cfg.wdLostNodeRemovalTimeout) (h : TimerInv t w)
    (hclock : (t :: (pre ++ (now, e) :: post).map (·.1)).Pairwise (· ≤ ·))
    (hes : TimedRun cfg w (pre ++ (now, e) :: post)) : OnTime cfg (watchRun cfg w pre) now e := by
  induction pre generalizing w t with
  | nil => exact onTime_of_inv htimeout h hes.1
  | cons first pre ih =>
    obtain ⟨hle, hclock⟩ := pairwise_cons.1 hclock
    exact ih (watchStep_inv h (hle first.1 (by simp)) hes.1) hclock hes.2

/-- A watchdog that has just started. -/
def initialWatched (n : Nat) (startupTime : Int) : Watched n :=
  ⟨initialCluster n startupTime, fun _ => none⟩

/-- **No node is dropped before its time.**  For every positive removal timeout and
every run from start-up whose clock does not go back and whose events all keep the
timers, `revoke_cluster_membership_of_node` is executed for a lost node only once it
has been seen in state LOST for the whole timeout. -/
theorem revoked_after_timeout (cfg : WdConfig) (startupTime : Int) (es : List (Int × WdEvent n))
    (htimeout : 0 < cfg.wdLostNodeRemovalTimeout)
    (hclock : (startupTime :: es.map (·.1)).Pairwise (· ≤ ·))
    (hes : TimedRun cfg (initialWatched n startupTime) es) :
    ∀ pre now e post, es = pre ++ (now, e) :: post →
      OnTime cfg (watchRun cfg (initialWatched n startupTime) pre) now e := by
  rintro pre now e post rfl
  have h0 : TimerInv startupTime (initialWatched n startupTime) := by
    intro i hs
    simp [initialWatched, initialCluster] at hs
  exact onTime_of_run htimeout h0 hclock hes

/-- A standby that misses its beacons is dropped a minute later. -/
def lostStandbyRun : List (Int × WdEvent 2) :=
  joinedRun ++ [(200000000, .remoteNodeLost 0 .byMissingBeacon),
    (260000000, .serviceUnreachableNodes fun _ => none)]

/-- The standby is revoked, in time. -/
theorem revoked_after_minute :
    ((run minuteConfig (initialCluster 2 100000000) lostStandbyRun).nodes 0).membership =
        .revokedLost ∧ OnTime minuteConfig
        (watchRun minuteConfig (initialWatched 2 100000000) (lostStandbyRun.take 4))
        260000000 (.serviceUnreachableNodes fun _ => none) := by
  refine ⟨by decide, revoked_after_timeout minuteConfig 100000000 lostStandbyRun (by decide)
    (by decide) ⟨trivial, ?_, ?_, ?_, ?_, trivial⟩ (lostStandbyRun.take 4) _ _ [] rfl⟩
  · show WdState.standby ≠ .lost
    decide
  · show RemoteNode.state _ ≠ .lost
    decide
  · exact .inr (.inr ⟨by decide, by decide⟩)
  · exact fun i hdetected => absurd rfl hdetected

/-- Node `0` is lost while the local watchdog leads nobody, and the local watchdog
becomes the leader. -/
def lostBeforeLeadingRun : List (Int × WdEvent 2) :=
  [(100000000, .infoMessage 0 .standby), (200000000, .remoteNodeLost 0 .byNotReachable),
    (200000000, .setState .coordinator)]

/-- One second after its loss the node is dropped, though the timeout is a minute. -/
theorem dropped_after_one_second :
    (watchRun minuteConfig (initialWatched 2 100000000) lostBeforeLeadingRun).lostSince 0 =
        some 200000000 ∧ ((watchRun minuteConfig (initialWatched 2 100000000)
        lostBeforeLeadingRun).cluster.nodes 0).membership = .active ∧
      ((watchRun minuteConfig (initialWatched 2 100000000)
        (lostBeforeLeadingRun ++
          [(201000000, .serviceUnreachableNodes fun _ => none)])).cluster.nodes
          0).membership = .revokedLost := by
  decide

end PgBalancer.Watchdog
