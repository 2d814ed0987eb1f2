import PgBalancer.Watchdog.Membership

/-!
# Failover requests and their consensus

The leading watchdog collects failover requests of its own pgbalancer and of the
other watchdogs.  It keeps a list of failover objects, one for each failover that is
being asked for, counts the nodes that ask, and lets a failover proceed once enough
have asked.

* `proceed_of_majority` — **a failover that proceeds was asked for by enough distinct
  nodes**, provided that every request names one backend: of the ids of a longer one
  only the first gets through `parse_wd_node_function_json`.
-/

namespace PgBalancer.Watchdog

open List

/-- The kinds of `POOL_REQUEST_KIND` that a watchdog can be asked for. -/
inductive RequestKind where
  | nodeUp
  | nodeDown
  | promoteNode
  deriving DecidableEq

/-- The answers of `compute_failover_consensus`, from `WDFailoverCMDResults`. -/
inductive FailoverResult where
  | proceed
  | noQuorum
  | buildingConsensus
  | consensusMayFail
  deriving DecidableEq

/-- `REQ_DETAIL_WATCHDOG` -/
def reqDetailWatchdog : UInt8 := 0x02

/-- `REQ_DETAIL_CONFIRMED` -/
def reqDetailConfirmed : UInt8 := 0x04

/-- The settings that are read here. -/
structure FailoverConfig where
  failoverWhenQuorumExists : Bool
  failoverRequireConsensus : Bool
  allowMultipleFailoverRequestsFromNode : Bool
  enableConsensusWithHalfVotes : Bool
  failoverCommandTimeout : Int

variable {n : Nat}

/-- A failover command; the requester is a remote node, or `none` for the local one. -/
structure FailoverRequest (n : Nat) where
  reqKind : RequestKind
  /-- the ids that are sent -/
  sentIds : List Int
  /-- what `parse_wd_node_function_json` leaves in the array: it writes the ids from the second on
  elsewhere -/
  nodeIdList : List Int
  flags : UInt8
  wdNode : Option (Fin n)
  length_eq : nodeIdList.length = sentIds.length
  parsed : sentIds.length ≤ 1 → nodeIdList = sentIds

/-- `WDFailoverObject` -/
structure FailoverObject (n : Nat) where
  reqKind : RequestKind
  nodeList : List Int
  reqFlags : UInt8
  requestingNodes : List (Option (Fin n))
  requestCount : Nat
  startTime : Int
  /-- the number of requests before the one that created the object -/
  createdAt : Nat

/-- The local watchdog and its `wdCurrentFailovers`. -/
structure FailoverState (n : Nat) where
  cluster : Cluster n
  failovers : List (FailoverObject n)
  /-- all requests so far, oldest first -/
  log : List (FailoverRequest n)

/-- `get_failover_object`: the first object of the same kind and the same number of
ids, each of which is in the request. -/
def getFailoverObject (failovers : List (FailoverObject n)) (reqKind : RequestKind)
    (nodeList : List Int) : Option (Fin failovers.length) :=
  failovers.findFinIdx? fun o =>
    decide (o.reqKind = reqKind) && decide (o.nodeList.length = nodeList.length) &&
      o.nodeList.all fun id => nodeList.contains id

/-- The list of failover objects after `add_failover`, the object a request has been
counted in with its place, and whether the request is a duplicate. -/
structure Added (n : Nat) where
  failovers : List (FailoverObject n)
  failoverObj : FailoverObject n
  place : Nat
  duplicate : Bool

local instance lawfulVoter : LawfulBEq (Option (Fin n)) := inferInstance

/-- `add_failover` -/
def addFailover (cfg : FailoverConfig) (s : FailoverState n) (now : Int)
    (r : FailoverRequest n) : Added n :=
  match getFailoverObject s.failovers r.reqKind r.nodeIdList with
  | some i =>
    let o := s.failovers.get i
    if r.wdNode ∈ o.requestingNodes then
      let o' := if cfg.allowMultipleFailoverRequestsFromNode then
        { o with requestCount := o.requestCount + 1 } else o
      ⟨s.failovers.set i o', o', i, true⟩
    else
      let o' := { o with
        requestCount := o.requestCount + 1
        requestingNodes := o.requestingNodes ++ [r.wdNode] }
      ⟨s.failovers.set i o', o', i, false⟩
  | none =>
    let o := ⟨r.reqKind, r.nodeIdList, r.flags, [r.wdNode], 1, now, s.log.length⟩
    ⟨s.failovers ++ [o], o, s.failovers.length, false⟩

/-- The votes that are needed at the moment. -/
def FailoverState.minimumVotes (cfg : FailoverConfig) (s : FailoverState n) : Int :=
  getMinimumVotesToResolveConsensus cfg.enableConsensusWithHalfVotes
    s.cluster.memberRemoteNodeCount

/-- `compute_failover_consensus`: the new failover objects, the answer and the flags
to go on with. -/
def computeFailoverConsensus (cfg : FailoverConfig) (s : FailoverState n) (now : Int)
    (r : FailoverRequest n) : List (FailoverObject n) × FailoverResult × UInt8 :=
  if cfg.failoverWhenQuorumExists = false then (s.failovers, .proceed, r.flags)
  else if r.flags &&& reqDetailConfirmed ≠ 0 then (s.failovers, .proceed, r.flags)
  else if quorumStatus cfg.enableConsensusWithHalfVotes s.cluster.memberRemoteNodeCount
      s.cluster.standbyNodes.length < 0 then
    (s.failovers, .noQuorum, r.flags)
  else if cfg.failoverRequireConsensus then
    let a := addFailover cfg s now r
    if (a.failoverObj.requestCount : Int) < s.minimumVotes cfg then
      if a.duplicate && !cfg.allowMultipleFailoverRequestsFromNode then
        (a.failovers, .consensusMayFail, r.flags)
      else (a.failovers, .buildingConsensus, r.flags)
    else (a.failovers.eraseIdx a.place, .proceed, a.failoverObj.reqFlags)
  else (s.failovers, .proceed, r.flags)

/-- What the main process is told to do. -/
inductive BackendAction where
  | degenerateBackendSet (nodeIdSet : List Int) (flags : UInt8)
  | sendFailbackRequest (nodeId : Int) (flags : UInt8)
  | promoteBackend (nodeId : Int) (flags : UInt8)
  deriving DecidableEq

/-- The backends an action is about. -/
def BackendAction.backends : BackendAction → Finset Int
  | .degenerateBackendSet nodeIdSet _ => nodeIdSet.toFinset
  | .sendFailbackRequest nodeId _ | .promoteBackend nodeId _ => {nodeId}

/-- The action for a request that may proceed; without an id there is no first id. -/
def kickFailover (r : FailoverRequest n) (flags : UInt8) : Option BackendAction :=
  match r.reqKind with
  | .nodeDown => some (.degenerateBackendSet r.nodeIdList flags)
  | .nodeUp => r.nodeIdList.head?.map (.sendFailbackRequest · flags)
  | .promoteNode => r.nodeIdList.head?.map (.promoteBackend · flags)

/-- `process_failover_command_on_coordinator`: the new state, the answer (`none` for
`IPC_CMD_ERROR`) and the action; a local requester acts itself. -/
def processFailoverCommandOnCoordinator (cfg : FailoverConfig) (s : FailoverState n) (now : Int)
    (r : FailoverRequest n) :
    FailoverState n × Option FailoverResult × Option BackendAction :=
  if s.cluster.localState ≠ .coordinator then (s, none, none)
  else
    let (failovers, res, flags) := computeFailoverConsensus cfg s now r
    let action :=
      if res = .proceed ∧ r.wdNode.isSome then kickFailover r (flags ||| reqDetailWatchdog)
      else none
    ({ s with failovers := failovers }, some res, action)

/-- The failover objects that `service_expired_failovers` removes. -/
def FailoverObject.expired (cfg : FailoverConfig) (now : Int) (o : FailoverObject n) : Bool :=
  decide (cfg.failoverCommandTimeout ≤ wdTimeDiffSec now o.startTime)

/-- An expired failover of our own makes us resign, if the primary is quarantined. -/
def FailoverObject.needToResign (quarantinedPrimary : Int → Bool) (o : FailoverObject n) : Bool :=
  decide (o.reqKind = .nodeDown) && decide (none ∈ o.requestingNodes) &&
    o.nodeList.any fun id => decide (id ≠ -1) && quarantinedPrimary id

/-- `set_state` clears the failover objects of a leader that is one no more. -/
def FailoverState.setCluster (s : FailoverState n) (c : Cluster n) : FailoverState n :=
  { s with
    cluster := c
    failovers := if s.cluster.localState = .coordinator ∧ c.localState ≠ .coordinator then []
      else s.failovers }

/-- `service_expired_failovers`; `quarantinedPrimary` tells of a backend whether it is
a quarantined primary while there is no other. -/
def serviceExpiredFailovers (cfg : FailoverConfig) (s : FailoverState n) (now : Int)
    (quarantinedPrimary : Int → Bool) : FailoverState n :=
  if s.cluster.localState ≠ .coordinator then s
  else
    let expired := s.failovers.filter (·.expired cfg now)
    let s' := { s with failovers := s.failovers.filter (! ·.expired cfg now) }
    if expired.any (·.needToResign quarantinedPrimary) then
      s'.setCluster (s'.cluster.setState .joining)
    else s'

/-- What can happen on the local watchdog. -/
inductive FailoverEvent (n : Nat) where
  | request (r : FailoverRequest n)
  | serviceExpiredFailovers (quarantinedPrimary : Int → Bool)
  /-- the membership, the standbys or the local state change -/
  | watchdog (e : WdEvent n)

/-- One event. -/
def failoverStep (cfg : FailoverConfig) (wcfg : WdConfig) (s : FailoverState n) (now : Int) :
    FailoverEvent n → FailoverState n
  | .request r =>
    { (processFailoverCommandOnCoordinator cfg s now r).1 with log := s.log ++ [r] }
  | .serviceExpiredFailovers quarantinedPrimary =>
    serviceExpiredFailovers cfg s now quarantinedPrimary
  | .watchdog e => s.setCluster (step wcfg s.cluster now e)

/-- A run from a watchdog without failover objects. -/
def failoverRun (cfg : FailoverConfig) (wcfg : WdConfig) (c : Cluster n)
    (es : List (Int × FailoverEvent n)) : FailoverState n :=
  es.foldl (fun s e => failoverStep cfg wcfg s e.1 e.2) ⟨c, [], []⟩

/-! ## What a request must have behind it -/

/-- The request asks for a failover of this kind and of exactly these backends. -/
def FailoverRequest.AsksFor (r : FailoverRequest n) (kind : RequestKind)
    (ids : Finset Int) : Prop :=
  r.reqKind = kind ∧ r.sentIds.toFinset = ids

instance (r : FailoverRequest n) (kind : RequestKind) (ids : Finset Int) :
    Decidable (r.AsksFor kind ids) := by
  unfold FailoverRequest.AsksFor
  infer_instance

/-- The requests since the failover object of request `r` was created, `r` included;
`r` itself may create it. -/
def FailoverState.since (s : FailoverState n) (r : FailoverRequest n) : List (FailoverRequest n) :=
  match getFailoverObject s.failovers r.reqKind r.nodeIdList with
  | some i => (s.log ++ [r]).drop (s.failovers.get i).createdAt
  | none => [r]

/-- If request `r` may proceed, then since its failover object was created enough
distinct nodes, the requester among them, have asked for the same kind and the same
backends; and if there is an action, it is about exactly these backends. -/
def Justified (cfg : FailoverConfig) (s : FailoverState n) (now : Int) (r : FailoverRequest n) :
    Prop :=
  let out := processFailoverCommandOnCoordinator cfg s now r
  out.2.1 = some .proceed →
    (∃ voters : Finset (Option (Fin n)), s.minimumVotes cfg ≤ voters.card ∧ r.wdNode ∈ voters ∧
      ∀ v ∈ voters, ∃ q ∈ s.since r, q.wdNode = v ∧ q.AsksFor r.reqKind r.sentIds.toFinset) ∧
    (r.wdNode.isSome → ∃ a, out.2.2 = some a ∧ a.backends = r.sentIds.toFinset)

/-- One backend is named; a request to take backends down may also name none. -/
def FailoverRequest.Proper (r : FailoverRequest n) : Prop :=
  r.sentIds.length ≤ 1 ∧ (r.reqKind ≠ .nodeDown → r.sentIds.length = 1)

/-! ## The invariant -/

/-- What holds of a failover object after the requests of `log`. -/
structure Voted (log : List (FailoverRequest n)) (o : FailoverObject n) : Prop where
  short : o.nodeList.length ≤ 1
  nodup_requestingNodes : o.requestingNodes.Nodup
  requestCount_eq : o.requestCount = o.requestingNodes.length
  createdAt_le : o.createdAt ≤ log.length
  asked : ∀ v ∈ o.requestingNodes, ∃ q ∈ log.drop o.createdAt,
    q.wdNode = v ∧ q.AsksFor o.reqKind o.nodeList.toFinset

theorem Voted.append {log : List (FailoverRequest n)} {o : FailoverObject n} (h : Voted log o)
    (r : FailoverRequest n) : Voted (log ++ [r]) o := by
  refine ⟨h.1, h.2, h.3, ?_, fun v hv => ?_⟩
  · exact h.createdAt_le.trans (by simp)
  · obtain ⟨q, hq, hasks⟩ := h.asked v hv
    refine ⟨q, ?_, hasks⟩
    rw [drop_append_of_le_length h.createdAt_le]
    exact mem_append_left _ hq

theorem eq_of_all {ids ids' : List Int} (hshort : ids.length ≤ 1) (hlen : ids.length = ids'.length)
    (hall : ids.all fun id => ids'.contains id) : ids = ids' := by
  match ids, ids' with
  | [], [] => rfl
  | [id], [id'] => simpa using hall

theorem getFailoverObject_some {failovers : List (FailoverObject n)} {kind : RequestKind}
    {ids : List Int} {i : Fin failovers.length} (h : getFailoverObject failovers kind ids = some i)
    (hshort : (failovers.get i).nodeList.length ≤ 1) :
    (failovers.get i).reqKind = kind ∧ (failovers.get i).nodeList = ids := by
  have hp := (List.findFinIdx?_eq_some_iff.1 h).1
  simp only [Bool.and_eq_true, decide_eq_true_eq] at hp
  exact ⟨hp.1.1, eq_of_all hshort hp.1.2 hp.2⟩

section Add

variable {cfg : FailoverConfig} {s : FailoverState n} {now : Int} {r : FailoverRequest n}
  {o : FailoverObject n}

/-- What `addFailover` gives back: an object with the votes of the log and of the
request, which is for the same failover; all other objects are as before. -/
structure Counted (s : FailoverState n) (r : FailoverRequest n) (a : Added n) : Prop where
  voted : Voted (s.log ++ [r]) a.failoverObj
  requester : r.wdNode ∈ a.failoverObj.requestingNodes
  asks : r.AsksFor a.failoverObj.reqKind a.failoverObj.nodeList.toFinset
  since : s.since r = (s.log ++ [r]).drop a.failoverObj.createdAt
  mem : ∀ o ∈ a.failovers, o = a.failoverObj ∨ o ∈ s.failovers

/-- The object of the request has the votes of the log and of the request. -/
theorem counted_addFailover (hdup : cfg.allowMultipleFailoverRequestsFromNode = false)
    (hs : ∀ o ∈ s.failovers, Voted s.log o) (hr : r.sentIds.length ≤ 1) :
    Counted s r (addFailover cfg s now r) := by
  have hparsed := r.parsed hr
  unfold addFailover
  split
  case h_1 i hi =>
    have hvoted := hs _ (s.failovers.get_mem i)
    obtain ⟨hkind, hids⟩ := getFailoverObject_some hi hvoted.short
    have hasks : r.AsksFor (s.failovers.get i).reqKind (s.failovers.get i).nodeList.toFinset :=
      ⟨hkind.symm, by rw [hids, hparsed]⟩
    have hsince : s.since r = (s.log ++ [r]).drop (s.failovers.get i).createdAt := by
      simp only [FailoverState.since, hi]
    simp only [hdup, Bool.false_eq_true, if_false]
    split
    case isTrue hmem =>
      refine ⟨hvoted.append r, hmem, hasks, hsince, fun o ho => ?_⟩
      exact (mem_or_eq_of_mem_set ho).symm
    case isFalse hmem =>
      have happend := hvoted.append r
      refine ⟨⟨happend.1, ?_, ?_, happend.createdAt_le, fun v hv => ?_⟩, by simp, hasks, hsince,
        fun o ho => (mem_or_eq_of_mem_set ho).symm⟩
      · exact List.Nodup.append hvoted.nodup_requestingNodes (nodup_singleton _) (by simpa)
      · simpa using hvoted.requestCount_eq
      · rcases mem_append.1 hv with hv | hv
        · exact happend.asked v hv
        · refine ⟨r, ?_, (mem_singleton.1 hv).symm, hasks⟩
          rw [drop_append_of_le_length hvoted.createdAt_le]
          simp
  case h_2 hnone =>
    have hasks : r.AsksFor r.reqKind r.nodeIdList.toFinset := ⟨rfl, by rw [hparsed]⟩
    refine ⟨⟨r.length_eq.trans_le hr, nodup_singleton _, rfl, by simp, fun v hv => ?_⟩, by simp,
      hasks, ?_, fun o ho => ?_⟩
    · exact ⟨r, by simp, (mem_singleton.1 hv).symm, hasks⟩
    · simp [FailoverState.since, hnone]
    · simpa [or_comm] using ho

/-- The settings under which a failover needs the quorum and a majority of nodes. -/
structure NeedsConsensus (cfg : FailoverConfig) : Prop where
  failoverWhenQuorumExists : cfg.failoverWhenQuorumExists = true
  failoverRequireConsensus : cfg.failoverRequireConsensus = true
  allowMultiple : cfg.allowMultipleFailoverRequestsFromNode = false

/-- A request without a quorum changes nothing; any other is counted, and it proceeds
exactly if the votes suffice. -/
theorem computeFailoverConsensus_cases (hcfg : NeedsConsensus cfg) (s : FailoverState n)
    (now : Int) (hflags : r.flags &&& reqDetailConfirmed = 0) :
    computeFailoverConsensus cfg s now r = (s.failovers, .noQuorum, r.flags) ∨
    (∃ res, res ≠ .proceed ∧
      computeFailoverConsensus cfg s now r = ((addFailover cfg s now r).failovers, res, r.flags)) ∨
    s.minimumVotes cfg ≤ (addFailover cfg s now r).failoverObj.requestCount ∧
      computeFailoverConsensus cfg s now r =
        ((addFailover cfg s now r).failovers.eraseIdx (addFailover cfg s now r).place, .proceed,
          (addFailover cfg s now r).failoverObj.reqFlags) := by
  simp only [computeFailoverConsensus, hcfg.1, hcfg.2, hcfg.3, hflags, ne_eq, not_true_eq_false,
    Bool.true_eq_false, if_false, if_true, Bool.not_false, Bool.and_true]
  split
  case isTrue => exact .inl rfl
  case isFalse =>
    right
    split
    case isTrue =>
      left
      split
      · exact ⟨_, by decide, rfl⟩
      · exact ⟨_, by decide, rfl⟩
    case isFalse hvotes => exact .inr ⟨not_lt.1 hvotes, rfl⟩

/-- The objects a request leaves behind are as before, or are the one it is counted in. -/
theorem mem_computeFailoverConsensus (hcfg : NeedsConsensus cfg)
    (hflags : r.flags &&& reqDetailConfirmed = 0) (hs : ∀ o ∈ s.failovers, Voted s.log o)
    (hr : r.Proper) (ho : o ∈ (computeFailoverConsensus cfg s now r).1) :
    Voted (s.log ++ [r]) o := by
  have hcounted : Counted s r (addFailover cfg s now r) :=
    counted_addFailover hcfg.allowMultiple hs hr.1
  have hadded : ∀ o ∈ (addFailover cfg s now r).failovers, Voted (s.log ++ [r]) o := by
    intro o ho
    rcases hcounted.mem o ho with rfl | ho
    · exact hcounted.voted
    · exact (hs o ho).append r
  rcases computeFailoverConsensus_cases hcfg s now hflags with
    h | ⟨res, -, h⟩ | ⟨-, h⟩ <;> rw [h] at ho
  · exact (hs o ho).append r
  · exact hadded o ho
  · exact hadded o (mem_of_mem_eraseIdx ho)

theorem kickFailover_eq (hr : r.Proper) (flags : UInt8) :
    ∃ a, kickFailover r flags = some a ∧ a.backends = r.sentIds.toFinset := by
  obtain ⟨kind, ids, ids', rflags, node, _, hparsed⟩ := r
  obtain rfl := hparsed hr.1
  cases kind with
  | nodeDown => exact ⟨_, rfl, rfl⟩
  | nodeUp | promoteNode =>
    obtain ⟨id, rfl⟩ := length_eq_one_iff.1 (hr.2 nofun)
    exact ⟨_, rfl, rfl⟩

/-- A request that passes has the votes behind it. -/
theorem justified_of_voted (hcfg : NeedsConsensus cfg)
    (hflags : r.flags &&& reqDetailConfirmed = 0) (hs : ∀ o ∈ s.failovers, Voted s.log o)
    (hr : r.Proper) : Justified cfg s now r := by
  have hcounted : Counted s r (addFailover cfg s now r) :=
    counted_addFailover hcfg.allowMultiple hs hr.1
  unfold Justified processFailoverCommandOnCoordinator
  by_cases hlocal : s.cluster.localState = .coordinator
  case neg => simp [hlocal]
  case pos =>
    simp only [hlocal, ne_eq, not_true_eq_false, if_false]
    rcases computeFailoverConsensus_cases hcfg s now hflags with
      h | ⟨res, hres, h⟩ | ⟨hvotes, h⟩
    · simp [h]
    · simp [h, hres]
    · rw [h]
      refine fun _ => ⟨⟨(addFailover cfg s now r).failoverObj.requestingNodes.toFinset, ?_, ?_, ?_⟩,
        fun hsome => ?_⟩
      · rw [toFinset_card_of_nodup hcounted.voted.nodup_requestingNodes,
          ← hcounted.voted.requestCount_eq]
        exact hvotes
      · exact mem_toFinset.2 hcounted.requester
      · intro v hv
        obtain ⟨q, hq, hnode, hasks⟩ := hcounted.voted.asked v (mem_toFinset.1 hv)
        rw [hcounted.since, hcounted.asks.1, hcounted.asks.2]
        exact ⟨q, hq, hnode, hasks⟩
      · simp only [hsome, and_self, if_true]
        exact kickFailover_eq hr _

end Add

/-! ## Runs -/

section Run

variable {cfg : FailoverConfig} {wcfg : WdConfig} {s : FailoverState n} {now : Int} {c : Cluster n}
  {o : FailoverObject n} {quarantinedPrimary : Int → Bool}

theorem mem_setCluster (ho : o ∈ (s.setCluster c).failovers) : o ∈ s.failovers := by
  simp only [FailoverState.setCluster] at ho
  split at ho
  · simp at ho
  · exact ho

theorem mem_serviceExpiredFailovers
    (ho : o ∈ (serviceExpiredFailovers cfg s now quarantinedPrimary).failovers) :
    o ∈ s.failovers := by
  simp only [serviceExpiredFailovers] at ho
  split at ho
  · exact ho
  · split at ho
    · exact mem_of_mem_filter (mem_setCluster ho)
    · exact mem_of_mem_filter ho

@[simp] theorem log_serviceExpiredFailovers :
    (serviceExpiredFailovers cfg s now quarantinedPrimary).log = s.log := by
  simp only [serviceExpiredFailovers]
  split
  · rfl
  · split <;> rfl

/-- A request within the rules of the protocol: it does not claim to be confirmed. -/
def FailoverEvent.Unconfirmed : FailoverEvent n → Prop
  | .request r => r.flags &&& reqDetailConfirmed = 0
  | _ => True

/-- The request of the event, if it is one, is proper. -/
def FailoverEvent.Proper : FailoverEvent n → Prop
  | .request r => r.Proper
  | _ => True

theorem voted_failoverStep (hcfg : NeedsConsensus cfg) (hs : ∀ o ∈ s.failovers, Voted s.log o)
    (e : FailoverEvent n) (hunconfirmed : e.Unconfirmed) (hproper : e.Proper) :
    ∀ o ∈ (failoverStep cfg wcfg s now e).failovers,
      Voted (failoverStep cfg wcfg s now e).log o := by
  intro o ho
  cases e with
  | request r =>
    simp only [failoverStep, processFailoverCommandOnCoordinator] at ho ⊢
    split at ho
    · exact (hs o ho).append r
    · exact mem_computeFailoverConsensus hcfg hunconfirmed hs hproper ho
  | serviceExpiredFailovers quarantinedPrimary =>
    simp only [failoverStep, log_serviceExpiredFailovers]
    exact hs o (mem_serviceExpiredFailovers ho)
  | watchdog e => exact hs o (mem_setCluster ho)

theorem voted_failoverRun (hcfg : NeedsConsensus cfg) (wcfg : WdConfig) (c : Cluster n)
    (es : List (Int × FailoverEvent n)) (hunconfirmed : ∀ e ∈ es, e.2.Unconfirmed)
    (hproper : ∀ e ∈ es, e.2.Proper) :
    ∀ o ∈ (failoverRun cfg wcfg c es).failovers, Voted (failoverRun cfg wcfg c es).log o := by
  induction es using List.reverseRecOn with
  | nil => simp [failoverRun]
  | append_singleton es e ih =>
    simp only [forall_mem_append, forall_mem_singleton] at hunconfirmed hproper
    simp only [failoverRun, foldl_append, foldl_cons, foldl_nil]
    exact voted_failoverStep hcfg (ih hunconfirmed.1 hproper.1) e.2 hunconfirmed.2 hproper.2

/-- **Failover needs a majority for exactly that failover.**  In every run in which each
request names one backend, a request that may proceed has been asked for, since its
failover object was created, by enough distinct nodes, and the backends handed over are
the ones asked for. -/
theorem proceed_of_majority (hcfg : NeedsConsensus cfg) (wcfg : WdConfig) (c : Cluster n)
    (es : List (Int × FailoverEvent n)) (hunconfirmed : ∀ e ∈ es, e.2.Unconfirmed)
    (hproper : ∀ e ∈ es, e.2.Proper) (before after : List (Int × FailoverEvent n)) (now : Int)
    (r : FailoverRequest n) (hes : es = before ++ (now, .request r) :: after) :
    Justified cfg (failoverRun cfg wcfg c before) now r := by
  subst hes
  simp only [forall_mem_append, forall_mem_cons] at hunconfirmed hproper
  have hvoted := voted_failoverRun hcfg wcfg c before hunconfirmed.1 hproper.1
  exact justified_of_voted hcfg hunconfirmed.2.1 hvoted hproper.2.1

end Run

/-- Consensus is required, with the default of no half votes and no repeated votes. -/
def consensusConfig : FailoverConfig := ⟨true, true, false, false, 60⟩

/-- A leader with two remote members, one of which is its standby: two votes decide. -/
def leaderOfThree : Cluster 2 := run minuteConfig (initialCluster 2 100000000) joinedRun

/-- A request to take backend `1` down. -/
def downOne (wdNode : Option (Fin 2)) : FailoverRequest 2 :=
  ⟨.nodeDown, [1], [1], 0, wdNode, rfl, fun _ => rfl⟩

/-- Remote node `0` asks for the failover of backend `1`. -/
def firstVote : List (Int × FailoverEvent 2) := [(100000000, .request (downOne (some 0)))]

/-- Remote node `1` joins in, and the failover proceeds. -/
theorem proceed_of_two_votes : (processFailoverCommandOnCoordinator consensusConfig
      (failoverRun consensusConfig minuteConfig leaderOfThree firstVote) 100000000
      (downOne (some 1))).2 =
        (some .proceed, some (.degenerateBackendSet [1] reqDetailWatchdog)) ∧
    Justified consensusConfig
      (failoverRun consensusConfig minuteConfig leaderOfThree firstVote) 100000000
      (downOne (some 1)) :=
  ⟨by decide, proceed_of_majority ⟨rfl, rfl, rfl⟩ minuteConfig leaderOfThree
    (firstVote ++ [(100000000, .request (downOne (some 1)))])
    (by simp [firstVote, FailoverEvent.Unconfirmed, downOne])
    (by simp [firstVote, FailoverEvent.Proper, FailoverRequest.Proper, downOne])
    firstVote [] 100000000 _ rfl⟩

/-- A request to take the backends `1` and `2` down, which finds a `7` in the second place of the
array. -/
def downBoth (wdNode : Option (Fin 2)) : FailoverRequest 2 :=
  ⟨.nodeDown, [1, 2], [1, 7], 0, wdNode, rfl, fun h => absurd h (by decide)⟩

/-- One node has asked for the backends `1` and `2`. -/
def firstVoteForBoth : List (Int × FailoverEvent 2) :=
  [(100000000, .request (downBoth (some 0)))]

/-- Two nodes ask for the backends `1` and `2`, and `1` and `7` are degenerated. -/
theorem other_backend_handed_over : (processFailoverCommandOnCoordinator consensusConfig
      (failoverRun consensusConfig minuteConfig leaderOfThree firstVoteForBoth) 100000000
      (downBoth (some 1))).2 =
        (some .proceed, some (.degenerateBackendSet [1, 7] reqDetailWatchdog)) ∧
    ¬ Justified consensusConfig
      (failoverRun consensusConfig minuteConfig leaderOfThree firstVoteForBoth) 100000000
      (downBoth (some 1)) := by
  have hout : (processFailoverCommandOnCoordinator consensusConfig
      (failoverRun consensusConfig minuteConfig leaderOfThree firstVoteForBoth) 100000000
      (downBoth (some 1))).2 =
        (some .proceed, some (.degenerateBackendSet [1, 7] reqDetailWatchdog)) := by decide
  refine ⟨hout, fun h => ?_⟩
  obtain ⟨-, hkick⟩ := h (congrArg Prod.fst hout)
  obtain ⟨a, ha, hbackends⟩ := hkick rfl
  rw [hout] at ha
  cases ha
  exact absurd hbackends (by decide)

end PgBalancer.Watchdog
