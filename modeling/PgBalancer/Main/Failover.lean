import Mathlib

/-!
# Processing a node operation request

`failover` of the main process takes the requests of the queue one by one: backends go down, are
quarantined, come back or are promoted.  For each request the main node and the primary are
determined again, the scripts of the administrator are run, and the result is stored in shared
memory.  A record of what has been found out, the failover context, is passed from function to
function; it is cleared once for each call of `failover`, not for each request.

Node ids are `Option (Fin n)`, where `none` is the id `-1`.  The search for the primary, which
asks the backends, is a parameter.

* `getNextMainNode_eq_some` — the next main node is the first valid backend;
* `foldl_degenerate` — **what a request takes down**: each of its nodes that can be taken down.
-/

namespace PgBalancer.Main

open List

/-! ## The data -/

/-- `backend_clustering_mode` -/
inductive ClusteringMode where
  | streamingReplication
  | nativeReplication
  | logicalReplication
  | slony
  | raw
  | snapshotIsolation
  deriving DecidableEq

/-- `STREAM` -/
def ClusteringMode.isStream (mode : ClusteringMode) : Bool := mode == .streamingReplication

/-- `SL_MODE` -/
def ClusteringMode.isSl (mode : ClusteringMode) : Bool :=
  mode == .streamingReplication || mode == .logicalReplication

/-- `RAW_MODE` -/
def ClusteringMode.isRaw (mode : ClusteringMode) : Bool := mode == .raw

/-- The settings that the failover looks at. -/
structure Config (n : Nat) where
  mode : ClusteringMode
  /-- `failover_command` is not empty -/
  failoverCommand : Bool
  /-- `failback_command` is not empty -/
  failbackCommand : Bool
  /-- `follow_primary_command` is not empty -/
  followPrimaryCommand : Bool
  /-- `my_main_node_id`; it is `MAIN_NODE_ID` in the main process, which is in no session -/
  myMainNodeId : Option (Fin n)

/-- `BACKEND_STATUS` -/
inductive BackendStatus where
  | unused
  | connectWait
  | up
  | down
  deriving DecidableEq

/-- `SERVER_ROLE` -/
inductive Role where
  | main
  | replica
  | primary
  | standby
  deriving DecidableEq

/-- `BackendInfo` -/
structure Backend where
  status : BackendStatus
  quarantine : Bool
  role : Role
  deriving DecidableEq

/-- The backends, and what `Req_info` says about them. -/
structure NodeInfo (n : Nat) where
  backends : Fin n → Backend
  primaryNodeId : Option (Fin n)
  mainNodeId : Option (Fin n)
  followPrimaryOngoing : Bool
  deriving DecidableEq

/-- `POOL_REQUEST_KIND`, the requests for nodes -/
inductive RequestKind where
  | nodeUp
  | nodeDown
  | promoteNode
  | nodeQuarantine
  deriving DecidableEq

/-- `POOL_REQUEST_NODE`.  A request is for some nodes, at least one, except for the request to
close idle connections, which is for none. -/
inductive Request (n : Nat) where
  | closeIdle
  | nodes (kind : RequestKind) (first : Fin n) (rest : List (Fin n)) (flags : UInt8)
  deriving DecidableEq

/-- `REQ_DETAIL_SWITCHOVER` -/
def reqDetailSwitchover : UInt8 := 0x01
/-- `REQ_DETAIL_UPDATE` -/
def reqDetailUpdate : UInt8 := 0x08
/-- `REQ_DETAIL_PROMOTE` -/
def reqDetailPromote : UInt8 := 0x10

/-- `flags & detail` -/
def hasDetail (flags detail : UInt8) : Bool := flags &&& detail != 0

/-- `FAILOVER_CONTEXT`; the node ids are those of the request. -/
structure Context (n : Nat) where
  allBackendDown : Bool
  searchPrimary : Bool
  needToRestartChildren : Bool
  partialRestart : Bool
  syncRequired : Bool
  needToRestartPcp : Bool
  /-- the nodes that have been taken down -/
  nodes : Fin n → Bool
  deriving DecidableEq

/-- The context is cleared, and `search_primary` set. -/
def Context.initial {n : Nat} : Context n :=
  ⟨false, true, false, false, false, false, fun _ => false⟩

/-- What is run in the course of a request. -/
inductive Action (n : Nat) where
  /-- `trigger_failover_command` with `failover_command` -/
  | failoverCommand (node : Fin n) (oldMain newMain oldPrimary : Option (Fin n))
  /-- `trigger_failover_command` with `failback_command` -/
  | failbackCommand (node : Fin n) (oldMain newMain oldPrimary : Option (Fin n))
  /-- `fork_follow_child` -/
  | forkFollowChild (oldPrimary newPrimary : Option (Fin n))
  deriving DecidableEq

variable {n : Nat}

namespace NodeInfo

/-- `VALID_BACKEND_RAW` -/
def validBackendRaw (s : NodeInfo n) (i : Fin n) : Bool :=
  (s.backends i).status == .up || (s.backends i).status == .connectWait

/-- `VALID_BACKEND`; the main process is in no session. -/
def validBackend (cfg : Config n) (s : NodeInfo n) (i : Fin n) : Bool :=
  (cfg.mode.isRaw && s.mainNodeId == some i) ||
    ((!cfg.mode.isRaw || s.mainNodeId == some i) && s.validBackendRaw i)

/-- `PRIMARY_NODE_ID` -/
def primaryOrMain (s : NodeInfo n) : Option (Fin n) :=
  match s.primaryNodeId with
  | some i => if s.validBackendRaw i then some i else s.mainNodeId
  | none => s.mainNodeId

/-- Change the record of a backend. -/
def setBackend (s : NodeInfo n) (i : Fin n) (b : Backend) : NodeInfo n :=
  { s with backends := Function.update s.backends i b }

/-- Set `backend_status`. -/
def setStatus (s : NodeInfo n) (i : Fin n) (status : BackendStatus) : NodeInfo n :=
  s.setBackend i { s.backends i with status }

/-- Set `role`. -/
def setRole (s : NodeInfo n) (i : Fin n) (role : Role) : NodeInfo n :=
  s.setBackend i { s.backends i with role }

/-- `get_next_main_node`: the first valid backend. -/
def getNextMainNode (cfg : Config n) (s : NodeInfo n) : Option (Fin n) :=
  (List.finRange n).find? fun i =>
    if cfg.mode.isRaw then s.validBackendRaw i else s.validBackend cfg i

/-- `check_all_backend_down` -/
def checkAllBackendDown (s : NodeInfo n) : Bool :=
  (List.finRange n).all fun i =>
    (s.backends i).status == .down || (s.backends i).status == .unused

end NodeInfo

/-- What the functions work on: the context, the shared memory, and what has been run. -/
structure Work (n : Nat) where
  context : Context n
  info : NodeInfo n
  actions : List (Action n)

/-! ## The functions of the source -/

/-- `handle_failback_request`; `none` stands for the result `-1`. -/
def handleFailbackRequest (cfg : Config n) (w : Work n) (nodeId : Option (Fin n))
    (flags : UInt8) : Option (Work n) :=
  match nodeId with
  | none => none
  | some i =>
    if !(cfg.mode.isRaw && (w.info.backends i).status == .down) && w.info.validBackend cfg i then
      none
    else
      let allBackendDown := w.info.checkAllBackendDown
      let ctx := { w.context with allBackendDown }
      let info := w.info.setStatus i .connectWait
      if hasDetail flags reqDetailUpdate then
        let info := info.setBackend i { info.backends i with quarantine := false }
        let ctx := { ctx with searchPrimary := false }
        let info := { info with mainNodeId := info.getNextMainNode cfg }
        if info.primaryNodeId = none ∧ (info.backends i).role = .primary then
          some { w with
            context := { ctx with
              needToRestartChildren := true, partialRestart := false, syncRequired := true }
            info := { info with primaryNodeId := some i } }
        else if allBackendDown = false then
          some { w with
            context := { ctx with
              needToRestartChildren := false, partialRestart := false, syncRequired := true }
            info }
        else
          some { w with
            context := { ctx with
              needToRestartChildren := true, partialRestart := false, syncRequired := true }
            info }
      else
        some {
          context := { ctx with syncRequired := true }
          info
          actions := w.actions ++ if cfg.failbackCommand then
            [.failbackCommand i cfg.myMainNodeId (info.getNextMainNode cfg) info.primaryOrMain]
            else [] }

/-- The condition of `handle_failover_request` -/
def canDegenerate (cfg : Config n) (s : NodeInfo n) (i : Fin n) : Bool :=
  (s.backends i).quarantine ||
    ((cfg.mode.isRaw && s.validBackendRaw i) || s.validBackend cfg i)

/-- `handle_failover_request`, the body of the loop; the number counts the nodes taken down. -/
def degenerate (cfg : Config n) (kind : RequestKind) (w : Work n × Nat)
    (nodeId : Option (Fin n)) : Work n × Nat :=
  match nodeId with
  | none => w
  | some i =>
    if canDegenerate cfg w.1.info i then
      let info := w.1.info.setStatus i .down
      let ctx := w.1.context
      if kind = .nodeQuarantine then
        ({ w.1 with
            context := { ctx with nodes := Function.update ctx.nodes i true }
            info := info.setBackend i { info.backends i with quarantine := true } }, w.2 + 1)
      else
        let wasPrimary := info.primaryNodeId = none ∧ (info.backends i).quarantine = true ∧
          (info.backends i).role = .primary
        let info' := if wasPrimary then { info with primaryNodeId := some i } else info
        ({ w.1 with
            context := { ctx with
              searchPrimary := if wasPrimary then false else ctx.searchPrimary
              nodes := Function.update ctx.nodes i true }
            info := info'.setBackend i { info'.backends i with quarantine := false } }, w.2 + 1)
    else w

/-- `handle_failover_request`; `none` stands for the result `-1`. -/
def handleFailoverRequest (cfg : Config n) (kind : RequestKind) (w : Work n)
    (nodeIdSet : List (Option (Fin n))) : Option (Work n) :=
  let (w, cnt) := nodeIdSet.foldl (degenerate cfg kind) (w, 0)
  if cnt = 0 then none else some w

/-- `kill_failover_children`, what it decides about restarting the children -/
def killFailoverChildren (cfg : Config n) (kind : RequestKind) (flags : UInt8) (w : Work n)
    (nodeId : Option (Fin n)) : Work n :=
  if cfg.mode.isStream ∧ kind = .nodeUp ∧ w.context.allBackendDown = false ∧
      w.info.primaryNodeId ≠ none ∧ w.info.primaryNodeId ≠ nodeId then
    -- for an update the decision has been made
    if hasDetail flags reqDetailUpdate then w
    else { w with context := { w.context with
      needToRestartChildren := false, partialRestart := false } }
  else if cfg.mode.isStream ∧ (kind = .nodeDown ∨ kind = .nodeQuarantine) ∧
      hasDetail flags reqDetailSwitchover ∧ nodeId ≠ w.info.primaryOrMain then
    { w with context := { w.context with needToRestartChildren := true, partialRestart := true } }
  else
    { w with context := { w.context with needToRestartChildren := true, partialRestart := false } }

/-- `exec_failover_command`: once for each node that has gone down. -/
def execFailoverCommand (cfg : Config n) (kind : RequestKind) (flags : UInt8) (w : Work n)
    (newMainNode promoteNode : Option (Fin n)) : Work n :=
  if kind = .nodeDown then
    let downs := (List.finRange n).filter w.context.nodes
    let newMain := if hasDetail flags reqDetailPromote then promoteNode else newMainNode
    { w with
      context := { w.context with syncRequired := w.context.syncRequired || !downs.isEmpty }
      actions := w.actions ++ if cfg.failoverCommand then
        downs.map fun i =>
          .failoverCommand i cfg.myMainNodeId newMain w.info.primaryNodeId else [] }
  else w

/-- `find_primary_node_repeatedly`; `find` is what the search finds in the end. -/
def findPrimaryNodeRepeatedly (cfg : Config n) (find : NodeInfo n → Option (Fin n))
    (s : NodeInfo n) : Option (Fin n) :=
  if cfg.mode.isSl = false then none
  else if s.followPrimaryOngoing then s.primaryNodeId
  else if (List.finRange n).all fun i => !s.validBackend cfg i then none
  else find s

/-- `determine_new_primary_node` -/
def determineNewPrimaryNode (cfg : Config n) (find : NodeInfo n → Option (Fin n))
    (kind : RequestKind) (ctx : Context n) (s : NodeInfo n) (nodeId : Option (Fin n)) :
    NodeInfo n × Option (Fin n) :=
  let isValid : Bool := match nodeId with
    | some i => s.validBackend cfg i
    | none => false
  if kind = .promoteNode ∧ isValid then (s, nodeId)
  else if kind = .nodeQuarantine then
    if s.primaryNodeId = nodeId then
      (match nodeId with
        | some i => s.setRole i .primary
        | none => s, none)
    else (s, s.primaryNodeId)
  else if cfg.mode.isSl ∧ kind = .nodeDown then
    if s.primaryNodeId ≠ none ∧ s.primaryNodeId ≠ nodeId then (s, s.primaryNodeId)
    else
      let s := match s.primaryNodeId with
        | some p => s.setRole p .standby
        | none => s
      (s, findPrimaryNodeRepeatedly cfg find s)
  else if ctx.searchPrimary = false then (s, s.primaryNodeId)
  else (s, findPrimaryNodeRepeatedly cfg find s)

/-- The follow degeneration: every backend except the new primary goes down. -/
def NodeInfo.degenerateOthers (s : NodeInfo n) (newPrimary : Fin n) : NodeInfo n :=
  { s with backends := fun i =>
      if i = newPrimary then s.backends i else { s.backends i with status := .down } }

/-- The cases in which the follow primary command is executed: the primary has been taken down,
there was no primary and there is a new one, or a node is promoted. -/
def followsPrimary (cfg : Config n) (kind : RequestKind) (w : Work n)
    (nodeId newPrimary : Option (Fin n)) : Bool :=
  (match w.info.primaryNodeId with
    | some p => kind == .nodeDown && w.context.nodes p
    | none => kind == .nodeDown && newPrimary.isSome) ||
  (match nodeId with
    | some i => kind == .promoteNode && w.info.validBackend cfg i
    | none => false)

/-- `exec_follow_primary_command`: the result is the new main node, if it has to be changed. -/
def execFollowPrimaryCommand (cfg : Config n) (kind : RequestKind) (w : Work n)
    (nodeId newPrimary : Option (Fin n)) : Work n × Option (Fin n) :=
  if cfg.mode.isStream = false then (w, none)
  else if cfg.followPrimaryCommand ∨ kind = .promoteNode then
    if followsPrimary cfg kind w nodeId newPrimary then
      match newPrimary with
      | some p =>
        -- the number of backends degenerated is `n - 1`
        if n ≤ 1 then (w, none)
        else
          let info := w.info.degenerateOthers p
          ({ w with
              info
              actions := w.actions ++ if cfg.followPrimaryCommand then
                [.forkFollowChild info.primaryNodeId newPrimary] else [] },
            info.getNextMainNode cfg)
      | none => (w, none)
    else (w, none)
  else (w, none)

/-- `save_node_info`: the new primary and main node are recorded. -/
def saveNodeInfo (w : Work n) (newPrimary newMainNode : Option (Fin n)) : Work n :=
  let info := match newPrimary with
    | some p => if w.info.primaryNodeId ≠ some p then w.info.setRole p .primary else w.info
    | none => w.info
  let info := { info with primaryNodeId := newPrimary }
  match newMainNode with
  | some m =>
    { w with context := { w.context with syncRequired := true }
             info := { info with mainNodeId := some m } }
  | none => { w with info }

/-- What `failover` does when the request has not been refused. -/
def settleRequest (cfg : Config n) (find : NodeInfo n → Option (Fin n)) (kind : RequestKind)
    (flags : UInt8) (nodeId promoteNode : Option (Fin n)) (w : Work n) : Work n :=
  let newMainNode := w.info.getNextMainNode cfg
  let w := killFailoverChildren cfg kind flags w nodeId
  let w := execFailoverCommand cfg kind flags w newMainNode promoteNode
  let (info, newPrimary) := determineNewPrimaryNode cfg find kind w.context w.info nodeId
  let (w, i) := execFollowPrimaryCommand cfg kind { w with info } nodeId newPrimary
  let w := saveNodeInfo w newPrimary (i.or newMainNode)
  -- the last line of `exec_child_restart`
  { w with context := { w.context with needToRestartPcp := true } }

/-- The node ids of a request, or the primary in place of each of them if the request is to
promote a node. -/
def targets (s : NodeInfo n) (first : Fin n) (rest : List (Fin n)) (flags : UInt8) :
    List (Option (Fin n)) :=
  if hasDetail flags reqDetailPromote then (first :: rest).map fun _ => s.primaryNodeId
  else (first :: rest).map some

/-- One round of the loop of `failover`. -/
def processRequest (cfg : Config n) (find : NodeInfo n → Option (Fin n)) (w : Work n) :
    Request n → Work n
  | .closeIdle => w
  | .nodes kind first rest flags =>
    let nodeIdSet := targets w.info first rest flags
    let nodeId := nodeIdSet.head?.join
    -- `promote_node` is used if the flag is set only
    let settle := settleRequest cfg find kind flags nodeId (some first)
    match kind with
    | .nodeUp => ((handleFailbackRequest cfg w nodeId flags).map settle).getD w
    | .promoteNode =>
      match nodeId with
      | some i => if w.info.validBackend cfg i then settle w else w
      | none => w
    | _ => ((handleFailoverRequest cfg kind w nodeIdSet).map settle).getD w

/-- What the search for the primary finds, in a given situation. -/
abbrev Search (n : Nat) := NodeInfo n → Option (Fin n)

/-- `failover`, for the requests it finds in the queue before it finds the queue empty. -/
def failover (cfg : Config n) (requests : List (Request n × Search n)) (s : NodeInfo n) : Work n :=
  requests.foldl (fun w r => processRequest cfg r.2 w r.1) ⟨.initial, s, []⟩

/-! ## The main node -/

variable {cfg : Config n} {s : NodeInfo n}

theorem validBackend_of_not_raw (hraw : cfg.mode.isRaw = false) (i : Fin n) :
    s.validBackend cfg i = s.validBackendRaw i := by
  simp [NodeInfo.validBackend, hraw]

/-- The first valid backend is recorded as main node, if there is a valid backend. -/
def NodeInfo.MainRight (s : NodeInfo n) : Prop :=
  ∀ i, s.validBackendRaw i = true → ∃ m, s.mainNodeId = some m ∧ s.validBackendRaw m = true ∧
    ∀ j, s.validBackendRaw j = true → m ≤ j

section

variable (hraw : cfg.mode.isRaw = false)
include hraw

theorem getNextMainNode_of_not_raw :
    s.getNextMainNode cfg = (List.finRange n).find? s.validBackendRaw := by
  unfold NodeInfo.getNextMainNode
  congr 1
  funext i
  simp [hraw, validBackend_of_not_raw hraw]

theorem getNextMainNode_eq_none :
    s.getNextMainNode cfg = none ↔ ∀ i, s.validBackendRaw i = false := by
  rw [getNextMainNode_of_not_raw hraw, List.find?_eq_none]
  simp

theorem getNextMainNode_eq_some {m : Fin n} (h : s.getNextMainNode cfg = some m) :
    s.validBackendRaw m = true ∧ ∀ j, s.validBackendRaw j = true → m ≤ j := by
  rw [getNextMainNode_of_not_raw hraw, List.find?_eq_some_iff_append] at h
  obtain ⟨hm, before, after, hsplit, hbefore⟩ := h
  refine ⟨hm, fun j hj => ?_⟩
  have hmem : j ∈ before ++ m :: after := by
    rw [← hsplit]
    exact mem_finRange j
  have hsorted : (before ++ m :: after).Pairwise (· < ·) := by
    rw [← hsplit]
    exact pairwise_lt_finRange n
  rcases mem_append.1 hmem with hj' | hj'
  · -- no backend before the first valid one is valid
    have := hbefore j hj'
    simp [hj] at this
  · rcases mem_cons.1 hj' with heq | hafter
    · exact heq.ge
    · have hrest := (pairwise_append.1 hsorted).2.1
      exact (rel_of_pairwise_cons hrest hafter).le

end

/-! ## Taking nodes down -/

/-- What becomes of a backend that is taken down. -/
def Backend.downed (kind : RequestKind) (b : Backend) : Backend :=
  { b with status := .down, quarantine := decide (kind = .nodeQuarantine) }

theorem downed_downed (kind : RequestKind) (b : Backend) :
    (b.downed kind).downed kind = b.downed kind := rfl

/-- Whether a node can be taken down depends on this node and the main node only. -/
theorem canDegenerate_congr {s t : NodeInfo n} {i : Fin n} (hback : t.backends i = s.backends i)
    (hmain : t.mainNodeId = s.mainNodeId) : canDegenerate cfg t i = canDegenerate cfg s i := by
  simp [canDegenerate, NodeInfo.validBackend, NodeInfo.validBackendRaw, hback, hmain]

section Degenerate

variable {kind : RequestKind} {w w' : Work n × Nat} {i j : Fin n} {id : Option (Fin n)}
  {ids : List (Option (Fin n))}

/-- What the loop does not change, when there is a primary. -/
structure SameNodes (p : Fin n) (w w' : Work n) : Prop where
  primary : w'.info.primaryNodeId = some p
  ongoing : w'.info.followPrimaryOngoing = w.info.followPrimaryOngoing

/-- One node is taken down. -/
structure Degenerated (kind : RequestKind) (i : Fin n) (w w' : Work n × Nat) : Prop where
  main : w'.1.info.mainNodeId = w.1.info.mainNodeId
  backends : w'.1.info.backends =
    Function.update w.1.info.backends i ((w.1.info.backends i).downed kind)
  nodes : w'.1.context.nodes = Function.update w.1.context.nodes i true
  actions : w'.1.actions = w.1.actions
  same : ∀ p, w.1.info.primaryNodeId = some p → SameNodes p w.1 w'.1
  count : w'.2 = w.2 + 1

variable (cfg kind w id) in
theorem degenerate_cases :
    (degenerate cfg kind w id = w ∧ ∀ i, id = some i → canDegenerate cfg w.1.info i = false) ∨
      ∃ i, id = some i ∧ canDegenerate cfg w.1.info i = true ∧
        Degenerated kind i w (degenerate cfg kind w id) := by
  fun_cases degenerate cfg kind w id with
  | case1 => exact .inl ⟨rfl, nofun⟩
  | case2 i hcan info ctx hkind =>
    refine .inr ⟨i, rfl, hcan, rfl, ?_, rfl, rfl, fun p hp => ⟨hp, rfl⟩, rfl⟩
    simp [info, NodeInfo.setStatus, NodeInfo.setBackend, Backend.downed, hkind]
  | case3 i hcan info ctx hkind wasPrimary info' =>
    have hnone : wasPrimary → w.1.info.primaryNodeId = none := fun hwas => hwas.1
    refine .inr ⟨i, rfl, hcan, ?_, ?_, rfl, rfl, fun p hp => ⟨?_, ?_⟩, rfl⟩
    all_goals
      by_cases hwas : wasPrimary <;>
        simp_all [info', info, NodeInfo.setStatus, NodeInfo.setBackend, Backend.downed]
  | case4 i hcan =>
    refine .inl ⟨rfl, fun j hj => ?_⟩
    obtain rfl := Option.some.inj hj
    simpa using hcan

theorem Degenerated.canDegenerate_other (h : Degenerated kind i w w') (hij : j ≠ i) :
    canDegenerate cfg w'.1.info j = canDegenerate cfg w.1.info j :=
  canDegenerate_congr (by rw [h.backends, Function.update_of_ne hij]) h.main

/-- The nodes of a request are taken down, as far as they can be. -/
structure TakenDown (cfg : Config n) (kind : RequestKind) (ids : List (Option (Fin n)))
    (w w' : Work n × Nat) : Prop where
  backends : ∀ i, w'.1.info.backends i =
    if some i ∈ ids ∧ canDegenerate cfg w.1.info i = true then (w.1.info.backends i).downed kind
    else w.1.info.backends i
  nodes : ∀ i, w'.1.context.nodes i =
    (w.1.context.nodes i || decide (some i ∈ ids ∧ canDegenerate cfg w.1.info i = true))
  actions : w'.1.actions = w.1.actions
  same : ∀ p, w.1.info.primaryNodeId = some p → SameNodes p w.1 w'.1
  count : w'.2 = 0 ↔ w.2 = 0 ∧ ∀ i, some i ∈ ids → canDegenerate cfg w.1.info i = false

theorem TakenDown.skip (h : TakenDown cfg kind ids w w')
    (hid : ∀ i, id = some i → canDegenerate cfg w.1.info i = false) :
    TakenDown cfg kind (id :: ids) w w' := by
  have hmem : ∀ i, some i ∈ id :: ids ∧ canDegenerate cfg w.1.info i = true ↔
      some i ∈ ids ∧ canDegenerate cfg w.1.info i = true := by
    intro i
    refine and_congr_left fun hcan => ⟨fun hi => ?_, mem_cons_of_mem id⟩
    rcases mem_cons.1 hi with heq | hi
    · simp [hid i heq.symm] at hcan
    · exact hi
  refine ⟨fun i => ?_, fun i => ?_, h.actions, h.same, ?_⟩
  · simp only [hmem, h.backends]
  · simp only [hmem, h.nodes]
  · rw [h.count]
    exact and_congr_right fun _ => forall_congr' fun i => by
      simpa using not_congr (hmem i).symm

theorem TakenDown.cons {v : Work n × Nat} (hcan : canDegenerate cfg w.1.info i = true)
    (hd : Degenerated kind i w v) (h : TakenDown cfg kind ids v w') :
    TakenDown cfg kind (some i :: ids) w w' := by
  refine ⟨fun j => ?_, fun j => ?_, h.actions.trans hd.actions, fun p hp => ?_, ?_⟩
  · rw [h.backends, hd.backends]
    by_cases hji : j = i
    · subst hji
      simp [hcan, downed_downed]
    · simp [hd.canDegenerate_other hji, hji]
  · rw [h.nodes, hd.nodes]
    by_cases hji : j = i
    · subst hji
      simp [hcan]
    · simp [hd.canDegenerate_other hji, hji]
  · have hstep := hd.same p hp
    have hrest := h.same p hstep.primary
    exact ⟨hrest.primary, hrest.ongoing.trans hstep.ongoing⟩
  · simp [h.count, hd.count, hcan]

variable (cfg kind) in
theorem foldl_degenerate (ids : List (Option (Fin n))) (w : Work n × Nat) :
    TakenDown cfg kind ids w (ids.foldl (degenerate cfg kind) w) := by
  induction ids generalizing w with
  | nil => exact ⟨by simp, by simp, rfl, fun p hp => ⟨hp, rfl⟩, by simp⟩
  | cons id ids ih =>
    rw [foldl_cons]
    rcases degenerate_cases cfg kind w id with ⟨heq, hid⟩ | ⟨i, rfl, hcan, hd⟩
    · rw [heq]
      exact (ih w).skip hid
    · exact (ih _).cons hcan hd

end Degenerate

/-! ## What the functions leave alone -/

section Frame

variable {kind : RequestKind} {flags : UInt8} {w : Work n}
  {nodeId newMain promoteNode : Option (Fin n)}

@[simp] theorem killFailoverChildren_info :
    (killFailoverChildren cfg kind flags w nodeId).info = w.info := by
  unfold killFailoverChildren
  split_ifs <;> rfl

@[simp] theorem killFailoverChildren_actions :
    (killFailoverChildren cfg kind flags w nodeId).actions = w.actions := by
  unfold killFailoverChildren
  split_ifs <;> rfl

@[simp] theorem killFailoverChildren_nodes :
    (killFailoverChildren cfg kind flags w nodeId).context.nodes = w.context.nodes := by
  unfold killFailoverChildren
  split_ifs <;> rfl

@[simp] theorem killFailoverChildren_searchPrimary :
    (killFailoverChildren cfg kind flags w nodeId).context.searchPrimary =
      w.context.searchPrimary := by
  unfold killFailoverChildren
  split_ifs <;> rfl

@[simp] theorem execFailoverCommand_info :
    (execFailoverCommand cfg kind flags w newMain promoteNode).info = w.info := by
  unfold execFailoverCommand
  split_ifs <;> rfl

@[simp] theorem execFailoverCommand_nodes :
    (execFailoverCommand cfg kind flags w newMain promoteNode).context.nodes = w.context.nodes := by
  unfold execFailoverCommand
  split_ifs <;> rfl

@[simp] theorem execFailoverCommand_searchPrimary :
    (execFailoverCommand cfg kind flags w newMain promoteNode).context.searchPrimary =
      w.context.searchPrimary := by
  unfold execFailoverCommand
  split_ifs <;> rfl

end Frame

end PgBalancer.Main
