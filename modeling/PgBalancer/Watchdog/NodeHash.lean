import PgBalancer.Json.Writer

/-!
# The hash of a watchdog node

With a key configured, the message that adds a node carries a hash, which the receiver compares
with its own before it takes the contents of the message into its record of the node.

* `hash_never_vouches` — **no hash that is accepted vouches for the contents of its message**: it is
  accepted with any other contents of the same state and watchdog port, and the record of the node
  is overwritten with them.
-/

namespace PgBalancer.Watchdog

open Json Numeral

/-- The fields of a node that a message carries and its receiver uses. -/
structure WatchdogNode where
  state : Int32
  wdPort : Int32
  pgpoolPort : Int32
  pgbalancerNodeId : Int32
  wdPriority : Int32
  hostname : Bytes
  nodeName : Bytes
  delegateIp : Bytes
  pgpVersion : Bytes
  dataVersion : Int32 × Int32
  startupTime : Int64
  currentStateTime : Int64
  escalated : Int32
  standbyNodesCount : Int32
  quorumStatus : Int32
  deriving DecidableEq

/-- A key that is set, and `wd_calc_hash` with it, which has no collisions. -/
structure KeyedHash where
  wdAuthkey : Bytes
  isSet : wdAuthkey ≠ []
  wdCalcHash : Bytes → Bytes
  injective : Function.Injective wdCalcHash

/-- The text that is hashed; its buffer has room for it. -/
def nodeStr (node : WatchdogNode) : Bytes :=
  ascii "state=" ++ formatInt node.state.toInt ++
    32 :: (ascii "wd_port=" ++ formatInt node.wdPort.toInt)

variable (w : KeyedHash)

/-- `verify_authhash_for_node` -/
def verifyAuthhashForNode (node : WatchdogNode) (authhash : Bytes) : Bool :=
  if w.wdAuthkey ≠ [] then w.wdCalcHash (nodeStr node) = authhash else true

/-- `wdNode` is the record of the node that has sent `tempNode` from `addr`. -/
def identifies (addr : Bytes) (tempNode wdNode : WatchdogNode) : Bool :=
  wdNode.wdPort = tempNode.wdPort && wdNode.pgpoolPort = tempNode.pgpoolPort &&
    wdNode.pgbalancerNodeId = tempNode.pgbalancerNodeId &&
    (wdNode.hostname = addr || wdNode.hostname = tempNode.hostname)

/-- What is copied into the record. -/
def copyInfo (tempNode wdNode : WatchdogNode) : WatchdogNode :=
  let current := if tempNode.currentStateTime ≠ 0 then tempNode else wdNode
  { tempNode with
    hostname := wdNode.hostname
    currentStateTime := current.currentStateTime
    escalated := current.escalated
    standbyNodesCount := current.standbyNodesCount
    quorumStatus := current.quorumStatus }

/-- The records after the message of a socket that is not identified, at a node whose id is
`localId`; the id of the local node itself is an ERROR. -/
def addNode (localId : Int32) (remoteNodes : List WatchdogNode) (addr : Bytes)
    (tempNode : WatchdogNode) (authhash : Bytes) : Option (List WatchdogNode) :=
  if tempNode.pgbalancerNodeId = localId then none
  else if verifyAuthhashForNode w tempNode authhash then
    some (remoteNodes.modify (remoteNodes.findIdx (identifies addr tempNode)) (copyInfo tempNode))
  else some remoteNodes

/-- The fields by which the sender of a message is found. -/
def WatchdogNode.identity (node : WatchdogNode) : Int32 × Int32 × Int32 × Bytes :=
  (node.wdPort, node.pgpoolPort, node.pgbalancerNodeId, node.hostname)

variable {node node' : WatchdogNode}

theorem nodeStr_eq_iff :
    nodeStr node = nodeStr node' ↔ node.state = node'.state ∧ node.wdPort = node'.wdPort := by
  have hspace : ∀ z, 32 ∉ ascii "state=" ++ formatInt z := fun z h =>
    (List.mem_append.1 h).elim (by decide) (space_notMem_formatInt z)
  have hport : ∀ z, 32 ∉ ascii "wd_port=" ++ formatInt z := fun z h =>
    (List.mem_append.1 h).elim (by decide) (space_notMem_formatInt z)
  rw [nodeStr, nodeStr, List.append_cons_inj_of_notMem (hspace _) (hport _)]
  simp [formatInt_injective.eq_iff, Int32.toInt_inj]

theorem verify_iff {authhash : Bytes} (h : verifyAuthhashForNode w node authhash = true) :
    verifyAuthhashForNode w node' authhash = true ↔
      node'.state = node.state ∧ node'.wdPort = node.wdPort := by
  simp only [verifyAuthhashForNode, if_pos w.isSet, decide_eq_true_eq] at h ⊢
  rw [← h, w.injective.eq_iff, nodeStr_eq_iff]

/-- **The record that a message identifies becomes the message.** -/
theorem addNode_overwrites {authhash addr : Bytes} {localId : Int32} {old : WatchdogNode}
    {before after : List WatchdogNode} (h : verifyAuthhashForNode w node authhash = true)
    (hlocal : node.pgbalancerNodeId ≠ localId) (htime : node.currentStateTime ≠ 0)
    (hold : old.identity = node.identity) (hbefore : ∀ r ∈ before, identifies addr node r = false) :
    addNode w localId (before ++ old :: after) addr node authhash =
      some (before ++ node :: after) := by
  simp only [WatchdogNode.identity, Prod.mk.injEq] at hold
  have hfound : identifies addr node old = true := by simp [identifies, hold]
  have hcopy : copyInfo node old = node := by simp [copyInfo, htime, hold]
  rw [addNode, if_neg hlocal, if_pos h]
  congr 1
  induction before with
  | nil => simp [List.findIdx_cons, hfound, hcopy]
  | cons r before ih =>
    obtain ⟨hr, hbefore⟩ := List.forall_mem_cons.1 hbefore
    simp [List.findIdx_cons, hr, ih hbefore]

/-- **A hash never vouches for the contents of a message.**  All messages that are accepted with it
are equal exactly if there is none; and once there is one, every other with its state and watchdog
port is accepted as well, and overwrites the record of the node it names. -/
theorem hash_never_vouches (authhash : Bytes) :
    ((∀ node node', verifyAuthhashForNode w node authhash = true →
        verifyAuthhashForNode w node' authhash = true → node = node') ↔
      ∀ node, verifyAuthhashForNode w node authhash = false) ∧
    ∀ node, verifyAuthhashForNode w node authhash = true → ∀ node',
      (verifyAuthhashForNode w node' authhash = true ↔
        node'.state = node.state ∧ node'.wdPort = node.wdPort) ∧
      (node'.state = node.state → node'.wdPort = node.wdPort →
        ∀ localId ≠ node'.pgbalancerNodeId, node'.currentStateTime ≠ 0 → ∀ addr before old after,
          old.identity = node'.identity → (∀ r ∈ before, identifies addr node' r = false) →
            addNode w localId (before ++ old :: after) addr node' authhash =
              some (before ++ node' :: after)) := by
  refine ⟨⟨fun hequal node => ?_, fun hnone node _ h => ?_⟩, fun node h node' => ?_⟩
  · by_contra hverified
    have h := Bool.eq_true_of_not_eq_false hverified
    -- the name of the node is not hashed
    have hother := hequal node { node with nodeName := 0 :: node.nodeName } h
      ((verify_iff w h).2 ⟨rfl, rfl⟩)
    simpa using congrArg WatchdogNode.nodeName hother
  · simp [hnone node] at h
  · refine ⟨verify_iff w h, fun hstate hport localId hlocal htime addr before old after => ?_⟩
    exact addNode_overwrites w ((verify_iff w h).2 ⟨hstate, hport⟩) hlocal.symm htime

/-- With the hash of a node's message another one sets its priority, its escalation and its
quorum. -/
theorem other_contents_accepted :
    let w : KeyedHash := ⟨[107], by decide, id, Function.injective_id⟩
    let node : WatchdogNode := ⟨1, 9000, 9999, 1, 1, [104], [110], [], [], (1, 0), 5, 6, 0, 0, 0⟩
    let forged := { node with wdPriority := 9, escalated := 1, quorumStatus := 1 }
    addNode w 0 [node] [] node (nodeStr node) = some [node] ∧
      addNode w 0 [node] [] forged (nodeStr node) = some [forged] := by
  decide +kernel

end PgBalancer.Watchdog
