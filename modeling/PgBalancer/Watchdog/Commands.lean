import PgBalancer.Lib.Census

/-!
# Commands of the watchdog and the replies to them

The watchdog sends a command to some of the remote nodes and waits for their replies.  A reply
is matched with a command by the command id alone, and the command is finished when as many
replies have been counted as packets have been sent.  There are two lists of commands: those
the watchdog issues itself, and those that forward a request of the local pgbalancer.

The entry of a node in a command also says what really happened between the two, which the
source does not record: whether the command has been sent to the node, what the node has
answered to it, and whether the node has been lost since.

* `command_completes_when_answered` — **a command is finished only by the answers of its
  nodes**, if every packet that is counted is the first answer of a node to that command.
-/

namespace PgBalancer.Watchdog.Commands

open Census List

/-! ## The data -/

/-- The packet types that the processors of replies tell apart. -/
inductive PacketType where
  | accept
  | reject
  | error
  | info
  | data
  | cmdReplyInData
  | other
  deriving DecidableEq

/-- `WDNodeCommandState` -/
inductive NodeCommandState where
  | init
  | sent
  | replied
  | sendError
  | doNotSend
  deriving DecidableEq

/-- `WDCommandStatus` -/
inductive CommandStatus where
  | empty
  | inProgress
  | finishedTimeout
  | finishedAllReplied
  | finishedNodeRejected
  | finishedSendFailed
  deriving DecidableEq

/-- The type of the packet that is sent. -/
inductive CommandType where
  | internal
  | failover
  | onlineRecovery
  | getLeaderData
  deriving DecidableEq

/-- `WDCommandNodeResult`: the state the source keeps, and what happened. -/
structure NodeResult where
  cmdState : NodeCommandState
  /-- the packet has been sent to the node -/
  sentTo : Bool
  /-- the node has answered the command, and its answer accepts it or has data -/
  accepted : Bool
  /-- the node has answered the command with a rejection or an error -/
  rejected : Bool
  /-- the node has been lost since the packet was sent -/
  lost : Bool
  deriving DecidableEq

/-- `clear_command_node_result` -/
def NodeResult.cleared : NodeResult := ⟨.init, false, false, false, false⟩

/-- `WDCommandData`.  The `serial` tells the commands apart whatever their ids are. -/
structure Command (n : Nat) where
  serial : Nat
  type : CommandType
  commandId : Nat
  nodeResults : Fin n → NodeResult
  /-- `none` means to all -/
  sendToNode : Option (Fin n)
  commandStatus : CommandStatus
  commandSendToCount : Nat
  commandSendToErrorCount : Nat
  commandReplyFromCount : Nat

/-- A packet of a remote node; `answers` is the command that the node is answering with it. -/
structure Packet where
  type : PacketType
  commandId : Nat
  answers : Option Nat
  deriving DecidableEq

/-- `g_cluster`, as far as commands are concerned, and the commands that have been finished. -/
structure CommandSystem (n : Nat) where
  nextCommandID : Nat
  nextSerial : Nat
  clusterCommands : List (Command n)
  ipcCommands : List (Command n)
  finished : List (Command n)

variable {n replies sends : Nat}

namespace Command

/-- Change what is known of a node. -/
def setResult (c : Command n) (i : Fin n) (r : NodeResult) : Command n :=
  { c with nodeResults := Function.update c.nodeResults i r }

/-- Set `cmdState` of a node. -/
def setState (c : Command n) (i : Fin n) (state : NodeCommandState) : Command n :=
  c.setResult i { c.nodeResults i with cmdState := state }

/-- A packet has been sent to the node `i`. -/
def sent (c : Command n) (i : Fin n) : Command n :=
  { c.setResult i ⟨.sent, true, false, false, false⟩ with
    commandSendToCount := c.commandSendToCount + 1 }

/-- The packet could not be sent to the node. -/
def sendFailed (c : Command n) (i : Fin n) : Command n :=
  { c.setState i .sendError with commandSendToErrorCount := c.commandSendToErrorCount + 1 }

/-- `create_command_object` and `allocate_resultNodes_in_command` -/
def create (serial : Nat) (type : CommandType) (commandId : Nat) (sendToNode : Option (Fin n))
    (status : CommandStatus) : Command n :=
  ⟨serial, type, commandId, fun _ => .cleared, sendToNode, status, 0, 0, 0⟩

end Command

/-! ## Sending -/

/-- What the network does while a packet is sent to the nodes. -/
structure Network (n : Nat) where
  /-- `is_node_active` -/
  active : Fin n → Bool
  /-- `is_node_reachable` -/
  reachable : Fin n → Bool
  /-- the result of `send_message_to_node` -/
  sends : Fin n → Bool

/-- `issue_watchdog_internal_command`, the body of the loop over all nodes -/
def issueToNode (net : Network n) (c : Command n) (i : Fin n) : Command n :=
  if net.active i = false then c.setState i .doNotSend
  else if net.sends i then c.sent i
  else c.setState i .sendError

/-- `issue_watchdog_internal_command` -/
def issueWatchdogInternalCommand (net : Network n) (serial commandId : Nat)
    (sendToNode : Option (Fin n)) : Command n :=
  let c := Command.create serial .internal commandId sendToNode .inProgress
  match sendToNode with
  | none => (List.finRange n).foldl (issueToNode net) c
  | some i => if net.sends i then c.sent i else c.setState i .sendError

/-- `send_command_packet_to_remote_nodes`, the body of its loop.  Its callers all pass
`source_included = true`, so that the branch for the originator is never taken. -/
def sendToRemoteNode (net : Network n) (c : Command n) (i : Fin n) : Command n :=
  if c.sendToNode ≠ none ∧ c.sendToNode ≠ some i then c.setState i .doNotSend
  else if net.active i = false then c.setState i .doNotSend
  else if net.reachable i = false then c.sendFailed i
  else if net.sends i then c.sent i
  else c.sendFailed i

/-- `send_command_packet_to_remote_nodes` -/
def sendCommandPacketToRemoteNodes (net : Network n) (c : Command n) : Command n :=
  (List.finRange n).foldl (sendToRemoteNode net) c

/-- `service_internal_command`, for one node of one command -/
def resendInternal (net : Network n) (c : Command n) (i : Fin n) : Command n :=
  if (c.nodeResults i).cmdState = .sendError ∧ net.active i ∧ net.reachable i ∧ net.sends i then
    c.sent i
  else c

/-- `service_ipc_commands`, for one node of one command.  The loop is left when the error
count is zero. -/
def resendIpc (net : Network n) (c : Command n) (i : Fin n) : Command n :=
  if c.commandSendToErrorCount ≠ 0 ∧ (c.nodeResults i).cmdState = .sendError ∧
      net.active i ∧ net.reachable i ∧ net.sends i then
    { c.sent i with commandSendToErrorCount := c.commandSendToErrorCount - 1 }
  else c

/-! ## Replies and losses -/

/-- The answer is no. -/
def PacketType.rejects : PacketType → Bool
  | .reject | .error => true
  | _ => false

/-- `watchdog_internal_command_packet_processor`, what is done with the command found -/
def watchdogInternalCommandPacketProcessor (c : Command n) (i : Fin n) (type : PacketType) :
    Command n :=
  let c := { c.setState i .replied with commandReplyFromCount := c.commandReplyFromCount + 1 }
  if c.commandReplyFromCount ≥ c.commandSendToCount then
    if type.rejects then { c with commandStatus := .finishedNodeRejected }
    else { c with commandStatus := .finishedAllReplied }
  else if type.rejects then { c with commandStatus := .finishedNodeRejected }
  else c

/-- `reply_is_received_for_pgpool_replicate_command` -/
def replyIsReceivedForPgpoolReplicateCommand (c : Command n) (i : Fin n) (type : PacketType) :
    Command n :=
  let c := { c.setState i .replied with commandReplyFromCount := c.commandReplyFromCount + 1 }
  if type ≠ .accept then { c with commandStatus := .finishedNodeRejected }
  else if c.commandReplyFromCount ≥ c.commandSendToCount then
    { c with commandStatus := .finishedAllReplied }
  else c

/-- `wd_command_processor_for_node_lost_event` -/
def wdCommandProcessorForNodeLostEvent (c : Command n) (i : Fin n) : Command n :=
  match c.sendToNode with
  | some j => if j = i then { c with commandStatus := .finishedSendFailed } else c
  | none =>
    if (c.nodeResults i).cmdState = .sent then
      let c := { c.setState i .doNotSend with commandSendToCount := c.commandSendToCount - 1 }
      if c.commandSendToCount ≤ c.commandReplyFromCount then
        { c with commandStatus := .finishedAllReplied }
      else c
    else c

/-- The command is to be removed from its list. -/
def Command.isFinished (c : Command n) : Bool :=
  match c.commandStatus with
  | .empty | .inProgress => false
  | _ => true

/-- `get_wd_command_from_reply`: the first command with the id of the packet -/
def getWdCommandFromReply (commands : List (Command n)) (pkt : Packet) : Option (Command n) :=
  commands.find? fun c => c.commandId == pkt.commandId

/-- The list with the command found replaced by what the processor made of it, or without it
if that is finished. -/
def replaceCommand (commands : List (Command n)) (pkt : Packet) (c : Command n) :
    List (Command n) :=
  if c.isFinished then commands.eraseP fun c => c.commandId == pkt.commandId
  else commands.set (commands.findIdx fun c => c.commandId == pkt.commandId) c

/-- The command that `watchdog_internal_command_packet_processor` takes the packet for a reply
to. -/
def clusterReply (s : CommandSystem n) (pkt : Packet) : Option (Command n) :=
  (getWdCommandFromReply s.clusterCommands pkt).filter fun c =>
    c.commandStatus == .inProgress &&
      [PacketType.error, .accept, .reject, .info].contains pkt.type

/-- The command that `wd_commands_packet_processor` takes the packet for a reply to, when it
goes on to `reply_is_received_for_pgpool_replicate_command`. -/
def ipcReply (s : CommandSystem n) (pkt : Packet) : Option (Command n) :=
  (getWdCommandFromReply s.ipcCommands pkt).filter fun c =>
    c.type == .onlineRecovery && [PacketType.accept, .reject, .error].contains pkt.type

/-- What the packet answers is noted in the command. -/
def Command.noteAnswer (i : Fin n) (pkt : Packet) (c : Command n) : Command n :=
  if pkt.answers = some c.serial then
    c.setResult i { c.nodeResults i with
      accepted := (c.nodeResults i).accepted || !pkt.type.rejects
      rejected := (c.nodeResults i).rejected || pkt.type.rejects }
  else c

/-- The loss of a node is noted in the command. -/
def Command.noteLoss (i : Fin n) (c : Command n) : Command n :=
  c.setResult i { c.nodeResults i with lost := true }

namespace CommandSystem

/-- No command has been issued. -/
def start : CommandSystem n := ⟨1, 0, [], [], []⟩

/-- `get_next_commandID`, a counter of 32 bits -/
def getNextCommandID (s : CommandSystem n) : CommandSystem n :=
  { s with nextCommandID := (s.nextCommandID + 1) % 2 ^ 32 }

/-- Every pending command, of either list -/
def mapCommands (s : CommandSystem n) (f : Command n → Command n) : CommandSystem n :=
  { s with clusterCommands := s.clusterCommands.map f, ipcCommands := s.ipcCommands.map f }

/-- `watchdog_internal_command_packet_processor`, and if it does not take the packet
`wd_commands_packet_processor` -/
def packetReceived (s : CommandSystem n) (i : Fin n) (pkt : Packet) : CommandSystem n :=
  match clusterReply s pkt with
  | some c =>
    let c' := watchdogInternalCommandPacketProcessor c i pkt.type
    { s with
      clusterCommands := replaceCommand s.clusterCommands pkt c'
      finished := s.finished ++ [c'].filter Command.isFinished }
  | none =>
    match pkt.type with
    -- the data is written to the socket of the pgbalancer process, and the command deleted
    | .data | .cmdReplyInData =>
      { s with ipcCommands := s.ipcCommands.eraseP fun c => c.commandId == pkt.commandId }
    | _ =>
      match ipcReply s pkt with
      | some c =>
        let c' := replyIsReceivedForPgpoolReplicateCommand c i pkt.type
        { s with
          ipcCommands := replaceCommand s.ipcCommands pkt c'
          finished := s.finished ++ [c'].filter Command.isFinished }
      | none => s

/-- `node_lost_while_ipc_command` -/
def nodeLostWhileIpcCommand (s : CommandSystem n) (i : Fin n) : CommandSystem n :=
  let commands := s.ipcCommands.map (wdCommandProcessorForNodeLostEvent · i)
  { s with
    ipcCommands := commands.filter fun c => !c.isFinished
    finished := s.finished ++ commands.filter Command.isFinished }

/-- `check_for_current_command_timeout` -/
def checkForCurrentCommandTimeout (s : CommandSystem n) (expired : Nat → Bool) : CommandSystem n :=
  let commands := s.clusterCommands.map fun c =>
    if c.commandStatus = .inProgress ∧ expired c.serial then
      { c with commandStatus := .finishedTimeout }
    else c
  { s with
    clusterCommands := commands.filter fun c => !c.isFinished
    finished := s.finished ++ commands.filter Command.isFinished }

end CommandSystem

/-- What happens to the watchdog. -/
inductive Event (n : Nat) where
  /-- a message or failover object that is no command takes a command id -/
  | takeCommandID
  | internalCommand (net : Network n) (sendToNode : Option (Fin n))
  | ipcCommand (net : Network n) (type : CommandType) (sendToNode : Option (Fin n))
  | packet (i : Fin n) (pkt : Packet)
  | nodeLost (i : Fin n)
  | serviceInternalCommand (net : Nat → Network n)
  | serviceIpcCommands (net : Nat → Network n)
  | commandTimeout (expired : Nat → Bool)

open CommandSystem

/-- What an event does. -/
def step (s : CommandSystem n) : Event n → CommandSystem n
  | .takeCommandID => s.getNextCommandID
  | .internalCommand net sendToNode =>
    let s := s.getNextCommandID
    { s with
      nextSerial := s.nextSerial + 1
      clusterCommands := s.clusterCommands ++
        [issueWatchdogInternalCommand net s.nextSerial s.nextCommandID sendToNode] }
  | .ipcCommand net type sendToNode =>
    let s := s.getNextCommandID
    let c := sendCommandPacketToRemoteNodes net
      (Command.create s.nextSerial type s.nextCommandID sendToNode .empty)
    -- the command is dropped if it could be sent to no node
    if c.commandSendToCount ≤ 0 then s
    else { s with nextSerial := s.nextSerial + 1, ipcCommands := s.ipcCommands ++ [c] }
  | .packet i pkt => (s.mapCommands (Command.noteAnswer i pkt)).packetReceived i pkt
  | .nodeLost i => (s.mapCommands (Command.noteLoss i)).nodeLostWhileIpcCommand i
  | .serviceInternalCommand net =>
    { s with clusterCommands := s.clusterCommands.map fun c =>
        (List.finRange n).foldl (resendInternal (net c.serial)) c }
  | .serviceIpcCommands net =>
    { s with ipcCommands := s.ipcCommands.map fun c =>
        (List.finRange n).foldl (resendIpc (net c.serial)) c }
  | .commandTimeout expired => s.checkForCurrentCommandTimeout expired

/-- The commands after some events. -/
def run (evs : List (Event n)) : CommandSystem n := evs.foldl step .start

/-! ## What the counters count -/

/-- The command is at the node. -/
def NodeResult.isSent (r : NodeResult) : Bool := decide (r.cmdState = .sent)

/-- A reply has been counted. -/
def NodeResult.isReplied (r : NodeResult) : Bool := decide (r.cmdState = .replied)

open NodeResult (isReplied isSent cleared)

/-- The state of a node agrees with what happened. -/
structure NodeResult.Ok (r : NodeResult) : Prop where
  sent : r.cmdState = .sent → r.sentTo = true
  replied : r.cmdState = .replied → r.sentTo = true ∧ (r.accepted = true ∨ r.rejected = true)
  sentTo : r.sentTo = true → r.cmdState = .sent ∨ r.cmdState = .replied ∨ r.lost = true

/-- The counters count the nodes, and the nodes are all right. -/
structure Counts (ok : NodeResult → Prop) (c : Command n) : Prop where
  sends : count NodeResult.isSent c.nodeResults + count NodeResult.isReplied c.nodeResults =
    c.commandSendToCount
  replies : count NodeResult.isReplied c.nodeResults = c.commandReplyFromCount
  nodes : ∀ i, ok (c.nodeResults i)

/-- The node has not rejected the command. -/
def NodeResult.Willing (r : NodeResult) : Prop :=
  r.Ok ∧ (r.cmdState = .replied → r.accepted = true)

/-- A command that waits for replies: nobody has rejected it. -/
structure Pending (c : Command n) : Prop extends Counts NodeResult.Willing c where
  isPending : c.isFinished = false

/-- What is required of a command that is finished. -/
structure Completed (c : Command n) : Prop where
  allReplied : c.commandStatus = .finishedAllReplied →
    ∀ i, (c.nodeResults i).sentTo = true →
      (c.nodeResults i).accepted = true ∨ (c.nodeResults i).lost = true
  nodeRejected : c.commandStatus = .finishedNodeRejected →
    ∃ i, (c.nodeResults i).sentTo = true ∧ (c.nodeResults i).rejected = true
  /-- each node is counted at most once, and only if it has answered -/
  once : ∃ nodes : Finset (Fin n), nodes.card = c.commandReplyFromCount ∧
    ∀ i ∈ nodes, (c.nodeResults i).sentTo = true ∧
      ((c.nodeResults i).accepted = true ∨ (c.nodeResults i).rejected = true)

variable {c : Command n} {i : Fin n} {r : NodeResult} {ok ok' : NodeResult → Prop}
  {state : NodeCommandState} {status : CommandStatus} {f : Command n → Fin n → Command n}

section

variable (hsends : sends + (c.nodeResults i).isSent.toNat + (c.nodeResults i).isReplied.toNat =
    c.commandSendToCount + r.isSent.toNat + r.isReplied.toNat)
  (hreplies : replies + (c.nodeResults i).isReplied.toNat =
    c.commandReplyFromCount + r.isReplied.toNat)
include hsends hreplies

theorem Counts.update (h : Counts ok c) (hok : ∀ r, ok r → ok' r) (hr : ok' r) :
    Counts ok' { c.setResult i r with
      commandSendToCount := sends, commandReplyFromCount := replies } := by
  have hs := count_update isSent c.nodeResults i r
  have hp := count_update isReplied c.nodeResults i r
  have h1 := h.sends
  have h2 := h.replies
  refine ⟨?_, ?_, (Function.forall_update_iff _ fun _ => ok').2 ⟨hr, fun j _ => hok _ (h.nodes j)⟩⟩
  · show count _ (Function.update c.nodeResults i r) + count _ (Function.update c.nodeResults i r) =
      sends
    omega
  · show count _ (Function.update c.nodeResults i r) = replies
    omega

theorem Pending.update (h : Pending c) (hr : r.Willing) : Pending { c.setResult i r with
      commandSendToCount := sends, commandReplyFromCount := replies } :=
  ⟨h.toCounts.update hsends hreplies (fun _ h => h) hr, h.isPending⟩

end

theorem Pending.note (h : Pending c) (hstate : r.cmdState = (c.nodeResults i).cmdState)
    (hsent : r.sentTo = (c.nodeResults i).sentTo)
    (hacc : (c.nodeResults i).accepted = true → r.accepted = true)
    (hrej : (c.nodeResults i).rejected = true → r.rejected = true)
    (hlost : (c.nodeResults i).lost = true → r.lost = true) : Pending (c.setResult i r) := by
  obtain ⟨hok, haccepted⟩ := h.nodes i
  refine h.update ?_ ?_ ⟨⟨?_, ?_, ?_⟩, ?_⟩
  · simp [isSent, isReplied, hstate]
  · simp [isReplied, hstate]
  · rw [hstate, hsent]
    exact hok.sent
  · rw [hstate, hsent]
    exact fun hreplied => (hok.replied hreplied).imp id (Or.imp hacc hrej)
  · rw [hstate, hsent]
    exact fun hto => (hok.sentTo hto).imp id (Or.imp id hlost)
  · rw [hstate]
    exact fun hreplied => hacc (haccepted hreplied)

theorem Pending.noteAnswer (h : Pending c) (i : Fin n) (pkt : Packet) :
    Pending (c.noteAnswer i pkt) := by
  unfold Command.noteAnswer
  split
  · apply h.note <;> simp +contextual
  · exact h

theorem Pending.noteLoss (h : Pending c) (i : Fin n) : Pending (c.noteLoss i) := by
  apply h.note <;> simp

/-- A node the command has not been sent to. -/
def NodeResult.Unsent (r : NodeResult) : Prop :=
  r.cmdState ≠ .sent ∧ r.cmdState ≠ .replied

theorem Pending.sent (h : Pending c) (hi : (c.nodeResults i).Unsent) : Pending (c.sent i) := by
  apply h.update (r := ⟨.sent, true, false, false, false⟩)
  · simp [isSent, isReplied, hi.1, hi.2]
  · simp [isReplied, Command.setResult, hi.2]
  · exact ⟨⟨fun _ => rfl, nofun, fun _ => .inl rfl⟩, nofun⟩

theorem Pending.setState (h : Pending c) (hi : (c.nodeResults i).Unsent) (hs : state ≠ .sent)
    (hr : state ≠ .replied) : Pending (c.setState i state) := by
  apply h.update (r := { c.nodeResults i with cmdState := state })
  · simp [isSent, isReplied, hi.1, hi.2, hs, hr]
  · simp [isReplied, hi.2, hr]
  · refine ⟨⟨fun hc => absurd hc hs, fun hc => absurd hc hr, fun hto => ?_⟩, fun hc => absurd hc hr⟩
    rcases (h.nodes i).1.sentTo hto with hsent | hreplied | hlost
    · exact absurd hsent hi.1
    · exact absurd hreplied hi.2
    · exact .inr (.inr hlost)

theorem Pending.errorCount (h : Pending c) (k : Nat) :
    Pending { c with commandSendToErrorCount := k } :=
  ⟨⟨h.sends, h.replies, h.nodes⟩, h.isPending⟩

/-! ## Sending keeps the counters -/

variable {commandId : Nat} {sendToNode : Option (Fin n)}

theorem pending_create (serial : Nat) (type : CommandType) (commandId : Nat)
    (sendToNode : Option (Fin n)) (hs : status = .empty ∨ status = .inProgress) :
    Pending (Command.create serial type commandId sendToNode status) := by
  have hsent : count isSent (fun _ : Fin n => cleared) = 0 :=
    count_eq_zero fun _ => rfl
  have hreplied : count isReplied (fun _ : Fin n => cleared) = 0 :=
    count_eq_zero fun _ => rfl
  refine ⟨⟨?_, hreplied, fun i => ⟨⟨nofun, nofun, nofun⟩, nofun⟩⟩, ?_⟩
  · show count isSent (fun _ : Fin n => cleared) +
      count isReplied (fun _ : Fin n => cleared) = 0
    rw [hsent, hreplied]
  · rcases hs with rfl | rfl <;> rfl

/-- The command `d` is `c` after something was done about the node `i`. -/
def Addressed (c : Command n) (i : Fin n) (d : Command n) : Prop :=
  Pending d ∧ ∀ j, j ≠ i → d.nodeResults j = c.nodeResults j

/-- A loop over the nodes that looks at each node once, and finds it as it was allocated. -/
theorem pending_foldl_cleared
    (hf : ∀ c i, Pending c → c.nodeResults i = .cleared → Addressed c i (f c i))
    (nodes : List (Fin n)) (hnodup : nodes.Nodup) (c : Command n) (hc : Pending c)
    (hcleared : ∀ j ∈ nodes, c.nodeResults j = .cleared) : Pending (nodes.foldl f c) := by
  induction nodes generalizing c with
  | nil => exact hc
  | cons i nodes ih =>
    obtain ⟨hnot, hnodup⟩ := nodup_cons.1 hnodup
    obtain ⟨hpending, hother⟩ := hf c i hc (hcleared i mem_cons_self)
    apply ih hnodup _ hpending
    intro j hj
    have hne : j ≠ i := fun heq => hnot (heq ▸ hj)
    rw [hother j hne]
    exact hcleared j (mem_cons_of_mem i hj)

theorem pending_foldl (hf : ∀ c i, Pending c → Pending (f c i)) (nodes : List (Fin n))
    (c : Command n) (hc : Pending c) : Pending (nodes.foldl f c) := by
  induction nodes generalizing c with
  | nil => exact hc
  | cons i nodes ih => exact ih _ (hf c i hc)

theorem unsent_cleared (h : c.nodeResults i = .cleared) : (c.nodeResults i).Unsent := by
  rw [h]
  exact ⟨by decide, by decide⟩

section

variable (h : Pending c) (hi : c.nodeResults i = .cleared)
include h hi

theorem addressed_sent : Addressed c i (c.sent i) :=
  ⟨h.sent (unsent_cleared hi), fun _ hj => Function.update_of_ne hj _ _⟩

theorem addressed_idle (hs : state ≠ .sent) (hr : state ≠ .replied) :
    Addressed c i (c.setState i state) :=
  ⟨h.setState (unsent_cleared hi) hs hr, fun _ hj => Function.update_of_ne hj _ _⟩

theorem addressed_sendFailed : Addressed c i (c.sendFailed i) :=
  (addressed_idle h hi (by decide) (by decide)).imp_left (·.errorCount _)

end

section

variable (net : Network n)

theorem pending_issueToNode (c : Command n) (i : Fin n) (h : Pending c)
    (hi : c.nodeResults i = .cleared) : Addressed c i (issueToNode net c i) := by
  unfold issueToNode
  split_ifs
  · exact addressed_idle h hi (by decide) (by decide)
  · exact addressed_sent h hi
  · exact addressed_idle h hi (by decide) (by decide)

theorem pending_sendToRemoteNode (c : Command n) (i : Fin n) (h : Pending c)
    (hi : c.nodeResults i = .cleared) : Addressed c i (sendToRemoteNode net c i) := by
  unfold sendToRemoteNode
  split_ifs
  · exact addressed_idle h hi (by decide) (by decide)
  · exact addressed_idle h hi (by decide) (by decide)
  · exact addressed_sendFailed h hi
  · exact addressed_sent h hi
  · exact addressed_sendFailed h hi

theorem pending_issueWatchdogInternalCommand (serial : Nat) :
    Pending (issueWatchdogInternalCommand net serial commandId sendToNode) := by
  have hc := pending_create serial .internal commandId sendToNode (.inr rfl)
  cases sendToNode with
  | none =>
    exact pending_foldl_cleared (pending_issueToNode net) _ (nodup_finRange n) _ hc
      fun _ _ => rfl
  | some i =>
    dsimp only [issueWatchdogInternalCommand]
    split
    · exact hc.sent (unsent_cleared rfl)
    · exact hc.setState (unsent_cleared rfl) (by decide) (by decide)

theorem pending_sendCommandPacketToRemoteNodes (serial : Nat)
    (type : CommandType) : Pending (sendCommandPacketToRemoteNodes net
      (Command.create serial type commandId sendToNode .empty)) :=
  pending_foldl_cleared (pending_sendToRemoteNode net) _ (nodup_finRange n) _
    (pending_create serial type commandId sendToNode (.inl rfl)) fun _ _ => rfl

end

theorem unsent_of_sendError (h : (c.nodeResults i).cmdState = .sendError) :
    (c.nodeResults i).Unsent := by
  simp [NodeResult.Unsent, h]

theorem pending_resendInternal (net : Network n) (c : Command n) (i : Fin n) (h : Pending c) :
    Pending (resendInternal net c i) := by
  unfold resendInternal
  split_ifs with hcond
  · exact h.sent (unsent_of_sendError hcond.1)
  · exact h

theorem pending_resendIpc (net : Network n) (c : Command n) (i : Fin n) (h : Pending c) :
    Pending (resendIpc net c i) := by
  unfold resendIpc
  split_ifs with hcond
  · exact (h.sent (unsent_of_sendError hcond.2.1)).errorCount _
  · exact h

/-! ## Finishing a command -/

theorem Counts.once (h : Counts NodeResult.Ok c) : ∃ nodes : Finset (Fin n),
    nodes.card = c.commandReplyFromCount ∧ ∀ i ∈ nodes, (c.nodeResults i).sentTo = true ∧
      ((c.nodeResults i).accepted = true ∨ (c.nodeResults i).rejected = true) := by
  refine ⟨Finset.univ.filter fun i => (c.nodeResults i).isReplied = true, ?_, ?_⟩
  · rw [← count_eq_card_filter]
    exact h.replies
  · intro i hi
    have hreplied : (c.nodeResults i).cmdState = .replied := by
      simpa [isReplied] using hi
    exact (h.nodes i).replied hreplied

theorem Pending.counts (h : Pending c) : Counts NodeResult.Ok c :=
  ⟨h.sends, h.replies, fun i => (h.nodes i).1⟩

theorem Pending.allReplied (h : Pending c) (hle : c.commandSendToCount ≤ c.commandReplyFromCount) :
    Completed { c with commandStatus := .finishedAllReplied } := by
  have hnone : count isSent c.nodeResults = 0 := by
    have h1 := h.sends
    have h2 := h.replies
    omega
  refine ⟨fun _ i hto => ?_, nofun, h.counts.once⟩
  rcases (h.nodes i).1.sentTo hto with hsent | hreplied | hlost
  · have := not_of_count_eq_zero hnone i
    simp [isSent, hsent] at this
  · exact .inl ((h.nodes i).2 hreplied)
  · exact .inr hlost

theorem Pending.given_up (h : Pending c) (ha : status ≠ .finishedAllReplied)
    (hr : status ≠ .finishedNodeRejected) : Completed { c with commandStatus := status } :=
  ⟨fun hs => absurd hs ha, fun hs => absurd hs hr, h.counts.once⟩

/-- The answer of a node that is counted. -/
structure Answered (c : Command n) (i : Fin n) (type : PacketType) : Prop where
  sent : (c.nodeResults i).cmdState = .sent
  accepted : type.rejects = false → (c.nodeResults i).accepted = true
  rejected : type.rejects = true → (c.nodeResults i).rejected = true

/-- The command after a reply has been counted. -/
def counted (c : Command n) (i : Fin n) : Command n :=
  { c.setState i .replied with commandReplyFromCount := c.commandReplyFromCount + 1 }

variable {type : PacketType}

theorem Counts.counted (h : Counts ok c) (ha : Answered c i type) (hok : ∀ r, ok r → ok' r)
    (hr : ok' { c.nodeResults i with cmdState := .replied }) : Counts ok' (counted c i) := by
  refine h.update ?_ ?_ hok hr
  · simp [isSent, isReplied, Command.setState, Command.setResult, ha.sent]
  · simp [isReplied, ha.sent]

theorem Pending.counted_accept (h : Pending c) (ha : Answered c i type)
    (htype : type.rejects = false) : Pending (counted c i) := by
  have hto := (h.nodes i).1.sent ha.sent
  have hacc := ha.accepted htype
  refine ⟨h.toCounts.counted ha (fun _ h => h) ⟨⟨nofun, ?_, ?_⟩, fun _ => hacc⟩, h.isPending⟩
  · exact fun _ => ⟨hto, .inl hacc⟩
  · exact fun _ => .inr (.inl rfl)

theorem Pending.counted_reject (h : Pending c) (ha : Answered c i type)
    (htype : type.rejects = true) :
    Completed { counted c i with commandStatus := .finishedNodeRejected } := by
  have hto := (h.nodes i).1.sent ha.sent
  have hrej := ha.rejected htype
  have hcounts : Counts NodeResult.Ok (counted c i) := by
    apply h.toCounts.counted ha fun _ h => h.1
    exact ⟨nofun, fun _ => ⟨hto, .inr hrej⟩, fun _ => .inr (.inl rfl)⟩
  refine ⟨nofun, fun _ => ⟨i, ?_⟩, hcounts.once⟩
  simp [counted, Command.setState, Command.setResult, hto, hrej]

/-- What a processor makes of a pending command. -/
def Processed (c : Command n) : Prop :=
  if c.isFinished then Completed c else Pending c

theorem Pending.processed (h : Pending c) : Processed c := by
  rw [Processed, h.isPending]
  exact h

/-- The command after a reply that accepts or rejects it. -/
def replied (c : Command n) (i : Fin n) (type : PacketType) : Command n :=
  if type.rejects then { counted c i with commandStatus := .finishedNodeRejected }
  else if (counted c i).commandReplyFromCount ≥ (counted c i).commandSendToCount then
    { counted c i with commandStatus := .finishedAllReplied }
  else counted c i

theorem processed_replied (h : Pending c) (ha : Answered c i type) :
    Processed (replied c i type) := by
  unfold replied
  split_ifs with htype hle
  · exact h.counted_reject ha htype
  · exact (h.counted_accept ha (by simpa using htype)).allReplied hle
  · exact (h.counted_accept ha (by simpa using htype)).processed

theorem internal_eq_replied :
    watchdogInternalCommandPacketProcessor c i type = replied c i type := by
  by_cases htype : type.rejects = true <;>
    simp [watchdogInternalCommandPacketProcessor, replied, counted, htype]

theorem replicate_eq_replied (htype : type = .accept ∨ type.rejects = true) :
    replyIsReceivedForPgpoolReplicateCommand c i type = replied c i type := by
  rcases htype with rfl | hreject
  · rfl
  · have hne : type ≠ .accept := by
      rintro rfl
      cases hreject
    simp [replyIsReceivedForPgpoolReplicateCommand, replied, counted, hne, hreject]

/-- The loss of a node that was sent the command leaves it pending or completes it. -/
theorem processed_lost (h : Pending c) (hlost : (c.nodeResults i).lost = true) :
    Processed (wdCommandProcessorForNodeLostEvent c i) := by
  unfold wdCommandProcessorForNodeLostEvent
  split
  · split_ifs
    · exact h.given_up (by decide) (by decide)
    · exact h.processed
  · split_ifs with hsent
    · have hp : Pending { c.setState i .doNotSend with
          commandSendToCount := c.commandSendToCount - 1 } := by
        have hpos : 0 < count isSent c.nodeResults :=
          count_pos (i := i) (by simp [isSent, hsent])
        have h1 := h.sends
        apply h.update (r := { c.nodeResults i with cmdState := .doNotSend })
        · simp only [isSent, isReplied, hsent]
          show _ + 1 + 0 = _ + 0 + 0
          omega
        · simp [isReplied, Command.setState, Command.setResult, hsent]
        · exact ⟨⟨nofun, nofun, fun _ => .inr (.inr hlost)⟩, nofun⟩
      dsimp only
      split_ifs with hle
      · exact hp.allReplied hle
      · exact hp.processed
    · exact h.processed

/-! ## Steps and runs -/

/-- The command in which a packet is counted as a reply. -/
def countedReply (s : CommandSystem n) (pkt : Packet) : Option (Command n) :=
  (clusterReply s pkt).or (ipcReply s pkt)

/-- A packet that is counted as a reply to a command is the answer of a node to this command,
and the first one: the node has been sent the command and nothing has been counted for it. -/
def SoundEvent (s : CommandSystem n) : Event n → Prop
  | .packet i pkt => ∀ c, countedReply s pkt = some c →
      pkt.answers = some c.serial ∧ (c.nodeResults i).cmdState = .sent
  | _ => True

/-- Every event of the run is sound. -/
def SoundRun (s : CommandSystem n) : List (Event n) → Prop
  | [] => True
  | ev :: evs => SoundEvent s ev ∧ SoundRun (step s ev) evs

/-- What every sound event keeps. -/
structure CommandInv (s : CommandSystem n) : Prop where
  cluster : ∀ c ∈ s.clusterCommands, Pending c
  ipc : ∀ c ∈ s.ipcCommands, Pending c
  finished : ∀ c ∈ s.finished, Completed c

variable {s : CommandSystem n} {pkt : Packet} {commands new old : List (Command n)}

theorem CommandInv.mapCommands (h : CommandInv s) {f : Command n → Command n}
    (hf : ∀ c, Pending c → Pending (f c)) : CommandInv (s.mapCommands f) := by
  refine ⟨?_, ?_, h.finished⟩
  · exact forall_mem_map.2 fun c hmem => hf c (h.cluster c hmem)
  · exact forall_mem_map.2 fun c hmem => hf c (h.ipc c hmem)

theorem Processed.completed (h : Processed c) (hf : c.isFinished = true) : Completed c := by
  rwa [Processed, if_pos hf] at h

theorem Processed.pending (h : Processed c) (hf : c.isFinished = false) : Pending c := by
  rwa [Processed, hf] at h

theorem pending_replaceCommand (h : ∀ c ∈ commands, Pending c) (hc : Processed c) :
    ∀ d ∈ replaceCommand commands pkt c, Pending d := by
  intro d hd
  unfold replaceCommand at hd
  split_ifs at hd with hf
  · exact h d (mem_of_mem_eraseP hd)
  · rcases mem_or_eq_of_mem_set hd with hmem | heq
    · exact h d hmem
    · rw [heq]
      exact hc.pending (by simpa using hf)

theorem completed_append (h : ∀ c ∈ old, Completed c) (hnew : ∀ c ∈ new, Processed c) :
    ∀ c ∈ old ++ new.filter Command.isFinished, Completed c := by
  refine forall_mem_append.2 ⟨h, fun c hc => ?_⟩
  obtain ⟨hmem, hf⟩ := mem_filter.1 hc
  exact (hnew c hmem).completed hf

theorem pending_filter (hnew : ∀ c ∈ new, Processed c) :
    ∀ c ∈ new.filter fun c => !c.isFinished, Pending c := by
  intro c hc
  obtain ⟨hmem, hf⟩ := mem_filter.1 hc
  exact (hnew c hmem).pending (by simpa using hf)

/-! ### A packet -/

section

variable (i : Fin n)

@[simp] theorem noteAnswer_frame : (c.noteAnswer i pkt).commandId = c.commandId ∧
    (c.noteAnswer i pkt).commandStatus = c.commandStatus ∧ (c.noteAnswer i pkt).type = c.type := by
  unfold Command.noteAnswer
  split <;> exact ⟨rfl, rfl, rfl⟩

theorem getWdCommandFromReply_noteAnswer :
    getWdCommandFromReply (commands.map (Command.noteAnswer i pkt)) pkt =
      (getWdCommandFromReply commands pkt).map (Command.noteAnswer i pkt) := by
  unfold getWdCommandFromReply
  rw [List.find?_map]
  congr 2
  funext c
  simp

theorem clusterReply_noteAnswer : clusterReply (s.mapCommands (Command.noteAnswer i pkt)) pkt =
      (clusterReply s pkt).map (Command.noteAnswer i pkt) := by
  simp only [clusterReply, CommandSystem.mapCommands, getWdCommandFromReply_noteAnswer,
    Option.filter_map, Function.comp_def, noteAnswer_frame]

theorem ipcReply_noteAnswer : ipcReply (s.mapCommands (Command.noteAnswer i pkt)) pkt =
      (ipcReply s pkt).map (Command.noteAnswer i pkt) := by
  simp only [ipcReply, CommandSystem.mapCommands, getWdCommandFromReply_noteAnswer,
    Option.filter_map, Function.comp_def, noteAnswer_frame]

end

variable {c : Command n} {ev : Event n}

theorem answered_noteAnswer (ha : pkt.answers = some c.serial)
    (hs : (c.nodeResults i).cmdState = .sent) : Answered (c.noteAnswer i pkt) i pkt.type := by
  rw [Command.noteAnswer, if_pos ha]
  refine ⟨?_, ?_, ?_⟩
  · simpa [Command.setResult] using hs
  · intro htype
    simp [Command.setResult, htype]
  · intro htype
    simp [Command.setResult, htype]

theorem mem_of_clusterReply (h : clusterReply s pkt = some c) : c ∈ s.clusterCommands :=
  mem_of_find?_eq_some (Option.filter_eq_some_iff.1 h).1

theorem mem_of_ipcReply (h : ipcReply s pkt = some c) :
    c ∈ s.ipcCommands ∧ (pkt.type = .accept ∨ pkt.type.rejects = true) := by
  obtain ⟨hfind, hcond⟩ := Option.filter_eq_some_iff.1 h
  refine ⟨mem_of_find?_eq_some hfind, ?_⟩
  revert hcond
  cases pkt.type <;> simp [PacketType.rejects]

/-- A packet from a node keeps the invariant. -/
theorem CommandInv.packet (h : CommandInv s) (hsound : SoundEvent s (.packet i pkt)) :
    CommandInv (step s (.packet i pkt)) := by
  have hnoted := h.mapCommands fun c hc => hc.noteAnswer i pkt
  show CommandInv ((s.mapCommands (Command.noteAnswer i pkt)).packetReceived i pkt)
  unfold CommandSystem.packetReceived
  rw [clusterReply_noteAnswer, ipcReply_noteAnswer]
  cases hcluster : clusterReply s pkt with
  | some c =>
    obtain ⟨hanswers, hsent⟩ := hsound c (by simp [countedReply, hcluster])
    have hproc := processed_replied ((h.cluster c (mem_of_clusterReply hcluster)).noteAnswer i pkt)
      (answered_noteAnswer hanswers hsent)
    rw [← internal_eq_replied] at hproc
    refine ⟨pending_replaceCommand hnoted.cluster hproc, hnoted.ipc, ?_⟩
    exact completed_append hnoted.finished (by simpa using hproc)
  | none =>
    have herase : CommandInv { s.mapCommands (Command.noteAnswer i pkt) with
        ipcCommands := (s.mapCommands (Command.noteAnswer i pkt)).ipcCommands.eraseP
          fun c => c.commandId == pkt.commandId } :=
      ⟨hnoted.cluster, fun c hc => hnoted.ipc c (mem_of_mem_eraseP hc), hnoted.finished⟩
    simp only [Option.map_none]
    split
    · exact herase
    · exact herase
    · cases hipc : ipcReply s pkt with
      | none => exact hnoted
      | some c =>
        obtain ⟨hanswers, hsent⟩ := hsound c (by simp [countedReply, hcluster, hipc])
        obtain ⟨hmem, htype⟩ := mem_of_ipcReply hipc
        have hproc := processed_replied ((h.ipc c hmem).noteAnswer i pkt)
          (answered_noteAnswer hanswers hsent)
        rw [← replicate_eq_replied htype] at hproc
        refine ⟨hnoted.cluster, pending_replaceCommand hnoted.ipc hproc, ?_⟩
        exact completed_append hnoted.finished (by simpa using hproc)

/-! ### The other events -/

theorem CommandInv.nodeLost (h : CommandInv s) : CommandInv (step s (.nodeLost i)) := by
  have hproc : ∀ c ∈ (s.mapCommands (Command.noteLoss i)).ipcCommands.map
      (wdCommandProcessorForNodeLostEvent · i), Processed c := by
    intro d hd
    obtain ⟨noted, hnoted, rfl⟩ := mem_map.1 hd
    obtain ⟨c, hmem, rfl⟩ := mem_map.1 hnoted
    apply processed_lost ((h.ipc c hmem).noteLoss i)
    simp [Command.noteLoss, Command.setResult]
  have hnoted := h.mapCommands fun c hc => hc.noteLoss i
  exact ⟨hnoted.cluster, pending_filter hproc, completed_append hnoted.finished hproc⟩

theorem CommandInv.commandTimeout (h : CommandInv s) (expired : Nat → Bool) :
    CommandInv (step s (.commandTimeout expired)) := by
  have hproc : ∀ c ∈ s.clusterCommands.map (fun c =>
      if c.commandStatus = .inProgress ∧ expired c.serial then
        { c with commandStatus := .finishedTimeout }
      else c), Processed c := by
    intro d hd
    obtain ⟨c, hmem, rfl⟩ := mem_map.1 hd
    have hc := h.cluster c hmem
    split_ifs
    · exact hc.given_up (by decide) (by decide)
    · exact hc.processed
  exact ⟨pending_filter hproc, h.ipc, completed_append h.finished hproc⟩

theorem pending_append (h : ∀ d ∈ commands, Pending d) (hc : Pending c) :
    ∀ d ∈ commands ++ [c], Pending d :=
  forall_mem_append.2 ⟨h, by simpa using hc⟩

/-- Every sound event keeps the invariant. -/
theorem commandSystem_step (h : CommandInv s) (hsound : SoundEvent s ev) :
    CommandInv (step s ev) := by
  cases ev with
  | takeCommandID => exact ⟨h.cluster, h.ipc, h.finished⟩
  | internalCommand net sendToNode =>
    exact ⟨pending_append h.cluster (pending_issueWatchdogInternalCommand net _),
      h.ipc, h.finished⟩
  | ipcCommand net type sendToNode =>
    dsimp only [step]
    split
    · exact ⟨h.cluster, h.ipc, h.finished⟩
    · exact ⟨h.cluster,
        pending_append h.ipc (pending_sendCommandPacketToRemoteNodes net _ type),
        h.finished⟩
  | packet i pkt => exact h.packet hsound
  | nodeLost i => exact h.nodeLost
  | serviceInternalCommand net =>
    refine ⟨forall_mem_map.2 fun c hmem => ?_, h.ipc, h.finished⟩
    exact pending_foldl (pending_resendInternal _) _ c (h.cluster c hmem)
  | serviceIpcCommands net =>
    refine ⟨h.cluster, forall_mem_map.2 fun c hmem => ?_, h.finished⟩
    exact pending_foldl (pending_resendIpc _) _ c (h.ipc c hmem)
  | commandTimeout expired => exact h.commandTimeout expired

theorem commandSystem_run (evs : List (Event n)) (h : CommandInv s) (hsound : SoundRun s evs) :
    CommandInv (evs.foldl step s) := by
  induction evs generalizing s with
  | nil => exact h
  | cons ev evs ih => exact ih (commandSystem_step h hsound.1) hsound.2

/-- **A command is finished only by the answers of its nodes.**  In a run in which every packet
that is counted as a reply is the first answer of a node to that command, a command that is
finished with all replied has been accepted by every node it was sent to that has not been lost
since, one that is finished as rejected has been rejected by a node it was sent to, and the
replies counted are those of different nodes. -/
theorem command_completes_when_answered (evs : List (Event n)) (hsound : SoundRun .start evs) :
    ∀ c ∈ (run evs).finished, Completed c :=
  (commandSystem_run evs ⟨by simp [CommandSystem.start], by simp [CommandSystem.start],
    by simp [CommandSystem.start]⟩ hsound).finished

/-- Two remote nodes that can be reached. -/
def twoNodes : Network 2 := ⟨fun _ => true, fun _ => true, fun _ => true⟩

local instance neZeroTwo : NeZero 2 := ⟨two_ne_zero⟩

/-- A command for all nodes, which both accept. -/
def acceptedByBoth : List (Event 2) :=
  [.internalCommand twoNodes none, .packet 0 ⟨.accept, 2, some 0⟩, .packet 1 ⟨.accept, 2, some 0⟩]

/-- Both nodes accept, and the command is finished. -/
theorem accepted_by_both_completes :
    (run acceptedByBoth).finished.map (·.commandStatus) = [.finishedAllReplied] ∧
      ∀ c ∈ (run acceptedByBoth).finished, Completed c := by
  refine ⟨by decide +kernel, command_completes_when_answered acceptedByBoth ?_⟩
  refine ⟨trivial, ?_, ?_, trivial⟩
  · show ∀ c ∈ countedReply (step .start (.internalCommand twoNodes none)) ⟨.accept, 2, some 0⟩,
      some 0 = some c.serial ∧ (c.nodeResults 0).cmdState = .sent
    decide +kernel
  · show ∀ c ∈ countedReply (step (step .start (.internalCommand twoNodes none))
        (.packet 0 ⟨.accept, 2, some 0⟩)) ⟨.accept, 2, some 0⟩,
      some 0 = some c.serial ∧ (c.nodeResults 1).cmdState = .sent
    decide +kernel

/-- Only the first node answers; then it sends its node info, with a command id of its own that
happens to be the same. -/
def infoByChance : List (Event 2) :=
  [.internalCommand twoNodes none, .packet 0 ⟨.accept, 2, some 0⟩, .packet 0 ⟨.info, 2, none⟩]

/-- The second node has answered nothing, and the command is finished. -/
theorem info_message_completes_command :
    ∃ c ∈ (run infoByChance).finished, c.commandStatus = .finishedAllReplied ∧
      (c.nodeResults 1).sentTo = true ∧ (c.nodeResults 1).accepted = false ∧
      (c.nodeResults 1).lost = false := by
  decide +kernel

end PgBalancer.Watchdog.Commands
