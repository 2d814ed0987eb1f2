import Mathlib

/-!
# Destinations while replies are processed

In streaming replication mode the messages of the extended protocol wait in a queue for their
replies.  A reply is read from the nodes its message was sent to, which need not be those of the
query context any more, so `read_kind_from_backend` puts the nodes of the message into the
`where_to_send` map of the context and saves what was there.  There is one place for a saved map,
and `pool_unset_query_in_progress` writes it into whatever context is the current one.

* `settled_step` — **an event keeps the maps exactly if it is safe**.
* `destinations_kept_iff` — **whenever no reply is being processed every context has the map it
  was assigned, wherever the run is cut off by a Sync, if and only if every event is safe**.
-/

namespace PgBalancer.Destinations

open List Function

/-! ## The session -/

/-- A pointer to a query context. -/
abbrev Context := ℕ

/-- One flag for each of `MAX_NUM_BACKENDS` nodes. -/
abbrev NodeIds := Fin 128 → Bool

/-- `POOL_MESSAGE_TYPE` without `POOL_SYNC` -/
inductive MessageType where
  | parse
  | bind
  | execute
  | describe
  | close
  deriving DecidableEq

/-- `POOL_PENDING_MESSAGE` -/
structure PendingMessage where
  type : MessageType
  queryContext : Context
  nodeIds : NodeIds
  isRowsReturned : Bool
  notForwardToFrontend : Bool

/-- An entry of the queue. -/
inductive Pending where
  | sync
  | message (m : PendingMessage)

/-- The context of a pending message. -/
def Pending.context : Pending → Option Context
  | .sync => none
  | .message m => some m.queryContext

/-- The message is a `Sync`. -/
def Pending.isSync : Pending → Bool
  | .sync => true
  | .message _ => false

/-- The fields of the session that replies are processed with, and the query contexts.  A context
that is destroyed keeps its map here: the flag is unset before the context is freed, and the map
that it has then counts. -/
structure State where
  /-- `where_to_send` of each context -/
  whereToSend : Context → NodeIds
  /-- the map that was assigned last (ghost) -/
  assigned : Context → NodeIds
  /-- `is_select_query` is true for the query of the context -/
  isSelect : Context → Bool
  live : Context → Bool
  /-- the next context -/
  next : Context
  queryContext : Option Context
  inProgress : Bool
  /-- `where_to_send_save`, if `need_to_restore_where_to_send` is set -/
  whereToSendSave : Option NodeIds
  pendingMessages : List Pending
  /-- if `previous_message_exists` is set -/
  previousMessage : Option PendingMessage

/-- The node that is fixed in a session. -/
structure Cluster where
  primaryNodeId : Fin 128

/-- The kinds of messages that `read_kind_from_backend` can decide on; it skips notices and
parameter statuses itself. -/
inductive ReplyKind where
  | parseComplete
  | bindComplete
  | closeComplete
  | errorResponse
  | commandComplete
  | parameterDescription
  | emptyQueryResponse
  | rowDescription
  | noData
  | portalSuspended
  | dataRow
  | notification
  | readyForQuery
  /-- the messages of `COPY`, and others that are just forwarded -/
  | other
  deriving DecidableEq

namespace State

variable (s : State)

/-- No context yet. -/
def start : State where
  whereToSend _ _ := false
  assigned _ _ := false
  isSelect _ := false
  live _ := false
  next := 0
  queryContext := none
  inProgress := false
  whereToSendSave := none
  pendingMessages := []
  previousMessage := none

/-! ### Operations -/

/-- The maps once the reply that is being processed has ended. -/
def settled : Context → NodeIds :=
  match s.whereToSendSave, s.queryContext with
  | some saved, some c => Function.update s.whereToSend c saved
  | _, _ => s.whereToSend

/-- `pool_unset_query_in_progress` -/
def unsetQueryInProgress : State :=
  { s with inProgress := false, whereToSendSave := none, whereToSend := s.settled }

/-- `pool_pending_message_query_context_dest_set` and what stands around it when the message is
the head of the queue. -/
def beginReply (m : PendingMessage) : State :=
  { s with
    previousMessage := some m
    whereToSendSave := some (s.whereToSend m.queryContext)
    whereToSend := Function.update s.whereToSend m.queryContext m.nodeIds
    queryContext := some m.queryContext
    inProgress := true }

/-- `session_context->query_context = …; pool_set_query_in_progress()` -/
def focus (c : Context) : State := { s with queryContext := some c, inProgress := true }

/-- `pool_pending_message_add` -/
def pendingMessageAdd (p : Pending) : State :=
  { s with pendingMessages := s.pendingMessages ++ [p] }

/-- `pool_pending_message_create` and `pool_pending_message_dest_set` -/
def createMessage (type : MessageType) (c : Context) (nodeIds : NodeIds) (notForward : Bool) :
    Pending :=
  .message ⟨type, c, nodeIds, s.isSelect c, notForward⟩

/-- `pool_pending_message_pull_out` -/
def pullOut : State := { s with pendingMessages := s.pendingMessages.tail }

/-- The second loop of `can_query_context_destroy`. -/
def refersTo (c : Context) : Bool := s.pendingMessages.any fun p => p.context = some c

/-- `pool_sent_message_destroy`, for the last sent message of a context. -/
def sentMessageDestroy (c : Context) : State :=
  if s.refersTo c then s
  else
    { s.unsetQueryInProgress with
      live := Function.update s.live c false
      inProgress := s.inProgress
      queryContext := if s.queryContext = some c then none else s.queryContext }

/-- Sent messages are removed, the last ones of some contexts. -/
def removeSentMessages (removed : List Context) : State := removed.foldl sentMessageDestroy s

/-- `pool_discard_except_sync_and_ready_for_query`, which waits for a Sync if there is none. -/
def discardExceptSync : State :=
  { s with
    pendingMessages :=
      match s.pendingMessages.dropWhile fun p => !p.isSync with
      | [] => [.sync]
      | rest => rest
    previousMessage := none }

/-- A new context with its destinations. -/
def newContext (dest : NodeIds) (isSelect : Bool) : State :=
  { s with
    next := s.next + 1
    whereToSend := Function.update s.whereToSend s.next dest
    assigned := Function.update s.assigned s.next dest
    isSelect := Function.update s.isSelect s.next isSelect
    live := Function.update s.live s.next true }

/-- `pool_where_to_send` -/
def assign (c : Context) (dest : NodeIds) : State :=
  { s with
    whereToSend := Function.update s.whereToSend c dest
    assigned := Function.update s.assigned c dest }

/-! ### Replies -/

/-- `CommandComplete` -/
def commandComplete (removed : List Context) : State :=
  let s := { s.unsetQueryInProgress with previousMessage := none }
  match s.queryContext with
  | some c => if c ∈ removed then s.sentMessageDestroy c else s
  | none => s

/-- `CloseComplete` removes a sent message if the head of the queue is a Close. -/
def closeComplete (removed : List Context) : State :=
  let forwarded := !(s.previousMessage.any fun m => m.notForwardToFrontend)
  match s.pendingMessages with
  | .message m :: _ =>
    if forwarded ∧ m.type = .close then s.pullOut.removeSentMessages removed else s.pullOut
  | _ => s.pullOut

/-- The switch of `ProcessBackendResponse`. -/
def processReply (kind : ReplyKind) (removed : List Context) : State :=
  match kind with
  | .parseComplete | .bindComplete | .rowDescription | .noData | .portalSuspended =>
    s.unsetQueryInProgress
  | .closeComplete => (s.closeComplete removed).unsetQueryInProgress
  | .errorResponse => s.unsetQueryInProgress.discardExceptSync
  | .commandComplete | .emptyQueryResponse => (s.commandComplete removed).unsetQueryInProgress
  | .readyForQuery =>
    if s.inProgress then (s.removeSentMessages removed).unsetQueryInProgress else s
  | .parameterDescription | .dataRow | .notification | .other => s

/-- The message at the head is not pulled out. -/
def staysPending (type : MessageType) (kind : ReplyKind) : Bool :=
  match type with
  | .execute => kind = .dataRow || kind = .errorResponse || kind = .notification
  | .describe => kind = .parameterDescription || kind = .notification
  | .close => true
  | .parse | .bind => kind = .notification

/-- `read_kind_from_backend` up to the reading. -/
def prepareReply : State :=
  match s.pendingMessages with
  | [] =>
    match s.previousMessage with
    | some m => if m.isRowsReturned then s.focus m.queryContext else s.unsetQueryInProgress
    | none => s.unsetQueryInProgress
  | .sync :: _ => { s with queryContext := none }.unsetQueryInProgress
  | .message m :: _ => s.beginReply m

/-- `read_kind_from_backend` and `ProcessBackendResponse` -/
def reply (kind : ReplyKind) (removed : List Context) : State :=
  let stays : Bool :=
    match s.pendingMessages with
    | [] => true
    | .sync :: _ => kind = .notification
    | .message m :: _ => staysPending m.type kind
  (if stays then s.prepareReply else s.prepareReply.pullOut).processReply kind removed

/-- The reply is the end of the session: with a Sync at the head of the queue the restore writes
through a null pointer, and `pool_at_command_success` raises an error if no query is in
progress. -/
def replyFails (kind : ReplyKind) : Bool :=
  (match s.pendingMessages with
    | .sync :: _ => s.whereToSendSave.isSome
    | _ => false) ||
  ((kind = .commandComplete || kind = .emptyQueryResponse) && !s.prepareReply.inProgress)

/-! ### Messages of the client -/

/-- `Parse` -/
def parse (dest : NodeIds) (isSelect : Bool) (removed : List Context) : State :=
  let c := s.next
  let s := ((s.newContext dest isSelect).focus c).removeSentMessages removed
  (s.pendingMessageAdd (s.createMessage .parse c (s.whereToSend c) false)).unsetQueryInProgress

/-- The map with the primary only. -/
def onlyPrimary (k : Cluster) : NodeIds := fun i => decide (i = k.primaryNodeId)

/-- `parse_before_bind`, which makes a context for the primary if the statement was not parsed
there. -/
def parseBeforeBind (k : Cluster) (named : Bool) (c : Context) : State × Context :=
  if s.whereToSend c k.primaryNodeId then (s, c)
  else
    let b := s.next
    let s := s.newContext (onlyPrimary k) (s.isSelect c)
    let s := if named then s.pendingMessageAdd (s.createMessage .close b (s.whereToSend b) true)
      else s
    (s.pendingMessageAdd (s.createMessage .parse b (s.whereToSend b) true), b)

/-- The part of `Bind` that chooses the context: `parse_before_bind` is called in a writing
transaction, and `dml_adaptive` sends the statement anew. -/
def bindContext (k : Cluster) (c : Context) (beforeBind : Option Bool)
    (reroute : Option NodeIds) : State × Context :=
  let s := { s with queryContext := some c }
  let (s, b) :=
    match beforeBind with
    | some named => s.parseBeforeBind k named c
    | none => (s, c)
  match reroute with
  | some dest => (s.assign c dest, b)
  | none => (s, b)

/-- `Bind` -/
def bind (k : Cluster) (c : Context) (beforeBind : Option Bool) (reroute : Option NodeIds)
    (removed : List Context) : State :=
  let (s, b) := s.bindContext k c beforeBind reroute
  let s := (s.focus b).unsetQueryInProgress.removeSentMessages removed
  s.pendingMessageAdd (s.createMessage .bind b (s.whereToSend b) false)

/-- `Execute`, `Describe` and `Close` send a message for a context, to nodes that come from its
map. -/
def forward (type : MessageType) (c : Context) (nodes : NodeIds → NodeIds)
    (removed : List Context) : State :=
  let s := s.focus c
  ((s.pendingMessageAdd (s.createMessage type c (nodes (s.whereToSend c)) false)).removeSentMessages
    removed).unsetQueryInProgress

/-- `Execute`; `handle_query_context` removes messages for `DEALLOCATE` and `DISCARD`. -/
def execute (c : Context) (removed : List Context) : State := s.forward .execute c id removed

/-- `Describe` -/
def describe (c : Context) : State := s.forward .describe c id []

/-- `Describe` of an unknown portal: `create_dummy_query_context` -/
def describeUnknown (dest : NodeIds) : State :=
  let c := s.next
  let s := (s.newContext dest false).focus c
  (s.pendingMessageAdd (s.createMessage .describe c (s.whereToSend c) false)).unsetQueryInProgress

/-- The nodes that a Close is sent to. -/
def widen (k : Cluster) (loadBalanceNodeId : Fin 128) (nodes : NodeIds) : NodeIds :=
  if loadBalanceNodeId ≠ k.primaryNodeId then
    Function.update (Function.update nodes k.primaryNodeId true) loadBalanceNodeId true
  else nodes

/-- `Close`: the map is widened for the message only. -/
def close (k : Cluster) (c : Context) (loadBalanceNodeId : Fin 128) : State :=
  s.forward .close c (widen k loadBalanceNodeId) []

end State

/-! ## Runs -/

/-- What can happen.  `removed` are contexts whose last sent message is removed by the event. -/
inductive Event where
  | parse (dest : NodeIds) (isSelect : Bool) (removed : List Context)
  | bind (c : Context) (beforeBind : Option Bool) (reroute : Option NodeIds)
      (removed : List Context)
  /-- of a statement that does not exist -/
  | bindUnknown
  | execute (c : Context) (removed : List Context)
  | describe (c : Context)
  | describeUnknown (dest : NodeIds)
  /-- with the load balance node of the session at that time -/
  | close (c : Context) (loadBalanceNodeId : Fin 128)
  /-- of a statement or portal that does not exist -/
  | closeUnknown
  | sync
  | reply (kind : ReplyKind) (removed : List Context)

section Run

variable (k : Cluster)

/-- An event; `none` if the session ends with an error, as for a message without a context. -/
def step (s : State) : Event → Option State
  | .parse dest isSelect removed => some (s.parse dest isSelect removed)
  | .bind c beforeBind reroute removed =>
    if s.live c then some (s.bind k c beforeBind reroute removed) else none
  | .bindUnknown => some s.unsetQueryInProgress.discardExceptSync
  | .execute c removed => if s.live c then some (s.execute c removed) else none
  | .describe c => if s.live c then some (s.describe c) else none
  | .describeUnknown dest => some (s.describeUnknown dest)
  | .close c node => if s.live c then some (s.close k c node) else none
  | .closeUnknown => some s.unsetQueryInProgress
  | .sync => some (s.unsetQueryInProgress.pendingMessageAdd .sync)
  | .reply kind removed => if s.replyFails kind then none else some (s.reply kind removed)

/-- The session after some events, unless it has ended. -/
def run (es : List Event) : Option State := es.foldlM (step k) .start

/-- **The property**, after every event: while no reply is being processed each context has the
map it was assigned. -/
def KeepsDestinations (es : List Event) : Prop :=
  ∀ pre, pre <+: es → ∀ s ∈ run k pre, s.inProgress = false →
    ∀ c, s.whereToSend c = s.assigned c

end Run

/-! ## The condition -/

/-- What is wanted when the context `c`, which is assigned `dest` then, becomes the current one
while a reply for `q` is being processed: the map that is installed in `q` is its own, and the
saved one is that of `c`. -/
def SafeFocus (s : State) (saved : NodeIds) (q c : Context) (dest : NodeIds) : Prop :=
  saved = dest ∧ (q ≠ c → s.whereToSend q = s.assigned q)

/-- The context that `Bind` goes on with, and the map that it is assigned. -/
def bindTarget (k : Cluster) (s : State) (c : Context) (beforeBind : Option Bool)
    (reroute : Option NodeIds) : Context × NodeIds :=
  if beforeBind.isSome ∧ s.whereToSend c k.primaryNodeId = false then
    (s.next, State.onlyPrimary k)
  else (c, reroute.getD (s.assigned c))

/-- **The condition** on an event, if a reply for `q` is being processed and `saved` is the saved
map. -/
def SafeDuring (k : Cluster) (s : State) (saved : NodeIds) (q : Context) : Event → Prop
  | .parse dest _ _ | .describeUnknown dest => SafeFocus s saved q s.next dest
  | .bind c beforeBind reroute _ =>
    s.live c = true →
      let (b, dest) := bindTarget k s c beforeBind reroute
      -- a context that is assigned a new map has lost the installed one
      if reroute.isSome ∧ q = c then saved = dest else SafeFocus s saved q b dest
  | .execute c _ | .describe c | .close c _ =>
    s.live c = true → SafeFocus s saved q c (s.assigned c)
  | .bindUnknown | .closeUnknown | .sync => True
  | .reply _ _ =>
    match s.pendingMessages with
    | [] => ∀ m, s.previousMessage = some m → m.isRowsReturned = true →
        SafeFocus s saved q m.queryContext (s.assigned m.queryContext)
    | .sync :: _ => True
    -- the map that is installed will be saved
    | .message _ :: _ => s.whereToSend q = s.assigned q

/-- The condition on an event in a state. -/
def Safe (k : Cluster) (s : State) (e : Event) : Prop :=
  ∀ saved q, s.whereToSendSave = some saved → s.queryContext = some q → SafeDuring k s saved q e

/-- Every event is safe in the state in which it comes. -/
def AllSafe (k : Cluster) (es : List Event) : Prop :=
  ∀ pre e, pre ++ [e] <+: es → ∀ s ∈ run k pre, Safe k s e

/-! ## What the operations leave alone -/

/-- Every context that is referred to has been created, and a map is saved only while a reply for
the current context is being processed. -/
structure WellFormed (s : State) : Prop where
  saved : s.whereToSendSave.isSome = true → s.inProgress = true ∧ s.queryContext.isSome = true
  current : ∀ c, s.queryContext = some c → c < s.next
  pending : ∀ p ∈ s.pendingMessages, ∀ c, p.context = some c → c < s.next
  previous : ∀ m, s.previousMessage = some m → m.queryContext < s.next
  live : ∀ c, s.live c = true → c < s.next

/-- What the contexts are owed, and what they will have, is the same after an operation. -/
structure Follows (s t : State) : Prop where
  settled : t.settled = s.settled
  assigned : t.assigned = s.assigned
  next : t.next = s.next
  wellFormed : WellFormed s → WellFormed t

namespace Follows

variable {s t u : State}

theorem refl (s : State) : Follows s s := ⟨rfl, rfl, rfl, id⟩

section

variable (h : Follows s t) {p : Pending}
include h

theorem trans (h' : Follows t u) : Follows s u where
  settled := h'.settled.trans h.settled
  assigned := h'.assigned.trans h.assigned
  next := h'.next.trans h.next
  wellFormed hwf := h'.wellFormed (h.wellFormed hwf)

theorem unset : Follows s t.unsetQueryInProgress :=
  h.trans ⟨rfl, rfl, rfl, fun hwf =>
    ⟨nofun, hwf.current, hwf.pending, hwf.previous, hwf.live⟩⟩

theorem add (hp : ∀ c, p.context = some c → c < s.next) : Follows s (t.pendingMessageAdd p) := by
  refine h.trans ⟨rfl, rfl, rfl, fun hwf => ⟨hwf.saved, hwf.current, ?_, hwf.previous, hwf.live⟩⟩
  intro p' hp' c hc
  rcases mem_append.1 hp' with hold | hnew
  · exact hwf.pending p' hold c hc
  · rw [mem_singleton.1 hnew] at hc
    exact h.next ▸ hp c hc

theorem addMessage {m : PendingMessage} (hm : m.queryContext < s.next) :
    Follows s (t.pendingMessageAdd (.message m)) :=
  h.add fun _ hc => Option.some.inj hc ▸ hm

theorem pullOut : Follows s t.pullOut :=
  h.trans ⟨rfl, rfl, rfl, fun hwf => ⟨hwf.saved, hwf.current,
    fun p hp => hwf.pending p (mem_of_mem_tail hp), hwf.previous, hwf.live⟩⟩

theorem forget : Follows s { t with previousMessage := none } :=
  h.trans ⟨rfl, rfl, rfl, fun hwf =>
    ⟨hwf.saved, hwf.current, hwf.pending, nofun, hwf.live⟩⟩

theorem discard : Follows s t.discardExceptSync := by
  refine h.trans ⟨rfl, rfl, rfl, fun hwf =>
    ⟨hwf.saved, hwf.current, ?_, nofun, hwf.live⟩⟩
  intro p hp c hc
  unfold State.discardExceptSync at hp
  dsimp only at hp
  split at hp
  · rw [mem_singleton.1 hp] at hc
    cases hc
  · exact hwf.pending p ((dropWhile_suffix _).subset hp) c hc

theorem destroy (c : Context) : Follows s (t.sentMessageDestroy c) := by
  refine h.trans ?_
  unfold State.sentMessageDestroy
  split
  · exact refl t
  · refine ⟨rfl, rfl, rfl, fun hwf =>
      ⟨nofun, fun q hq => hwf.current q ?_, hwf.pending, hwf.previous, ?_⟩⟩
    · dsimp only at hq
      split at hq
      · cases hq
      · exact hq
    · intro d hd
      refine hwf.live d ?_
      by_contra hdead
      rcases eq_or_ne d c with rfl | hdc <;> simp_all

theorem remove (removed : List Context) : Follows s (t.removeSentMessages removed) := by
  induction removed generalizing t with
  | nil => exact h
  | cons c removed ih => exact ih (h.destroy c)

/-- **Whatever is done with a reply once it has begun.** -/
theorem process (kind : ReplyKind) (removed : List Context) :
    Follows s (t.processReply kind removed) := by
  cases kind with
  | parseComplete | bindComplete | rowDescription | noData | portalSuspended => exact h.unset
  | closeComplete =>
    refine unset ?_
    unfold State.closeComplete
    dsimp only
    split
    · split
      · exact h.pullOut.remove removed
      · exact h.pullOut
    · exact h.pullOut
  | errorResponse => exact h.unset.discard
  | commandComplete | emptyQueryResponse =>
    refine unset ?_
    unfold State.commandComplete
    dsimp only
    split
    · split
      · exact h.unset.forget.destroy _
      · exact h.unset.forget
    · exact h.unset.forget
  | readyForQuery =>
    unfold State.processReply
    dsimp only
    split
    · exact (h.remove removed).unset
    · exact h
  | parameterDescription | dataRow | notification | other => exact h

end

end Follows

/-! ## The state that an event starts from -/

/-- The state after an event has made a context the current one, with what it assigns before. -/
def touched (k : Cluster) (s : State) : Event → State
  | .parse dest isSelect _ => (s.newContext dest isSelect).focus s.next
  | .describeUnknown dest => (s.newContext dest false).focus s.next
  | .bind c beforeBind reroute _ =>
    (s.bindContext k c beforeBind reroute).1.focus (s.bindContext k c beforeBind reroute).2
  | .execute c _ | .describe c | .close c _ => s.focus c
  | .bindUnknown | .closeUnknown | .sync => s
  | .reply _ _ => s.prepareReply

section Touched

variable {k : Cluster} {s t : State}

theorem follows_reply (kind : ReplyKind) (removed : List Context) :
    Follows s.prepareReply (s.reply kind removed) := by
  unfold State.reply
  dsimp only
  split_ifs
  · exact (Follows.refl _).process kind removed
  · exact (Follows.refl _).pullOut.process kind removed

variable {c : Context} {e : Event}

theorem follows_forward (type : MessageType) (hc : c < s.next)
    (nodes : NodeIds → NodeIds) (removed : List Context) :
    Follows (s.focus c) (s.forward type c nodes removed) :=
  (((Follows.refl (s.focus c)).addMessage hc).remove removed).unset

section

variable (h : WellFormed s)
include h

theorem WellFormed.newContext (dest : NodeIds) (isSelect : Bool) :
    WellFormed (s.newContext dest isSelect) where
  saved := h.saved
  current c hc := Nat.lt_succ_of_lt (h.current c hc)
  pending p hp c hc := Nat.lt_succ_of_lt (h.pending p hp c hc)
  previous m hm := Nat.lt_succ_of_lt (h.previous m hm)
  live c hc := by
    rcases eq_or_ne c s.next with rfl | hne
    · exact Nat.lt_succ_self _
    · have hold : Function.update s.live s.next true c = true := hc
      rw [update_of_ne hne] at hold
      exact Nat.lt_succ_of_lt (h.live c hold)

theorem WellFormed.focus (hc : c < s.next) : WellFormed (s.focus c) :=
  ⟨fun _ => ⟨rfl, rfl⟩, fun _ hq => Option.some.inj hq ▸ hc, h.pending, h.previous, h.live⟩

/-- The context of a Bind exists. -/
theorem WellFormed.bindContext (k : Cluster) (hc : c < s.next)
    (beforeBind : Option Bool) (reroute : Option NodeIds) :
    WellFormed (s.bindContext k c beforeBind reroute).1 ∧ (s.bindContext k c beforeBind reroute).2 <
        (s.bindContext k c beforeBind reroute).1.next := by
  have hcurrent : WellFormed { s with queryContext := some c } :=
    ⟨fun hs => ⟨(h.saved hs).1, rfl⟩, fun _ hq => Option.some.inj hq ▸ hc, h.pending, h.previous,
      h.live⟩
  have hassign : ∀ {t : State}, WellFormed t → ∀ dest, WellFormed (t.assign c dest) :=
    fun ht _ => ⟨ht.saved, ht.current, ht.pending, ht.previous, ht.live⟩
  have hcopy : ∀ {t : State} (named : Bool), WellFormed t → c < t.next →
      WellFormed (t.parseBeforeBind k named c).1 ∧
        (t.parseBeforeBind k named c).2 < (t.parseBeforeBind k named c).1.next := by
    intro t named ht hct
    have hnew := ht.newContext (State.onlyPrimary k) (t.isSelect c)
    have hlt : t.next < (t.newContext (State.onlyPrimary k) (t.isSelect c)).next :=
      Nat.lt_succ_self _
    unfold State.parseBeforeBind
    split
    · exact ⟨ht, hct⟩
    · cases named with
      | false => exact ⟨((Follows.refl _).addMessage hlt).wellFormed hnew, hlt⟩
      | true => exact ⟨(((Follows.refl _).addMessage hlt).addMessage hlt).wellFormed hnew, hlt⟩
  unfold State.bindContext
  cases beforeBind with
  | none =>
    cases reroute with
    | none => exact ⟨hcurrent, hc⟩
    | some dest => exact ⟨hassign hcurrent dest, hc⟩
  | some named =>
    obtain ⟨hwf, hlt⟩ := hcopy named hcurrent hc
    cases reroute with
    | none => exact ⟨hwf, hlt⟩
    | some dest => exact ⟨hassign hwf dest, hlt⟩

theorem WellFormed.prepareReply : WellFormed s.prepareReply := by
  unfold State.prepareReply
  split
  · split
    · rename_i m hm
      split
      · exact h.focus (h.previous m hm)
      · exact (Follows.refl s).unset.wellFormed h
    · exact (Follows.refl s).unset.wellFormed h
  · exact ⟨nofun, nofun, h.pending, h.previous, h.live⟩
  · rename_i m rest hpending
    have hm : m.queryContext < s.next :=
      h.pending (.message m) (by rw [hpending]; exact mem_cons_self) _ rfl
    exact ⟨fun _ => ⟨rfl, rfl⟩, fun _ hq => Option.some.inj hq ▸ hm, h.pending,
      fun _ hm' => Option.some.inj hm' ▸ hm, h.live⟩

end

/-- **What an event does beyond that changes no map.** -/
theorem follows_step (hwf : WellFormed s) (ht : t ∈ step k s e) :
    WellFormed (touched k s e) ∧ Follows (touched k s e) t := by
  have hforward : ∀ {c : Context} {u : State}, t ∈ (if s.live c then some u else none) →
      (c < s.next → Follows (s.focus c) u) → WellFormed (s.focus c) ∧ Follows (s.focus c) t := by
    intro c u ht hu
    obtain ⟨hc, ⟨⟩⟩ := Option.mem_ite_none_right.1 ht
    exact ⟨hwf.focus (hwf.live c hc), hu (hwf.live c hc)⟩
  have hnew : ∀ dest isSelect, WellFormed ((s.newContext dest isSelect).focus s.next) :=
    fun dest isSelect => (hwf.newContext dest isSelect).focus (Nat.lt_succ_self _)
  cases e with
  | parse dest isSelect removed =>
    cases ht
    exact ⟨hnew dest isSelect,
      (((Follows.refl _).remove removed).addMessage (Nat.lt_succ_self _)).unset⟩
  | describeUnknown dest =>
    cases ht
    exact ⟨hnew dest false, ((Follows.refl _).addMessage (Nat.lt_succ_self _)).unset⟩
  | bind c beforeBind reroute removed =>
    obtain ⟨hc, ⟨⟩⟩ := Option.mem_ite_none_right.1 ht
    obtain ⟨hchosen, hlt⟩ := hwf.bindContext k (hwf.live c hc) beforeBind reroute
    exact ⟨hchosen.focus hlt, ((Follows.refl _).unset.remove removed).addMessage hlt⟩
  | execute c removed => exact hforward ht fun hc => follows_forward _ hc _ removed
  | describe c => exact hforward ht fun hc => follows_forward _ hc _ []
  | close c node => exact hforward ht fun hc => follows_forward _ hc _ []
  | bindUnknown =>
    cases ht
    exact ⟨hwf, (Follows.refl s).unset.discard⟩
  | closeUnknown =>
    cases ht
    exact ⟨hwf, (Follows.refl s).unset⟩
  | sync =>
    cases ht
    exact ⟨hwf, (Follows.refl s).unset.add nofun⟩
  | reply kind removed =>
    obtain ⟨-, ⟨⟩⟩ := Option.mem_ite_none_left.1 ht
    exact ⟨hwf.prepareReply, follows_reply kind removed⟩

end Touched

theorem run_snoc (k : Cluster) (es : List Event) (e : Event) :
    run k (es ++ [e]) = (run k es).bind fun s => step k s e := by
  simp [run, foldlM_append]

theorem wellFormed_run (k : Cluster) (es : List Event) : ∀ s ∈ run k es, WellFormed s := by
  induction es using List.reverseRecOn with
  | nil =>
    rintro s ⟨⟩
    exact ⟨nofun, nofun, nofun, nofun, nofun⟩
  | append_singleton es e ih =>
    intro t ht
    rw [run_snoc] at ht
    obtain ⟨s, hs, hst⟩ := Option.mem_bind_iff.1 ht
    obtain ⟨htouched, hfollows⟩ := follows_step (ih s hs) hst
    exact hfollows.wellFormed htouched

/-! ## Safe events keep the maps -/

section Settled

variable {s : State} {saved : NodeIds} {q : Context}

theorem others_of_settled (h : s.settled = s.assigned) (hsave : s.whereToSendSave = some saved)
    (hq : s.queryContext = some q) : ∀ x, x ≠ q → s.whereToSend x = s.assigned x := by
  intro x hx
  have hat := congrFun h x
  rw [State.settled, hsave, hq] at hat
  exact (update_of_ne hx _ _).symm.trans hat

/-- **A context becomes the current one** while all others than that of the reply have their
maps. -/
theorem settled_focus (hsave : s.whereToSendSave = some saved)
    (hothers : ∀ x, x ≠ q → s.whereToSend x = s.assigned x) (c : Context) :
    (s.focus c).settled = (s.focus c).assigned ↔ SafeFocus s saved q c (s.assigned c) := by
  have hsettled : (s.focus c).settled = Function.update s.whereToSend c saved := by
    simp [State.settled, State.focus, hsave]
  rw [hsettled]
  constructor
  · intro h
    refine ⟨by simpa [State.focus] using congrFun h c, fun hqc => ?_⟩
    have hq := congrFun h q
    rwa [update_of_ne hqc] at hq
  · rintro ⟨rfl, hq⟩
    funext x
    rcases eq_or_ne x c with rfl | hxc
    · simp [State.focus]
    · rw [update_of_ne hxc]
      rcases eq_or_ne x q with rfl | hxq
      · exact hq hxc
      · exact hothers x hxq

theorem settled_focus_idle (hsave : s.whereToSendSave = none) (c : Context) :
    (s.focus c).settled = s.whereToSend := by
  simp [State.settled, State.focus, hsave]

theorem settled_newContext (hsave : s.whereToSendSave = some saved) (hlt : q < s.next)
    (hothers : ∀ x, x ≠ q → s.whereToSend x = s.assigned x) (dest : NodeIds) (isSelect : Bool) :
    ((s.newContext dest isSelect).focus s.next).settled =
        ((s.newContext dest isSelect).focus s.next).assigned ↔ SafeFocus s saved q s.next dest := by
  have hne : q ≠ s.next := hlt.ne
  have hothers' : ∀ x, x ≠ q →
      (s.newContext dest isSelect).whereToSend x = (s.newContext dest isSelect).assigned x := by
    intro x hx
    rcases eq_or_ne x s.next with rfl | hxn
    · simp [State.newContext]
    · simp [State.newContext, hxn, hothers x hx]
  rw [settled_focus (s := s.newContext dest isSelect) hsave hothers']
  simp [SafeFocus, State.newContext, hne]

end Settled

section Bind

variable (k : Cluster) (s : State) (c : Context) (beforeBind : Option Bool)
  (reroute : Option NodeIds)

/-- What the first part of `Bind` does to the maps, and to the assigned ones. -/
def bindUpdate (maps : Context → NodeIds) : Context → NodeIds :=
  let copied :=
    if beforeBind.isSome ∧ s.whereToSend c k.primaryNodeId = false then
      Function.update maps s.next (State.onlyPrimary k)
    else maps
  match reroute with
  | some dest => Function.update copied c dest
  | none => copied

theorem bindContext_maps : (s.bindContext k c beforeBind reroute).1.whereToSend =
        bindUpdate k s c beforeBind reroute s.whereToSend ∧
      (s.bindContext k c beforeBind reroute).1.assigned =
        bindUpdate k s c beforeBind reroute s.assigned ∧
      (s.bindContext k c beforeBind reroute).1.whereToSendSave = s.whereToSendSave ∧
      (s.bindContext k c beforeBind reroute).2 = (bindTarget k s c beforeBind reroute).1 := by
  unfold State.bindContext State.parseBeforeBind bindUpdate bindTarget
  cases beforeBind with
  | none => cases reroute <;> simp [State.assign]
  | some named =>
    cases hparsed : s.whereToSend c k.primaryNodeId <;> cases reroute <;> cases named <;>
      simp [hparsed, State.pendingMessageAdd, State.newContext, State.assign]

variable {s c} {maps maps' : Context → NodeIds} {x q : Context} {saved : NodeIds}

theorem bindUpdate_congr (h : maps x = maps' x) :
    bindUpdate k s c beforeBind reroute maps x = bindUpdate k s c beforeBind reroute maps' x := by
  unfold bindUpdate
  cases reroute with
  | none => split_ifs <;> simp [update_apply, h]
  | some dest => split_ifs <;> simp [update_apply, h]

theorem bindUpdate_target (hc : c < s.next) :
    bindUpdate k s c beforeBind reroute s.assigned (bindTarget k s c beforeBind reroute).1 =
      (bindTarget k s c beforeBind reroute).2 := by
  have hne : s.next ≠ c := hc.ne'
  unfold bindUpdate bindTarget
  cases reroute with
  | none => split_ifs <;> simp
  | some dest => split_ifs <;> simp [hne]

theorem bindUpdate_current (hlt : q < s.next) :
    bindUpdate k s c beforeBind reroute s.whereToSend q =
        bindUpdate k s c beforeBind reroute s.assigned q ↔
      (reroute.isSome = true ∧ q = c) ∨ s.whereToSend q = s.assigned q := by
  have hne : q ≠ s.next := hlt.ne
  unfold bindUpdate
  cases reroute with
  | none => split_ifs <;> simp [hne]
  | some dest => rcases eq_or_ne q c with rfl | hqc <;> split_ifs <;> simp [*]

/-- **`Bind`** while a reply is being processed. -/
theorem settled_bind (hsave : s.whereToSendSave = some saved) (hlt : q < s.next)
    (hothers : ∀ x, x ≠ q → s.whereToSend x = s.assigned x) (hc : c < s.next)
    (removed : List Context) : (touched k s (.bind c beforeBind reroute removed)).settled =
        (touched k s (.bind c beforeBind reroute removed)).assigned ↔
      if reroute.isSome ∧ q = c then saved = (bindTarget k s c beforeBind reroute).2
      else SafeFocus s saved q (bindTarget k s c beforeBind reroute).1
        (bindTarget k s c beforeBind reroute).2 := by
  obtain ⟨hmaps, hassigned, hsaved, htarget⟩ := bindContext_maps k s c beforeBind reroute
  unfold touched
  dsimp only
  rw [settled_focus (hsaved.trans hsave) (q := q)]
  · rw [SafeFocus, hmaps, hassigned, htarget, bindUpdate_target k beforeBind reroute hc,
      bindUpdate_current k beforeBind reroute hlt, SafeFocus]
    split_ifs with hcase <;> simp [hcase]
  · intro x hx
    rw [hmaps, hassigned]
    exact bindUpdate_congr k beforeBind reroute (hothers x hx)

end Bind

/-! ### One event -/

section Step

variable (k : Cluster) {s : State}

/-- **With nothing saved every event keeps the maps.** -/
theorem settled_touched_idle (hsave : s.whereToSendSave = none)
    (h : s.whereToSend = s.assigned) (e : Event) :
    (touched k s e).settled = (touched k s e).assigned := by
  have hsettled : s.settled = s.assigned := by rwa [State.settled, hsave]
  have hfocus : ∀ c, (s.focus c).settled = s.assigned :=
    fun c => (settled_focus_idle hsave c).trans h
  cases e with
  | parse dest isSelect _ | describeUnknown dest =>
    refine (settled_focus_idle (s := s.newContext dest _) hsave _).trans ?_
    simp [touched, State.newContext, State.focus, h]
  | bind c beforeBind reroute removed =>
    obtain ⟨hmaps, hassigned, hsaved, -⟩ := bindContext_maps k s c beforeBind reroute
    refine (settled_focus_idle (hsaved.trans hsave) _).trans ?_
    rw [hmaps, h]
    exact hassigned.symm
  | execute c _ | describe c | close c _ => exact hfocus c
  | bindUnknown | closeUnknown | sync => exact hsettled
  | reply kind removed =>
    unfold touched State.prepareReply
    dsimp only
    split
    · split
      · split
        · exact hfocus _
        · exact hsettled
      · exact hsettled
    · simpa [State.settled, State.unsetQueryInProgress, hsave] using h
    · simpa [State.settled, State.beginReply] using h

variable {saved : NodeIds} {q : Context} {e : Event}

/-- A reply settles the maps exactly if it is safe. -/
theorem settled_reply (h : s.settled = s.assigned) (hsave : s.whereToSendSave = some saved)
    (hq : s.queryContext = some q) (kind : ReplyKind) (removed : List Context)
    (hruns : s.replyFails kind = false) : s.prepareReply.settled = s.prepareReply.assigned ↔
      SafeDuring k s saved q (.reply kind removed) := by
  have hothers := others_of_settled h hsave hq
  have hsettled : s.unsetQueryInProgress.settled = s.unsetQueryInProgress.assigned := h
  unfold SafeDuring State.prepareReply
  cases hpending : s.pendingMessages with
  | nil =>
    cases hprevious : s.previousMessage with
    | none => exact iff_of_true h nofun
    | some m =>
      cases hrows : m.isRowsReturned with
      | false => simpa [hrows] using hsettled
      | true => simpa [hrows] using settled_focus hsave hothers m.queryContext
  | cons p rest =>
    cases p with
    | sync => simp [State.replyFails, hpending, hsave] at hruns
    | message m =>
      have hbegin : (s.beginReply m).settled = s.whereToSend := by
        simp [State.settled, State.beginReply]
      dsimp only
      rw [hbegin]
      constructor
      · exact fun hall => congrFun hall q
      · intro hinstalled
        funext x
        rcases eq_or_ne x q with rfl | hx
        · exact hinstalled
        · exact hothers x hx

/-- **An event while a reply is being processed** keeps the maps exactly if it is safe. -/
theorem settled_touched (hwf : WellFormed s) (h : s.settled = s.assigned)
    (hsave : s.whereToSendSave = some saved) (hq : s.queryContext = some q)
    (hruns : (step k s e).isSome = true) :
    (touched k s e).settled = (touched k s e).assigned ↔ SafeDuring k s saved q e := by
  have hothers := others_of_settled h hsave hq
  have hlt := hwf.current q hq
  have hlive : ∀ {c : Context} {t : State}, (if s.live c then some t else none).isSome = true →
      s.live c = true := by
    intro c t hsome
    by_contra hdead
    simp [hdead] at hsome
  cases e with
  | parse dest isSelect removed => exact settled_newContext hsave hlt hothers dest isSelect
  | describeUnknown dest => exact settled_newContext hsave hlt hothers dest false
  | bind c beforeBind reroute removed =>
    have hc := hlive hruns
    rw [settled_bind k beforeBind reroute hsave hlt hothers (hwf.live c hc)]
    simp only [SafeDuring, hc, true_implies]
  | execute c _ | describe c | close c _ =>
    have hc := hlive hruns
    simp only [SafeDuring, hc, true_implies]
    exact settled_focus hsave hothers c
  | bindUnknown | closeUnknown | sync => exact iff_of_true h trivial
  | reply kind removed =>
    refine settled_reply k h hsave hq kind removed ?_
    by_contra hfails
    simp [step, hfails] at hruns

/-- An event that ends the session is safe. -/
theorem safe_of_none (hnone : step k s e = none) : Safe k s e := by
  intro saved q hsave hq
  cases e with
  | bind c beforeBind reroute removed =>
    intro hc
    simp [step, hc] at hnone
  | execute c _ | describe c | close c _ =>
    intro hc
    simp [step, hc] at hnone
  | parse | describeUnknown => simp [step] at hnone
  | bindUnknown | closeUnknown | sync => trivial
  | reply kind removed =>
    unfold SafeDuring
    cases hpending : s.pendingMessages with
    | nil =>
      intro m hm hrows
      simp [step, State.replyFails, State.prepareReply, State.focus, hpending, hm, hrows] at hnone
    | cons p rest =>
      cases p with
      | sync => trivial
      | message m =>
        simp [step, State.replyFails, State.prepareReply, State.beginReply, hpending] at hnone

theorem settled_step (hwf : WellFormed s) (h : s.settled = s.assigned) (e : Event) :
    (∀ t ∈ step k s e, t.settled = t.assigned) ↔ Safe k s e := by
  cases hstep : step k s e with
  | none => simpa using safe_of_none k hstep
  | some t =>
    obtain ⟨-, hfollows⟩ := follows_step hwf hstep
    have htouched : (∀ t' ∈ some t, t'.settled = t'.assigned) ↔
        (touched k s e).settled = (touched k s e).assigned := by
      simp [hfollows.settled, hfollows.assigned]
    rw [htouched]
    unfold Safe
    cases hsave : s.whereToSendSave with
    | none =>
      rw [State.settled, hsave] at h
      simpa using settled_touched_idle k hsave h e
    | some saved =>
      obtain ⟨q, hq⟩ := Option.isSome_iff_exists.1 (hwf.saved (by simp [hsave])).2
      rw [settled_touched k hwf h hsave hq (by simp [hstep])]
      simp [hq]

end Step

/-! ## The main statement -/

section Run

variable (k : Cluster)

variable {es pre : List Event} {s : State}

theorem run_sync (hs : s ∈ run k es) :
    s.unsetQueryInProgress.pendingMessageAdd .sync ∈ run k (es ++ [.sync]) := by
  rw [run_snoc, Option.mem_def.1 hs]
  rfl

theorem AllSafe.sync (h : AllSafe k es) (hpre : pre <+: es) : AllSafe k (pre ++ [.sync]) := by
  intro pre' e hle s hs
  rcases prefix_concat_iff.1 hle with heq | hle
  · obtain ⟨-, he⟩ := append_inj' heq rfl
    cases he
    exact fun _ _ _ _ => trivial
  · exact h pre' e (hle.trans hpre) s hs

theorem settled_run (h : AllSafe k es) :
    ∀ pre, pre <+: es → ∀ s ∈ run k pre, s.settled = s.assigned := by
  intro pre
  induction pre using List.reverseRecOn with
  | nil =>
    rintro - s ⟨⟩
    rfl
  | append_singleton pre e ih =>
    intro hprefix t ht
    rw [run_snoc] at ht
    obtain ⟨s, hs, hst⟩ := Option.mem_bind_iff.1 ht
    have hpre : pre <+: es := (prefix_append pre [e]).trans hprefix
    exact (settled_step k (wellFormed_run k pre s hs) (ih hpre s hs) e).2 (h pre e hprefix s hs)
      t hst

theorem keepsDestinations_of_settled
    (h : ∀ pre, pre <+: es → ∀ s ∈ run k pre, s.settled = s.assigned) : KeepsDestinations k es := by
  intro pre hprefix s hs hidle c
  have hsave : s.whereToSendSave = none := by
    by_contra hsaved
    have hprogress := ((wellFormed_run k pre s hs).saved (Option.isSome_iff_ne_none.2 hsaved)).1
    rw [hidle] at hprogress
    cases hprogress
  have hsettled := congrFun (h pre hprefix s hs) c
  rwa [State.settled, hsave] at hsettled

/-- **While no reply is being processed each context has the map it was assigned**, also when a
`Sync` ends the run early, if and only if every event is safe. -/
theorem destinations_kept_iff (es : List Event) :
    (∀ pre, pre <+: es → KeepsDestinations k (pre ++ [.sync])) ↔ AllSafe k es := by
  constructor
  · intro h pre e hprefix s hs
    have hsettled : ∀ pre', pre' <+: es → ∀ s ∈ run k pre', s.settled = s.assigned :=
      fun pre' hpre' s hs =>
        funext (h pre' hpre' _ (prefix_refl _) _ (run_sync k hs) rfl)
    have hpre : pre <+: es := (prefix_append pre [e]).trans hprefix
    refine (settled_step k (wellFormed_run k pre s hs) (hsettled pre hpre s hs) e).1 ?_
    intro t ht
    refine hsettled _ hprefix t ?_
    rw [run_snoc, Option.mem_def.1 hs]
    exact ht
  · intro h pre hprefix
    exact keepsDestinations_of_settled k (settled_run k (h.sync k hprefix))

end Run

/-! ## A Parse between rows -/

/-- A map with one node. -/
def onlyNode (i : Fin 128) : NodeIds := fun j => decide (j = i)

/-- A `SELECT` on node 1, whose first row has arrived, and a Parse for the primary. -/
def parseWhileRows : List Event :=
  [.parse (onlyNode 1) true [], .bind 0 none none [], .execute 0 [],
    .reply .parseComplete [], .reply .bindComplete [], .reply .dataRow [],
    .parse (onlyNode 0) false []]

/-- The new context is left with the map of the `SELECT`. -/
theorem parse_while_rows :
    (∃ s ∈ run ⟨0⟩ parseWhileRows, s.inProgress = false ∧ s.assigned 1 = onlyNode 0 ∧
      s.whereToSend 1 = onlyNode 1) ∧ ¬ KeepsDestinations ⟨0⟩ parseWhileRows := by
  refine ⟨⟨_, rfl, rfl, rfl, rfl⟩, fun h => ?_⟩
  have hkeeps := h parseWhileRows (prefix_refl _) _ rfl rfl 1
  have hzero : onlyNode 1 0 = onlyNode 0 0 := congrFun hkeeps 0
  simp [onlyNode] at hzero

end PgBalancer.Destinations
