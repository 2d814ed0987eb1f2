import Mathlib

/-!
# Sent messages: what a statement or portal name stands for

A session remembers each Parse, Bind and `PREPARE` it has sent in a list of messages.
A name is looked up in the list by kind and name among the messages in state CREATED.
In streaming replication mode a Close only marks its message as CLOSED; the message
leaves the list when the answer to the Close arrives, and by then the client may have
sent more messages of the same name.

* `names_run` — **in every run in which a removal meets the message it is meant for, a
  name stands for the message added last**, and the list holds no other created one.
-/

namespace PgBalancer.Session

open List

/-- The kinds `'P'`, `'B'` and `'Q'` of sent messages. -/
inductive MessageKind where
  | parse
  | bind
  | query
  deriving DecidableEq

/-- `POOL_SENT_MESSAGE_STATE` -/
inductive SentMessageState where
  | created
  | closed
  deriving DecidableEq

/-- `POOL_SENT_MESSAGE`; `id` stands for the address. -/
structure SentMessage where
  id : Nat
  kind : MessageKind
  name : String
  state : SentMessageState
  deriving DecidableEq

/-- The message has this kind and name. -/
def SentMessage.named (kind : MessageKind) (name : String) (m : SentMessage) : Bool :=
  decide (m.kind = kind) && decide (m.name = name)

/-- The message has this kind and name and this state. -/
def SentMessage.inState (kind : MessageKind) (name : String) (state : SentMessageState)
    (m : SentMessage) : Bool :=
  m.named kind name && decide (m.state = state)

open SentMessage (named inState)

/-- `pool_get_sent_message` -/
def poolGetSentMessage (msglist : List SentMessage) (kind : MessageKind) (name : String)
    (state : SentMessageState) : Option SentMessage :=
  msglist.find? (SentMessage.inState kind name state)

/-- `pool_remove_sent_message`: the first message of the kind and name, in any state. -/
def poolRemoveSentMessage (msglist : List SentMessage) (kind : MessageKind) (name : String) :
    List SentMessage :=
  msglist.eraseP (SentMessage.named kind name)

/-- `pool_remove_sent_messages`.  The loop removes the message at `i` by its name; as no
message before it is of the kind, the first one of the name is the one at `i`. -/
def poolRemoveSentMessages (msglist : List SentMessage) (kind : MessageKind) : List SentMessage :=
  msglist.filter fun m => decide (m.kind ≠ kind)

/-- `pool_add_sent_message` -/
def poolAddSentMessage (msglist : List SentMessage) (message : SentMessage) : List SentMessage :=
  match poolGetSentMessage msglist message.kind message.name .created with
  | some oldMsg =>
    if oldMsg = message then msglist
    else if message.name = "" then
      poolRemoveSentMessage msglist oldMsg.kind oldMsg.name ++ [message]
    else msglist
  | none => msglist ++ [message]

/-- `pool_set_sent_message_state` -/
def poolSetSentMessageState (msglist : List SentMessage) (message : SentMessage) :
    List SentMessage :=
  msglist.map fun m => if m = message then { m with state := .closed } else m

/-- What a Close message names. -/
inductive CloseTarget where
  | statement
  | portal
  deriving DecidableEq

/-- The kind of message that CloseComplete removes, in streaming replication mode. -/
def CloseTarget.kind : CloseTarget → MessageKind
  | .statement => .parse
  | .portal => .bind

/-- The part of the session context that is about sent messages. -/
structure MessageSession where
  messageList : List SentMessage
  uncompletedMessage : Option SentMessage
  /-- the Close messages among the pending messages -/
  pendingCloses : List (CloseTarget × String)
  nextId : Nat

namespace MessageSession

/-- No message has been sent. -/
def start : MessageSession := ⟨[], none, [], 0⟩

/-- The prepared statement of a name: `PREPARE` first, then Parse. -/
def statement (s : MessageSession) (name : String) : Option SentMessage :=
  (poolGetSentMessage s.messageList .query name .created).or
    (poolGetSentMessage s.messageList .parse name .created)

/-- The message that a Close is about. -/
def closeMessage (s : MessageSession) : CloseTarget → String → Option SentMessage
  | .statement, name => s.statement name
  | .portal, name => poolGetSentMessage s.messageList .bind name .created

/-- `pool_create_sent_message` -/
def poolCreateSentMessage (s : MessageSession) (kind : MessageKind) (name : String) :
    SentMessage :=
  ⟨s.nextId, kind, name, .created⟩

/-- A Parse or a Bind has been sent.  In streaming replication mode (`slMode`) its
message is added at once. -/
def send (slMode : Bool) (s : MessageSession) (kind : MessageKind) (name : String) :
    MessageSession :=
  let msg := s.poolCreateSentMessage kind name
  { s with
    messageList := if slMode then poolAddSentMessage s.messageList msg else s.messageList
    uncompletedMessage := some msg
    nextId := s.nextId + 1 }

/-- The uncompleted message, if any, is added. -/
def addUncompleted (s : MessageSession) : MessageSession :=
  match s.uncompletedMessage with
  | some msg =>
    { s with
      messageList := poolAddSentMessage s.messageList msg
      uncompletedMessage := none }
  | none => s

end MessageSession

/-- What happens to a session's sent messages. -/
inductive MessageEvent where
  | parse (name : String)
  | bind (portal statement : String)
  | close (target : CloseTarget) (name : String)
  | parseComplete
  | bindComplete
  | closeComplete
  /-- a simple query `PREPARE` has succeeded -/
  | prepare (name : String)
  /-- a `PREPARE` has succeeded that ran in the extended protocol -/
  | prepareExecuted
  /-- any other simple query is sent -/
  | query
  /-- `DEALLOCATE name`, or `DEALLOCATE ALL`, has succeeded -/
  | deallocate (name : Option String)
  | discardPlans
  | discardAll

/-- One event; `slMode` is streaming or logical replication mode. -/
def sessionStep (slMode : Bool) (s : MessageSession) : MessageEvent → MessageSession
  | .parse name => s.send slMode .parse name
  | .bind portal stmt => if (s.statement stmt).isSome then s.send slMode .bind portal else s
  | .close target name =>
    match s.closeMessage target name with
    | none => s
    | some msg =>
      if slMode then
        { s with
          messageList := poolSetSentMessageState s.messageList msg
          uncompletedMessage := some { msg with state := .closed }
          pendingCloses := s.pendingCloses ++ [(target, name)] }
      else { s with uncompletedMessage := some msg }
  | .parseComplete | .bindComplete => if slMode then s else s.addUncompleted
  | .closeComplete =>
    if slMode then
      match s.pendingCloses with
      | [] => s
      | (target, name) :: rest =>
        { s with
          messageList := poolRemoveSentMessage s.messageList target.kind name
          pendingCloses := rest }
    else
      match s.uncompletedMessage with
      | none => s
      | some msg =>
        { s with
          messageList := poolRemoveSentMessage s.messageList msg.kind msg.name
          uncompletedMessage := none }
  | .prepare name =>
    { s with
      messageList := poolAddSentMessage s.messageList (s.poolCreateSentMessage .query name)
      uncompletedMessage := none
      nextId := s.nextId + 1 }
  | .prepareExecuted => s.addUncompleted
  | .query => { s with uncompletedMessage := none }
  | .deallocate (some name) =>
    { s with
      messageList := poolRemoveSentMessage (poolRemoveSentMessage s.messageList .query name)
        .parse name }
  | .deallocate none | .discardPlans =>
    { s with
      messageList := poolRemoveSentMessages (poolRemoveSentMessages s.messageList .query) .parse }
  | .discardAll => { s with messageList := [] }

/-! ## The specification -/

/-- What each name stands for. -/
abbrev Names := MessageKind → String → Option SentMessage

/-- A message is added: it takes its name, unless the name is a proper one and taken. -/
def Names.add (names : Names) (m : SentMessage) : Names :=
  if (names m.kind m.name).isSome ∧ m.name ≠ "" then names
  else fun kind name => if m.named kind name then some m else names kind name

/-- Some names stand for nothing any more. -/
def Names.drop (names : Names) (p : MessageKind → String → Bool) : Names :=
  fun kind name => if p kind name then none else names kind name

/-- What the names stand for after an event, in the session it meets.  A Close ends its
message when it is sent, or, outside streaming replication mode, when it is done. -/
def namesStep (slMode : Bool) (s : MessageSession) (names : Names) : MessageEvent → Names
  | .parse name =>
    if slMode then names.add (s.poolCreateSentMessage .parse name) else names
  | .bind portal stmt =>
    if slMode ∧ (s.statement stmt).isSome then names.add (s.poolCreateSentMessage .bind portal)
    else names
  | .close target name =>
    match s.closeMessage target name with
    | none => names
    | some msg => if slMode then names.drop (fun kind name => msg.named kind name) else names
  | .parseComplete | .bindComplete =>
    if slMode then names else s.uncompletedMessage.elim names names.add
  | .closeComplete =>
    if slMode then names
    else s.uncompletedMessage.elim names fun msg =>
      names.drop fun kind name => msg.named kind name
  | .prepare name => names.add (s.poolCreateSentMessage .query name)
  | .prepareExecuted => s.uncompletedMessage.elim names names.add
  | .query => names
  | .deallocate (some name) =>
    names.drop fun kind name' => decide (kind ≠ .bind) && decide (name' = name)
  | .deallocate none | .discardPlans => names.drop fun kind _ => decide (kind ≠ .bind)
  | .discardAll => names.drop fun _ _ => true

/-- A session beside what its names stand for. -/
structure Traced where
  session : MessageSession
  names : Names

/-- An event, for the session and for the names. -/
def tracedStep (slMode : Bool) (t : Traced) (e : MessageEvent) : Traced :=
  ⟨sessionStep slMode t.session e, namesStep slMode t.session t.names e⟩

/-- A session from its start. -/
def tracedRun (slMode : Bool) (es : List MessageEvent) : Traced :=
  es.foldl (tracedStep slMode) ⟨.start, fun _ _ => none⟩

/-- Each name stands for one message in state CREATED at most, and for the one that
was added last. -/
def NamesCurrent (t : Traced) : Prop :=
  ∀ kind name,
    (t.session.messageList.countP (SentMessage.inState kind name .created)) ≤ 1 ∧
      poolGetSentMessage t.session.messageList kind name .created = t.names kind name

/-! ## The condition -/

/-- The state of the message that `poolRemoveSentMessage` removes. -/
def firstState (msglist : List SentMessage) (kind : MessageKind) (name : String) :
    Option SentMessageState :=
  (msglist.find? (SentMessage.named kind name)).map SentMessage.state

/-- A removal that is meant for the created message of a name does not meet a closed
one before it. -/
def RemovesCreated (msglist : List SentMessage) (kind : MessageKind) (name : String) : Prop :=
  (poolGetSentMessage msglist kind name .created).isSome →
    firstState msglist kind name = some .created

/-- The condition on an event in streaming replication mode, in the session it meets:
an unnamed message is not replaced while a closed one of its kind comes before it, a
`DEALLOCATE` likewise, the answer to a Close does not meet a created message, and a
`PREPARE` in the extended protocol finds the message of its Bind still there. -/
def Sound (s : MessageSession) : MessageEvent → Prop
  | .parse name => name = "" → RemovesCreated s.messageList .parse name
  | .bind portal _ => portal = "" → RemovesCreated s.messageList .bind portal
  | .prepare name => name = "" → RemovesCreated s.messageList .query name
  | .prepareExecuted =>
    ∀ msg, s.uncompletedMessage = some msg → msg.state = .created ∧ msg ∈ s.messageList
  | .closeComplete =>
    ∀ target name, s.pendingCloses.head? = some (target, name) →
      firstState s.messageList target.kind name ≠ some .created
  | .deallocate (some name) =>
    RemovesCreated s.messageList .query name ∧ RemovesCreated s.messageList .parse name
  | .close _ _ | .parseComplete | .bindComplete | .query | .deallocate none | .discardPlans
  | .discardAll => True

/-! ## Lists with one removal -/

/-- The created messages of a name. -/
def createdOf (msglist : List SentMessage) (kind : MessageKind) (name : String) :
    List SentMessage :=
  msglist.filter (SentMessage.inState kind name .created)

section Removal

variable {α : Type} {p q : α → Bool}

theorem filter_eraseP_of_disjoint (h : ∀ x, p x = true → q x = false) (l : List α) :
    (l.eraseP p).filter q = l.filter q := by
  induction l with
  | nil => rfl
  | cons x l ih =>
    by_cases hx : p x
    · simp [hx, h x hx]
    · by_cases hq : q x <;> simp [hx, hq, ih]

theorem filter_eraseP_of_first (hqp : ∀ x, q x = true → p x = true) (l : List α) :
    (l.eraseP p).filter q = if (l.find? p).any q then (l.filter q).tail else l.filter q := by
  induction l with
  | nil => rfl
  | cons x l ih =>
    by_cases hx : p x
    · by_cases hq : q x <;> simp [hx, hq]
    · have hq : q x = false := by
        by_contra hq
        exact hx (hqp x (by simpa using hq))
      simp [hx, hq, ih]

end Removal

section Lists

variable {l : List SentMessage} {kind kind' : MessageKind} {name name' : String} {m : SentMessage}
  {state : SentMessageState}

theorem named_iff : m.named kind name = true ↔ m.kind = kind ∧ m.name = name := by
  simp [named]

theorem inState_iff :
    m.inState kind name state = true ↔ m.kind = kind ∧ m.name = name ∧ m.state = state := by
  simp [inState, named, and_assoc]

theorem poolGetSentMessage_eq_head? :
    poolGetSentMessage l kind name .created = (createdOf l kind name).head? := by
  rw [createdOf, List.head?_filter, poolGetSentMessage]

theorem createdOf_remove_of_ne (h : ¬ (kind' = kind ∧ name' = name)) :
    createdOf (poolRemoveSentMessage l kind' name') kind name = createdOf l kind name := by
  refine filter_eraseP_of_disjoint (fun m hm => ?_) l
  rw [named_iff] at hm
  rw [← Bool.not_eq_true, inState_iff]
  rintro ⟨hkind, hname, -⟩
  exact h ⟨hm.1.symm.trans hkind, hm.2.symm.trans hname⟩

theorem createdOf_remove_self : createdOf (poolRemoveSentMessage l kind name) kind name =
      if firstState l kind name = some .created then (createdOf l kind name).tail
      else createdOf l kind name := by
  have hqp : ∀ m : SentMessage, m.inState kind name .created = true → m.named kind name = true :=
    fun m hm => named_iff.2 ⟨(inState_iff.1 hm).1, (inState_iff.1 hm).2.1⟩
  have hiff : (l.find? (named kind name)).any (inState kind name .created) =
      true ↔ firstState l kind name = some .created := by
    rw [firstState]
    cases hfind : l.find? (named kind name) with
    | none => simp
    | some m => simp [inState, List.find?_some hfind]
  rw [createdOf, poolRemoveSentMessage, filter_eraseP_of_first hqp l, if_congr hiff rfl rfl]
  rfl

theorem createdOf_append : createdOf (l ++ [m]) kind name =
      createdOf l kind name ++ if m.inState kind name .created then [m] else [] := by
  simp only [createdOf, filter_append, filter_singleton, Bool.cond_eq_ite]

theorem createdOf_removeMessages : createdOf (poolRemoveSentMessages l kind') kind name =
      if kind = kind' then [] else createdOf l kind name := by
  simp only [createdOf, poolRemoveSentMessages, filter_filter]
  split
  case isTrue h =>
    rw [filter_eq_nil_iff]
    intro m _
    simp only [Bool.and_eq_true, inState_iff, decide_eq_true_eq]
    rintro ⟨⟨hkind, -, -⟩, hne⟩
    exact hne (hkind.trans h)
  case isFalse h =>
    refine filter_congr fun m _ => ?_
    rw [Bool.eq_iff_iff]
    simp only [Bool.and_eq_true, inState_iff, decide_eq_true_eq]
    exact ⟨And.left, fun hm => ⟨hm, fun hkind => h (hm.1.symm.trans hkind)⟩⟩

theorem createdOf_setState : createdOf (poolSetSentMessageState l m) kind name =
      (createdOf l kind name).filter fun x => decide (x ≠ m) := by
  induction l with
  | nil => rfl
  | cons x l ih =>
    simp only [createdOf, poolSetSentMessageState, map_cons] at ih ⊢
    by_cases hx : x = m
    · have hclosed : ({ m with state := .closed } : SentMessage).inState kind name .created =
          false := by
        simp [inState]
      by_cases hm : m.inState kind name .created <;> simp [hx, hclosed, hm, ih]
    · by_cases hin : x.inState kind name .created <;> simp [hx, hin, ih]

end Lists

/-! ## The list represents the names -/

/-- The created messages of each name are what the name stands for. -/
def Represents (l : List SentMessage) (names : Names) : Prop :=
  ∀ kind name, createdOf l kind name = (names kind name).toList

section Represents

variable {l : List SentMessage} {names : Names} {name : String} {m : SentMessage}

theorem Represents.get (h : Represents l names) (kind : MessageKind) (name : String) :
    poolGetSentMessage l kind name .created = names kind name := by
  rw [poolGetSentMessage_eq_head?, h kind name]
  cases names kind name <;> rfl

theorem inState_of_get {kind : MessageKind} (h : poolGetSentMessage l kind name .created = some m) :
    m.kind = kind ∧ m.name = name ∧ m.state = .created :=
  inState_iff.1 (List.find?_some h)

section

variable (h : Represents l names) {name : String} {m : SentMessage}
include h

theorem Represents.remove {kind : MessageKind} (hfirst : RemovesCreated l kind name) :
    Represents (poolRemoveSentMessage l kind name)
      (names.drop fun kind' name' => decide (kind = kind') && decide (name = name')) := by
  intro kind' name'
  simp only [Names.drop, Bool.and_eq_true, decide_eq_true_eq]
  split
  case isTrue heq =>
    obtain ⟨rfl, rfl⟩ := heq
    rw [createdOf_remove_self, h kind name]
    rw [RemovesCreated, h.get] at hfirst
    cases hnames : names kind name with
    | none => simp
    | some m => simp [hfirst (by simp [hnames])]
  case isFalse hne => rw [createdOf_remove_of_ne hne, h kind' name']

theorem Represents.reap {kind : MessageKind} (hfirst : firstState l kind name ≠ some .created) :
    Represents (poolRemoveSentMessage l kind name) names := by
  intro kind' name'
  by_cases heq : kind = kind' ∧ name = name'
  · obtain ⟨rfl, rfl⟩ := heq
    rw [createdOf_remove_self, if_neg hfirst, h kind name]
  · rw [createdOf_remove_of_ne heq, h kind' name']

theorem Represents.removeMessages (kind : MessageKind) :
    Represents (poolRemoveSentMessages l kind)
      (names.drop fun kind' _ => decide (kind' = kind)) := by
  intro kind' name'
  simp only [Names.drop, decide_eq_true_eq, createdOf_removeMessages, h kind' name']
  split <;> rfl

theorem Represents.append (hm : m.state = .created) (hfree : names m.kind m.name = none) :
    Represents (l ++ [m]) (names.add m) := by
  intro kind name
  simp only [Names.add, hfree, Option.isSome_none, Bool.false_eq_true, false_and, if_false]
  rw [createdOf_append, h kind name]
  by_cases hname : m.kind = kind ∧ m.name = name
  · obtain ⟨rfl, rfl⟩ := hname
    simp [inState, named, hm, hfree]
  · have : m.named kind name = false := by simpa [named] using hname
    simp [inState, this]

theorem Represents.names_of_mem (hmem : m ∈ l) (hm : m.state = .created) :
    names m.kind m.name = some m := by
  have hin : m ∈ createdOf l m.kind m.name :=
    mem_filter.2 ⟨hmem, inState_iff.2 ⟨rfl, rfl, hm⟩⟩
  rw [h m.kind m.name] at hin
  simpa [eq_comm] using hin

theorem Represents.add_self (hmem : m ∈ l) (hm : m.state = .created) :
    poolAddSentMessage l m = l ∧ names.add m = names := by
  have hnames := h.names_of_mem hmem hm
  constructor
  · simp [poolAddSentMessage, h.get, hnames]
  · unfold Names.add
    split
    · rfl
    · funext kind name
      split
      case isTrue hkey =>
        obtain ⟨rfl, rfl⟩ := named_iff.1 hkey
        exact hnames.symm
      case isFalse => rfl

/-- A new message stands for its name. -/
theorem Represents.add (hm : m.state = .created)
    (hfirst : m.name = "" → RemovesCreated l m.kind m.name) :
    Represents (poolAddSentMessage l m) (names.add m) := by
  unfold poolAddSentMessage
  split
  case h_2 hnone => exact h.append hm (by rw [← h.get, hnone])
  case h_1 old hold =>
    have hnames : names m.kind m.name = some old := by rw [← h.get, hold]
    by_cases hname : m.name = ""
    case neg =>
      have hadd : names.add m = names := by simp [Names.add, hnames, hname]
      simpa only [hadd, hname, if_false, ite_self] using h
    case pos =>
      by_cases hsame : old = m
      · -- the very same message again
        subst hsame
        rw [if_pos rfl, (h.add_self (mem_of_find?_eq_some hold) hm).2]
        exact h
      · rw [if_neg hsame, if_pos hname]
        obtain ⟨hkind, holdname, -⟩ := inState_of_get hold
        rw [hkind, holdname]
        have hremoved := (h.remove (hfirst hname)).append hm (by simp [Names.drop])
        convert hremoved using 1
        funext kind name
        simp only [Names.add, Names.drop, hname, ne_eq, not_true_eq_false, and_false, if_false,
          named]
        split <;> simp_all

theorem Represents.close (hm : names m.kind m.name = some m) :
    Represents (poolSetSentMessageState l m) (names.drop fun kind name => m.named kind name) := by
  have hcreated : m.state = .created := (inState_of_get ((h.get m.kind m.name).trans hm)).2.2
  intro kind name
  rw [createdOf_setState, h kind name, Names.drop]
  split
  case isTrue hkey =>
    obtain ⟨rfl, rfl⟩ := named_iff.1 hkey
    simp [hm]
  case isFalse hkey =>
    rw [filter_eq_self]
    intro x hx
    have hx : x.inState kind name .created = true := by
      rw [← h kind name] at hx
      exact (mem_filter.1 hx).2
    rw [decide_eq_true_eq]
    rintro rfl
    exact hkey (named_iff.2 ⟨(inState_iff.1 hx).1, (inState_iff.1 hx).2.1⟩)

end

end Represents

/-! ## Runs -/

/-- The invariant: the list represents the names, and outside streaming replication
mode nothing is closed. -/
structure Inv (slMode : Bool) (t : Traced) : Prop where
  represents : Represents t.session.messageList t.names
  created : slMode = false → ∀ m ∈ t.session.messageList, m.state = .created
  uncompleted : slMode = false → ∀ m, t.session.uncompletedMessage = some m → m.state = .created

variable {slMode : Bool} {t : Traced}

theorem Inv.namesCurrent (h : Inv slMode t) : NamesCurrent t := by
  intro kind name
  refine ⟨?_, h.represents.get kind name⟩
  rw [countP_eq_length_filter]
  show (createdOf t.session.messageList kind name).length ≤ 1
  rw [h.represents kind name]
  cases t.names kind name <;> simp

section Step

variable {slMode : Bool} {t : Traced} {l : List SentMessage} {name : String} {m x : SentMessage}
  {s : MessageSession} {names : Names} {target : CloseTarget} {p : MessageKind → String → Bool}

theorem removesCreated_of_created (h : ∀ m ∈ l, m.state = .created) (kind : MessageKind) :
    RemovesCreated l kind name := by
  intro hsome
  obtain ⟨m, hm⟩ := Option.isSome_iff_exists.1 hsome
  have hnamed : (l.find? (named kind name)).isSome := by
    rw [List.find?_isSome]
    obtain ⟨hkind, hname, -⟩ := inState_of_get hm
    exact ⟨m, mem_of_find?_eq_some hm, named_iff.2 ⟨hkind, hname⟩⟩
  obtain ⟨x, hx⟩ := Option.isSome_iff_exists.1 hnamed
  rw [firstState, hx, Option.map_some, h x (mem_of_find?_eq_some hx)]

theorem Inv.removesCreated (h : Inv slMode t) {kind : MessageKind}
    (hsound : slMode = true → RemovesCreated t.session.messageList kind name) :
    RemovesCreated t.session.messageList kind name := by
  cases hmode : slMode with
  | true => exact hsound hmode
  | false => exact removesCreated_of_created (h.created hmode) kind

theorem mem_remove {kind : MessageKind} (h : m ∈ poolRemoveSentMessage l kind name) : m ∈ l :=
  mem_of_mem_eraseP h

theorem mem_add (h : x ∈ poolAddSentMessage l m) : x ∈ l ∨ x = m := by
  unfold poolAddSentMessage at h
  split at h
  · split at h
    · exact .inl h
    · split at h
      · rcases mem_append.1 h with h | h
        · exact .inl (mem_remove h)
        · exact .inr (mem_singleton.1 h)
      · exact .inl h
  · rcases mem_append.1 h with h | h
    · exact .inl h
    · exact .inr (mem_singleton.1 h)

theorem Inv.add (h : Inv slMode t) (hm : m.state = .created)
    (hfirst : slMode = true → m.name = "" → RemovesCreated t.session.messageList m.kind m.name)
    (hs : s.messageList = poolAddSentMessage t.session.messageList m)
    (huncompleted : ∀ x, s.uncompletedMessage = some x → x.state = .created) :
    Inv slMode ⟨s, t.names.add m⟩ := by
  refine ⟨?_, fun hmode x hx => ?_, fun _ => huncompleted⟩
  · rw [hs]
    exact h.represents.add hm fun hname => h.removesCreated fun hmode => hfirst hmode hname
  · rw [hs] at hx
    rcases mem_add hx with hx | rfl
    · exact h.created hmode x hx
    · exact hm

theorem Inv.send (h : Inv slMode t) {kind : MessageKind}
    (hfirst : slMode = true → name = "" → RemovesCreated t.session.messageList kind name) :
    Inv slMode ⟨t.session.send slMode kind name,
      if slMode then t.names.add (t.session.poolCreateSentMessage kind name) else t.names⟩ := by
  cases slMode with
  | true => exact h.add rfl hfirst rfl (by rintro _ ⟨⟩; rfl)
  | false => exact ⟨h.represents, h.created, by rintro - _ ⟨⟩; rfl⟩

theorem Inv.addUncompleted (h : Inv false t) : Inv false ⟨t.session.addUncompleted,
      t.session.uncompletedMessage.elim t.names t.names.add⟩ := by
  unfold MessageSession.addUncompleted
  split
  case h_2 hnone =>
    rw [hnone]
    exact h
  case h_1 msg hmsg =>
    rw [hmsg]
    exact h.add (h.uncompleted rfl msg hmsg) nofun rfl (by rintro _ ⟨⟩)

theorem names_of_closeMessage (h : Represents s.messageList names)
    (hm : s.closeMessage target name = some m) :
    names m.kind m.name = some m ∧ m.state = .created := by
  have hget : ∀ kind, poolGetSentMessage s.messageList kind name .created = some m →
      names m.kind m.name = some m ∧ m.state = .created := by
    intro kind hkind
    have hm := (inState_of_get hkind).2.2
    exact ⟨h.names_of_mem (mem_of_find?_eq_some hkind) hm, hm⟩
  cases target with
  | portal => exact hget _ hm
  | statement =>
    rcases Option.or_eq_some_iff.1 hm with hm | ⟨-, hm⟩
    · exact hget _ hm
    · exact hget _ hm

theorem Inv.dropped (h : Inv slMode t) (hrep : Represents s.messageList (t.names.drop p))
    (hmem : ∀ m ∈ s.messageList, m ∈ t.session.messageList)
    (huncompleted : ∀ m, s.uncompletedMessage = some m → t.session.uncompletedMessage = some m) :
    Inv slMode ⟨s, t.names.drop p⟩ :=
  ⟨hrep, fun hmode m hm => h.created hmode m (hmem m hm),
    fun hmode m hm => h.uncompleted hmode m (huncompleted m hm)⟩

theorem Names.drop_drop (names : Names) (p q : MessageKind → String → Bool) :
    (names.drop p).drop q = names.drop fun kind name => p kind name || q kind name := by
  funext kind name
  by_cases hp : p kind name <;> by_cases hq : q kind name <;> simp [Names.drop, hp, hq]

theorem removesCreated_remove_query (h : RemovesCreated l .parse name) :
    RemovesCreated (poolRemoveSentMessage l .query name) .parse name := by
  have hget : poolGetSentMessage (poolRemoveSentMessage l .query name) .parse name .created =
      poolGetSentMessage l .parse name .created := by
    rw [poolGetSentMessage_eq_head?, poolGetSentMessage_eq_head?, createdOf_remove_of_ne (by simp)]
  have hfirst : firstState (poolRemoveSentMessage l .query name) .parse name =
      firstState l .parse name := by
    rw [firstState, firstState, ← List.head?_filter, ← List.head?_filter, poolRemoveSentMessage,
      filter_eraseP_of_disjoint]
    intro m hm
    rw [named_iff] at hm
    simp [named, hm.1]
  rw [RemovesCreated, hget, hfirst]
  exact h

theorem Represents.deallocate (h : Represents l names) (hquery : RemovesCreated l .query name)
    (hparse : RemovesCreated l .parse name) :
    Represents (poolRemoveSentMessage (poolRemoveSentMessage l .query name) .parse name)
      (names.drop fun kind name' => decide (kind ≠ .bind) && decide (name' = name)) := by
  have hremoved := (h.remove hquery).remove (removesCreated_remove_query hparse)
  rw [Names.drop_drop] at hremoved
  convert hremoved using 2
  funext kind name'
  cases kind <;> simp [eq_comm]

theorem Represents.deallocateAll (h : Represents l names) :
    Represents (poolRemoveSentMessages (poolRemoveSentMessages l .query) .parse)
      (names.drop fun kind _ => decide (kind ≠ .bind)) := by
  have hremoved := (h.removeMessages .query).removeMessages .parse
  rw [Names.drop_drop] at hremoved
  convert hremoved using 2
  funext kind _
  cases kind <;> simp

/-- One event keeps the list in step with the names. -/
theorem step_inv (h : Inv slMode t) (e : MessageEvent) (he : slMode = true → Sound t.session e) :
    Inv slMode (tracedStep slMode t e) := by
  cases e with
  | parse name => exact h.send fun hmode => he hmode
  | bind portal stmt =>
    simp only [tracedStep, sessionStep, namesStep]
    by_cases hstmt : (t.session.statement stmt).isSome
    · simpa only [hstmt, and_true, if_true] using h.send fun hmode => he hmode
    · simpa only [hstmt, and_false, if_false, Bool.false_eq_true] using h
  | close target name =>
    simp only [tracedStep, sessionStep, namesStep]
    cases hm : t.session.closeMessage target name with
    | none => exact h
    | some msg =>
      obtain ⟨hnames, hcreated⟩ := names_of_closeMessage h.represents hm
      cases slMode with
      | true => exact ⟨h.represents.close hnames, nofun, nofun⟩
      | false => exact ⟨h.represents, h.created, by rintro - _ ⟨⟩; exact hcreated⟩
  | parseComplete | bindComplete =>
    cases slMode with
    | true => exact h
    | false => exact h.addUncompleted
  | closeComplete =>
    cases slMode with
    | true =>
      simp only [tracedStep, sessionStep, namesStep, if_true]
      cases hpending : t.session.pendingCloses with
      | nil => exact h
      | cons c rest =>
        exact ⟨h.represents.reap (he rfl c.1 c.2 (by rw [hpending]; rfl)), nofun, nofun⟩
    | false =>
      simp only [tracedStep, sessionStep, namesStep, Bool.false_eq_true, if_false]
      cases hmsg : t.session.uncompletedMessage with
      | none => exact h
      | some msg =>
        refine h.dropped ?_ (fun m hm => mem_remove hm) nofun
        exact h.represents.remove (h.removesCreated nofun)
  | prepare name =>
    exact h.add (m := t.session.poolCreateSentMessage .query name) rfl (fun hmode => he hmode) rfl
      nofun
  | prepareExecuted =>
    cases slMode with
    | false => exact h.addUncompleted
    | true =>
      simp only [tracedStep, sessionStep, namesStep, MessageSession.addUncompleted]
      cases hmsg : t.session.uncompletedMessage with
      | none => exact h
      | some msg =>
        obtain ⟨hcreated, hmem⟩ := he rfl msg hmsg
        obtain ⟨hadd, hnames⟩ := h.represents.add_self hmem hcreated
        refine ⟨?_, nofun, nofun⟩
        simpa only [hadd, Option.elim_some, hnames] using h.represents
  | query => exact ⟨h.represents, h.created, nofun⟩
  | deallocate name =>
    cases name with
    | some name =>
      refine h.dropped ?_ (fun m hm => mem_remove (mem_remove hm)) fun _ hm => hm
      exact h.represents.deallocate (h.removesCreated fun hmode => (he hmode).1)
        (h.removesCreated fun hmode => (he hmode).2)
    | none =>
      refine h.dropped h.represents.deallocateAll (fun m hm => ?_) fun _ hm => hm
      exact mem_of_mem_filter (mem_of_mem_filter hm)
  | discardPlans =>
    refine h.dropped h.represents.deallocateAll (fun m hm => ?_) fun _ hm => hm
    exact mem_of_mem_filter (mem_of_mem_filter hm)
  | discardAll => exact h.dropped (fun _ _ => rfl) (by simp [sessionStep]) fun _ hm => hm

end Step

/-- Every event of a run from `t` meets the condition; outside streaming replication
mode there is none. -/
def SoundRun (slMode : Bool) (t : Traced) : List MessageEvent → Prop
  | [] => True
  | e :: es =>
    (slMode = true → Sound t.session e) ∧ SoundRun slMode (tracedStep slMode t e) es

theorem run_inv (h : Inv slMode t) (es : List MessageEvent) (hes : SoundRun slMode t es) :
    Inv slMode (es.foldl (tracedStep slMode) t) := by
  induction es generalizing t with
  | nil => exact h
  | cons e es ih => exact ih (step_inv h e hes.1) hes.2

theorem SoundRun.before {before after : List MessageEvent}
    (h : SoundRun slMode t (before ++ after)) :
    SoundRun slMode t before := by
  induction before generalizing t with
  | nil => trivial
  | cons e before ih => exact ⟨h.1, ih h.2⟩

theorem inv_start (slMode : Bool) : Inv slMode (tracedRun slMode []) :=
  ⟨fun _ _ => rfl, by simp [tracedRun, MessageSession.start], nofun⟩

/-- **A statement or portal name designates one current object.**  In every run whose
events all meet the condition, at every moment the list holds at most one created
message for each kind and name, and the lookup returns the one added last. -/
theorem names_run (slMode : Bool) (before after : List MessageEvent)
    (hsound : SoundRun slMode (tracedRun slMode []) (before ++ after)) :
    NamesCurrent (tracedRun slMode before) :=
  (run_inv (inv_start slMode) before hsound.before).namesCurrent

/-- A statement is parsed, bound and closed, and parsed again before the answer to the
Close arrives. -/
def pipelinedRun : List MessageEvent :=
  [.parse "s", .bind "" "s", .close .statement "s", .parse "s", .closeComplete]

/-- The second statement is kept when the first one is closed. -/
theorem names_pipelinedRun : (tracedRun true pipelinedRun).session.messageList =
      [⟨1, .bind, "", .created⟩, ⟨2, .parse, "s", .created⟩] ∧
    NamesCurrent (tracedRun true pipelinedRun) := by
  refine ⟨by decide, names_run true pipelinedRun [] ⟨?_, ?_, ?_, ?_, ?_, trivial⟩⟩
  · exact fun _ hname => absurd hname (by decide)
  · exact fun _ _ hsome => absurd hsome (by decide)
  · exact fun _ => trivial
  · exact fun _ hname => absurd hname (by decide)
  · rintro _ target name ⟨⟩
    decide

/-- The unnamed statement is parsed and closed, and parsed twice more before the answer
to the Close arrives. -/
def unnamedRun : List MessageEvent :=
  [.parse "", .close .statement "", .parse "", .parse ""]

/-- A statement of a `PREPARE` is closed and its name parsed before the answer to the
Close arrives. -/
def preparedRun : List MessageEvent :=
  [.prepare "s", .close .statement "s", .parse "s", .closeComplete]

/-- In the first run the third Parse removes the closed message in place of the created
one: two created messages are left, and the lookup returns the older one.  In the second
run the answer to the Close removes the new statement, and the lookup finds none. -/
theorem unnamed_statement_twice : ((tracedRun true unnamedRun).session.messageList =
        [⟨1, .parse, "", .created⟩, ⟨2, .parse, "", .created⟩] ∧
      (tracedRun true unnamedRun).names .parse "" = some ⟨2, .parse, "", .created⟩ ∧
      poolGetSentMessage (tracedRun true unnamedRun).session.messageList .parse "" .created =
        some ⟨1, .parse, "", .created⟩) ∧
    ((tracedRun true preparedRun).session.messageList = [⟨0, .query, "s", .closed⟩] ∧
      (tracedRun true preparedRun).names .parse "s" = some ⟨1, .parse, "s", .created⟩ ∧
      poolGetSentMessage (tracedRun true preparedRun).session.messageList .parse "s" .created =
        none) ∧
    ¬ NamesCurrent (tracedRun true unnamedRun) ∧ ¬ NamesCurrent (tracedRun true preparedRun) := by
  refine ⟨by decide, by decide, fun h => ?_, fun h => ?_⟩
  · exact absurd (h .parse "").1 (by decide)
  · exact absurd (h .parse "s").2 (by decide)

end PgBalancer.Session
