import PgBalancer.Session.SentMessages

/-!
# The answers to Close messages

In streaming replication mode a Close marks a sent message as closed, and the message stays in
the list until the answer to the Close arrives.  By then the Close is known by its letter and its
name only: the answer removes the first message of that kind and name.  That is the marked one as
long as the closed messages of a name stand in the list in the order of their Closes, before the
created one.

* `close_answers_iff` — **in a run after which every Close is answered, each answer removes
  exactly the message that its Close has marked, if and only if every event meets its condition**.
-/

namespace PgBalancer.Session

open List

open SentMessage (named)

/-- What a client sends in a pipeline, and the answers. -/
inductive PipelineEvent where
  | parse (name : String)
  | bind (portal statement : String)
  | close (target : CloseTarget) (name : String)
  | sync
  /-- a simple query `PREPARE` has succeeded -/
  | prepare (name : String)
  | parseComplete
  | bindComplete
  | closeComplete
  | readyForQuery
  deriving DecidableEq

/-- What an event does to the sent messages; a Sync and its answer do nothing. -/
def PipelineEvent.effect : PipelineEvent → Option MessageEvent
  | .parse name => some (.parse name)
  | .bind portal statement => some (.bind portal statement)
  | .close target name => some (.close target name)
  | .prepare name => some (.prepare name)
  | .parseComplete => some .parseComplete
  | .bindComplete => some .bindComplete
  | .closeComplete => some .closeComplete
  | .sync | .readyForQuery => none

open PipelineEvent (effect)

/-- The session, beside the messages that the pending Closes have marked. -/
structure Pipeline where
  session : MessageSession
  marked : List SentMessage

namespace Pipeline

/-- Nothing has been sent. -/
def start : Pipeline := ⟨.start, []⟩

/-- The messages that the closes to be answered are about. -/
def mark (p : Pipeline) : PipelineEvent → List SentMessage
  | .close target name => p.marked ++ (p.session.closeMessage target name).toList
  | .closeComplete => if p.session.pendingCloses = [] then p.marked else p.marked.tail
  | _ => p.marked

/-- One event. -/
def step (p : Pipeline) (e : PipelineEvent) : Pipeline :=
  ⟨e.effect.elim p.session (sessionStep true p.session), p.mark e⟩

/-- The pipeline after some events. -/
def run (es : List PipelineEvent) : Pipeline := es.foldl step start

/-- **The property** of the answer to a Close: the marked message is in the list, and exactly it is
removed. -/
def RemovesMarked (p : Pipeline) : Prop :=
  ∀ m, p.marked.head? = some m →
    (∃ x ∈ p.session.messageList, x.id = m.id) ∧
      (p.step .closeComplete).session.messageList =
        p.session.messageList.filter fun x => decide (x.id ≠ m.id)

/-- The condition on an event, in the session it meets: an unnamed message is not replaced while a
closed one comes before it, and a Close does not mark a statement of a `PREPARE`. -/
def Meets (s : MessageSession) : PipelineEvent → Prop
  | .parse name => name = "" → RemovesCreated s.messageList .parse name
  | .bind portal statement =>
    (s.statement statement).isSome → portal = "" → RemovesCreated s.messageList .bind portal
  | .close target name => ∀ m, s.closeMessage target name = some m → m.kind = target.kind
  | .sync | .prepare _ | .parseComplete | .bindComplete | .closeComplete | .readyForQuery => True

/-! ## What an event can do -/

/-- The four things that an event can do, and what its condition says of each. -/
inductive StepShape (p : Pipeline) (e : PipelineEvent) : Pipeline → Prop
  | quiet {s : MessageSession} (hlist : s.messageList = p.session.messageList)
      (hpending : s.pendingCloses = p.session.pendingCloses)
      (hid : s.nextId = p.session.nextId) (hmeets : Meets p.session e) :
      StepShape p e ⟨s, p.marked⟩
  | add (kind : MessageKind) (name : String) {s : MessageSession}
      (hlist : s.messageList = poolAddSentMessage p.session.messageList
        (p.session.poolCreateSentMessage kind name))
      (hpending : s.pendingCloses = p.session.pendingCloses)
      (hid : s.nextId = p.session.nextId + 1)
      (hmeets : Meets p.session e ↔
        (kind ≠ .query → name = "" → RemovesCreated p.session.messageList kind name)) :
      StepShape p e ⟨s, p.marked⟩
  | close (target : CloseTarget) (name : String) (m : SentMessage) {s : MessageSession}
      (hm : p.session.closeMessage target name = some m)
      (hlist : s.messageList = poolSetSentMessageState p.session.messageList m)
      (hpending : s.pendingCloses = p.session.pendingCloses ++ [(target, name)])
      (hid : s.nextId = p.session.nextId)
      (hmeets : Meets p.session e ↔ m.kind = target.kind) :
      StepShape p e ⟨s, p.marked ++ [m]⟩
  | answer (target : CloseTarget) (name : String) (rest : List (CloseTarget × String))
      {s : MessageSession} (he : e = .closeComplete)
      (hhead : p.session.pendingCloses = (target, name) :: rest)
      (hlist : s.messageList =
        poolRemoveSentMessage p.session.messageList target.kind name)
      (hpending : s.pendingCloses = rest)
      (hid : s.nextId = p.session.nextId) :
      StepShape p e ⟨s, p.marked.tail⟩

/-- What an event can do to the list and to the marks. -/
theorem step_shape (p : Pipeline) (e : PipelineEvent) : StepShape p e (p.step e) := by
  cases e with
  | parse name => exact .add .parse name rfl rfl rfl (by simp [Meets])
  | bind portal statement =>
    by_cases hstatement : (p.session.statement statement).isSome
    · have hstep : p.step (.bind portal statement) =
          ⟨p.session.send true .bind portal, p.marked⟩ := by
        simp [step, effect, sessionStep, hstatement, mark]
      rw [hstep]
      exact .add .bind portal rfl rfl rfl (by simp [Meets, hstatement])
    · have hstep : p.step (.bind portal statement) = ⟨p.session, p.marked⟩ := by
        simp [step, effect, sessionStep, hstatement, mark]
      rw [hstep]
      exact .quiet rfl rfl rfl fun h => absurd h hstatement
  | close target name =>
    cases hm : p.session.closeMessage target name with
    | none =>
      have hstep : p.step (.close target name) = ⟨p.session, p.marked⟩ := by
        simp [step, effect, sessionStep, hm, mark]
      rw [hstep]
      exact .quiet rfl rfl rfl (by simp [Meets, hm])
    | some m =>
      have hmark : p.mark (.close target name) = p.marked ++ [m] := by simp [mark, hm]
      unfold step
      rw [hmark]
      refine .close target name m hm ?_ ?_ ?_ (by simp [Meets, hm])
      all_goals simp [effect, sessionStep, hm]
  | sync => exact .quiet rfl rfl rfl trivial
  | prepare name => exact .add .query name rfl rfl rfl (by simp [Meets])
  | parseComplete => exact .quiet rfl rfl rfl trivial
  | bindComplete => exact .quiet rfl rfl rfl trivial
  | closeComplete =>
    cases hhead : p.session.pendingCloses with
    | nil =>
      have hstep : p.step .closeComplete = ⟨p.session, p.marked⟩ := by
        simp [step, effect, sessionStep, hhead, mark]
      rw [hstep]
      exact .quiet rfl rfl rfl trivial
    | cons c rest =>
      have hmark : p.mark .closeComplete = p.marked.tail := by simp [mark, hhead]
      unfold step
      rw [hmark]
      refine .answer c.1 c.2 rest rfl hhead ?_ ?_ ?_
      all_goals simp [effect, sessionStep, hhead]
  | readyForQuery => exact .quiet rfl rfl rfl trivial

/-! ## Addresses -/

/-- What holds in every run: addresses are not used twice, and each pending Close has marked a
message, whose kind never changes. -/
structure Ids (p : Pipeline) : Prop where
  nodup : (p.session.messageList.map SentMessage.id).Nodup
  lt : ∀ x ∈ p.session.messageList, x.id < p.session.nextId
  marked_lt : ∀ m ∈ p.marked, m.id < p.session.nextId
  length : p.session.pendingCloses.length = p.marked.length
  same : ∀ m ∈ p.marked, ∀ x ∈ p.session.messageList, x.id = m.id → x.kind = m.kind

theorem ids_start : Ids start := ⟨nodup_nil, nofun, nofun, rfl, nofun⟩

theorem add_cases (l : List SentMessage) (m : SentMessage) :
    ∃ l', l'.Sublist l ∧ (poolAddSentMessage l m = l' ∨ poolAddSentMessage l m = l' ++ [m]) := by
  unfold poolAddSentMessage
  split
  · split
    · exact ⟨l, List.Sublist.refl l, .inl rfl⟩
    · split
      · exact ⟨_, eraseP_sublist, .inr rfl⟩
      · exact ⟨l, List.Sublist.refl l, .inl rfl⟩
  · exact ⟨l, List.Sublist.refl l, .inr rfl⟩

variable {m x : SentMessage}

theorem mem_setState {l : List SentMessage} (h : x ∈ poolSetSentMessageState l m) :
    ∃ y ∈ l, x.id = y.id ∧ x.kind = y.kind := by
  obtain ⟨y, hy, rfl⟩ := mem_map.1 h
  refine ⟨y, hy, ?_⟩
  split <;> exact ⟨rfl, rfl⟩

theorem map_id_setState (l : List SentMessage) :
    (poolSetSentMessageState l m).map SentMessage.id = l.map SentMessage.id := by
  unfold poolSetSentMessageState
  rw [map_map]
  refine map_congr_left fun x _ => ?_
  simp only [Function.comp_apply]
  split <;> rfl

theorem mem_of_closeMessage {s : MessageSession} {target : CloseTarget} {name : String}
    (h : s.closeMessage target name = some m) :
    m ∈ s.messageList ∧ m.name = name ∧ m.state = .created := by
  have hget : ∀ kind, poolGetSentMessage s.messageList kind name .created = some m →
      m ∈ s.messageList ∧ m.name = name ∧ m.state = .created := fun kind hkind =>
    ⟨mem_of_find?_eq_some hkind, (inState_of_get hkind).2⟩
  cases target with
  | portal => exact hget _ h
  | statement =>
    rcases Option.or_eq_some_iff.1 h with h | ⟨-, h⟩
    · exact hget _ h
    · exact hget _ h

variable {p p' : Pipeline}

/-- An event that brings no new message keeps the addresses. -/
theorem Ids.keep (h : Ids p) (hsub : (p'.session.messageList.map SentMessage.id).Sublist
      (p.session.messageList.map SentMessage.id))
    (hfrom : ∀ x ∈ p'.session.messageList, ∃ y ∈ p.session.messageList,
      x.id = y.id ∧ x.kind = y.kind)
    (hmarked : ∀ m ∈ p'.marked, m ∈ p.marked ∨ m ∈ p.session.messageList)
    (hid : p'.session.nextId = p.session.nextId)
    (hlength : p'.session.pendingCloses.length = p'.marked.length) : Ids p' := by
  refine ⟨hsub.nodup h.nodup, fun x hx => ?_, fun m hm => ?_, hlength, fun m hm x hx hxm => ?_⟩
  · obtain ⟨y, hy, hxy, -⟩ := hfrom x hx
    rw [hid, hxy]
    exact h.lt y hy
  · rw [hid]
    exact (hmarked m hm).elim (h.marked_lt m) (h.lt m)
  · obtain ⟨y, hy, hxy, hkind⟩ := hfrom x hx
    rw [hkind]
    rcases hmarked m hm with hm | hm
    · exact h.same m hm y hy (hxy.symm.trans hxm)
    · rw [inj_on_of_nodup_map h.nodup hy hm (hxy.symm.trans hxm)]

/-- Messages keep distinct numbers. -/
theorem Ids.step (h : Ids p) (e : PipelineEvent) : Ids (p.step e) := by
  have hshape := p.step_shape e
  generalize p.step e = p' at hshape ⊢
  cases hshape with
  | quiet hlist hpending hid _ =>
    refine h.keep (by rw [hlist]) (fun x hx => ⟨x, hlist ▸ hx, rfl, rfl⟩) (fun _ => .inl) hid ?_
    exact hpending ▸ h.length
  | add kind name hlist hpending hid _ =>
    obtain ⟨l', hsub, hadd⟩ := add_cases p.session.messageList
      (p.session.poolCreateSentMessage kind name)
    have hmem : ∀ x ∈ poolAddSentMessage p.session.messageList
        (p.session.poolCreateSentMessage kind name),
        x ∈ p.session.messageList ∨ x.id = p.session.nextId := fun x hx =>
      (mem_add hx).imp_right (congrArg SentMessage.id)
    rw [← hlist] at hmem
    refine ⟨?_, fun x hx => ?_, fun m hm => ?_, hpending ▸ h.length, fun m hm x hx hxid => ?_⟩
    · rw [hlist]
      have hnodup := (hsub.map SentMessage.id).nodup h.nodup
      rcases hadd with hadd | hadd <;> rw [hadd]
      · exact hnodup
      · rw [map_append, map_singleton]
        refine hnodup.append (nodup_singleton _) ?_
        simp only [disjoint_singleton]
        intro hin
        obtain ⟨x, hx, hxid⟩ := mem_map.1 hin
        exact absurd hxid (Nat.ne_of_lt (h.lt x (hsub.subset hx)))
    · rw [hid]
      rcases hmem x hx with hx | hx
      · exact Nat.lt_succ_of_lt (h.lt x hx)
      · exact Nat.lt_succ_of_le (Nat.le_of_eq hx)
    · rw [hid]
      exact Nat.lt_succ_of_lt (h.marked_lt m hm)
    · rcases hmem x hx with hx | hx
      · exact h.same m hm x hx hxid
      · exact absurd (hxid.symm.trans hx) (Nat.ne_of_lt (h.marked_lt m hm))
  | close target name m hm hlist hpending hid _ =>
    refine h.keep (by rw [hlist, map_id_setState]) (fun x hx => mem_setState (hlist ▸ hx))
      (fun m' hm' => (mem_append.1 hm').imp_right fun hm' => ?_) hid ?_
    · rw [mem_singleton.1 hm']
      exact (mem_of_closeMessage hm).1
    · rw [hpending, length_append, length_append, h.length]
      rfl
  | answer target name rest _ hhead hlist hpending hid =>
    refine h.keep ?_ (fun x hx => ⟨x, mem_remove (hlist ▸ hx), rfl, rfl⟩)
      (fun m hm => .inl (mem_of_mem_tail hm)) hid ?_
    · rw [hlist]
      exact eraseP_sublist.map SentMessage.id
    · have hlength := h.length
      rw [hhead, length_cons] at hlength
      rw [hpending, length_tail]
      omega

/-! ## The order of the messages of a name -/

/-- The message as it stands in the list after its Close. -/
def closedForm (m : SentMessage) : SentMessage := { m with state := .closed }

/-- The messages of a name: those that Closes have marked, in the order of the Closes, and then
perhaps a created one. -/
def Line (marked l : List SentMessage) (kind : MessageKind) (name : String) : Prop :=
  ∃ created : Option SentMessage, (∀ x ∈ created, x.state = .created) ∧
    l.filter (SentMessage.named kind name) =
      (marked.filter (SentMessage.named kind name)).map closedForm ++ created.toList

/-- **The invariant**: each Close has marked a message of its kind and name, and the messages of
each name are in order. -/
structure Lined (p : Pipeline) : Prop where
  pairs : p.session.pendingCloses.map (fun c => (c.1.kind, c.2)) =
    p.marked.map fun m => (m.kind, m.name)
  line : ∀ kind name, Line p.marked p.session.messageList kind name

section Lists

variable {l marked : List SentMessage} {kind kind' : MessageKind} {name name' : String}
  {m x : SentMessage} {created : Option SentMessage}

theorem find_named : l.find? (named kind name) = (l.filter (named kind name)).head? :=
  List.head?_filter.symm

theorem filter_remove_self : (poolRemoveSentMessage l kind name).filter (named kind name) =
      (l.filter (named kind name)).tail := by
  rw [poolRemoveSentMessage, filter_eraseP_of_first fun _ h => h]
  split
  · rfl
  · rename_i h
    cases hfind : l.find? (named kind name) with
    | some m => simp [hfind, List.find?_some hfind] at h
    | none =>
      rw [filter_eq_nil_iff.2 fun m hm => List.find?_eq_none.1 hfind m hm]
      rfl

theorem filter_remove_of_ne (h : ¬ (kind' = kind ∧ name' = name)) :
    (poolRemoveSentMessage l kind' name').filter (named kind name) =
      l.filter (named kind name) := by
  refine filter_eraseP_of_disjoint (fun m hm => ?_) l
  rw [← Bool.not_eq_true, named_iff]
  obtain ⟨hkind, hname⟩ := named_iff.1 hm
  exact fun ⟨hkind', hname'⟩ => h ⟨hkind.symm.trans hkind', hname.symm.trans hname'⟩

theorem filter_setState : (poolSetSentMessageState l m).filter (named kind name) =
      poolSetSentMessageState (l.filter (named kind name)) m := by
  unfold poolSetSentMessageState
  rw [filter_map]
  congr 1
  refine filter_congr fun x _ => ?_
  simp only [Function.comp_apply]
  split <;> rfl

theorem setState_of_notMem (h : m ∉ l) : poolSetSentMessageState l m = l := by
  unfold poolSetSentMessageState
  conv_rhs => rw [← map_id l]
  refine map_congr_left fun x hx => if_neg ?_
  rintro rfl
  exact h hx

theorem setState_append (l l' : List SentMessage) (m : SentMessage) :
    poolSetSentMessageState (l ++ l') m =
      poolSetSentMessageState l m ++ poolSetSentMessageState l' m :=
  map_append

/-- Where exactly one message has the address of the first match, removing the match is removing
the address. -/
theorem remove_eq_filter (hnodup : (l.map SentMessage.id).Nodup)
    (hx : l.find? (named kind name) = some x) :
    poolRemoveSentMessage l kind name = l.filter fun y => decide (y.id ≠ x.id) := by
  unfold poolRemoveSentMessage
  induction l with
  | nil => cases hx
  | cons y l ih =>
    rw [map_cons, nodup_cons] at hnodup
    by_cases hy : y.named kind name = true
    · rw [List.find?_cons_of_pos hy, Option.some.injEq] at hx
      subst hx
      rw [eraseP_cons_of_pos hy, filter_cons_of_neg (by simp), eq_comm, filter_eq_self]
      intro z hz
      rw [decide_eq_true_eq]
      intro hid
      exact hnodup.1 (hid ▸ mem_map_of_mem hz)
    · rw [List.find?_cons_of_neg hy] at hx
      have hne : y.id ≠ x.id := fun hid =>
        hnodup.1 (hid ▸ mem_map_of_mem (mem_of_find?_eq_some hx))
      rw [eraseP_cons_of_neg hy, filter_cons_of_pos (by simpa using hne), ih hnodup.2 hx]

theorem Line.get (hcreated : ∀ x ∈ created, x.state = .created) (h : l.filter (named kind name) =
      (marked.filter (named kind name)).map closedForm ++ created.toList) :
    poolGetSentMessage l kind name .created = created := by
  have hget : poolGetSentMessage l kind name .created =
      (l.filter (named kind name)).find? fun m => decide (m.state = .created) := by
    rw [List.find?_filter, poolGetSentMessage]
    congr 1
    funext m
    simp [SentMessage.inState]
  rw [hget, h, List.find?_append, List.find?_eq_none.2, Option.none_or]
  · cases created with
    | none => rfl
    | some x => simp [hcreated x rfl]
  · intro x hx
    obtain ⟨m, -, rfl⟩ := mem_map.1 hx
    simp [closedForm]

theorem Line.append (h : Line marked l kind name) (hm : m.state = .created)
    (hfree : m.named kind name = true → poolGetSentMessage l kind name .created = none) :
    Line marked (l ++ [m]) kind name := by
  obtain ⟨created, hcreated, hline⟩ := h
  by_cases hnamed : m.named kind name = true
  · have hnone : created = none := (Line.get hcreated hline).symm.trans (hfree hnamed)
    refine ⟨some m, by simpa using hm, ?_⟩
    rw [filter_append, hline, hnone, filter_cons_of_pos hnamed]
    simp
  · refine ⟨created, hcreated, ?_⟩
    rw [filter_append, hline, filter_cons_of_neg hnamed]
    simp

end Lists

section Step

variable {p : Pipeline}

theorem lined_start : Lined start := ⟨rfl, fun _ _ => ⟨none, nofun, rfl⟩⟩

variable {m : SentMessage} {l marked : List SentMessage} {kind : MessageKind} {name : String}
  {target : CloseTarget} {rest : List (CloseTarget × String)} {e : PipelineEvent}
  {c : CloseTarget × String} {s : MessageSession}

theorem Lined.no_query (h : Lined p) (hm : m ∈ p.marked) : m.kind ≠ .query := by
  intro hquery
  have hmem : (m.kind, m.name) ∈ p.marked.map fun m => (m.kind, m.name) := mem_map_of_mem hm
  rw [← h.pairs] at hmem
  obtain ⟨c, -, hc⟩ := mem_map.1 hmem
  have hkind : c.1.kind = m.kind := congrArg Prod.fst hc
  rw [hquery] at hkind
  cases hc1 : c.1 <;> simp [hc1, CloseTarget.kind] at hkind

theorem Lined.removesCreated_query (h : Lined p) :
    RemovesCreated p.session.messageList .query name := by
  obtain ⟨created, hcreated, hline⟩ := h.line .query name
  have hnil : p.marked.filter (named .query name) = [] := by
    rw [filter_eq_nil_iff]
    intro m hm hnamed
    exact h.no_query hm (named_iff.1 hnamed).1
  intro hsome
  rw [Line.get hcreated hline] at hsome
  obtain ⟨x, rfl⟩ := Option.isSome_iff_exists.1 hsome
  rw [firstState, find_named, hline, hnil]
  simp [hcreated x rfl]

/-- The first message of a name whose first is created is the one that is found. -/
theorem Line.tail_of_removesCreated (h : Line marked l kind name)
    (hremoves : RemovesCreated l kind name)
    (hsome : (poolGetSentMessage l kind name .created).isSome) :
    (l.filter (named kind name)).tail = [] ∧ marked.filter (named kind name) = [] := by
  obtain ⟨created, hcreated, hline⟩ := h
  have hfirst := hremoves hsome
  rw [firstState, find_named, hline] at hfirst
  rw [hline]
  cases hmarked : marked.filter (named kind name) with
  | nil => cases created <;> simp
  | cons m ms => simp [hmarked, closedForm] at hfirst

/-- A new message keeps the line. -/
theorem Lined.add (h : Lined p) (hm : m.state = .created)
    (hfresh : ∀ x ∈ p.session.messageList, x.id < m.id)
    (hremoves : m.name = "" → RemovesCreated p.session.messageList m.kind m.name)
    (kind : MessageKind) (name : String) :
    Line p.marked (poolAddSentMessage p.session.messageList m) kind name := by
  unfold poolAddSentMessage
  split
  case h_2 hnone =>
    refine (h.line kind name).append hm fun hnamed => ?_
    obtain ⟨rfl, rfl⟩ := named_iff.1 hnamed
    exact hnone
  case h_1 old hold =>
    have hne : old ≠ m := by
      rintro rfl
      exact absurd (hfresh old (mem_of_find?_eq_some hold)) (Nat.lt_irrefl _)
    rw [if_neg hne]
    obtain ⟨hkind, hname, -⟩ := inState_of_get hold
    by_cases hunnamed : m.name = ""
    · rw [if_pos hunnamed, hkind, hname]
      by_cases hkey : m.kind = kind ∧ m.name = name
      · -- the old message was the only one of the name
        obtain ⟨rfl, rfl⟩ := hkey
        obtain ⟨htail, hmarked⟩ := (h.line m.kind m.name).tail_of_removesCreated
          (hremoves hunnamed) (by rw [hold]; rfl)
        refine ⟨some m, by simpa using hm, ?_⟩
        rw [filter_append, filter_remove_self, htail, hmarked,
          filter_cons_of_pos (named_iff.2 ⟨rfl, rfl⟩)]
        simp
      · obtain ⟨created, hcreated, hline⟩ := h.line kind name
        refine ⟨created, hcreated, ?_⟩
        rw [filter_append, filter_remove_of_ne hkey, hline, filter_cons_of_neg (by rwa [named_iff])]
        simp
    · rw [if_neg hunnamed]
      exact h.line kind name

/-- A Close marks the created message of a name, which stands last. -/
theorem Lined.close (h : Lined p) (hmem : m ∈ p.session.messageList) (hm : m.state = .created)
    (kind : MessageKind) (name : String) :
    Line (p.marked ++ [m]) (poolSetSentMessageState p.session.messageList m) kind name := by
  obtain ⟨created, hcreated, hline⟩ := h.line kind name
  have hclosed : m ∉ (p.marked.filter (named kind name)).map closedForm := by
    intro hin
    obtain ⟨m', -, rfl⟩ := mem_map.1 hin
    cases hm
  by_cases hnamed : m.named kind name = true
  · have hlast : created = some m := by
      have hin : m ∈ p.session.messageList.filter (named kind name) :=
        mem_filter.2 ⟨hmem, hnamed⟩
      rw [hline, mem_append] at hin
      exact Option.mem_toList.1 (hin.resolve_left hclosed)
    refine ⟨none, nofun, ?_⟩
    rw [filter_setState, hline, hlast, setState_append, setState_of_notMem hclosed,
      filter_append, filter_cons_of_pos hnamed, map_append]
    simp [poolSetSentMessageState, closedForm]
  · refine ⟨created, hcreated, ?_⟩
    have hother : m ∉ p.session.messageList.filter (named kind name) :=
      fun hin => hnamed (mem_filter.1 hin).2
    rw [filter_setState, setState_of_notMem hother, hline, filter_append,
      filter_cons_of_neg hnamed, filter_nil, append_nil]

theorem Lined.head (h : Lined p) (hhead : p.session.pendingCloses = (target, name) :: rest) :
    ∃ m ms, p.marked = m :: ms ∧ m.kind = target.kind ∧ m.name = name ∧
      rest.map (fun c => (c.1.kind, c.2)) = ms.map fun m => (m.kind, m.name) := by
  have hpairs := h.pairs
  rw [hhead] at hpairs
  cases hmarked : p.marked with
  | nil =>
    rw [hmarked] at hpairs
    cases hpairs
  | cons m ms =>
    rw [hmarked, map_cons, map_cons] at hpairs
    obtain ⟨hpair, hrest⟩ := List.cons.inj hpairs
    obtain ⟨hkind, hname⟩ := Prod.mk.inj hpair
    exact ⟨m, ms, rfl, hkind.symm, hname.symm, hrest⟩

/-- **An event that meets its condition keeps the messages in order.** -/
theorem Lined.step (h : Lined p) (hids : Ids p) (he : Meets p.session e) : Lined (p.step e) := by
  have hshape := p.step_shape e
  generalize p.step e = p' at hshape ⊢
  cases hshape with
  | quiet hlist hpending hid _ =>
    exact ⟨hpending ▸ h.pairs, hlist ▸ h.line⟩
  | add kind name hlist hpending hid hmeets =>
    refine ⟨hpending ▸ h.pairs, ?_⟩
    rw [hlist]
    refine h.add rfl hids.lt fun hname => ?_
    by_cases hkind : kind = .query
    · subst hkind
      exact h.removesCreated_query
    · exact hmeets.1 he hkind hname
  | close target name m hm hlist hpending hid hmeets =>
    obtain ⟨hmem, hname, hstate⟩ := mem_of_closeMessage hm
    refine ⟨?_, ?_⟩
    · rw [hpending, map_append, map_append, h.pairs]
      simp [hmeets.1 he, hname]
    · rw [hlist]
      exact h.close hmem hstate
  | answer target name rest _ hhead hlist hpending hid =>
    obtain ⟨m, ms, hmarked, hkind, hname, hrest⟩ := h.head hhead
    rw [← hkind, ← hname] at hlist
    have hline := h.line
    rw [hmarked] at hline
    refine ⟨by rw [hpending, hmarked, hrest, tail_cons], ?_⟩
    intro kind name
    rw [hlist, hmarked, tail_cons]
    obtain ⟨created, hcreated, hline⟩ := hline kind name
    refine ⟨created, hcreated, ?_⟩
    by_cases hkey : m.kind = kind ∧ m.name = name
    · obtain ⟨rfl, rfl⟩ := hkey
      rw [filter_remove_self, hline, filter_cons_of_pos (named_iff.2 ⟨rfl, rfl⟩)]
      rfl
    · rw [filter_remove_of_ne hkey, hline, filter_cons_of_neg (by rwa [named_iff])]

theorem step_closeComplete (hc : p.session.pendingCloses.head? = some c) :
    (p.step .closeComplete).session.messageList =
      poolRemoveSentMessage p.session.messageList c.1.kind c.2 := by
  obtain ⟨rest, hpending⟩ := List.head?_eq_some_iff.1 hc
  simp [step, effect, sessionStep, hpending]

/-- **While the messages are in order, an answer removes what its Close has marked.** -/
theorem Lined.removesMarked (h : Lined p) (hids : Ids p) : RemovesMarked p := by
  intro m hm
  obtain ⟨ms, hmarked⟩ := List.head?_eq_some_iff.1 hm
  cases hpending : p.session.pendingCloses with
  | nil =>
    have hlength := hids.length
    rw [hpending, hmarked] at hlength
    cases hlength
  | cons c rest =>
    obtain ⟨m', ms', hmarked', hkind, hname, -⟩ := h.head hpending
    obtain ⟨rfl, -⟩ := List.cons.inj (hmarked.symm.trans hmarked')
    obtain ⟨created, -, hline⟩ := h.line m.kind m.name
    have hfind : p.session.messageList.find? (named m.kind m.name) =
        some (closedForm m) := by
      rw [find_named, hline, hmarked, filter_cons_of_pos (named_iff.2 ⟨rfl, rfl⟩)]
      rfl
    refine ⟨⟨closedForm m, mem_of_find?_eq_some hfind, rfl⟩, ?_⟩
    rw [step_closeComplete (c := c) (by rw [hpending]; rfl), ← hkind, ← hname]
    exact remove_eq_filter (x := closedForm m) hids.nodup hfind

/-! ## A Close that has lost its message -/

/-- A pending Close whose message is of another kind than the answer removes, or not in the list
any more. -/
def Lost (p : Pipeline) : Prop :=
  ∃ (i : ℕ) (c : CloseTarget × String) (m : SentMessage),
    p.session.pendingCloses[i]? = some c ∧ p.marked[i]? = some m ∧
      (m.kind ≠ c.1.kind ∨ ∀ x ∈ p.session.messageList, x.id ≠ m.id)

theorem not_removesMarked (hids : Ids p) (hc : p.session.pendingCloses.head? = some c)
    (hm : p.marked.head? = some m)
    (hlost : m.kind ≠ c.1.kind ∨ ∀ x ∈ p.session.messageList, x.id ≠ m.id) : ¬ RemovesMarked p := by
  intro h
  obtain ⟨⟨x, hx, hid⟩, hlist⟩ := h m hm
  rcases hlost with hkind | hgone
  · -- the message itself is not of the kind that is removed, so it stays
    have hxkind := hids.same m (mem_of_mem_head? hm) x hx hid
    have hstays : x ∈ poolRemoveSentMessage p.session.messageList c.1.kind c.2 := by
      refine (mem_eraseP_of_neg ?_).2 hx
      rw [named_iff]
      exact fun hnamed => hkind (hxkind.symm.trans hnamed.1)
    rw [← step_closeComplete hc, hlist, mem_filter] at hstays
    exact absurd hid (by simpa using hstays.2)
  · exact hgone x hx hid

/-- **A Close stays lost until its answer.** -/
theorem Lost.step (h : Lost p) (hids : Ids p) (e : PipelineEvent) :
    Lost (p.step e) ∨ (e = .closeComplete ∧ ¬ RemovesMarked p) := by
  obtain ⟨i, c, m, hc, hm, hlost⟩ := h
  have hmarked : m ∈ p.marked := mem_of_getElem? hm
  have hshape := p.step_shape e
  generalize p.step e = p' at hshape ⊢
  cases hshape with
  | quiet hlist hpending hid _ =>
    exact .inl ⟨i, c, m, by rwa [hpending], hm, by rwa [hlist]⟩
  | add kind name hlist hpending hid _ =>
    refine .inl ⟨i, c, m, by rwa [hpending], hm, hlost.imp_right fun hgone x hx => ?_⟩
    rw [hlist] at hx
    rcases mem_add hx with hx | rfl
    · exact hgone x hx
    · exact (Nat.ne_of_lt (hids.marked_lt m hmarked)).symm
  | close target name m' _ hlist hpending hid _ =>
    have hi := (List.getElem?_eq_some_iff.1 hc).1
    have hi' := (List.getElem?_eq_some_iff.1 hm).1
    refine .inl ⟨i, c, m, ?_, ?_, hlost.imp_right fun hgone x hx => ?_⟩
    · rwa [hpending, List.getElem?_append_left hi]
    · rwa [List.getElem?_append_left hi']
    · rw [hlist] at hx
      obtain ⟨y, hy, hxy, -⟩ := mem_setState hx
      exact hxy ▸ hgone y hy
  | answer target name rest he hhead hlist hpending hid =>
    cases i with
    | zero =>
      refine .inr ⟨he, not_removesMarked hids ?_ ?_ hlost⟩
      · rw [List.head?_eq_getElem?, hc]
      · rw [List.head?_eq_getElem?, hm]
    | succ i =>
      rw [hhead, List.getElem?_cons_succ] at hc
      refine .inl ⟨i, c, m, by rwa [hpending], by rwa [List.getElem?_tail],
        hlost.imp_right fun hgone x hx => ?_⟩
      rw [hlist] at hx
      exact hgone x (mem_remove hx)

/-- An unnamed message that replaces a closed one makes the answer to its Close go astray. -/
theorem Lined.lost_of_replaced (h : Lined p) (hids : Ids p)
    (hremoves : ¬ RemovesCreated p.session.messageList kind "")
    (hlist : s.messageList = poolAddSentMessage p.session.messageList
      (p.session.poolCreateSentMessage kind ""))
    (hpending : s.pendingCloses = p.session.pendingCloses) : Lost ⟨s, p.marked⟩ := by
  unfold RemovesCreated at hremoves
  push Not at hremoves
  obtain ⟨hsome, hfirst⟩ := hremoves
  obtain ⟨old, hold⟩ := Option.isSome_iff_exists.1 hsome
  obtain ⟨created, hcreated, hline⟩ := h.line kind ""
  have holdc : created = some old := (Line.get hcreated hline).symm.trans hold
  cases hmarked : p.marked.filter (named kind "") with
  | nil =>
    refine absurd ?_ hfirst
    rw [firstState, find_named, hline, hmarked, holdc]
    simp [hcreated old holdc]
  | cons m ms =>
    have hm : m ∈ p.marked :=
      mem_of_mem_filter (p := named kind "") (by rw [hmarked]; exact .head _)
    have hfind : p.session.messageList.find? (named kind "") = some (closedForm m) := by
      rw [find_named, hline, hmarked]
      rfl
    obtain ⟨i, hi⟩ := mem_iff_getElem?.1 hm
    have hlt : i < p.session.pendingCloses.length := by
      rw [hids.length]
      exact (List.getElem?_eq_some_iff.1 hi).1
    refine ⟨i, p.session.pendingCloses[i], m, ?_, hi, .inr fun x hx => ?_⟩
    · rw [hpending, List.getElem?_eq_getElem hlt]
    · have hnew : old ≠ p.session.poolCreateSentMessage kind "" := by
        rintro rfl
        exact absurd (hids.lt _ (mem_of_find?_eq_some hold)) (Nat.lt_irrefl _)
      obtain ⟨hkind, hname, -⟩ := inState_of_get hold
      have hadd : poolAddSentMessage p.session.messageList
          (p.session.poolCreateSentMessage kind "") =
            poolRemoveSentMessage p.session.messageList kind "" ++
              [p.session.poolCreateSentMessage kind ""] := by
        rw [poolAddSentMessage, show poolGetSentMessage p.session.messageList
          (p.session.poolCreateSentMessage kind "").kind
          (p.session.poolCreateSentMessage kind "").name .created = some old from hold]
        simp only [if_neg hnew, hkind, hname]
        exact if_pos rfl
      rw [hlist, hadd, remove_eq_filter hids.nodup hfind, mem_append] at hx
      rcases hx with hx | hx
      · exact of_decide_eq_true (mem_filter.1 hx).2
      · rw [mem_singleton.1 hx]
        exact (Nat.ne_of_lt (hids.marked_lt m hm)).symm

/-- **An event that does not meet its condition loses a Close.** -/
theorem Lined.lost (h : Lined p) (hids : Ids p) (he : ¬ Meets p.session e) : Lost (p.step e) := by
  have hshape := p.step_shape e
  generalize p.step e = p' at hshape ⊢
  cases hshape with
  | quiet _ _ _ hmeets => exact absurd hmeets he
  | add kind name hlist hpending _ hmeets =>
    rw [hmeets] at he
    push Not at he
    obtain ⟨-, rfl, hremoves⟩ := he
    exact h.lost_of_replaced hids hremoves hlist hpending
  | close target name m _ _ hpending _ hmeets =>
    rw [hmeets] at he
    refine ⟨p.session.pendingCloses.length, (target, name), m, ?_, ?_, .inl he⟩
    · rw [hpending, List.getElem?_concat_length]
    · rw [hids.length, List.getElem?_concat_length]
  | answer _ _ _ hcomplete =>
    subst hcomplete
    exact absurd trivial he

end Step

/-! ## Runs -/

theorem run_append (es es' : List PipelineEvent) : run (es ++ es') = es'.foldl step (run es) :=
  foldl_append

theorem run_concat (es : List PipelineEvent) (e : PipelineEvent) :
    run (es ++ [e]) = (run es).step e :=
  run_append es [e]

theorem ids_run (es : List PipelineEvent) : Ids (run es) := by
  induction es using List.reverseRecOn with
  | nil => exact ids_start
  | append_singleton es e ih =>
    rw [run_concat]
    exact ih.step e

/-- The answers to the Closes that a run leaves pending. -/
def answers (es : List PipelineEvent) : List PipelineEvent :=
  List.replicate (run es).session.pendingCloses.length .closeComplete

theorem pending_answered (n : ℕ) : ∀ p : Pipeline, p.session.pendingCloses.length = n →
    ((List.replicate n PipelineEvent.closeComplete).foldl step p).session.pendingCloses = [] := by
  induction n with
  | zero => exact fun p h => eq_nil_of_length_eq_zero h
  | succ n ih =>
    intro p h
    rw [replicate_succ, foldl_cons]
    apply ih
    cases hpending : p.session.pendingCloses with
    | nil =>
      rw [hpending] at h
      cases h
    | cons c rest =>
      rw [hpending, length_cons] at h
      simpa [step, effect, sessionStep, hpending] using h

/-- **A run that answers every Close shows that one was lost.** -/
theorem Lost.run (es : List PipelineEvent) : ∀ {p : Pipeline}, Lost p → Ids p →
    (es.foldl Pipeline.step p).session.pendingCloses = [] →
      ∃ before after, es = before ++ .closeComplete :: after ∧
        ¬ RemovesMarked (before.foldl Pipeline.step p) := by
  induction es with
  | nil =>
    rintro p ⟨i, c, m, hc, -⟩ - hend
    rw [show p.session.pendingCloses = [] from hend] at hc
    cases hc
  | cons e es ih =>
    intro p hlost hids hend
    rcases hlost.step hids e with hlost | ⟨rfl, hwrong⟩
    · obtain ⟨before, after, rfl, hwrong⟩ := ih hlost (hids.step e) hend
      exact ⟨e :: before, after, rfl, hwrong⟩
    · exact ⟨[], es, rfl, hwrong⟩

variable {es before : List PipelineEvent} {e : PipelineEvent}

theorem next_cases (h : before ++ [e] <+: es ++ answers es) :
    before ++ [e] <+: es ∨ e = .closeComplete := by
  obtain ⟨rest, hrest⟩ := h
  rcases append_eq_append_iff.1 hrest with ⟨tail, hes, -⟩ | ⟨tail, hbefore, hanswers⟩
  · exact .inl ⟨tail, hes.symm⟩
  · induction tail using List.reverseRecOn with
    | nil => exact .inl ⟨[], by simpa using hbefore⟩
    | append_singleton tail x _ =>
      rw [← append_assoc] at hbefore
      obtain rfl : e = x := singleton_inj.1 (append_inj' hbefore rfl).2
      refine .inr (eq_of_mem_replicate (n := (run es).session.pendingCloses.length) ?_)
      change e ∈ answers es
      rw [hanswers]
      simp

theorem lined_run {es : List PipelineEvent}
    (h : ∀ before e, before ++ [e] <+: es → Lined (run before) → Meets (run before).session e)
    (before : List PipelineEvent) : before <+: es → Lined (run before) := by
  induction before using List.reverseRecOn with
  | nil => exact fun _ => lined_start
  | append_singleton before e ih =>
    intro hbefore
    have hlined := ih ((prefix_append before [e]).trans hbefore)
    rw [run_concat]
    exact hlined.step (ids_run before) (h before e hbefore hlined)

/-- An event that does not meet its condition makes an answer remove something else. -/
theorem meets_of_answers
    (h : ∀ before, before ++ [.closeComplete] <+: es ++ answers es → RemovesMarked (run before))
    (hlined : Lined (run before)) (hnext : before ++ [e] <+: es) :
    Meets (run before).session e := by
  by_contra hmeets
  obtain ⟨rest, rfl⟩ := hnext
  have hlost := hlined.lost (ids_run before) hmeets
  rw [← run_concat] at hlost
  have hend := pending_answered _ (run (before ++ [e] ++ rest)) rfl
  rw [← run_append, show List.replicate _ _ = answers (before ++ [e] ++ rest) from rfl,
    append_assoc (before ++ [e]), run_append] at hend
  obtain ⟨middle, after, hsplit, hwrong⟩ := hlost.run _ (ids_run _) hend
  rw [← run_append] at hwrong
  refine hwrong (h _ ⟨after, ?_⟩)
  rw [append_assoc (before ++ [e]) rest, hsplit]
  simp

/-- **Every `CloseComplete` removes the message that was marked for it, and no other**, if and only
if each event meets its condition in the session before it. -/
theorem close_answers_iff (es : List PipelineEvent) :
    (∀ before, before ++ [.closeComplete] <+: es ++ answers es → RemovesMarked (run before)) ↔
      ∀ before e, before ++ [e] <+: es → Meets (run before).session e := by
  constructor
  · intro h before e hnext
    have hlined := lined_run (fun _ _ hnext hlined => meets_of_answers h hlined hnext)
    exact meets_of_answers h (hlined before ((prefix_append before [e]).trans hnext)) hnext
  · intro h before hnext
    refine Lined.removesMarked (lined_run (fun before e hnext _ => ?_) before
      ((prefix_append _ _).trans hnext)) (ids_run before)
    rcases next_cases hnext with hnext | rfl
    · exact h before e hnext
    · trivial

/-- A statement of a `PREPARE` is closed, its name parsed again, and the Close answered: the new
statement is removed, and the closed one stays. -/
theorem prepared_not_removed : (run [.prepare "s", .close .statement "s", .parse "s"]).marked =
        [⟨0, .query, "s", .created⟩] ∧
      (run [.prepare "s", .close .statement "s", .parse "s"]).session.messageList =
        [⟨0, .query, "s", .closed⟩, ⟨1, .parse, "s", .created⟩] ∧
      (run [.prepare "s", .close .statement "s", .parse "s", .closeComplete]).session.messageList =
        [⟨0, .query, "s", .closed⟩] ∧
      ¬ RemovesMarked (run [.prepare "s", .close .statement "s", .parse "s"]) := by
  refine ⟨by decide, by decide, by decide, fun h => ?_⟩
  exact absurd (h ⟨0, .query, "s", .created⟩ (by decide)).2 (by decide)

end Pipeline
end PgBalancer.Session
