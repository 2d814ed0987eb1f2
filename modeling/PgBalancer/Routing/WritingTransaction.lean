import PgBalancer.Routing.TransactionMemory

/-!
# Reads after writes of one transaction

While the session remembers a write or the isolation level `SERIALIZABLE`,
`where_to_send_main_replica` keeps a `SELECT` on the primary.  A `Bind` that finds the flag
set has the statement parsed again there.

* `reads_follow_writes` — **in every run whose steps keep the memory of the transaction
  (`Sound`), every `SELECT` after a write or after a change to `SERIALIZABLE` goes to the
  primary only**.
-/

namespace PgBalancer.Routing

open PatternLists (Text)
open QueryCache (TState)
open TreeWalk (Branching)

variable {ρ : Type}

/-! ## What really happens in a transaction -/

/-- Neither a read-only `SELECT` nor `SET TRANSACTION READ ONLY`. -/
def isCounted (e : Env ρ) (n : Node) : Bool :=
  !(isSelect n && !allNodes.walk (writes e) n) && !poolIsTransactionReadOnly n

/-- What has succeeded in the current transaction. -/
structure History where
  /-- a statement that counts as a write -/
  wrote : Bool
  /-- a change of the isolation level to `SERIALIZABLE` -/
  serialized : Bool
  deriving DecidableEq

namespace History

/-- Nothing has happened yet. -/
def clean : History := ⟨false, false⟩

/-- There is something a later `SELECT` must respect. -/
def Matters (h : History) : Prop := h.wrote = true ∨ h.serialized = true

/-- The record of a transaction. -/
def ledger (e : Env ρ) : Ledger History where
  clean := clean
  add h n := ⟨h.wrote || isCounted e n, h.serialized || isSetTransactionSerializable n⟩

end History

/-! ## A session -/

/-- A statement that was parsed, with its query context. -/
structure PreparedStmt where
  node : Node
  query : Text
  map : NodeMap

/-- A session, and what its transaction has done. -/
structure TxSession where
  flags : Flags
  prepared : Text → Option PreparedStmt
  history : History

/-- A message of the client. -/
inductive TxEvent (ρ : Type) where
  /-- a `Query` message, of one or several statements -/
  | simple (k : Circumstances ρ) (n : Node) (rest : List Node)
  /-- a `Parse` message -/
  | parse (k : Circumstances ρ) (name : Text) (n : Node)
  /-- `Bind` and `Execute` of what was parsed -/
  | execute (k : Circumstances ρ) (name : Text)

variable (c : RunConfig)

/-- The nodes of a `Bind`: normally those of the `Parse`.  Once the transaction has
written, the statement is parsed again on the primary. -/
def bindMap (e : Env ρ) (p : PreparedStmt) : Except RouteError NodeMap :=
  if e.config.loadBalanceMode ∧ e.session.writingTransaction ∧ e.session.tstate = .transaction ∧
      e.config.disableLoadBalanceOnWrite ≠ .off then
    if e.slMode then if e.primary ∉ p.map then .ok [e.primary] else .ok p.map
    else poolWhereToSend e p.node
  else .ok p.map

/-- The memory right before the backend answers to an `Execute`. -/
def executeFlags (f : Flags) (k : Circumstances ρ) (n : Node) : Flags :=
  let e := k.at c f
  let f := startInternalTransaction c k e f
  if e.slMode then beforeExecute e n f else f

/-- The circumstances of the execution of a parsed statement. -/
def Circumstances.of (k : Circumstances ρ) (p : PreparedStmt) : Circumstances ρ :=
  { k with env := { k.env with query := p.query, isMultiStatement := false } }

/-- `SimpleQuery` up to `ReadyForQuery` -/
def simpleStep (s : TxSession) (k : Circumstances ρ) (n : Node) (rest : List Node) : TxSession :=
  match k.route c s.flags n with
  | .error _ => s
  | .ok _ =>
    { s with
      flags := complete (k.at c s.flags) n rest k.outcome s.flags.tstate (flagsBefore c s.flags k n)
      history :=
        if succeeds s.flags.tstate n k.outcome then
          (History.ledger (k.at c s.flags)).recordAll s.flags.tstate s.history (n :: rest)
        else s.history }

/-- `Parse` -/
def parseStep (s : TxSession) (k : Circumstances ρ) (name : Text) (n : Node) : TxSession :=
  match poolWhereToSend (k.at c s.flags) n with
  | .error _ => s
  | .ok map =>
    { s with
      flags := afterRouting (k.at c s.flags) n s.flags
      prepared := Function.update s.prepared name (some ⟨n, k.env.query, map⟩) }

/-- `Bind` and `Execute` of a statement up to `ReadyForQuery` -/
def executeStep (s : TxSession) (k : Circumstances ρ) (name : Text) (p : PreparedStmt) :
    TxSession :=
  match bindMap (k.at c s.flags) p with
  | .error _ => s
  | .ok map =>
    { flags :=
        complete (k.at c s.flags) p.node [] k.outcome s.flags.tstate
          (executeFlags c s.flags k p.node)
      prepared := Function.update s.prepared name (some { p with map := map })
      history :=
        if succeeds s.flags.tstate p.node k.outcome then
          (History.ledger (k.at c s.flags)).record s.flags.tstate s.history p.node
        else s.history }

/-- What a message does. -/
def txStep (s : TxSession) : TxEvent ρ → TxSession
  | .simple k n rest => simpleStep c s k n rest
  | .parse k name n => parseStep c s k name n
  | .execute k name =>
    match s.prepared name with
    | none => s
    | some p => executeStep c s (k.of p) name p

/-- The session after some messages. -/
def txRun (s : TxSession) (evs : List (TxEvent ρ)) : TxSession := evs.foldl (txStep c) s

/-- A session context as it is initialised. -/
def txStart : TxSession := ⟨⟨.idle, false, false, .unknown⟩, fun _ => none, .clean⟩

variable {c} {e : Env ρ} {n : Node} {f : Flags} {h : History} {t : TState} {rest : List Node}

theorem not_matters_clean : ¬ History.clean.Matters := by simp [History.Matters, History.clean]

/-! ## What a message adds -/

/-- One of the statements counts. -/
def Counts (e : Env ρ) (ns : List Node) : Prop :=
  ∃ m ∈ ns, isCounted e m = true ∨ isSetTransactionSerializable m = true

theorem matters_add (h : History) (n : Node) (hm : ((History.ledger e).add h n).Matters) :
    h.Matters ∨ (isCounted e n = true ∨ isSetTransactionSerializable n = true) := by
  simp only [History.ledger, History.Matters, Bool.or_eq_true] at hm
  rcases hm with (hw | hc) | (hs | hc)
  · exact .inl (.inl hw)
  · exact .inr (.inl hc)
  · exact .inl (.inr hs)
  · exact .inr (.inr hc)

theorem carried_of_matters (hrest : PlainIfSeveral n rest)
    (hm : ((History.ledger e).recordAll t h (n :: rest)).Matters) :
    Carried h.Matters (Counts e (n :: rest)) t n :=
  Ledger.carried_of_matters History.Matters not_matters_clean matters_add hrest hm

/-! ## Steps -/

/-- A statement that was parsed for the primary, or that `Bind` parses there again. -/
def BoundToPrimary (c : RunConfig) (e : Env ρ) (p : PreparedStmt) : Prop :=
  (∀ i ∈ p.map, i = c.primary) ∨
    (e.config.loadBalanceMode = true ∧ e.session.writingTransaction = true ∧
      e.session.tstate = .transaction ∧ (e.slMode = true → c.primary ∉ p.map))

/-- The steps that keep the memory of the transaction. -/
def Sound (c : RunConfig) (s : TxSession) : TxEvent ρ → Prop
  | .simple k n rest =>
    (isSelect n = true → s.history.Matters → ∀ i ∈ k.terminates, i = c.primary) ∧
    NoInternalStart c k s.history.Matters ∧ PlainIfSeveral n rest ∧
    KeepsMemory c .routing (k.at c s.flags) s.history.Matters
      (Counts (k.at c s.flags) (n :: rest)) s.flags.tstate (flagsBefore c s.flags k n) n
  | .parse .. => True
  | .execute k name => ∀ p, s.prepared name = some p →
    NoInternalStart c k s.history.Matters ∧
    KeepsMemory c .routing ((k.of p).at c s.flags) s.history.Matters
      (Counts ((k.of p).at c s.flags) [p.node]) s.flags.tstate
      (executeFlags c s.flags (k.of p) p.node) p.node ∧
    (isSelect p.node = true → s.history.Matters →
      BoundToPrimary c ((k.of p).at c s.flags) p)

/-- Every message of the run is sound. -/
def SoundRun (c : RunConfig) : TxSession → List (TxEvent ρ) → Prop
  | _, [] => True
  | s, ev :: evs => Sound c s ev ∧ SoundRun c (txStep c s ev) evs

/-- What the transaction has done is remembered. -/
def Inv (s : TxSession) : Prop :=
  s.history.Matters → s.flags.tstate ≠ .idle ∧ s.flags.Remembers .routing

variable {s : TxSession} {k : Circumstances ρ} {counts matters : Prop} {name : Text}
  {p : PreparedStmt} {ev : TxEvent ρ} {evs pre : List (TxEvent ρ)}

theorem remembers_executeFlags (hk : NoInternalStart c k matters) (hm : matters) (ht : t ≠ .idle)
    (hf : f.Remembers .routing)
    (hmem : KeepsMemory c .routing (k.at c f) matters counts t (executeFlags c f k n) n) :
    (executeFlags c f k n).Remembers .routing := by
  cases hstart : isStartTransactionQuery n with
  | true => exact .inl (hmem.restart hstart ht hm).2
  | false =>
    have hint := remembers_startInternalTransaction f hk hm hf
    unfold executeFlags
    dsimp only
    split_ifs
    · simp only [beforeExecute, handleQueryContext, hstart, Bool.false_eq_true, if_false]
      split_ifs
      · exact remembers_rememberWrite hint
      · exact hint
    · exact hint

theorem simpleStep_inv (hs : Sound c s (.simple k n rest)) (hi : Inv s) :
    Inv (simpleStep c s k n rest) := by
  obtain ⟨-, hint, hrest, hmem⟩ := hs
  unfold simpleStep
  split
  · exact hi
  · intro hm
    refine complete_inv rfl hrest (fun hm => ⟨(hi hm).1, ?_⟩) hmem ?_
    · exact remembers_flagsBefore hint hm (hi hm).2
    · dsimp only at hm
      split_ifs at hm ⊢
      · exact carried_of_matters hrest hm
      · exact hm

theorem parseStep_inv (hi : Inv s) : Inv (parseStep c s k name n) := by
  unfold parseStep
  split
  · exact hi
  · exact fun hm => ⟨tstate_afterRouting.symm ▸ (hi hm).1, remembers_afterRouting (hi hm).2⟩

theorem executeStep_inv (hint : NoInternalStart c k s.history.Matters)
    (hmem : KeepsMemory c .routing (k.at c s.flags) s.history.Matters
      (Counts (k.at c s.flags) [p.node]) s.flags.tstate (executeFlags c s.flags k p.node) p.node)
    (hi : Inv s) : Inv (executeStep c s k name p) := by
  have hrest : PlainIfSeveral p.node [] := plainIfSeveral_nil
  unfold executeStep
  split
  · exact hi
  · intro hm
    refine complete_inv rfl hrest (fun hm => ⟨(hi hm).1, ?_⟩) hmem ?_
    · exact remembers_executeFlags hint hm (hi hm).1 (hi hm).2 hmem
    · dsimp only at hm
      split_ifs at hm ⊢
      · exact carried_of_matters hrest hm
      · exact hm

/-- **A step that keeps the memory keeps it true.** -/
theorem step_inv (hs : Sound c s ev) (hi : Inv s) : Inv (txStep c s ev) := by
  cases ev with
  | simple k n rest => exact simpleStep_inv hs hi
  | parse k name n => exact parseStep_inv hi
  | execute k name =>
    rw [txStep]
    cases hp : s.prepared name with
    | none => exact hi
    | some p =>
      obtain ⟨hint, hmem, -⟩ := hs p hp
      exact executeStep_inv hint hmem hi

theorem run_inv (hs : SoundRun c s evs) (hi : Inv s) : Inv (txRun c s evs) := by
  induction evs generalizing s with
  | nil => exact hi
  | cons ev evs ih => exact ih hs.2 (step_inv hs.1 hi)

/-! ## Where a `SELECT` goes -/

/-- Sent to the primary, or not at all. -/
def PrimaryOnly (c : RunConfig) (r : Except RouteError NodeMap) : Prop :=
  ∀ map, r = .ok map → ∀ i ∈ map, i = c.primary

/-- The statement a message is about, and where it is sent. -/
def sends (c : RunConfig) (s : TxSession) : TxEvent ρ → Option (Node × Except RouteError NodeMap)
  | .simple k n _ => some (n, k.route c s.flags n)
  | .parse k _ n => some (n, poolWhereToSend (k.at c s.flags) n)
  | .execute k name =>
    (s.prepared name).map fun p => (p.node, bindMap ((k.of p).at c s.flags) p)

/-- A `SELECT` respects what its transaction has done. -/
def Follows (c : RunConfig) (s : TxSession) (ev : TxEvent ρ) : Prop :=
  ∀ n r, sends c s ev = some (n, r) → isSelect n = true → s.history.Matters → PrimaryOnly c r

theorem sendToWhere_select_ne_both (hn : isSelect n = true) : sendToWhere e n ≠ .both := by
  cases n <;> simp only [isSelect, Bool.false_eq_true] at hn
  unfold sendToWhere
  split_ifs <;> simp

theorem primaryOnly_of_remembers (hn : isSelect n = true) (ht : f.tstate ≠ .idle)
    (hf : f.Remembers .routing) : PrimaryOnly c (poolWhereToSend (k.at c f) n) := by
  intro map hmap i hi
  by_contra hne
  have hx : isExempt n = false := by cases n <;> simp_all [isSelect, isExempt]
  rw [poolWhereToSend_of_not_exempt hx, destination] at hmap
  split_ifs at hmap
  · exact hne (mem_poolSetNodeToBeSent hmap hi)
  · rcases mem_whereToSendMainReplica hmap hi hne with ⟨hboth, -⟩ | ⟨-, -, hallow, -⟩
    · exact sendToWhere_select_ne_both hn hboth
    · rcases hf with hw | ⟨-, hiso⟩
      · simp [Session.allowsLoadBalance, Circumstances.at, ht, hw] at hallow
      · simp [Session.allowsLoadBalance, Circumstances.at, ht, hiso] at hallow

theorem primaryOnly_bindMap (hc : c.dlbow.remembers = true) (hn : isSelect p.node = true)
    (ht : f.tstate ≠ .idle) (hf : f.Remembers .routing) (hb : BoundToPrimary c (k.at c f) p) :
    PrimaryOnly c (bindMap (k.at c f) p) := by
  unfold bindMap
  split_ifs with hre hsl hmap
  · rcases hb with hb | ⟨-, -, -, hb⟩
    · rintro map ⟨⟩ i hi
      exact hb i hi
    · exact absurd hmap (hb hsl)
  · rintro map ⟨⟩ i hi
    exact List.mem_singleton.1 hi
  · exact primaryOnly_of_remembers hn ht hf
  · rcases hb with hb | ⟨hlb, hw, htx, -⟩
    · rintro map ⟨⟩ i hi
      exact hb i hi
    · have hoff : c.dlbow ≠ .off := fun hoff => by simp [DlbowOption.remembers, hoff] at hc
      exact absurd ⟨hlb, hw, htx, hoff⟩ hre

theorem follows_of_inv (hc : c.dlbow.remembers = true) (hs : Sound c s ev) (hi : Inv s) :
    Follows c s ev := by
  intro n r hsend hn hm
  obtain ⟨ht, hf⟩ := hi hm
  cases ev with
  | simple k n' rest =>
    cases hsend
    unfold Circumstances.route queryDestination
    split
    · next i hi =>
      rintro map ⟨⟩ j hj
      rw [List.mem_singleton.1 hj]
      exact hs.1 hn hm i hi
    · exact primaryOnly_of_remembers hn ht hf
  | parse k name n' =>
    cases hsend
    exact primaryOnly_of_remembers hn ht hf
  | execute k name =>
    obtain ⟨p, hp, hpair⟩ := Option.map_eq_some_iff.1 hsend
    cases hpair
    exact primaryOnly_bindMap hc hn ht hf ((hs p hp).2.2 hn hm)

theorem soundRun_append (hs : SoundRun c s (pre ++ evs)) :
    SoundRun c s pre ∧ SoundRun c (txRun c s pre) evs := by
  induction pre generalizing s with
  | nil => exact ⟨trivial, hs⟩
  | cons ev pre ih => exact ⟨⟨hs.1, (ih hs.2).1⟩, (ih hs.2).2⟩

/-- **In a transaction that has written, every read follows the writes**, in runs whose messages are
`Sound`. -/
theorem reads_follow_writes (c : RunConfig) (hc : c.dlbow.remembers = true) (pre : List (TxEvent ρ))
    (ev : TxEvent ρ) (hs : SoundRun c txStart (pre ++ [ev])) :
    Follows c (txRun c txStart pre) ev := by
  obtain ⟨hpre, hev⟩ := soundRun_append hs
  have hi : Inv txStart := fun hm => absurd hm not_matters_clean
  exact follows_of_inv hc hev.1 (run_inv hpre hi)

/-! ## Two transactions -/

/-- The mode `transaction`, with node 0 as the primary. -/
def transactionMode : RunConfig := ⟨.transaction, 0⟩

/-- A statement that succeeds in a session whose node for reading is a standby. -/
def fine : Circumstances Unit := ⟨{ plainEnv with query := "SELECT 1".toList }, .ok, false, none⟩

/-- A transaction statement, in plain circumstances. -/
def control (kind : TransactionStmtKind) : TxEvent Unit :=
  .simple fine (.transactionStmt kind [] false) []

/-- A statement that writes. -/
def insertion : TxEvent Unit := .simple fine (.insertStmt .null .null .null .null .null .null) []

/-- A statement that reads. -/
def reading : TxEvent Unit := .simple fine plainSelect []

theorem noInternalStart_fine : NoInternalStart transactionMode fine matters := by
  intro hsl
  cases hsl

/-- `BEGIN; INSERT; SELECT` -/
theorem select_follows_insert :
    SoundRun transactionMode txStart [control .begin, insertion, reading] ∧
      Follows transactionMode (txRun transactionMode txStart [control .begin, insertion])
        reading := by
  have hs : SoundRun transactionMode txStart ([control .begin, insertion] ++ [reading]) := by
    have hnone : ∀ i ∈ fine.terminates, i = 0 := nofun
    refine ⟨⟨fun _ _ => hnone, noInternalStart_fine, plainIfSeveral_nil, ⟨?_, ?_, ?_⟩⟩,
      ⟨fun _ _ => hnone, noInternalStart_fine, plainIfSeveral_nil, ⟨?_, ?_, ?_⟩⟩,
      ⟨fun _ _ => hnone, noInternalStart_fine, plainIfSeveral_nil, ⟨?_, ?_, ?_⟩⟩, trivial⟩
    -- `BEGIN` outside a transaction
    · intro _ ht
      exact absurd rfl ht
    · intro hback
      cases hback
    · intro _ hstart
      cases hstart
    -- `INSERT` is noticed
    · intro hstart
      cases hstart
    · intro hback
      cases hback
    · intro _ _ _
      exact .inr ⟨rfl, rfl⟩
    -- and still remembered at the `SELECT`
    · intro hstart
      cases hstart
    · intro hback
      cases hback
    · intro _ _ _
      exact .inl (remembers_flagsBefore noInternalStart_fine trivial (.inl rfl))
  exact ⟨hs, reads_follow_writes transactionMode rfl [control .begin, insertion] reading hs⟩

theorem plainSelect_on_standby (hw : f.writing = false) (hf : f.failed = false)
    (hi : f.isolation = .unknown) :
    poolWhereToSend (fine.at transactionMode f) plainSelect = .ok [1] := by
  have hpref : prefersPrimary (fine.at transactionMode f) plainSelect = false :=
    prefersPrimary_plainSelect (by rintro ⟨⟩) (by rintro ⟨⟩)
  have hbalance : balance (fine.at transactionMode f) plainSelect = 1 := by
    have hallow : (fine.at transactionMode f).session.allowsLoadBalance = true := by
      simp [Circumstances.at, Session.allowsLoadBalance, hw, hf, hi, fine, plainEnv, idleSession]
    unfold balance
    rw [hpref, hallow]
    rfl
  rw [poolWhereToSend_of_not_exempt rfl, destination, whereToSendMainReplica,
    sendToWhere_plainSelect,
    hbalance]
  have hw' : (fine.at transactionMode f).session.writingTransaction = false := hw
  simp only [hw', Bool.false_and, Bool.false_eq_true, if_false]
  rfl

/-- `BEGIN; SAVEPOINT; INSERT; ROLLBACK TO; SELECT`: the `SELECT` is sent to the standby. -/
theorem rollback_to_forgets_write : ¬ Follows transactionMode (txRun transactionMode txStart
        [control .begin, control .savepoint, insertion, control .rollbackTo]) reading := by
  intro h
  have h1 := h plainSelect _ rfl rfl (.inl rfl) [1] (plainSelect_on_standby rfl rfl rfl) 1
    (List.mem_singleton_self 1)
  exact absurd h1 (by decide)

end PgBalancer.Routing
