import PgBalancer.Routing.WhereToSend

/-!
# What a session remembers of a transaction

A session remembers two things of the transaction it is in: a flag that something was
written, and the isolation level.  The flag is set when a statement that was classified as
a write completes; both are cleared at `BEGIN`, `COMMIT` and `ROLLBACK`, and, because
`is_commit_or_rollback_query` includes it, at `ROLLBACK TO SAVEPOINT`, which does not end
the transaction.  Two guards read the memory: routing, which looks at both, and the query
cache, which looks at the flag.

* `complete_inv` — **after a message that keeps the memory (`KeepsMemory`), what mattered before
  and what the message adds is remembered**.
-/

namespace PgBalancer.Routing

open List

open PatternLists (Text)
open QueryCache (TState)

/-! ## What the session remembers -/

/-- The part of the session context that is about the current transaction. -/
structure Flags where
  /-- `TSTATE` of the primary -/
  tstate : TState
  writing : Bool
  failed : Bool
  isolation : Isolation
  deriving DecidableEq

/-- `pool_unset_writing_transaction` -/
def poolUnsetWritingTransaction (d : DlbowOption) (f : Flags) : Flags :=
  if d = .always then f else { f with writing := false }

/-- `pool_set_writing_transaction` -/
def poolSetWritingTransaction (d : DlbowOption) (f : Flags) : Flags :=
  if d = .off ∨ d = .dmlAdaptive then f else { f with writing := true }

/-- What `BEGIN`, `COMMIT` and `ROLLBACK` do: clear the history of the transaction. -/
def forgetTransaction (d : DlbowOption) (f : Flags) : Flags :=
  { (if d = .transTransaction then f else poolUnsetWritingTransaction d f) with
    failed := false
    isolation := .unknown }

/-- `is_2pc_transaction_query`.  It reads the field `kind` of a `TransactionStmt` without
checking the type of the node; a statement about a collation, a conversion or a database
has the numbers of the three commands in that place. -/
def is2pcTransactionQuery : Node → Bool
  | .transactionStmt kind _ _ => is2pcKind kind
  | .objectStmt objtype _ => objtype ∈ [7, 8, 9]
  | _ => false

/-- `pool_is_transaction_read_only` -/
def poolIsTransactionReadOnly : Node → Bool
  | .variableSetStmt kind name args =>
    if kind = .setValue ∧ name = "transaction_read_only".toList then
      args.any fun
        | .const v => v.isText ["on", "t", "true"] || v.isNonzero
        | _ => false
    else if kind = .setMulti ∧ isSetTransactionName name then
      args.any fun
        | .option opt => opt.defname = "transaction_read_only".toList && opt.arg.isNonzero
        | _ => false
    else false
  | _ => false

variable {ρ : Type}

section

variable (e : Env ρ) (n : Node)

/-- "Not READ SELECT" -/
def isWriteQuery : Bool := !isSelectQuery e n || poolHasFunctionCall e n

/-- A write inside a transaction sets the flag, unless it is `SET TRANSACTION READ ONLY`. -/
def rememberWrite (f : Flags) : Flags :=
  if (f.tstate = .transaction ∨ e.config.disableLoadBalanceOnWrite = .always) ∧
      poolIsTransactionReadOnly n = false then
    poolSetWritingTransaction e.config.disableLoadBalanceOnWrite f
  else f

/-- `pool_at_command_success` -/
def poolAtCommandSuccess (f : Flags) : Flags :=
  if isStartTransactionQuery n then forgetTransaction e.config.disableLoadBalanceOnWrite f
  else if isCommitOrRollbackQuery n then
    forgetTransaction e.config.disableLoadBalanceOnWrite f
  else if isSetTransactionSerializable n then { f with isolation := .serializable }
  else if is2pcTransactionQuery n then f
  else if isWriteQuery e n then rememberWrite e n f
  else f

/-- The part of `handle_query_context` for `BEGIN`. -/
def handleQueryContext (f : Flags) : Flags :=
  if isStartTransactionQuery n then
    forgetTransaction e.config.disableLoadBalanceOnWrite { f with tstate := .transaction }
  else f

/-- What `Execute` does before the statement is run, in streaming and logical replication
mode. -/
def beforeExecute (f : Flags) : Flags :=
  let f := handleQueryContext e n f
  if isWriteQuery e n && !isStartTransactionQuery n && !isCommitOrRollbackQuery n then
    rememberWrite e n f
  else f

end

/-! ## What a backend answers -/

/-- The transaction state a backend reports after a statement that succeeded. -/
def afterSuccess (t : TState) : Node → TState
  | .transactionStmt kind _ chain =>
    match kind with
    | .begin | .start | .rollbackTo => .transaction
    | .commit | .rollback => if chain then .transaction else .idle
    | .prepare => .idle
    | .savepoint | .release | .commitPrepared | .rollbackPrepared => t
  | _ => t

/-- How a statement ends. -/
inductive Outcome where
  | ok
  /-- the transaction may also live on, if the primary did not get the statement -/
  | error (aborts : Bool)
  deriving DecidableEq

/-- In a failed transaction a backend only takes the commands that end or restore it. -/
def succeeds (t : TState) (n : Node) (o : Outcome) : Bool :=
  o = .ok && (t ≠ .failed || isCommitOrRollbackQuery n)

/-- From the answer of a backend in state `t` to `ReadyForQuery`. -/
def complete (e : Env ρ) (n : Node) (rest : List Node) (o : Outcome) (t : TState) (f : Flags) :
    Flags :=
  if succeeds t n o then
    poolAtCommandSuccess e n
      { handleQueryContext e n f with tstate := (n :: rest).foldl afterSuccess t }
  else
    { f with
      tstate := if t ≠ .idle ∧ o = .error true then .failed else t
      failed := f.failed || f.tstate ≠ .idle }

/-- Does the statement end the transaction? -/
def endsTransaction : Node → Bool
  | .transactionStmt kind _ _ => kind = .commit || kind = .rollback || kind = .prepare
  | _ => false

/-- `ROLLBACK TO SAVEPOINT` -/
def isRollbackTo : Node → Bool
  | .transactionStmt kind _ _ => kind = .rollbackTo
  | _ => false

/-- `IsA(node, TransactionStmt)` -/
def isTransaction : Node → Bool
  | .transactionStmt .. => true
  | _ => false

/-! ## Messages -/

/-- What is fixed in a run. -/
structure RunConfig where
  dlbow : DlbowOption
  primary : ℤ

/-- The circumstances of a message: the configuration beside `RunConfig`, the catalog, the
choice of a node and so on, and whether `start_internal_transaction` finds a node without
a transaction. -/
structure Circumstances (ρ : Type) where
  env : Env ρ
  outcome : Outcome
  idleNode : Bool
  /-- the node of the pooled connection that a `Query` message terminates, by
  `pg_terminate_backend` -/
  terminates : Option ℤ

variable (c : RunConfig)

/-- The surroundings in which a statement is routed.  An isolation level that is not known
is asked for, from the main node. -/
def Circumstances.at (k : Circumstances ρ) (f : Flags) : Env ρ :=
  { k.env with
    config := { k.env.config with disableLoadBalanceOnWrite := c.dlbow }
    session :=
      { k.env.session with
        tstate := f.tstate
        writingTransaction := f.writing
        failedTransaction := f.failed
        transactionIsolation :=
          if f.isolation = .unknown then k.env.session.transactionIsolation else f.isolation
        primaryNodeId := c.primary } }

/-- Does routing ask for the isolation level? -/
def asksIsolation (e : Env ρ) (n : Node) : Bool :=
  !e.isMultiStatement && (sendToWhere e n = .either || sendToWhere e n = .standby) &&
    e.config.loadBalanceMode && isSelectQuery e n && e.session.isProtoV3 &&
    e.session.tstate ≠ .idle && !e.session.writingTransaction && !e.session.failedTransaction

/-- `pool_get_transaction_isolation` keeps the answer. -/
def afterRouting (e : Env ρ) (n : Node) (f : Flags) : Flags :=
  if asksIsolation e n then { f with isolation := e.session.transactionIsolation } else f

/-- `start_internal_transaction`, outside streaming and logical replication mode. -/
def startInternalTransaction (k : Circumstances ρ) (e : Env ρ) (f : Flags) : Flags :=
  if !e.slMode && k.idleNode then poolUnsetWritingTransaction c.dlbow f else f

/-- Where a `Query` message is sent. If `process_pg_terminate_backend_func` finds a connection to
terminate, on node `i`, then `pool_where_to_send` is not called. -/
def queryDestination (e : Env ρ) (terminates : Option ℤ) (n : Node) : Except RouteError NodeMap :=
  match terminates with
  | some i => .ok [i]
  | none => poolWhereToSend e n

/-- Where a statement is sent, in its circumstances. -/
def Circumstances.route (k : Circumstances ρ) (f : Flags) (n : Node) : Except RouteError NodeMap :=
  queryDestination (k.at c f) k.terminates n

/-- The memory right before the backend answers. -/
def flagsBefore (f : Flags) (k : Circumstances ρ) (n : Node) : Flags :=
  let e := k.at c f
  startInternalTransaction c k e (if k.terminates.isSome then f else afterRouting e n f)

/-! ## Memory and guards -/

/-- Who reads the memory. -/
inductive Guard where
  | routing
  | cache
  deriving DecidableEq

/-- The guard closes: routing on both parts of the memory, the cache on the flag. -/
def Flags.Remembers (g : Guard) (f : Flags) : Prop :=
  f.writing = true ∨ (g = .routing ∧ f.isolation = .serializable)

/-- The modes in which a write sets the flag. -/
def DlbowOption.remembers (d : DlbowOption) : Bool := d ≠ .off && d ≠ .dmlAdaptive

/-- The modes in which the flag survives `BEGIN`, `COMMIT` and `ROLLBACK`. -/
def DlbowOption.keepsFlag (d : DlbowOption) : Bool := d = .transTransaction || d = .always

/-- `pool_at_command_success` takes notice of the statement. -/
def isNoticed (g : Guard) (e : Env ρ) (n : Node) : Bool :=
  if isSetTransactionSerializable n then g = .routing
  else !is2pcTransactionQuery n && isWriteQuery e n && !poolIsTransactionReadOnly n

/-- A message with the first statement `n` loses nothing: neither what `matters` already
nor, if it `counts`, itself. -/
structure KeepsMemory (c : RunConfig) (g : Guard) (e : Env ρ) (matters counts : Prop)
    (t : TState) (f : Flags) (n : Node) : Prop where
  restart : isStartTransactionQuery n = true → t ≠ .idle → matters →
    c.dlbow.keepsFlag = true ∧ f.writing = true
  rollbackTo : isRollbackTo n = true → matters ∨ counts →
    c.dlbow.keepsFlag = true ∧ f.writing = true
  noticed : counts → isStartTransactionQuery n = false → endsTransaction n = false →
    f.Remembers g ∨ (c.dlbow.remembers = true ∧ isNoticed g e n = true)

/-- What matters after a message that succeeds. -/
def Carried (matters counts : Prop) (t : TState) (n : Node) : Prop :=
  if endsTransaction n then False
  else if isStartTransactionQuery n then t ≠ .idle ∧ matters
  else matters ∨ (t ≠ .idle ∧ counts)

theorem plain_of_not_transaction {n : Node} (hn : isTransaction n = false) :
    isStartTransactionQuery n = false ∧ endsTransaction n = false ∧ isRollbackTo n = false := by
  cases n <;> simp_all [isTransaction, isStartTransactionQuery, endsTransaction, isRollbackTo]

theorem carried_of_not_transaction {matters counts : Prop} {t : TState} {n : Node}
    (hn : isTransaction n = false) :
    Carried matters counts t n ↔ matters ∨ (t ≠ .idle ∧ counts) := by
  obtain ⟨hstart, hend, -⟩ := plain_of_not_transaction hn
  simp [Carried, hstart, hend]

theorem carried_mono {matters counts counts' : Prop} {t : TState} {n : Node}
    (hc : counts → counts') (h : Carried matters counts t n) : Carried matters counts' t n := by
  unfold Carried at h ⊢
  split_ifs at h ⊢
  · exact h
  · exact h.imp_right fun h => ⟨h.1, hc h.2⟩

variable {c} {g : Guard} {e : Env ρ} {n : Node} {f : Flags} {t : TState} {o : Outcome}
variable {matters counts : Prop} {rest : List Node} {k : Circumstances ρ}

theorem writing_forgetTransaction {d : DlbowOption} (hd : d.keepsFlag = true) :
    (forgetTransaction d f).writing = f.writing := by
  cases d <;> simp_all [forgetTransaction, poolUnsetWritingTransaction, DlbowOption.keepsFlag]

@[simp] theorem tstate_forgetTransaction {d : DlbowOption} :
    (forgetTransaction d f).tstate = f.tstate := by
  cases d <;> rfl

@[simp] theorem tstate_rememberWrite : (rememberWrite e n f).tstate = f.tstate := by
  unfold rememberWrite poolSetWritingTransaction
  split_ifs <;> rfl

@[simp] theorem tstate_poolAtCommandSuccess : (poolAtCommandSuccess e n f).tstate = f.tstate := by
  unfold poolAtCommandSuccess
  split_ifs <;> simp

theorem remembers_rememberWrite (hf : f.Remembers g) : (rememberWrite e n f).Remembers g := by
  unfold rememberWrite poolSetWritingTransaction
  split_ifs
  · exact hf
  · exact .inl rfl
  · exact hf

/-- A statement that neither starts nor ends nor restores a transaction leaves the memory
as it is. -/
theorem remembers_poolAtCommandSuccess (hstart : isStartTransactionQuery n = false)
    (hend : isCommitOrRollbackQuery n = false) (hf : f.Remembers g) :
    (poolAtCommandSuccess e n f).Remembers g := by
  unfold poolAtCommandSuccess
  rw [hstart, hend]
  simp only [Bool.false_eq_true, if_false]
  split_ifs
  · exact hf.imp_right fun h => ⟨h.1, rfl⟩
  · exact hf
  · exact remembers_rememberWrite hf
  · exact hf

theorem remembers_of_noticed (hd : e.config.disableLoadBalanceOnWrite = c.dlbow)
    (hstart : isStartTransactionQuery n = false) (hend : isCommitOrRollbackQuery n = false)
    (ht : f.tstate = .transaction)
    (hn : f.Remembers g ∨ (c.dlbow.remembers = true ∧ isNoticed g e n = true)) :
    (poolAtCommandSuccess e n f).Remembers g := by
  rcases hn with hf | ⟨hmode, hn⟩
  · exact remembers_poolAtCommandSuccess hstart hend hf
  simp only [DlbowOption.remembers, Bool.and_eq_true, decide_eq_true_eq, ← hd] at hmode
  unfold poolAtCommandSuccess
  rw [hstart, hend]
  simp only [Bool.false_eq_true, if_false]
  unfold isNoticed at hn
  by_cases hser : isSetTransactionSerializable n
  · rw [if_pos hser] at hn ⊢
    exact .inr ⟨by simpa using hn, rfl⟩
  · simp only [hser, Bool.false_eq_true, if_false, Bool.and_eq_true, Bool.not_eq_true'] at hn ⊢
    simp only [hn.1.1, hn.1.2, Bool.false_eq_true, if_false, if_true, rememberWrite, ht, hn.2,
      true_or, and_self, poolSetWritingTransaction, hmode.1, hmode.2, or_self]
    exact .inl rfl

theorem afterSuccess_of_plain (hstart : isStartTransactionQuery n = false)
    (hend : endsTransaction n = false) (hback : isRollbackTo n = false) : afterSuccess t n = t := by
  cases n <;> try rfl
  rename_i kind options chain
  cases kind <;> simp_all [isStartTransactionQuery, endsTransaction, isRollbackTo, afterSuccess]

theorem isCommitOrRollbackQuery_of_plain (hend : endsTransaction n = false)
    (hback : isRollbackTo n = false) : isCommitOrRollbackQuery n = false := by
  cases n <;> simp_all [endsTransaction, isRollbackTo, isCommitOrRollbackQuery]

theorem tstate_of_succeeds (hs : succeeds t n o = true) (ht : t ≠ .idle)
    (hplain : isCommitOrRollbackQuery n = false) : t = .transaction := by
  simp only [succeeds, hplain, Bool.or_false, Bool.and_eq_true, decide_eq_true_eq] at hs
  cases t with
  | idle => exact absurd rfl ht
  | transaction => rfl
  | failed => exact absurd rfl hs.2

/-! ## After the answer of the backend -/

section

variable (hd : e.config.disableLoadBalanceOnWrite = c.dlbow)
include hd

theorem complete_restart (hmode : c.dlbow.keepsFlag = true) (hw : f.writing = true)
    (hs : succeeds t n o = true)
    (hstart : isStartTransactionQuery n = true) :
    (complete e n [] o t f).tstate ≠ .idle ∧ (complete e n [] o t f).Remembers g := by
  have hkeep : ∀ f, (forgetTransaction e.config.disableLoadBalanceOnWrite f).writing =
      f.writing := fun f => writing_forgetTransaction (hd ▸ hmode)
  have ht : afterSuccess t n = .transaction := by
    cases n <;> simp only [isStartTransactionQuery, Bool.false_eq_true, Bool.or_eq_true,
      decide_eq_true_eq] at hstart
    rcases hstart with rfl | rfl <;> rfl
  simp only [complete, hs, if_true, tstate_poolAtCommandSuccess, foldl_cons, foldl_nil, ht]
  exact ⟨by simp, .inl (by simp [poolAtCommandSuccess, hstart, handleQueryContext, hkeep, hw])⟩

theorem complete_rollbackTo (hmode : c.dlbow.keepsFlag = true) (hw : f.writing = true)
    (hs : succeeds t n o = true)
    (hback : isRollbackTo n = true) :
    (complete e n [] o t f).tstate ≠ .idle ∧ (complete e n [] o t f).Remembers g := by
  have hcr : isStartTransactionQuery n = false ∧ isCommitOrRollbackQuery n = true ∧
      afterSuccess t n = .transaction := by
    cases n <;> simp_all [isRollbackTo, isCommitOrRollbackQuery, isStartTransactionQuery,
      afterSuccess]
  simp only [complete, hs, if_true, tstate_poolAtCommandSuccess, foldl_cons, foldl_nil,
    hcr.2.2]
  refine ⟨by simp, .inl ?_⟩
  simp [poolAtCommandSuccess, handleQueryContext, hcr.1, hcr.2.1, hd, hw,
    writing_forgetTransaction hmode]

theorem complete_plain (hs : succeeds t n o = true) (ht : t ≠ .idle)
    (hstart : isStartTransactionQuery n = false)
    (hplain : isCommitOrRollbackQuery n = false) (hall : ∀ m ∈ n :: rest, ∀ t, afterSuccess t m = t)
    (hn : f.Remembers g ∨ (c.dlbow.remembers = true ∧ isNoticed g e n = true)) :
    (complete e n rest o t f).tstate ≠ .idle ∧ (complete e n rest o t f).Remembers g := by
  have hfold : (n :: rest).foldl afterSuccess t = t := by
    clear hn hs
    generalize n :: rest = ns at hall
    induction ns generalizing t with
    | nil => rfl
    | cons m ns ih =>
      rw [foldl_cons, hall m mem_cons_self]
      exact ih ht fun m hm => hall m (mem_cons_of_mem _ hm)
  simp only [complete, hs, if_true, tstate_poolAtCommandSuccess, hfold, handleQueryContext, hstart,
    Bool.false_eq_true, if_false]
  exact ⟨ht, remembers_of_noticed hd hstart hplain (tstate_of_succeeds hs ht hplain) hn⟩

end

theorem complete_of_not_succeeds (hs : succeeds t n o = false) (ht : t ≠ .idle)
    (hr : f.Remembers g) :
    (complete e n rest o t f).tstate ≠ .idle ∧ (complete e n rest o t f).Remembers g := by
  simp only [complete, hs, Bool.false_eq_true, if_false]
  refine ⟨?_, hr⟩
  split_ifs <;> simp [ht]

/-- A message of several statements has no transaction control in it. -/
def PlainIfSeveral (n : Node) (rest : List Node) : Prop :=
  ∀ m ∈ rest, isTransaction n = false ∧ isTransaction m = false

theorem plainIfSeveral_nil : PlainIfSeveral n [] := fun _ hm => absurd hm not_mem_nil

theorem afterSuccess_of_several (hrest : PlainIfSeveral n rest)
    (hn : ∀ t, afterSuccess t n = t) : ∀ m ∈ n :: rest, ∀ t, afterSuccess t m = t := by
  intro m hm t
  rcases mem_cons.1 hm with rfl | hm
  · exact hn t
  · obtain ⟨hstart, hend, hback⟩ := plain_of_not_transaction (hrest m hm).2
    exact afterSuccess_of_plain hstart hend hback

theorem rest_eq_nil (hrest : PlainIfSeveral n rest) (hn : isTransaction n = true) : rest = [] := by
  cases rest with
  | nil => rfl
  | cons m rest => simp [(hrest m mem_cons_self).1] at hn

/-- **What a transaction has done is remembered after the next message too.** -/
theorem complete_inv (hd : e.config.disableLoadBalanceOnWrite = c.dlbow)
    (hrest : PlainIfSeveral n rest) (hf : matters → t ≠ .idle ∧ f.Remembers g)
    (hk : KeepsMemory c g e matters counts t f n)
    (hm : if succeeds t n o then Carried matters counts t n else matters) :
    (complete e n rest o t f).tstate ≠ .idle ∧ (complete e n rest o t f).Remembers g := by
  cases hs : succeeds t n o with
  | false =>
    rw [hs] at hm
    obtain ⟨ht, hr⟩ := hf (by simpa using hm)
    exact complete_of_not_succeeds hs ht hr
  | true =>
    rw [hs, if_pos rfl, Carried] at hm
    split_ifs at hm with hend hstart
    · obtain ⟨hmode, hw⟩ := hk.restart hstart hm.1 hm.2
      rw [rest_eq_nil hrest (by cases n <;> simp_all [isStartTransactionQuery, isTransaction])]
      exact complete_restart hd hmode hw hs hstart
    · have ht : t ≠ .idle := hm.elim (fun hm => (hf hm).1) And.left
      cases hback : isRollbackTo n with
      | true =>
        obtain ⟨hmode, hw⟩ := hk.rollbackTo hback (hm.imp_right And.right)
        rw [rest_eq_nil hrest (by cases n <;> simp_all [isRollbackTo, isTransaction])]
        exact complete_rollbackTo hd hmode hw hs hback
      | false =>
        simp only [Bool.not_eq_true] at hend hstart
        refine complete_plain hd hs ht hstart (isCommitOrRollbackQuery_of_plain hend hback)
          (afterSuccess_of_several hrest fun t => afterSuccess_of_plain hstart hend hback) ?_
        rcases hm with hm | ⟨-, hc⟩
        · exact .inl (hf hm).2
        · exact hk.noticed hc hstart hend

/-! ## What really happened -/

/-- A record of the current transaction: empty at its ends, and with a way to add a
statement to it. -/
structure Ledger (η : Type) where
  clean : η
  add : η → Node → η

namespace Ledger

variable {η : Type} (L : Ledger η)

/-- A statement succeeds while the transaction state is `t`. -/
def record (t : TState) (h : η) (n : Node) : η :=
  if endsTransaction n then L.clean
  else if isStartTransactionQuery n then if t = .idle then L.clean else h
  else if t = .idle then h
  else L.add h n

/-- The statements of one message, one after the other. -/
def recordAll : TState → η → List Node → η
  | _, h, [] => h
  | t, h, n :: ns => recordAll (afterSuccess t n) (L.record t h n) ns

variable {L} (Matters : η → Prop) {Counts : Node → Prop} {h : η}
variable (hclean : ¬ Matters L.clean) (hadd : ∀ h n, Matters (L.add h n) → Matters h ∨ Counts n)
include hclean hadd

theorem carried_of_record (hm : Matters (L.record t h n)) : Carried (Matters h) (Counts n) t n := by
  unfold record at hm
  unfold Carried
  split_ifs at hm ⊢ with hend hstart ht ht
  · exact hclean hm
  · exact absurd hm hclean
  · exact ⟨ht, hm⟩
  · exact .inl hm
  · exact (hadd h n hm).imp_right fun hc => ⟨ht, hc⟩

/-- Without transaction control the statements of a message matter if something did before
or one of them counts. -/
theorem matters_of_recordAll {ns : List Node} (hall : ∀ m ∈ ns, isTransaction m = false)
    (hm : Matters (L.recordAll t h ns)) : Matters h ∨ (t ≠ .idle ∧ ∃ m ∈ ns, Counts m) := by
  induction ns generalizing h with
  | nil => exact .inl hm
  | cons m ns ih =>
    have hplain := hall m mem_cons_self
    obtain ⟨hstart, hend, hback⟩ := plain_of_not_transaction hplain
    rw [recordAll, afterSuccess_of_plain hstart hend hback] at hm
    rcases ih (fun m hm => hall m (mem_cons_of_mem _ hm)) hm with hrec | ⟨ht, m', hm', hc⟩
    · have hcarried := carried_of_record Matters hclean hadd hrec
      rcases (carried_of_not_transaction hplain).1 hcarried with hm | ⟨ht, hc⟩
      · exact .inl hm
      · exact .inr ⟨ht, m, mem_cons_self, hc⟩
    · exact .inr ⟨ht, m', mem_cons_of_mem _ hm', hc⟩

/-- **What matters after a message was carried over or comes from the message.** -/
theorem carried_of_matters (hrest : PlainIfSeveral n rest)
    (hm : Matters (L.recordAll t h (n :: rest))) :
    Carried (Matters h) (∃ m ∈ n :: rest, Counts m) t n := by
  cases rest with
  | nil =>
    refine carried_mono (fun hc => ⟨n, mem_singleton_self n, hc⟩) ?_
    exact carried_of_record Matters hclean hadd hm
  | cons m rest =>
    have hn := (hrest m mem_cons_self).1
    refine (carried_of_not_transaction hn).2
      (matters_of_recordAll Matters hclean hadd (fun m' hm' => ?_) hm)
    rcases mem_cons.1 hm' with rfl | hm'
    · exact hn
    · exact (hrest m' hm').2

end Ledger

/-! ## Before the answer of the backend -/

/-- No internal transaction is started once the transaction has done something. -/
def NoInternalStart (c : RunConfig) (k : Circumstances ρ) (matters : Prop) : Prop :=
  k.env.slMode = false → k.idleNode = true → c.dlbow = .always ∨ ¬ matters

theorem tstate_afterRouting : (afterRouting e n f).tstate = f.tstate := by
  unfold afterRouting
  split_ifs <;> rfl

theorem remembers_afterRouting (hf : f.Remembers g) :
    (afterRouting (k.at c f) n f).Remembers g := by
  unfold afterRouting
  split_ifs
  · exact hf.imp_right fun h => ⟨h.1, by simp [Circumstances.at, h.2]⟩
  · exact hf

theorem remembers_startInternalTransaction {f' : Flags} (f : Flags)
    (hk : NoInternalStart c k matters) (hm : matters) (hf : f'.Remembers g) :
    (startInternalTransaction c k (k.at c f) f').Remembers g := by
  have he : (k.at c f).slMode = k.env.slMode := rfl
  unfold startInternalTransaction
  split_ifs with hint
  · simp only [he, Bool.and_eq_true, Bool.not_eq_true'] at hint
    rcases hk hint.1 hint.2 with halways | hnot
    · simpa [poolUnsetWritingTransaction, halways] using hf
    · exact absurd hm hnot
  · exact hf

theorem remembers_flagsBefore (hk : NoInternalStart c k matters) (hm : matters)
    (hf : f.Remembers g) : (flagsBefore c f k n).Remembers g := by
  apply remembers_startInternalTransaction f hk hm
  split_ifs
  · exact hf
  · exact remembers_afterRouting hf

end PgBalancer.Routing
