import PgBalancer.QueryCache.Handler
import PgBalancer.Session.SentMessages

/-!
# Collecting results of extended queries

A query context is created by a Parse message (or a simple query) and lives as long as the
statement does.  The messages of a result are collected in a temporary cache that belongs
to the query context, whichever portal they come from; the text under which the result
will be stored, `query_w_hex`, is a field of the query context too. It is composed by
Execute, from the statement and the contents of the Bind message, on one branch only.

The client may send messages ahead of the answers. In streaming replication mode a queue
of pending messages says which query context an answer belongs to; in the other modes a
message is answered before the next one is read.

* `executeMessage` — Execute, which may compose the key and begins an execution.
* `completeExecution`, `readyAfterSync`, `readyAfterSimple` — the calls of the handler.
* `cacheRun` — the session after any sequence of messages of both sides.
-/

namespace PgBalancer.QueryCache

open Session

/-! ## Keys -/

/-- A digit of `%02X` -/
def hexDigit (n : Nat) : UInt8 := if n < 10 then UInt8.ofNat (48 + n) else UInt8.ofNat (55 + n)

/-- `%02X` -/
def hexByte (b : UInt8) : List UInt8 := [hexDigit (b.toNat / 16), hexDigit (b.toNat % 16)]

theorem hexDigit_ne_zero {n : Nat} (hn : n < 16) : hexDigit n ≠ 0 := by
  interval_cases n <;> decide

theorem zero_notMem_hexByte (b : UInt8) : 0 ∉ hexByte b := by
  have hb := b.toNat_lt
  simp only [hexByte, List.mem_cons, List.not_mem_nil, or_false, not_or]
  exact ⟨(hexDigit_ne_zero (by omega)).symm, (hexDigit_ne_zero (by omega)).symm⟩

/-- The hex digits of the contents of a Bind message, after a space. -/
def hexSuffix : List UInt8 → List UInt8
  | [] => []
  | params => 32 :: params.flatMap hexByte

theorem zero_notMem_hexSuffix (params : List UInt8) : 0 ∉ hexSuffix params := by
  cases params with
  | nil => simp [hexSuffix]
  | cons b params =>
    simp only [hexSuffix, List.mem_cons, List.mem_flatMap, not_or, not_exists, not_and]
    exact ⟨by decide, fun b' _ => zero_notMem_hexByte b'⟩

/-- `search_query` of Execute: the statement and the contents of the Bind message from
`param_offset` on -/
def searchQuery (text : CString) (params : List UInt8) : CString where
  bytes := text.bytes ++ hexSuffix params
  no_nul := by simpa using ⟨text.no_nul, zero_notMem_hexSuffix params⟩

/-! ## Query contexts -/

/-- What is known about a statement once it is parsed. -/
structure Statement where
  text : CString
  node : NodeKind
  isCacheSafe : Bool
  /-- `is_start_transaction_query` -/
  startsTransaction : Bool
  /-- `pool_extract_table_oids` -/
  dmlOids : List Int
  select_of_safe : isCacheSafe = true → node = .select

/-- A message that is collected, with the execution it belongs to. -/
inductive Msg (ρ : Type) where
  | parseComplete
  | bindComplete
  | rowDescription
  | dataRow (exec : Nat) (row : ρ)
  | commandComplete (exec : Nat)
  deriving DecidableEq

/-- Is the message part of the output of an execution? -/
def Msg.isOutput {ρ : Type} : Msg ρ → Bool
  | .dataRow .. | .commandComplete _ => true
  | _ => false

/-- Does the output of an execution end with its CommandComplete? -/
def isComplete {ρ : Type} (out : List (Msg ρ)) (exec : Nat) : Bool :=
  match out.getLast? with
  | some (.commandComplete e) => e = exec
  | _ => false

/-- `POOL_QUERY_CONTEXT`, the fields that have to do with the query cache -/
structure QueryContext (ρ : Type) where
  stmt : Statement
  tempCache : Option (TempCache (Msg ρ))
  queryWHex : Option CString
  partialFetch : Bool
  atEnd : Bool
  skipCacheCommit : Bool
  /-- `query_state[MAIN_NODE_ID] == POOL_EXECUTE_COMPLETE` -/
  executeComplete : Bool
  safe_of_partial : partialFetch = true → stmt.isCacheSafe = true

/-- What Execute is told, and finds. -/
structure ExecuteInput where
  numRows : Nat
  /-- `pool_is_writing_transaction()` -/
  isWriting : Bool
  /-- `pool_is_likely_select(query)` -/
  isLikelySelect : Bool
  /-- `query_cache_disabled()` -/
  cacheDisabled : Bool
  /-- the result is in the cache -/
  found : Bool

variable {ρ : Type}

namespace QueryContext

/-- `pool_start_query` -/
def poolStartQuery (stmt : Statement) : QueryContext ρ where
  stmt := stmt
  tempCache := some (poolCreateTempQueryCache (some stmt.text))
  queryWHex := none
  partialFetch := false
  atEnd := false
  skipCacheCommit := false
  executeComplete := false
  safe_of_partial := fun h => by cases h

/-- Bind: a fresh portal -/
def bind (q : QueryContext ρ) : QueryContext ρ :=
  { q with
    atEnd := false
    partialFetch := false
    safe_of_partial := fun h => by cases h }

/-- Execute sets the flag of a partial fetch. -/
def limitRows (x : ExecuteInput) (q : QueryContext ρ) : QueryContext ρ :=
  if h : x.numRows ≠ 0 ∧ q.stmt.isCacheSafe = true ∧ x.cacheDisabled = false then
    { q with
      partialFetch := true
      safe_of_partial := fun _ => h.2.1 }
  else q

/-- Does Execute look into the cache? -/
def consults (t : TState) (x : ExecuteInput) (q : QueryContext ρ) : Bool :=
  !x.isWriting && t ≠ .failed && x.isLikelySelect && !x.cacheDisabled &&
    (q.atEnd || x.numRows = 0) && !q.partialFetch

/-- The branch of Execute that looks into the cache. -/
def lookUp (x : ExecuteInput) (params : List UInt8) (q : QueryContext ρ) : QueryContext ρ :=
  if q.stmt.isCacheSafe then
    { q with
      queryWHex := some (searchQuery q.stmt.text params)
      tempCache := q.tempCache.map fun cache =>
        { cache with query := some (searchQuery q.stmt.text params) }
      skipCacheCommit := x.found }
  else { q with skipCacheCommit := x.found }

/-- What Execute does to the query context. -/
def execute (t : TState) (x : ExecuteInput) (params : List UInt8) (q : QueryContext ρ) :
    QueryContext ρ :=
  if (q.limitRows x).consults t x then (q.limitRows x).lookUp x params else q.limitRows x

/-- `memqcache_register`, in `SimpleForwardToFrontend` and `CommandComplete`; `overflow`
says that the message is too much for `memqcache_maxcache` -/
def register (m : Msg ρ) (overflow : Bool) (q : QueryContext ρ) : QueryContext ρ :=
  if q.stmt.isCacheSafe then
    match q.tempCache with
    | none => q
    | some cache =>
      if cache.isExceeded then q
      else if overflow then { q with tempCache := some { cache with isExceeded := true } }
      else { q with tempCache := some { cache with buffer := cache.buffer ++ [m] } }
  else q

end QueryContext

/-! ## Calls of the handler -/

/-- What a call of the handler finds beside the query context. -/
structure Completion where
  cacheDisabled : Bool
  selectOids : List Int
  canDestroy : Bool
  dboid : Int
  dropdbOids : List Int

/-- The buffers of a session that do not belong to a query context. -/
structure Kept (ρ : Type) where
  oidbuf : List Int
  cacheArray : List (Option (TempCache (Msg ρ)))
  tmpSelects : Nat

/-- `pool_handle_query_cache` for the current query context.  With `isFinal` the argument
`partial_fetch` is `false`, as in the calls by `ReadyForQuery`. -/
def handlerCall (q : QueryContext ρ) (query : Option CString) (state : TState)
    (isFinal slExtended : Bool) (o : Completion) : HandlerCall where
  query := query
  node := q.stmt.node
  state := state
  partialFetch := !isFinal && q.partialFetch
  isCacheSafe := q.stmt.isCacheSafe
  queryCacheDisabled := o.cacheDisabled
  queryInProgress := true
  selectOids := o.selectOids
  skipCacheCommit := q.skipCacheCommit
  slExtended := slExtended
  canDestroy := o.canDestroy
  dboid := o.dboid
  dropdbOids := o.dropdbOids
  select_of_safe := q.stmt.select_of_safe
  select_of_partial := fun h => by
    simp only [Bool.and_eq_true] at h
    exact q.stmt.select_of_safe (q.safe_of_partial h.2)

/-- The buffers the handler works on. -/
def buffersOf (q : QueryContext ρ) (kept : Kept ρ) : Buffers (Msg ρ) :=
  ⟨kept.oidbuf, kept.cacheArray, q.tempCache, kept.tmpSelects⟩

/-- What the handler leaves. -/
structure Handled (ρ : Type) where
  context : QueryContext ρ
  kept : Kept ρ
  ops : List (CacheOp (Msg ρ))

/-- A call of the handler, where `auto` is `memqcache_auto_cache_invalidation`. -/
def handled (auto : Bool) (call : HandlerCall) (q : QueryContext ρ) (kept : Kept ρ) : Handled ρ :=
  let r := poolHandleQueryCache auto call (buffersOf q kept)
  ⟨{ q with tempCache := r.1.tempCache }, ⟨r.1.oidbuf, r.1.cacheArray, r.1.tmpSelects⟩, r.2⟩

/-! ## The session -/

/-- An execution that the backend has not finished yet.  The last two fields say how it
started: under its own key, and with nothing of another execution collected by the query
context or still to come. -/
structure Execution where
  context : Nat
  exec : Nat
  isSimple : Bool
  keyed : Bool
  clean : Bool
  deriving DecidableEq

/-- `POOL_PENDING_MESSAGE` -/
inductive Pending where
  | parse (context : Nat)
  | bind (context : Nat)
  | describe (context : Nat)
  | close (context : Nat)
  | execution (x : Execution)
  | sync
  deriving DecidableEq

/-- The execution that an answer is pending for. -/
def Pending.execution? : Pending → Option Execution
  | .execution x => some x
  | _ => none

/-- The answer to a `Sync`. -/
def Pending.isSync : Pending → Bool
  | .sync => true
  | _ => false

/-- The settings that matter here. -/
structure CacheConfig where
  /-- `SL_MODE`: streaming or logical replication -/
  slMode : Bool
  /-- `memqcache_auto_cache_invalidation` -/
  auto : Bool

/-- A session of the extended protocol. -/
structure CacheSession (ρ : Type) where
  contexts : Nat → Option (QueryContext ρ)
  nextContext : Nat
  /-- the sent messages, with their query contexts and the contents of the Bind messages -/
  names : MessageSession
  contextOf : Nat → Nat
  paramsOf : Nat → List UInt8
  pending : List Pending
  /-- `session_context->query_context`, outside streaming replication mode -/
  current : Option Nat
  ignoreTillSync : Bool
  commandSuccess : Bool
  tstate : TState
  kept : Kept ρ
  /-- the statements and portals of the backend; a portal by what it executes -/
  statements : String → Option CString
  portals : String → Option CString
  /-- what each execution executes, and its rows and CommandComplete so far -/
  keyOf : Nat → CString
  outputOf : Nat → List (Msg ρ)
  nextExec : Nat

/-- The messages of the backend. -/
inductive Reply (ρ : Type) where
  /-- ParseComplete, BindComplete, RowDescription or CloseComplete -/
  | complete (overflow : Bool)
  | noData
  | dataRow (row : ρ) (overflow : Bool)
  | commandComplete (o : Completion) (overflow : Bool)
  | portalSuspended
  | errorResponse
  | readyForQuery (state : TState) (o : Completion)

/-- A message of the client, or an answer to it. -/
inductive CacheEvent (ρ : Type) where
  | parse (name : String) (stmt : Statement)
  /-- `copied` if `parse_before_bind` sends the statement to the primary, under a copy of the query
  context. The copy shares the temporary cache, which this model does not follow -/
  | bind (portal name : String) (params : List UInt8) (copied : Bool)
  | describe (target : CloseTarget) (name : String)
  | execute (portal : String) (x : ExecuteInput)
  | close (target : CloseTarget) (name : String)
  | sync
  /-- a simple query that is not answered from the cache -/
  | simple (stmt : Statement)
  | reply (r : Reply ρ)

namespace CacheSession

/-- A new session. -/
def start (text : CString) : CacheSession ρ where
  contexts _ := none
  nextContext := 0
  names := .start
  contextOf _ := 0
  paramsOf _ := []
  pending := []
  current := none
  ignoreTillSync := false
  commandSuccess := false
  tstate := .idle
  kept := ⟨[], [], 0⟩
  statements _ := none
  portals _ := none
  keyOf _ := text
  outputOf _ := []
  nextExec := 0

/-- Set a query context. -/
def setContext (s : CacheSession ρ) (i : Nat) (q : QueryContext ρ) : CacheSession ρ :=
  { s with contexts := Function.update s.contexts i (some q) }

/-- Change a query context. -/
def modifyContext (s : CacheSession ρ) (i : Nat) (f : QueryContext ρ → QueryContext ρ) :
    CacheSession ρ :=
  { s with contexts := Function.update s.contexts i ((s.contexts i).map f) }

/-- `pool_add_dml_table_oid` for the tables of a statement -/
def recordOids (s : CacheSession ρ) (oids : List Int) : CacheSession ρ :=
  { s with kept := { s.kept with oidbuf := oids.foldl poolAddDmlTableOid s.kept.oidbuf } }

/-- The executions that are not finished. -/
def running (s : CacheSession ρ) : List Execution := s.pending.filterMap Pending.execution?

/-- Is the next message of the client read?  Without streaming replication it has to wait
for the answer to the last one, and after a simple query in any case. -/
def reads (slMode : Bool) (s : CacheSession ρ) : Bool :=
  !s.ignoreTillSync && if slMode then s.running.all (!·.isSimple) else s.pending.isEmpty

end CacheSession

open CacheSession

variable (cfg : CacheConfig)

/-! ## Messages of the client -/

/-- Nothing of an execution has been collected. -/
def collectsNothing (q : QueryContext ρ) : Bool :=
  match q.tempCache with
  | none => true
  | some cache => !cache.buffer.any Msg.isOutput

/-- `Parse` -/
def parseMessage (s : CacheSession ρ) (name : String) (stmt : Statement) : CacheSession ρ :=
  let i := s.nextContext
  let s := s.recordOids stmt.dmlOids
  { s with
    contexts := Function.update s.contexts i (some (.poolStartQuery stmt))
    nextContext := i + 1
    contextOf := Function.update s.contextOf s.names.nextId i
    names := sessionStep cfg.slMode s.names (.parse name)
    pending := s.pending ++ [.parse i]
    current := some i
    statements := Function.update s.statements name (some stmt.text) }

/-- Everything up to the next Sync is skipped.  In streaming replication mode the pending
messages are dropped, and a Sync among them is the one. -/
def skipTillSync (s : CacheSession ρ) : CacheSession ρ :=
  { s with
    pending := if cfg.slMode then s.pending.dropWhile (!·.isSync) else []
    ignoreTillSync := !(cfg.slMode && s.pending.any Pending.isSync) }

/-- `Bind` -/
def bindMessage (s : CacheSession ρ) (portal name : String) (params : List UInt8) :
    CacheSession ρ :=
  match s.names.statement name with
  | none => skipTillSync cfg s
  | some m =>
    let i := s.contextOf m.id
    let s := (s.modifyContext i .bind).recordOids (((s.contexts i).map (·.stmt.dmlOids)).getD [])
    { s with
      contextOf := Function.update s.contextOf s.names.nextId i
      paramsOf := Function.update s.paramsOf s.names.nextId params
      names := sessionStep cfg.slMode s.names (.bind portal name)
      pending := s.pending ++ [.bind i]
      current := some i
      portals := Function.update s.portals portal
        ((s.statements name).map fun text => searchQuery text params) }

/-- `Describe` -/
def describeMessage (s : CacheSession ρ) (target : CloseTarget) (name : String) :
    CacheSession ρ :=
  match s.names.closeMessage target name with
  | none => s
  | some m =>
    let i := s.contextOf m.id
    { s with pending := s.pending ++ [.describe i], current := some i }

/-- `Close` -/
def closeMessage (s : CacheSession ρ) (target : CloseTarget) (name : String) : CacheSession ρ :=
  match s.names.closeMessage target name with
  | none => s
  | some m =>
    let i := s.contextOf m.id
    { s with
      names := sessionStep cfg.slMode s.names (.close target name)
      pending := s.pending ++ [.close i]
      current := some i
      statements := match target with
        | .statement => Function.update s.statements name none
        | .portal => s.statements
      portals := match target with
        | .statement => s.portals
        | .portal => Function.update s.portals name none }

/-- A new execution on a query context that has become `q`. -/
def begins (s : CacheSession ρ) (i : Nat) (q : QueryContext ρ) (key : CString)
    (isSimple keyed clean : Bool) : CacheSession ρ :=
  { s with
    contexts := Function.update s.contexts i (some q)
    pending := s.pending ++ [.execution ⟨i, s.nextExec, isSimple, keyed, clean⟩]
    current := some i
    keyOf := Function.update s.keyOf s.nextExec key
    nextExec := s.nextExec + 1 }

/-- Does Execute compose the key of what the portal executes? -/
def composesKey (s : CacheSession ρ) (portal : String) (x : ExecuteInput) (params : List UInt8)
    (q : QueryContext ρ) : Bool :=
  (q.limitRows x).consults s.tstate x && q.stmt.isCacheSafe &&
    s.portals portal = some (searchQuery q.stmt.text params)

/-- `Execute`.  In streaming replication mode a result from the cache is handed out as if
it came from the backend, otherwise it is sent at once. -/
def executeMessage (s : CacheSession ρ) (portal : String) (x : ExecuteInput) : CacheSession ρ :=
  match poolGetSentMessage s.names.messageList .bind portal .created with
  | none => s
  | some m =>
    match s.contexts (s.contextOf m.id) with
    | none => s
    | some q =>
      let params := s.paramsOf m.id
      let q' := q.execute s.tstate x params
      if (q.limitRows x).consults s.tstate x && x.found && !cfg.slMode then
        s.setContext (s.contextOf m.id) q'
      else
        begins s (s.contextOf m.id) q' ((s.portals portal).getD q.stmt.text) false
          (composesKey s portal x params q)
          (collectsNothing q && s.running.all (·.context ≠ s.contextOf m.id))

/-- `SimpleQuery`, for a query that is sent -/
def simpleMessage (s : CacheSession ρ) (stmt : Statement) : CacheSession ρ :=
  let i := s.nextContext
  let s := s.recordOids stmt.dmlOids
  begins { s with nextContext := i + 1, names := sessionStep cfg.slMode s.names .query } i
    (.poolStartQuery stmt) stmt.text true true true

/-! ## Messages of the backend -/

/-- ParseComplete, BindComplete, RowDescription or CloseComplete, as the first pending
message has it. -/
def completeReply (s : CacheSession ρ) (overflow : Bool) : CacheSession ρ :=
  match s.pending with
  | .parse i :: rest =>
    let s := s.modifyContext i (·.register .parseComplete overflow)
    { (s.modifyContext i fun q =>
      { q with executeComplete := cfg.slMode && q.executeComplete }) with
      names := sessionStep cfg.slMode s.names .parseComplete
      pending := rest
      commandSuccess := true }
  | .bind i :: rest =>
    let s := s.modifyContext i (·.register .bindComplete overflow)
    { (s.modifyContext i fun q =>
      { q with executeComplete := cfg.slMode && q.executeComplete }) with
      names := sessionStep cfg.slMode s.names .bindComplete
      pending := rest
      commandSuccess := true }
  | .describe i :: rest =>
    { s.modifyContext i (·.register .rowDescription overflow) with pending := rest }
  | .close i :: rest =>
    { s.modifyContext i fun q => { q with tempCache := none } with
      names := sessionStep cfg.slMode s.names .closeComplete
      pending := rest
      commandSuccess := true }
  | .execution x :: _ =>
    -- the RowDescription of a simple query
    if x.isSimple then s.modifyContext x.context (·.register .rowDescription overflow) else s
  | _ => s

/-- A message of an execution arrives. -/
def output (s : CacheSession ρ) (x : Execution) (m : Msg ρ) (overflow : Bool) : CacheSession ρ :=
  { s.modifyContext x.context (·.register m overflow) with
    outputOf := Function.update s.outputOf x.exec (s.outputOf x.exec ++ [m]) }

/-- A row of the first execution. -/
def dataRowReply (s : CacheSession ρ) (row : ρ) (overflow : Bool) : CacheSession ρ :=
  match s.pending with
  | .execution x :: _ => output s x (.dataRow x.exec row) overflow
  | _ => s

/-- The state the handler is told by `CommandComplete`: that of the last ReadyForQuery,
unless a BEGIN has been seen. -/
def stateAtComplete (t : TState) (stmt : Statement) : TState :=
  if cfg.slMode && stmt.startsTransaction then .transaction else t

/-- The end of an extended query. -/
def completeExecution (s : CacheSession ρ) (x : Execution) (rest : List Pending)
    (o : Completion) : CacheSession ρ × List (CacheOp (Msg ρ)) :=
  match s.contexts x.context with
  | none => (s, [])
  | some q =>
    let state := stateAtComplete cfg s.tstate q.stmt
    let h := handled cfg.auto (handlerCall q q.queryWHex state false cfg.slMode o) q s.kept
    ({ s.setContext x.context { h.context with atEnd := true, executeComplete := true } with
        kept := h.kept
        pending := rest
        tstate := state
        commandSuccess := true },
      h.ops)

/-- `CommandComplete` -/
def commandCompleteReply (s : CacheSession ρ) (o : Completion) (overflow : Bool) :
    CacheSession ρ × List (CacheOp (Msg ρ)) :=
  match s.pending with
  | .execution x :: rest =>
    let s := output s x (.commandComplete x.exec) overflow
    if x.isSimple then ({ s with commandSuccess := true }, []) else completeExecution cfg s x rest o
  | _ => (s, [])

/-- PortalSuspended: the Execute is done, the portal is not. -/
def portalSuspendedReply (s : CacheSession ρ) : CacheSession ρ :=
  match s.pending with
  | .execution x :: rest => if x.isSimple then s else { s with pending := rest }
  | _ => s

/-- ErrorResponse -/
def errorReply (s : CacheSession ρ) : CacheSession ρ :=
  match s.pending with
  | .execution x :: _ =>
    if x.isSimple then { s with commandSuccess := false }
    else { skipTillSync cfg s with commandSuccess := false }
  | _ => { skipTillSync cfg s with commandSuccess := false }

/-- `ReadyForQuery` after a Sync.  Outside streaming replication mode the handler is called
once more for the current query context. -/
def readyAfterSync (s : CacheSession ρ) (state : TState) (o : Completion) :
    CacheSession ρ × List (CacheOp (Msg ρ)) :=
  match s.current.bind fun i => (s.contexts i).map (i, ·) with
  | none => (s, [])
  | some (i, q) =>
    if !cfg.slMode && s.commandSuccess && q.executeComplete then
      let h := handled cfg.auto (handlerCall q q.queryWHex state true false o) q s.kept
      ({ s.setContext i { h.context with queryWHex := none } with kept := h.kept }, h.ops)
    else (s, [])

/-- `ReadyForQuery` after a simple query; it follows a CommandComplete or an error. -/
def readyAfterSimple (s : CacheSession ρ) (x : Execution) (state : TState) (o : Completion) :
    CacheSession ρ × List (CacheOp (Msg ρ)) :=
  match s.contexts x.context with
  | none => (s, [])
  | some q =>
    if s.commandSuccess && isComplete (s.outputOf x.exec) x.exec then
      let h := handled cfg.auto (handlerCall q (some q.stmt.text) state true false o) q s.kept
      ({ s.setContext x.context h.context with kept := h.kept }, h.ops)
    else (s, [])

/-- `ReadyForQuery` -/
def readyForQueryReply (s : CacheSession ρ) (state : TState) (o : Completion) :
    CacheSession ρ × List (CacheOp (Msg ρ)) :=
  match s.pending with
  | .sync :: rest =>
    let r := readyAfterSync cfg s state o
    ({ r.1 with pending := rest, tstate := state }, r.2)
  | .execution x :: rest =>
    if x.isSimple then
      let r := readyAfterSimple cfg s x state o
      ({ r.1 with pending := rest, tstate := state }, r.2)
    else (s, [])
  | _ => (s, [])

/-- An answer of the backends. -/
def replyStep (s : CacheSession ρ) : Reply ρ → CacheSession ρ × List (CacheOp (Msg ρ))
  | .complete overflow => (completeReply cfg s overflow, [])
  | .noData =>
    match s.pending with
    | .describe _ :: rest => ({ s with pending := rest }, [])
    | _ => (s, [])
  | .dataRow row overflow => (dataRowReply s row overflow, [])
  | .commandComplete o overflow => commandCompleteReply cfg s o overflow
  | .portalSuspended => (portalSuspendedReply s, [])
  | .errorResponse => (errorReply cfg s, [])
  | .readyForQuery state o => readyForQueryReply cfg s state o

/-- A message of the client that is read. -/
def clientStep (s : CacheSession ρ) : CacheEvent ρ → CacheSession ρ
  | .parse name stmt => parseMessage cfg s name stmt
  | .bind portal name params _ => bindMessage cfg s portal name params
  | .describe target name => describeMessage s target name
  | .execute portal x => executeMessage cfg s portal x
  | .close target name => closeMessage cfg s target name
  | .simple stmt => if s.pending.isEmpty then simpleMessage cfg s stmt else s
  | .sync | .reply _ => s

/-- `Sync` -/
def syncMessage (s : CacheSession ρ) : CacheSession ρ :=
  if cfg.slMode || s.pending.isEmpty then
    { s with pending := s.pending ++ [.sync], ignoreTillSync := false }
  else s

/-- One message or answer. -/
def cacheStep (s : CacheSession ρ) : CacheEvent ρ → CacheSession ρ × List (CacheOp (Msg ρ))
  | .reply r => replyStep cfg s r
  | .sync => (syncMessage cfg s, [])
  | ev => (if s.reads cfg.slMode then clientStep cfg s ev else s, [])

/-- The session after a sequence of messages. -/
def cacheRun (s : CacheSession ρ) (evs : List (CacheEvent ρ)) : CacheSession ρ :=
  evs.foldl (fun s ev => (cacheStep cfg s ev).1) s

end PgBalancer.QueryCache
