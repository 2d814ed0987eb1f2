import PgBalancer.Routing.ParseTree
import PgBalancer.QueryCache.Handler

/-!
# Where a statement is sent in main-replica mode

`pool_where_to_send` decides from the parse tree, the session and the configuration
which nodes a statement goes to.  Three questions are asked about the tree, by different
functions: `send_to_where` classifies the statement, `is_select_query` tells whether it
may be balanced at all, and a number of walkers look for what must go to the primary.
They do not look into the same statements: `PREPARE` is seen through by some, the query
of a `COPY` by none, and a `WITH` clause is inspected at the top level only.

* `reads_elsewhere_iff` — **a statement is safe in every session exactly if it hides
  nothing**.
-/

namespace PgBalancer.Routing

open PatternLists (Text Regex PoolConfig ListParam patternCompare)
open QueryCache (TState)
open TreeWalk (Branching)

/-! ## Parts of a statement -/

/-- `IsA(node, SelectStmt)` -/
def isSelect : Node → Bool
  | .selectStmt .. => true
  | _ => false

/-- `node == NULL` -/
def isNull : Node → Bool
  | .null => true
  | _ => false

/-- The entries of the `WITH` clause a `SELECT` starts with. -/
def topCtes : Node → List Node
  | .selectStmt _ _ _ _ _ _ _ _ _ _ _ _ _ (.withClause ctes) _ _ => elems ctes
  | _ => []

/-- `cte->ctequery` -/
def cteQuery : Node → Node
  | .commonTableExpr ctequery _ _ => ctequery
  | _ => .null

/-- The loop over the `WITH` clause that `send_to_where` and `is_select_query` share. -/
def hasNonSelectCte (n : Node) : Bool := (topCtes n).any fun cte => !isSelect (cteQuery cte)

/-- `select_stmt->intoClause || select_stmt->lockingClause` -/
def hasTopIntoOrLocking : Node → Bool
  | .selectStmt _ into _ _ _ _ _ _ _ _ _ _ locking _ _ _ => !isNull into || !isNull locking
  | _ => false

/-! ## Configuration and session -/

/-- `DLBOW_OPTION`, the values of `disable_load_balance_on_write`. -/
inductive DlbowOption where
  | off
  | transaction
  | transTransaction
  | always
  | dmlAdaptive
  deriving DecidableEq

/-- The clustering modes of `MAIN_REPLICA`. -/
inductive ClusteringMode where
  | streamingReplication
  | logicalReplication
  | slony
  deriving DecidableEq

/-- `POOL_TRANSACTION_ISOLATION` -/
inductive Isolation where
  | unknown
  | readUncommitted
  | readCommitted
  | repeatableRead
  | serializable
  deriving DecidableEq

/-- The parameters routing depends on. -/
structure Config (ρ : Type) where
  /-- the pattern lists -/
  lists : PoolConfig ρ
  clusteringMode : ClusteringMode
  loadBalanceMode : Bool
  allowSqlComments : Bool
  ignoreLeadingWhiteSpace : Bool
  checkUnloggedTable : Bool
  disableLoadBalanceOnWrite : DlbowOption
  statementLevelLoadBalance : Bool
  preferLowerDelayStandby : Bool

/-- What the system catalog answers. -/
structure Catalog where
  isSystemCatalog : Text → Bool
  isTempTable : Text → Bool
  isUnloggedTable : Text → Bool
  /-- `function_volatile_property(fname, FUNC_VOLATILE)` -/
  isVolatile : Text → Bool

/-- The nodes a query is sent to, `where_to_send`. -/
abbrev NodeMap := List ℤ

/-- The state of the session when a statement is routed. -/
structure Session where
  /-- `TSTATE` of the primary -/
  tstate : TState
  writingTransaction : Bool
  failedTransaction : Bool
  /-- what `pool_get_transaction_isolation` returns -/
  transactionIsolation : Isolation
  isTxStartedByMultiStatement : Bool
  isProtoV3 : Bool
  /-- `PRIMARY_NODE_ID` -/
  primaryNodeId : ℤ
  /-- `MAIN_NODE_ID` -/
  mainNodeId : ℤ
  loadBalanceNodeId : ℤ
  /-- the nodes that are up or waiting for a connection, in order -/
  upNodes : NodeMap
  /-- the two choices of `select_load_balancing_node` -/
  statementNode : ℤ
  lowerDelayNode : ℤ
  /-- `check_replication_delay`, of a node -/
  isDelayed : ℤ → Bool
  isInTransaction : Bool
  transactionTempWriteList : List Text
  /-- the node map of the statement prepared under a name -/
  prepared : Text → Option NodeMap

/-- All a routing decision depends on beside the tree. -/
structure Env (ρ : Type) where
  regex : Regex ρ
  config : Config ρ
  catalog : Catalog
  session : Session
  /-- the text of the query -/
  query : Text
  isMultiStatement : Bool

namespace Env

variable {ρ : Type} (e : Env ρ)

/-- `SL_MODE` -/
def slMode : Bool := e.config.clusteringMode ≠ .slony

/-- `PRIMARY_NODE_ID` -/
def primary : ℤ := e.session.primaryNodeId

end Env

variable {ρ : Type} (e : Env ρ)

/-! ## Walkers -/

/-- The nodes `insertinto_or_locking_clause_walker` looks for. -/
def isIntoOrLocking : Node → Bool
  | .intoClause .. | .lockingClause .. => true
  | _ => false

/-- A name in double quotes, cut after `NAMEDATALEN` bytes. -/
def quoted (name : Text) : Text := ['"'] ++ name.take 64 ++ ['"']

/-- `make_function_name_from_funccall` -/
def makeFunctionName : List Text → Text
  | [f] => quoted f
  | [schema, f] => quoted schema ++ ['.'] ++ quoted f
  | [_, schema, f] => quoted schema ++ ['.'] ++ quoted f
  | _ => []

/-- `make_table_name_from_rangevar` -/
def makeTableName (schemaname : Option Text) (relname : Text) : Text :=
  match schemaname with
  | none => quoted relname
  | some schema => quoted schema ++ ['.'] ++ quoted relname

/-- `pattern_compare` of a function name with one of the function lists. -/
def isInFunctionList (p : ListParam) (fname : Text) : Bool :=
  patternCompare e.regex e.config.lists fname p.patternType p = 1

/-- Does a function write, by its name?  Without lists the catalog decides; a list of
read-only functions goes before a list of writing ones. -/
def isWritingName (funcname : List Text) : Bool :=
  if funcname = [] then false
  else if e.config.lists.lists .readOnlyFunctionList = [] ∧
      e.config.lists.lists .writeFunctionList = [] then
    e.catalog.isVolatile (makeFunctionName funcname)
  else if e.config.lists.lists .readOnlyFunctionList ≠ [] then
    !isInFunctionList e .readOnlyFunctionList (makeFunctionName funcname)
  else isInFunctionList e .writeFunctionList (makeFunctionName funcname)

/-- The nodes `function_call_walker` looks for. -/
def isWritingFunction : Node → Bool
  | .funcCall funcname .. => isWritingName e funcname
  | _ => false

/-- The nodes a walker over relations looks for. -/
def isRelation (p : Option Text → Text → Bool) : Node → Bool
  | .rangeVar schemaname relname _ => p schemaname relname
  | _ => false

/-- A `pool_has_…` of the source: only a `SELECT` is walked. -/
def poolHas (found : Node → Bool) (n : Node) : Bool :=
  isSelect n && rawExpressionTreeWalker found n

/-- `pool_has_insertinto_or_locking_clause` -/
def poolHasInsertintoOrLockingClause : Node → Bool := poolHas isIntoOrLocking

/-- `pool_has_system_catalog` -/
def poolHasSystemCatalog : Node → Bool :=
  poolHas (isRelation fun _ relname => e.catalog.isSystemCatalog relname)

/-- `pool_has_temp_table` -/
def poolHasTempTable : Node → Bool :=
  poolHas (isRelation fun _ relname => e.catalog.isTempTable relname)

/-- `pool_has_unlogged_table` -/
def poolHasUnloggedTable : Node → Bool :=
  poolHas (isRelation fun schemaname relname =>
    e.catalog.isUnloggedTable (makeTableName schemaname relname))

/-- The statement a `PREPARE` prepares; any other statement is itself. -/
def preparedQuery : Node → Node
  | .prepareStmt _ query => query
  | n => n

/-- `pool_has_function_call`: the only one of them that sees through `PREPARE`. -/
def poolHasFunctionCall (n : Node) : Bool := poolHas (isWritingFunction e) (preparedQuery n)

/-- `strcasecmp(s, t) == 0` -/
def sameIgnoringCase (s t : Text) : Bool := s.map Char.toLower = t.map Char.toLower

/-- `is_select_object_in_temp_write_list`: this one starts at the root. -/
def isSelectObjectInTempWriteList (n : Node) : Bool :=
  e.config.disableLoadBalanceOnWrite = .dmlAdaptive &&
    walkedNodes.walk (isRelation fun _ relname => e.session.isInTransaction &&
      e.session.transactionTempWriteList.any (sameIgnoringCase relname)) n

/-! ## Classifying statements -/

/-- The first character of the text of a `SELECT`, if comments are not allowed. -/
def startsLikeSelect (sql : Text) : Bool :=
  match sql.head? with
  | none => true
  | some c => c ∈ ['s', 'S', '(', 'w', 'W', 't', 'T', '\x00', ';']

/-- The text of the query, after the white space that is to be ignored. -/
def leadingText : Text :=
  if !e.config.allowSqlComments && e.config.ignoreLeadingWhiteSpace then
    e.query.dropWhile PatternLists.isSpace
  else e.query

/-- `IsA(node, PrepareStmt)` -/
def isPrepare : Node → Bool
  | .prepareStmt .. => true
  | _ => false

/-- `is_select_query` -/
def isSelectQuery (n : Node) : Bool :=
  match preparedQuery n with
  | .copyStmt query isFrom filename =>
    !isFrom && filename.isNone && (isNull query || isSelect query)
  | .explainStmt query options =>
    if options.contains "analyze".toList then isSelect query && !poolHasFunctionCall e query
    else true
  | .variableShowStmt _ => true
  | q =>
    isSelect q && !hasTopIntoOrLocking q && !hasNonSelectCte q &&
      (e.config.allowSqlComments || startsLikeSelect (leadingText e) || isPrepare n)

/-- `is_start_transaction_query` -/
def isStartTransactionQuery : Node → Bool
  | .transactionStmt kind _ _ => kind = .start || kind = .begin
  | _ => false

/-- `is_savepoint_query` -/
def isSavepointKind (kind : TransactionStmtKind) : Bool :=
  kind = .savepoint || kind = .rollbackTo || kind = .release

/-- `is_2pc_transaction_query` -/
def is2pcKind (kind : TransactionStmtKind) : Bool :=
  kind = .prepare || kind = .commitPrepared || kind = .rollbackPrepared

/-- `is_commit_or_rollback_query`, which is true for `ROLLBACK TO` as well. -/
def isCommitOrRollbackQuery : Node → Bool
  | .transactionStmt kind _ _ => kind = .commit || kind = .rollback || kind = .rollbackTo
  | _ => false

/-- The name of `SET TRANSACTION` or `SET SESSION CHARACTERISTICS`. -/
def isSetTransactionName (name : Text) : Bool :=
  name = "TRANSACTION".toList || name = "SESSION CHARACTERISTICS".toList

/-- A constant that is a text, apart from case. -/
def Value.isText (texts : List String) : Value → Bool
  | .string s => texts.any fun t => sameIgnoringCase s t.toList
  | _ => false

/-- `val.ival.ival`, as a truth value. -/
def Value.isNonzero : Value → Bool
  | .integer i => i ≠ 0
  | _ => false

/-- `is_set_transaction_serializable` -/
def isSetTransactionSerializable : Node → Bool
  | .variableSetStmt kind name args =>
    if kind = .setValue ∧
        (name = "transaction_isolation".toList ∨ name = "default_transaction_isolation".toList) then
      args.any fun
        | .const v => v.isText ["serializable"]
        | _ => false
    else if kind = .setMulti ∧ isSetTransactionName name then
      args.any fun
        | .option opt =>
          (opt.defname = "transaction_isolation".toList ||
            opt.defname = "default_transaction_isolation".toList) &&
            opt.arg.isText ["serializable"]
        | _ => false
    else false
  | _ => false

/-- `POOL_DEST` -/
inductive PoolDest where
  | primary
  | standby
  | either
  | both
  deriving DecidableEq

/-- The `SET` branch of `send_to_where`.  For `transaction_read_only` the destination goes
through a `bool`, in which `POOL_BOTH` becomes 1, that is `POOL_STANDBY`. -/
def sendSetToWhere (kind : VariableSetKind) (name : Text) (args : List SetArg) : PoolDest :=
  if kind = .setValue ∧ name = "transaction_read_only".toList then
    if args.any fun
        | .const v => v.isText ["off", "f", "false"] || v.isNonzero
        | _ => false then .primary
    else .standby
  else if isSetTransactionSerializable (.variableSetStmt kind name args) then .primary
  else if kind = .setMulti ∧ isSetTransactionName name then
    if args.any fun
        | .option opt => opt.defname = "transaction_read_only".toList && !opt.arg.isNonzero
        | _ => false then .primary
    else .both
  else .both

/-- `send_to_where` -/
def sendToWhere : Node → PoolDest
  | .copyStmt query isFrom _ =>
    if isFrom then .primary
    else if isNull query then .either
    else if isSelect query then .either
    else .primary
  -- `RowExclusiveLock` is 3
  | .lockStmt mode => if mode ≥ 3 then .primary else .both
  | .transactionStmt kind options chain =>
    if isStartTransactionQuery (.transactionStmt kind options chain) then .both
    else if isSavepointKind kind then
      if e.slMode && e.session.isTxStartedByMultiStatement then .primary else .both
    else if is2pcKind kind then .primary
    else .both
  | .variableSetStmt kind name args => sendSetToWhere kind name args
  | .discardStmt => .both
  | .prepareStmt _ query => sendToWhere query
  | .variableShowStmt _ => .either
  | .executeStmt .. | .deallocateStmt .. => .primary
  | n =>
    if isSelect n then
      if poolHasInsertintoOrLockingClause n then .primary
      else if hasNonSelectCte n then .primary
      else .either
    else .primary

/-! ## The decision -/

/-- The errors of the routing. -/
inductive RouteError where
  | invalidNodeId
  deriving DecidableEq

/-- `pool_set_node_to_be_sent`, for a map that is empty before. -/
def poolSetNodeToBeSent (nodeId : ℤ) : Except RouteError NodeMap :=
  if nodeId < 0 ∨ nodeId ≥ 128 then .error .invalidNodeId else .ok [nodeId]

/-- `pool_setall_node_to_be_sent` -/
def poolSetallNodeToBeSent : NodeMap :=
  let s := e.session
  if e.slMode then
    if !e.config.loadBalanceMode then
      -- the loop is left at the first such node
      (s.upNodes.filter fun i => i = e.primary || (e.primary < 0 && s.mainNodeId = i)).take 1
    else
      s.upNodes.filter fun i =>
        e.config.statementLevelLoadBalance || i = e.primary || i = s.loadBalanceNodeId
  else s.upNodes

/-- The node for a statement that can be balanced.  With too much replication delay it is
another one, or the primary. -/
def loadBalanceNode : ℤ :=
  let node :=
    if e.config.statementLevelLoadBalance then e.session.statementNode
    else e.session.loadBalanceNodeId
  if e.config.clusteringMode = .streamingReplication ∧ e.session.isDelayed node then
    if e.config.preferLowerDelayStandby then e.session.lowerDelayNode else e.primary
  else node

/-- The conditions on the session under which a `SELECT` may be balanced. -/
def Session.allowsLoadBalance (s : Session) : Bool :=
  s.tstate = .idle ||
    (!s.writingTransaction && !s.failedTransaction && s.transactionIsolation ≠ .serializable)

/-- The chain of checks that keep a `SELECT` on the primary. -/
def prefersPrimary (n : Node) : Bool :=
  poolHasSystemCatalog e n ||
  poolHasTempTable e n ||
  (e.config.checkUnloggedTable && poolHasUnloggedTable e n) ||
  patternCompare e.regex e.config.lists e.query .writelist .primaryRoutingQueryPatternList = 1 ||
  poolHasFunctionCall e n ||
  isSelectObjectInTempWriteList e n

/-- The load-balancing branch of `where_to_send_main_replica`. -/
def balance (n : Node) : ℤ :=
  if e.config.loadBalanceMode && isSelectQuery e n && e.session.isProtoV3 then
    if e.session.allowsLoadBalance then
      if prefersPrimary e n then e.primary else loadBalanceNode e
    else e.primary
  else e.primary

/-- `where_to_send_main_replica` -/
def whereToSendMainReplica (n : Node) : Except RouteError NodeMap :=
  match sendToWhere e n with
  | .primary => poolSetNodeToBeSent e.primary
  | .both =>
    if e.session.isTxStartedByMultiStatement then poolSetNodeToBeSent e.primary
    else .ok (poolSetallNodeToBeSent e)
  | .standby | .either =>
    if e.session.writingTransaction && e.config.disableLoadBalanceOnWrite = .always then
      poolSetNodeToBeSent e.primary
    else poolSetNodeToBeSent (balance e n)

/-- `where_to_send_deallocate`: the nodes of the `PREPARE`, in addition to `map`. -/
def whereToSendDeallocate (map : NodeMap) (name : Option Text) : NodeMap :=
  match name with
  | none => map ++ poolSetallNodeToBeSent e
  | some name =>
    match e.session.prepared name with
    | some prepMap => prepMap
    | none => if e.slMode then map ++ [e.primary] else map ++ poolSetallNodeToBeSent e

/-- The first step of `pool_where_to_send` in main-replica mode: only the first of several
statements was parsed, so they all go to the primary. -/
def destination (n : Node) : Except RouteError NodeMap :=
  if e.isMultiStatement then poolSetNodeToBeSent e.primary else whereToSendMainReplica e n

/-- `pool_where_to_send` in main-replica mode. -/
def poolWhereToSend (n : Node) : Except RouteError NodeMap :=
  match n with
  | .deallocateStmt name => return whereToSendDeallocate e (← destination e n) name
  | .executeStmt name _ => return whereToSendDeallocate e (← destination e n) (some name)
  | _ => destination e n

/-! ## What must not go to a standby -/

/-- A statement that modifies data. -/
def isModifying : Node → Bool
  | .insertStmt .. | .deleteStmt .. | .updateStmt .. | .mergeStmt .. => true
  | _ => false

/-- An entry of a `WITH` clause that modifies data. -/
def isModifyingCte : Node → Bool
  | .commonTableExpr ctequery _ _ => isModifying ctequery
  | _ => false

/-- A node that makes the statement it stands in a write: an `INTO` or locking clause, a
data-modifying CTE, the call of a writing function. -/
def writes (n : Node) : Bool := isIntoOrLocking n || isModifyingCte n || isWritingFunction e n

/-- There is such a node somewhere in the tree. -/
def Contains (n : Node) : Prop := ∃ m, allNodes.Reaches n m ∧ writes e m = true

/-- Transaction control, `LOCK`, `DISCARD`, `SET`, `DEALLOCATE` and `EXECUTE`. -/
def isExempt : Node → Bool
  | .transactionStmt .. | .lockStmt .. | .discardStmt | .variableSetStmt ..
  | .deallocateStmt .. | .executeStmt .. => true
  | _ => false

/-- Some node other than the primary gets the statement. -/
def SentElsewhere (n : Node) : Prop :=
  ∃ map, poolWhereToSend e n = .ok map ∧ ∃ i ∈ map, i ≠ e.primary

/-- What is wanted of a routing decision. -/
def ReadsElsewhere (n : Node) : Prop := isExempt n = false → SentElsewhere e n → ¬ Contains e n

/-- One of the functions that inspect a `SELECT` finds a reason for the primary: the
walkers where they get to, the others in the fields of the `SELECT` itself. -/
def Caught (n : Node) : Prop :=
  (∃ m, walkedNodes.Reaches n m ∧ (isIntoOrLocking m = true ∨ isWritingFunction e m = true)) ∨
    (∃ cte ∈ topCtes n, isSelect (cteQuery cte) = false) ∨ hasTopIntoOrLocking n = true

/-- The statement, or what it prepares, is a `COPY` to the client of a `SELECT` that
writes, or a `SELECT` that writes at places nobody looks at. -/
def Hides (n : Node) : Prop :=
  match preparedQuery n with
  | .copyStmt query false none => isSelect query = true ∧ Contains e query
  | q => isSelect q = true ∧ Contains e q ∧ ¬ Caught e q

variable {e} {n query : Node} {name : Text} {isFrom : Bool} {filename : Option Text} {map : NodeMap}
  {i nodeId : ℤ} {found : Node → Bool} {p : ListParam} {e' : Env ρ}

theorem contains_iff : Contains e n ↔ writes e n = true ∨ ∃ k ∈ fields n, Contains e k :=
  Branching.exists_reaches_iff

@[simp] theorem contains_prepareStmt : Contains e (.prepareStmt name query) ↔ Contains e query := by
  rw [contains_iff]
  simp [writes, isIntoOrLocking, isModifyingCte, isWritingFunction, fields, walked, skipped]

theorem not_contains_of_no_fields (hw : writes e n = false) (hf : fields n = []) :
    ¬ Contains e n := by
  rw [contains_iff, hw, hf]
  simp

theorem contains_preparedQuery : Contains e (preparedQuery n) ↔ Contains e n := by
  cases n
  case prepareStmt => exact contains_prepareStmt.symm
  all_goals exact Iff.rfl

@[simp] theorem contains_copyStmt :
    Contains e (.copyStmt query isFrom filename) ↔ Contains e query := by
  rw [contains_iff]
  simp [writes, isIntoOrLocking, isModifyingCte, isWritingFunction, fields, walked, skipped]

theorem not_contains_null : ¬ Contains e .null := not_contains_of_no_fields rfl rfl

theorem not_contains_of_both (h : sendToWhere e n = .both) : ¬ Contains e n := by
  fun_induction sendToWhere e n
  -- a statement without fields, `PREPARE`, or another destination
  all_goals first
    | exact not_contains_of_no_fields rfl rfl
    | rename_i ih
      exact fun hc => ih h (contains_prepareStmt.1 hc)
    | cases h

/-! ## Two reasons to send a statement elsewhere -/

theorem mem_poolSetNodeToBeSent (h : poolSetNodeToBeSent nodeId = .ok map) (hi : i ∈ map) :
    i = nodeId := by
  unfold poolSetNodeToBeSent at h
  split_ifs at h
  cases h
  exact List.mem_singleton.1 hi

theorem balance_ne_primary (h : balance e n ≠ e.primary) :
    isSelectQuery e n = true ∧ e.session.allowsLoadBalance = true ∧ prefersPrimary e n = false := by
  unfold balance at h
  split_ifs at h with hsel hallow hpref
  · exact absurd rfl h
  · simp only [Bool.and_eq_true] at hsel
    exact ⟨hsel.1.2, hallow, by simpa using hpref⟩
  · exact absurd rfl h
  · exact absurd rfl h

/-- **A node other than the primary gets a statement only if it goes to all nodes or if it
is balanced.** -/
theorem mem_whereToSendMainReplica (h : whereToSendMainReplica e n = .ok map) (hi : i ∈ map)
    (hne : i ≠ e.primary) :
    (sendToWhere e n = .both ∧ e.session.isTxStartedByMultiStatement = false) ∨
      (sendToWhere e n ≠ .primary ∧ isSelectQuery e n = true ∧
        e.session.allowsLoadBalance = true ∧ prefersPrimary e n = false) := by
  have hbalance : ∀ nodeId, poolSetNodeToBeSent nodeId = .ok map → nodeId ≠ e.primary :=
    fun nodeId hset => mem_poolSetNodeToBeSent hset hi ▸ hne
  unfold whereToSendMainReplica at h
  cases hdest : sendToWhere e n with
  | primary => simp only [hdest] at h; exact absurd rfl (hbalance _ h)
  | both =>
    simp only [hdest] at h
    split_ifs at h with htx
    · exact absurd rfl (hbalance _ h)
    · exact .inl ⟨rfl, by simpa using htx⟩
  | standby | either =>
    simp only [hdest] at h
    split_ifs at h
    · exact absurd rfl (hbalance _ h)
    · exact .inr ⟨by simp, balance_ne_primary (hbalance _ h)⟩

theorem poolWhereToSend_of_not_exempt (hx : isExempt n = false) :
    poolWhereToSend e n = destination e n := by
  unfold poolWhereToSend
  split
  · cases hx
  · cases hx
  · rfl

theorem SentElsewhere.cases (hx : isExempt n = false) (h : SentElsewhere e n) :
    sendToWhere e n = .both ∨
      (sendToWhere e n ≠ .primary ∧ isSelectQuery e n = true ∧
        poolHasFunctionCall e n = false) := by
  obtain ⟨map, hmap, i, hi, hne⟩ := h
  have hmain : whereToSendMainReplica e n = .ok map := by
    rw [poolWhereToSend_of_not_exempt hx, destination] at hmap
    split_ifs at hmap
    · exact absurd (mem_poolSetNodeToBeSent hmap hi) hne
    · exact hmap
  rcases mem_whereToSendMainReplica hmain hi hne with hboth | ⟨hdest, hsel, -, hpref⟩
  · exact .inl hboth.1
  · simp only [prefersPrimary, Bool.or_eq_false_iff] at hpref
    exact .inr ⟨hdest, hsel, hpref.1.2⟩

theorem poolHas_iff (hn : isSelect n = true) (hroot : found n = false) :
    poolHas found n = true ↔ ∃ m, walkedNodes.Reaches n m ∧ found m = true := by
  rw [poolHas, hn, Bool.true_and, rawExpressionTreeWalker_iff hroot]

theorem caught_iff (hn : isSelect n = true) :
    Caught e n ↔ poolHasInsertintoOrLockingClause n = true ∨
      poolHas (isWritingFunction e) n = true ∨
      hasNonSelectCte n = true ∨ hasTopIntoOrLocking n = true := by
  have hinto : isIntoOrLocking n = false := by cases n <;> simp_all [isSelect, isIntoOrLocking]
  have hfunc : isWritingFunction e n = false := by
    cases n <;> simp_all [isSelect, isWritingFunction]
  unfold Caught
  rw [poolHasInsertintoOrLockingClause, poolHas_iff hn hinto, poolHas_iff hn hfunc,
    hasNonSelectCte, List.any_eq_true]
  simp only [and_or_left, exists_or, Bool.not_eq_true', or_assoc]

theorem sendToWhere_preparedQuery : sendToWhere e (preparedQuery n) = sendToWhere e n := by
  cases n <;> rfl

theorem isSelectQuery_cases (h : isSelectQuery e n = true) :
    (isSelect (preparedQuery n) = true ∧ hasTopIntoOrLocking (preparedQuery n) = false) ∨
      (∃ query, preparedQuery n = .copyStmt query false none ∧
        (isNull query = true ∨ isSelect query = true)) ∨
      (∃ query options, preparedQuery n = .explainStmt query options) ∨
      ∃ name, preparedQuery n = .variableShowStmt name := by
  unfold isSelectQuery at h
  generalize preparedQuery n = q at h ⊢
  split at h
  · rename_i query isFrom filename
    simp only [Bool.and_eq_true, Bool.or_eq_true, Bool.not_eq_true', Option.isNone_iff_eq_none] at h
    obtain ⟨⟨rfl, rfl⟩, hquery⟩ := h
    exact .inr (.inl ⟨query, rfl, hquery⟩)
  · exact .inr (.inr (.inl ⟨_, _, rfl⟩))
  · exact .inr (.inr (.inr ⟨_, rfl⟩))
  · simp only [Bool.and_eq_true, Bool.not_eq_true'] at h
    exact .inl h.1.1

theorem not_caught_of_balanced (hn : isSelect n = true) (hdest : sendToWhere e n ≠ .primary)
    (hfunc : poolHas (isWritingFunction e) n = false) (htop : hasTopIntoOrLocking n = false) :
    ¬ Caught e n := by
  rw [caught_iff hn, hfunc, htop]
  rintro (hinto | h | hcte | h)
  · cases n <;> simp_all [isSelect, sendToWhere]
  · cases h
  · cases n <;> simp_all [isSelect, sendToWhere]
  · cases h

/-- A statement that is balanced hides what it contains. -/
theorem hides_of_balanced (hdest : sendToWhere e n ≠ .primary) (hsel : isSelectQuery e n = true)
    (hfunc : poolHasFunctionCall e n = false) (hc : Contains e n) : Hides e n := by
  rw [← sendToWhere_preparedQuery] at hdest
  rw [← contains_preparedQuery] at hc
  unfold Hides
  unfold poolHasFunctionCall at hfunc
  rcases isSelectQuery_cases hsel with
    ⟨hq, htop⟩ | ⟨query, hq, hquery⟩ | ⟨query, options, hq⟩ | ⟨name, hq⟩
  · have := not_caught_of_balanced hq hdest hfunc htop
    split
    · rename_i heq
      simp [heq, isSelect] at hq
    · exact ⟨hq, hc, this⟩
  · simp only [hq, contains_copyStmt] at hc ⊢
    rcases hquery with hnull | hquery
    · cases query <;> simp only [isNull, Bool.false_eq_true] at hnull
      exact absurd hc not_contains_null
    · exact ⟨hquery, hc⟩
  · simp [hq, sendToWhere, isSelect] at hdest
  · rw [hq] at hc
    exact absurd hc (not_contains_of_no_fields rfl rfl)

/-! ## A session that balances whatever it can -/

/-- Both know the same functions as writing. -/
def SameFunctions (e' e : Env ρ) : Prop :=
  ∀ funcname, isWritingName e' funcname = isWritingName e funcname

/-- An idle session whose node for reading is a standby. -/
def idleSession : Session where
  tstate := .idle
  writingTransaction := false
  failedTransaction := false
  transactionIsolation := .readCommitted
  isTxStartedByMultiStatement := false
  isProtoV3 := true
  primaryNodeId := 0
  mainNodeId := 0
  loadBalanceNodeId := 1
  upNodes := [0, 1]
  statementNode := 1
  lowerDelayNode := 1
  isDelayed := fun _ => false
  isInTransaction := false
  transactionTempWriteList := []
  prepared := fun _ => none

/-- The same functions in an idle session, in which nothing else keeps a query on the
primary. -/
def balancing (e : Env ρ) : Env ρ where
  regex := e.regex
  config :=
    { e.config with
      lists := { e.config.lists with
        patterns := Function.update e.config.lists.patterns .queries [] }
      loadBalanceMode := true
      allowSqlComments := true
      checkUnloggedTable := false
      disableLoadBalanceOnWrite := .off
      statementLevelLoadBalance := false }
  catalog :=
    { e.catalog with isSystemCatalog := fun _ => false, isTempTable := fun _ => false }
  session := idleSession
  query := e.query
  isMultiStatement := false

theorem isInFunctionList_balancing (hp : p.array = .functions) (fname : Text) :
    isInFunctionList (balancing e) p fname = isInFunctionList e p fname := by
  simp [isInFunctionList, patternCompare, balancing, hp]

theorem sameFunctions_balancing : SameFunctions (balancing e) e := by
  intro funcname
  unfold isWritingName
  rw [isInFunctionList_balancing rfl, isInFunctionList_balancing rfl]
  rfl

theorem writes_congr (h : SameFunctions e' e) : writes e' n = writes e n := by
  cases n <;> simp [writes, isWritingFunction, h _]

theorem contains_congr (h : SameFunctions e' e) : Contains e' n ↔ Contains e n := by
  simp only [Contains, writes_congr h]

theorem caught_congr (h : SameFunctions e' e) : Caught e' n ↔ Caught e n := by
  have hfunc : ∀ m, isWritingFunction e' m = isWritingFunction e m := by
    intro m
    cases m <;> simp [isWritingFunction, h _]
  simp only [Caught, hfunc]

theorem hides_congr (h : SameFunctions e' e) : Hides e' n ↔ Hides e n := by
  unfold Hides
  split <;> simp only [contains_congr h, caught_congr h]

theorem poolHas_eq_false (h : ∀ m, found m = false) : poolHas found n = false := by
  cases hn : isSelect n with
  | false => simp [poolHas, hn]
  | true => simp [← Bool.not_eq_true, poolHas_iff hn (h n), h]

theorem prefersPrimary_balancing (hfunc : poolHasFunctionCall (balancing e) n = false) :
    prefersPrimary (balancing e) n = false := by
  have hrel : ∀ m, isRelation (fun _ _ => false) m = false := by
    intro m
    cases m <;> rfl
  simp only [prefersPrimary, hfunc, Bool.or_eq_false_iff]
  refine ⟨⟨⟨⟨⟨?_, ?_⟩, ?_⟩, ?_⟩, trivial⟩, ?_⟩
  · exact poolHas_eq_false hrel
  · exact poolHas_eq_false hrel
  · rfl
  · simp [patternCompare, balancing, ListParam.array]
  · rfl

theorem isExempt_of_hides (hh : Hides e n) : isExempt n = false := by
  cases n <;> first | rfl | exact absurd hh.1 (by simp [preparedQuery, isSelect])

theorem classified_of_hides (hcomments : e.config.allowSqlComments = true) (hh : Hides e n) :
    sendToWhere e n = .either ∧ isSelectQuery e n = true ∧ poolHasFunctionCall e n = false := by
  rw [← sendToWhere_preparedQuery]
  unfold Hides at hh
  unfold isSelectQuery poolHasFunctionCall
  split at hh
  · rename_i query heq
    rw [heq]
    have hnull : isNull query = false := by cases query <;> simp_all [isSelect, isNull]
    have hcopy : isSelect (.copyStmt query false none) = false := rfl
    simp [sendToWhere, hh.1, hnull, poolHas, hcopy]
  · obtain ⟨hq, -, hcaught⟩ := hh
    rw [caught_iff hq] at hcaught
    simp only [not_or, Bool.not_eq_true] at hcaught
    obtain ⟨hinto, hfunc, hcte, htop⟩ := hcaught
    generalize preparedQuery n = q at *
    cases q <;> simp_all [isSelect, sendToWhere]

theorem sentElsewhere_balancing (hh : Hides e n) : SentElsewhere (balancing e) n := by
  rw [← hides_congr sameFunctions_balancing] at hh
  obtain ⟨hdest, hsel, hfunc⟩ := classified_of_hides rfl hh
  have hbalance : balance (balancing e) n = 1 := by
    unfold balance
    rw [hsel, prefersPrimary_balancing hfunc]
    simp [balancing, idleSession, Session.allowsLoadBalance, loadBalanceNode]
  refine ⟨[1], ?_, 1, List.mem_singleton_self 1, by simp [Env.primary, balancing, idleSession]⟩
  rw [poolWhereToSend_of_not_exempt (isExempt_of_hides hh), destination, whereToSendMainReplica,
    hdest, hbalance]
  rfl

/-! ## The main statement -/

/-- **A statement is safe in every session, whatever else the configuration says, exactly
if it hides nothing**: it does not copy from a `SELECT` that writes, and of the writes in
a `SELECT` one is at a place that is inspected. -/
theorem reads_elsewhere_iff (e : Env ρ) (n : Node) :
    (∀ e' : Env ρ, SameFunctions e' e → ReadsElsewhere e' n) ↔ ¬ Hides e n := by
  constructor
  · intro h hh
    have hc : Contains e n := by
      rw [← contains_preparedQuery]
      unfold Hides at hh
      split at hh
      · rename_i query heq
        rw [heq, contains_copyStmt]
        exact hh.2
      · exact hh.2.1
    exact h _ sameFunctions_balancing (isExempt_of_hides hh) (sentElsewhere_balancing hh)
      ((contains_congr sameFunctions_balancing).2 hc)
  · intro hh e' hsame hx helse hc
    rw [← hides_congr hsame] at hh
    rcases helse.cases hx with hboth | ⟨hdest, hsel, hfunc⟩
    · exact not_contains_of_both hboth hc
    · exact hh (hides_of_balanced hdest hsel hfunc hc)

/-! ## A `SELECT` with no clause -/

/-- A `SELECT` without anything. -/
def plainSelect : Node :=
  .selectStmt .null .null .null .null .null .null .null .null .null .null .null .null .null .null
    .null .null

theorem poolHas_plainSelect (found : Node → Bool) (hnull : found .null = false) :
    poolHas found plainSelect = false := by
  simp [poolHas, rawExpressionTreeWalker, plainSelect, walked, Branching.walk_eq,
    walkedNodes, hnull]

theorem sendToWhere_plainSelect (e : Env ρ) : sendToWhere e plainSelect = .either := by
  have hinto := poolHas_plainSelect isIntoOrLocking rfl
  unfold plainSelect at hinto ⊢
  simp [sendToWhere, poolHasInsertintoOrLockingClause, hinto, isSelect, hasNonSelectCte, topCtes]

theorem prefersPrimary_plainSelect {e : Env ρ}
    (hlist : patternCompare e.regex e.config.lists e.query .writelist
      .primaryRoutingQueryPatternList ≠ 1)
    (hmode : e.config.disableLoadBalanceOnWrite ≠ .dmlAdaptive) :
    prefersPrimary e plainSelect = false := by
  have hrelation : ∀ p, isRelation p .null = false := fun _ => rfl
  simp only [prefersPrimary, poolHasSystemCatalog, poolHasTempTable, poolHasUnloggedTable,
    poolHas_plainSelect _ (hrelation _), Bool.and_false, Bool.false_or, Bool.or_eq_false_iff]
  refine ⟨⟨by simp [hlist], poolHas_plainSelect (isWritingFunction _) rfl⟩, ?_⟩
  simp [isSelectObjectInTempWriteList, hmode]

/-! ## A `COPY` that locks rows -/

/-- `SELECT` with only a locking clause. -/
def selectForUpdate : Node :=
  .selectStmt .null .null .null .null .null .null .null .null .null .null .null .null
    (.list [.lockingClause .null]) .null .null .null

/-- `COPY (SELECT … FOR UPDATE) TO STDOUT` -/
def copyForUpdate : Node := .copyStmt selectForUpdate false none

/-- An idle session under a configuration with no lists. -/
def plainEnv : Env Unit where
  regex := ⟨fun _ => none, fun _ _ => false⟩
  config :=
    { lists := PatternLists.bootConfig
      clusteringMode := .streamingReplication
      loadBalanceMode := true
      allowSqlComments := false
      ignoreLeadingWhiteSpace := true
      checkUnloggedTable := true
      disableLoadBalanceOnWrite := .transaction
      statementLevelLoadBalance := false
      preferLowerDelayStandby := false }
  catalog := ⟨fun _ => false, fun _ => false, fun _ => false, fun _ => false⟩
  session := idleSession
  query := "COPY (SELECT * FROM t FOR UPDATE) TO STDOUT".toList
  isMultiStatement := false

/-- The locking clause is in the query of the `COPY`, which nobody looks into, so the
statement is sent to the standby. -/
theorem copy_for_update_on_standby : ¬ ReadsElsewhere plainEnv copyForUpdate := by
  intro h
  refine h rfl ⟨[1], rfl, 1, by decide, by decide⟩ ?_
  rw [copyForUpdate, contains_copyStmt]
  refine ⟨.lockingClause .null, ?_, rfl⟩
  refine Branching.Reaches.head (k := .list [.lockingClause .null]) ?_
    (Branching.Reaches.head (k := .lockingClause .null) ?_ (Branching.Reaches.refl _))
  · simp [selectForUpdate, allNodes, fields, walked]
  · simp [allNodes, fields, walked]

end PgBalancer.Routing
