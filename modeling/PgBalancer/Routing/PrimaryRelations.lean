import PgBalancer.Routing.WhereToSend

/-!
# Relations that only the primary has

A temporary or an unlogged table cannot be read on a standby, and a query over the system
catalogs may be about one.  `where_to_send_main_replica` looks for such relations with three
walkers, each of which gives up at once if the statement is not a `SELECT`.  But the test
for load balancing accepts more: a `COPY … TO STDOUT`, of a query or of a table, and a
`PREPARE`.

* `special_read_on_primary_iff` — **a statement with such a relation goes to the primary in
  every session exactly if the relation is not unseen**.
-/

namespace PgBalancer.Routing

open PatternLists (Text ListParam patternCompare)
open TreeWalk (Branching)

variable {ρ : Type}

/-! ## Statements that read -/

/-- A `SELECT`, a `COPY` to the client of a `SELECT` or of a table, or the `PREPARE` of a
`SELECT`. -/
inductive ReadStmt where
  | select (query : Node) (h : isSelect query = true)
  | copyQuery (query : Node) (h : isSelect query = true)
  | copyTable (schemaname : Option Text) (relname : Text)
  | prepare (name : Text) (query : Node) (h : isSelect query = true)

/-- The parse tree.  No function looks at the table of a `COPY`, so it is not in the tree. -/
def ReadStmt.node : ReadStmt → Node
  | .select query _ => query
  | .copyQuery query _ => .copyStmt query false none
  | .copyTable _ _ => .copyStmt .null false none
  | .prepare name query _ => .prepareStmt name query

/-- The relations that are to be read on the primary. -/
def isSpecial (e : Env ρ) (schemaname : Option Text) (relname : Text) : Bool :=
  e.catalog.isSystemCatalog relname || e.catalog.isTempTable relname ||
    e.catalog.isUnloggedTable (makeTableName schemaname relname)

/-- A node of the tree is such a relation. -/
def Refers (e : Env ρ) (n : Node) : Prop :=
  ∃ m, allNodes.Reaches n m ∧ isRelation (isSpecial e) m = true

/-- The statement refers to such a relation, at any depth. -/
def References (e : Env ρ) : ReadStmt → Prop
  | .select query _ | .copyQuery query _ | .prepare _ query _ => Refers e query
  | .copyTable schemaname relname => isSpecial e schemaname relname = true

/-- It is sent to the primary and nowhere else. -/
def ToPrimary (e : Env ρ) (n : Node) : Prop :=
  poolWhereToSend e n = poolSetNodeToBeSent e.primary

/-- The walkers get to such a relation. -/
def Seen (e : Env ρ) (n : Node) : Prop :=
  ∃ m, walkedNodes.Reaches n m ∧ isRelation (isSpecial e) m = true

/-- The form of the `SELECT` speaks for the primary. -/
def Writing (n : Node) : Prop :=
  (∃ m, walkedNodes.Reaches n m ∧ isIntoOrLocking m = true) ∨
    hasNonSelectCte n = true ∨ hasTopIntoOrLocking n = true

/-- The statement has such a relation, and nobody finds a reason for the primary: in a
`COPY` nobody looks, for a `PREPARE` only at the form of the query. -/
def Unseen (e : Env ρ) (s : ReadStmt) : Prop :=
  References e s ∧
    match s with
    | .select query _ => ¬ Seen e query ∧ ¬ Writing query
    | .copyQuery _ _ | .copyTable _ _ => True
    | .prepare _ query _ => ¬ Writing query

/-! ## Reasons for the primary -/

section Primary

variable {e : Env ρ} {n : Node}

theorem preparedQuery_of_select (hn : isSelect n = true) : preparedQuery n = n := by
  cases n
  case prepareStmt => cases hn
  all_goals rfl

theorem isNull_of_select (hn : isSelect n = true) : isNull n = false := by
  cases n
  case null => cases hn
  all_goals rfl

variable {s : ReadStmt}

theorem poolWhereToSend_read (s : ReadStmt) : poolWhereToSend e s.node = destination e s.node := by
  cases s with
  | select query h =>
    cases query
    case selectStmt => rfl
    all_goals cases h
  | copyQuery | copyTable | prepare => rfl

theorem toPrimary_of_dest (s : ReadStmt) (h : sendToWhere e s.node = .primary) :
    ToPrimary e s.node := by
  rw [ToPrimary, poolWhereToSend_read, destination, whereToSendMainReplica, h]
  exact ite_self _

theorem toPrimary_of_balance (s : ReadStmt) (hdest : sendToWhere e s.node = .either)
    (h : balance e s.node = e.primary) : ToPrimary e s.node := by
  rw [ToPrimary, poolWhereToSend_read, destination, whereToSendMainReplica, hdest, h]
  simp only [ite_self]

section

variable (hn : isSelect n = true)
include hn

theorem writing_iff :
    Writing n ↔ poolHasInsertintoOrLockingClause n = true ∨ hasNonSelectCte n = true ∨
      hasTopIntoOrLocking n = true := by
  have hroot : isIntoOrLocking n = false := by cases n <;> simp_all [isSelect, isIntoOrLocking]
  rw [Writing, poolHasInsertintoOrLockingClause, poolHas_iff hn hroot]

theorem sendToWhere_of_select : sendToWhere e n =
      if poolHasInsertintoOrLockingClause n || hasNonSelectCte n then .primary else .either := by
  cases n <;> simp only [isSelect, Bool.false_eq_true] at hn
  simp only [sendToWhere, isSelect, if_true]
  split_ifs <;> simp_all

theorem seen_iff : Seen e n ↔ poolHasSystemCatalog e n = true ∨ poolHasTempTable e n = true ∨
      poolHasUnloggedTable e n = true := by
  have hroot : ∀ p, isRelation p n = false := by
    intro p
    cases n <;> simp_all [isSelect, isRelation]
  have hsplit : ∀ m, isRelation (isSpecial e) m = true ↔
      isRelation (fun _ relname => e.catalog.isSystemCatalog relname) m = true ∨
        isRelation (fun _ relname => e.catalog.isTempTable relname) m = true ∨
          isRelation (fun schemaname relname =>
            e.catalog.isUnloggedTable (makeTableName schemaname relname)) m = true := by
    intro m
    cases m <;> simp [isRelation, isSpecial, or_assoc]
  rw [poolHasSystemCatalog, poolHasTempTable, poolHasUnloggedTable, poolHas_iff hn (hroot _),
    poolHas_iff hn (hroot _), poolHas_iff hn (hroot _)]
  simp only [Seen, hsplit, and_or_left, exists_or]

end

theorem balance_of_not_select (h : isSelectQuery e n = false) : balance e n = e.primary := by
  simp [balance, h]

theorem balance_of_prefers (h : prefersPrimary e n = true) : balance e n = e.primary := by
  simp [balance, h]

/-- A query with an `INTO` or locking clause at the top is not balanced, prepared or not. -/
theorem isSelectQuery_of_top (hn : isSelect (preparedQuery n) = true)
    (h : hasTopIntoOrLocking (preparedQuery n) = true) : isSelectQuery e n = false := by
  unfold isSelectQuery
  generalize preparedQuery n = q at hn h ⊢
  cases q <;> simp only [isSelect, Bool.false_eq_true] at hn
  simp [isSelect, h]

theorem toPrimary_of_writing (hn : isSelect (preparedQuery s.node) = true)
    (hw : Writing (preparedQuery s.node)) : ToPrimary e s.node := by
  have hdest : sendToWhere e s.node = _ :=
    sendToWhere_preparedQuery.symm.trans (sendToWhere_of_select hn)
  rcases (writing_iff hn).1 hw with hinto | hcte | htop
  · exact toPrimary_of_dest s (by simp [hdest, hinto])
  · exact toPrimary_of_dest s (by simp [hdest, hcte])
  · by_cases hprimary : sendToWhere e s.node = .primary
    · exact toPrimary_of_dest s hprimary
    · refine toPrimary_of_balance s ?_ (balance_of_not_select (isSelectQuery_of_top hn htop))
      rw [hdest] at hprimary ⊢
      split_ifs at hprimary ⊢
      · exact absurd rfl hprimary
      · rfl

theorem toPrimary_of_seen (hcheck : e.config.checkUnloggedTable = true) (query : Node)
    (hn : isSelect query = true) (hseen : Seen e query) : ToPrimary e query := by
  have hprefers : prefersPrimary e query = true := by
    rcases (seen_iff hn).1 hseen with h | h | h <;> simp [prefersPrimary, h, hcheck]
  have hdest := sendToWhere_of_select (e := e) hn
  split_ifs at hdest
  · exact toPrimary_of_dest (.select query hn) hdest
  · exact toPrimary_of_balance (.select query hn) hdest (balance_of_prefers hprefers)

end Primary

/-! ## A session that balances whatever it can -/

/-- Both know the same relations, and unlogged tables are looked for. -/
def SameRelations (e' e : Env ρ) : Prop :=
  (∀ schemaname relname, isSpecial e' schemaname relname = isSpecial e schemaname relname) ∧
    e'.config.checkUnloggedTable = true

/-- The same relations in an idle session without any list of patterns, in which no function
writes. -/
def balancingReads (e : Env ρ) : Env ρ where
  regex := e.regex
  config :=
    { e.config with
      lists := PatternLists.bootConfig
      loadBalanceMode := true
      allowSqlComments := true
      checkUnloggedTable := true
      disableLoadBalanceOnWrite := .off
      statementLevelLoadBalance := false }
  catalog := { e.catalog with isVolatile := fun _ => false }
  session := idleSession
  query := e.query
  isMultiStatement := false

section Balancing

variable {e e' : Env ρ}

theorem sameRelations_balancingReads : SameRelations (balancingReads e) e :=
  ⟨fun _ _ => rfl, rfl⟩

section

variable (h : SameRelations e' e)
include h

theorem isRelation_congr (m : Node) : isRelation (isSpecial e') m = isRelation (isSpecial e) m := by
  cases m <;> simp [isRelation, h.1]

theorem references_congr (s : ReadStmt) : References e' s ↔ References e s := by
  cases s <;> simp [References, Refers, isRelation_congr h, h.1]

theorem unseen_congr (s : ReadStmt) : Unseen e' s ↔ Unseen e s := by
  unfold Unseen
  rw [references_congr h]
  cases s <;> simp [Seen, isRelation_congr h]

end

theorem poolHasFunctionCall_balancingReads (n : Node) :
    poolHasFunctionCall (balancingReads e) n = false := by
  refine poolHas_eq_false fun m => ?_
  cases m <;> simp [isWritingFunction, isWritingName, balancingReads, PatternLists.bootConfig]

theorem prefersPrimary_balancingReads {n : Node}
    (hcatalog : poolHasSystemCatalog (balancingReads e) n = false)
    (htemp : poolHasTempTable (balancingReads e) n = false)
    (hunlogged : poolHasUnloggedTable (balancingReads e) n = false) :
    prefersPrimary (balancingReads e) n = false := by
  have hlist : patternCompare (balancingReads e).regex (balancingReads e).config.lists
      (balancingReads e).query .writelist .primaryRoutingQueryPatternList ≠ 1 := by
    simp [patternCompare, balancingReads, PatternLists.bootConfig]
  have hadaptive : isSelectObjectInTempWriteList (balancingReads e) n = false := rfl
  simp [prefersPrimary, hcatalog, htemp, hunlogged, hlist, hadaptive,
    poolHasFunctionCall_balancingReads]

theorem sent_balancingReads (s : ReadStmt) (hdest : sendToWhere (balancingReads e) s.node = .either)
    (hsel : isSelectQuery (balancingReads e) s.node = true)
    (hprefers : prefersPrimary (balancingReads e) s.node = false) :
    ¬ ToPrimary (balancingReads e) s.node := by
  have hbalance : balance (balancingReads e) s.node = 1 := by
    unfold balance
    rw [hsel, hprefers]
    simp [balancingReads, idleSession, Session.allowsLoadBalance, loadBalanceNode]
  rw [ToPrimary, poolWhereToSend_read, destination, whereToSendMainReplica, hdest, hbalance]
  simp [balancingReads, idleSession, Env.primary, poolSetNodeToBeSent]

/-- A `SELECT` of harmless form, by itself or prepared, is one for load balancing. -/
theorem isSelectQuery_balancingReads {n : Node} (hn : isSelect (preparedQuery n) = true)
    (hw : ¬ Writing (preparedQuery n)) :
    sendToWhere (balancingReads e) n = .either ∧ isSelectQuery (balancingReads e) n = true := by
  rw [writing_iff hn] at hw
  simp only [not_or, Bool.not_eq_true] at hw
  obtain ⟨hinto, hcte, htop⟩ := hw
  constructor
  · rw [← sendToWhere_preparedQuery, sendToWhere_of_select hn, hinto, hcte]
    rfl
  · have hcomments : (balancingReads e).config.allowSqlComments = true := rfl
    unfold isSelectQuery
    generalize preparedQuery n = q at hn hcte htop ⊢
    cases q <;> simp only [isSelect, Bool.false_eq_true] at hn
    simp [isSelect, hcte, htop, hcomments]

/-- **What is unseen is read on the standby of such a session.** -/
theorem not_toPrimary_of_unseen (s : ReadStmt) (hu : Unseen e s) :
    ¬ ToPrimary (balancingReads e) s.node := by
  rw [← unseen_congr sameRelations_balancingReads] at hu
  have hnone : ∀ found, isSelect s.node = false → poolHas found s.node = false := by
    intro found hn
    simp [poolHas, hn]
  cases s with
  | select query hn =>
    obtain ⟨-, hseen, hw⟩ := hu
    have hprepared := preparedQuery_of_select hn
    obtain ⟨hdest, hsel⟩ := isSelectQuery_balancingReads (e := e) (n := query)
      (by rw [hprepared]; exact hn) (by rw [hprepared]; exact hw)
    rw [seen_iff hn] at hseen
    simp only [not_or, Bool.not_eq_true] at hseen
    exact sent_balancingReads (.select query hn) hdest hsel
      (prefersPrimary_balancingReads hseen.1 hseen.2.1 hseen.2.2)
  | copyQuery query hn =>
    have hnull := isNull_of_select hn
    refine sent_balancingReads (.copyQuery query hn) ?_ ?_
      (prefersPrimary_balancingReads (hnone _ rfl) (hnone _ rfl) (hnone _ rfl))
    · simp [ReadStmt.node, sendToWhere, hn, hnull]
    · simp [ReadStmt.node, isSelectQuery, preparedQuery, hn]
  | copyTable schemaname relname =>
    exact sent_balancingReads (.copyTable schemaname relname) rfl rfl
      (prefersPrimary_balancingReads (hnone _ rfl) (hnone _ rfl) (hnone _ rfl))
  | prepare name query hn =>
    obtain ⟨hdest, hsel⟩ :=
      isSelectQuery_balancingReads (e := e) (n := .prepareStmt name query) hn hu.2
    exact sent_balancingReads (.prepare name query hn) hdest hsel
      (prefersPrimary_balancingReads (hnone _ rfl) (hnone _ rfl) (hnone _ rfl))

end Balancing

/-! ## The main statement -/

/-- **A read that refers to a special relation is sent to the primary**, in every environment with
these relations, if and only if no such relation stays unseen. -/
theorem special_read_on_primary_iff (e : Env ρ) (s : ReadStmt) :
    (∀ e' : Env ρ, SameRelations e' e → References e' s → ToPrimary e' s.node) ↔ ¬ Unseen e s := by
  constructor
  · intro h hu
    refine not_toPrimary_of_unseen s hu (h _ sameRelations_balancingReads ?_)
    exact (references_congr sameRelations_balancingReads s).2 hu.1
  · intro hu e' hsame href
    rw [← unseen_congr hsame] at hu
    cases s with
    | select query hn =>
      have hprepared := preparedQuery_of_select hn
      by_cases hseen : Seen e' query
      · exact toPrimary_of_seen hsame.2 query hn hseen
      · have hw : Writing query := by
          by_contra hw
          exact hu ⟨href, hseen, hw⟩
        exact toPrimary_of_writing (hprepared.symm ▸ hn) (hprepared.symm ▸ hw)
    | copyQuery query hn => exact absurd ⟨href, trivial⟩ hu
    | copyTable schemaname relname => exact absurd ⟨href, trivial⟩ hu
    | prepare name query hn =>
      have hw : Writing query := by
        by_contra hw
        exact hu ⟨href, hw⟩
      exact toPrimary_of_writing hn hw

/-- An `EXECUTE` goes where its prepared statement went. -/
theorem execute_inherits {e : Env ρ} {name : Text} {params : Node} {map : NodeMap}
    (hprepared : e.session.prepared name = some map) (hvalid : 0 ≤ e.primary ∧ e.primary < 128) :
    poolWhereToSend e (.executeStmt name params) = .ok map := by
  have hset : poolSetNodeToBeSent e.primary = .ok [e.primary] := by
    rw [poolSetNodeToBeSent, if_neg (by omega)]
  have hdest : destination e (.executeStmt name params) = .ok [e.primary] := by
    have hsend : sendToWhere e (.executeStmt name params) = .primary := rfl
    rw [destination, whereToSendMainReplica, hsend, hset, ite_self]
  simp only [poolWhereToSend, hdest, whereToSendDeallocate, hprepared]
  rfl

/-! ## `COPY` of a temporary table -/

/-- The table `t` is a temporary one. -/
def tempEnv : Env Unit :=
  { plainEnv with catalog := { plainEnv.catalog with isTempTable := fun t => t = ['t'] } }

/-- `COPY t TO STDOUT` is sent to the standby. -/
theorem copy_temp_table_on_standby : References tempEnv (.copyTable none ['t']) ∧
      tempEnv.config.checkUnloggedTable = true ∧ tempEnv.primary = 0 ∧
      poolWhereToSend tempEnv (ReadStmt.copyTable none ['t']).node = .ok [1] ∧
      ¬ ToPrimary tempEnv (ReadStmt.copyTable none ['t']).node := by
  refine ⟨by simp [References, isSpecial, tempEnv], rfl, rfl, rfl, fun h => ?_⟩
  have hsent : (Except.ok [1] : Except RouteError NodeMap) = .ok [0] := h
  cases hsent

end PgBalancer.Routing
