import PgBalancer.Lib.TreeWalk
import PgBalancer.Config.PatternLists

/-!
# Raw parse trees and their walkers

A query is routed by looking at its raw parse tree.  The tree has a node type for every
construct of the grammar; `raw_expression_tree_walker` knows the fields of those that
occurred below a `SELECT` when it was written and treats every other node as a leaf.

* `allNodes`, `walkedNodes` — the two ways down a tree:
  **the walkers see nothing that is not in the tree**.

Fields that hold no nodes are kept where a modelled function reads them.
-/

namespace PgBalancer.Routing

open List

open PatternLists (Text)
open TreeWalk (Branching)

/-! ## Trees -/

/-- A constant: the `val` of `A_Const`, and the value nodes. -/
inductive Value where
  | integer (ival : ℤ)
  | float (fval : Text)
  | boolean (boolval : Bool)
  | string (sval : Text)
  | bitString (bsval : Text)
  deriving DecidableEq

/-- `TransactionStmtKind` -/
inductive TransactionStmtKind where
  | begin
  | start
  | commit
  | rollback
  | savepoint
  | release
  | rollbackTo
  | prepare
  | commitPrepared
  | rollbackPrepared
  deriving DecidableEq

/-- `VariableSetKind` -/
inductive VariableSetKind where
  | setValue
  | setDefault
  | setCurrent
  | setMulti
  | reset
  | resetAll
  deriving DecidableEq

/-- A `DefElem` whose argument is a constant. -/
structure DefElem where
  defname : Text
  arg : Value
  deriving DecidableEq

/-- An argument of `SET`: a constant, an option of `SET TRANSACTION`, or the interval
of `SET TIME ZONE`. -/
inductive SetArg where
  | const (val : Value)
  | option (opt : DefElem)
  | interval
  deriving DecidableEq

/-- The node types without subnodes: a reference, a star, a parameter and the like. -/
inductive LeafTag where
  | setToDefault
  | currentOfExpr
  | paramRef
  | aStar
  | aliasNames
  | columnRef
  deriving DecidableEq

/-- The node types `raw_expression_tree_walker` has no case for: what the grammar has
gained since, the parts of statements other than `SELECT`, and those statements. -/
inductive OtherTag where
  | rangeTableFunc
  | rangeTableFuncCol
  | jsonTable
  | jsonTableColumn
  | jsonFuncExpr
  | jsonObjectConstructor
  | jsonArrayConstructor
  | jsonArrayQueryConstructor
  | jsonAggregate
  | jsonExpr
  | sqlValueFunction
  | returningClause
  | indexElem
  | cteSearchClause
  | cteCycleClause
  | constraint
  | defElem
  /-- every statement that has no constructor of its own -/
  | statement
  deriving DecidableEq

/-- A parse tree, with the fields that are walked or read. -/
inductive Node where
  /-- `NULL`, also the empty list `NIL` -/
  | null
  | list (elems : List Node)
  | value (val : Value)
  | aConst (val : Value)
  | leaf (tag : LeafTag)
  | rangeVar (schemaname : Option Text) (relname : Text) (tableAlias : Node)
  | groupingFunc (args : Node)
  | subLink (testexpr subselect : Node)
  | caseExpr (arg args defresult : Node)
  | caseWhen (expr result : Node)
  | rowExpr (args : Node)
  | coalesceExpr (args : Node)
  | minMaxExpr (args : Node)
  | xmlExpr (namedArgs args : Node)
  | nullTest (arg : Node)
  | booleanTest (arg : Node)
  | joinExpr (larg rarg quals tableAlias : Node)
  | intoClause (rel viewQuery : Node)
  | mergeWhenClause (condition targetList values : Node)
  | mergeAction (targetList qual : Node)
  | insertStmt (relation cols selectStmt onConflictClause returningClause withClause : Node)
  | deleteStmt (relation usingClause whereClause returningClause withClause : Node)
  | updateStmt (relation targetList whereClause fromClause returningClause withClause : Node)
  | mergeStmt (relation sourceRelation joinCondition mergeWhenClauses returningClause
      withClause : Node)
  | selectStmt (distinctClause intoClause targetList fromClause whereClause groupClause
      havingClause windowClause valuesLists sortClause limitOffset limitCount lockingClause
      withClause larg rarg : Node)
  | aExpr (lexpr rexpr : Node)
  | boolExpr (args : Node)
  | funcCall (funcname : List Text) (args aggOrder aggFilter window : Node)
  | namedArgExpr (arg : Node)
  | aIndices (lidx uidx : Node)
  | aIndirection (arg indirection : Node)
  | aArrayExpr (elements : Node)
  | resTarget (indirection val : Node)
  | multiAssignRef (source : Node)
  | typeCast (arg typeName : Node)
  | collateClause (arg : Node)
  | sortBy (node : Node)
  | windowDef (partitionClause orderClause startOffset endOffset : Node)
  | rangeSubselect (subquery tableAlias : Node)
  | rangeFunction (functions tableAlias coldeflist : Node)
  | rangeTableSample (relation args repeatable : Node)
  | typeName (typmods arrayBounds : Node)
  | columnDef (typeName rawDefault collClause constraints : Node)
  | groupingSet (content : Node)
  | lockingClause (lockedRels : Node)
  | xmlSerialize (expr typeName : Node)
  | withClause (ctes : Node)
  | inferClause (indexElems whereClause : Node)
  | onConflictClause (infer targetList whereClause : Node)
  | commonTableExpr (ctequery searchClause cycleClause : Node)
  | copyStmt (query : Node) (isFrom : Bool) (filename : Option Text)
  | lockStmt (mode : ℕ)
  | transactionStmt (kind : TransactionStmtKind) (options : List DefElem) (chain : Bool)
  | variableSetStmt (kind : VariableSetKind) (name : Text) (args : List SetArg)
  | discardStmt
  | prepareStmt (name : Text) (query : Node)
  | executeStmt (name : Text) (params : Node)
  | deallocateStmt (name : Option Text)
  | variableShowStmt (name : Text)
  | explainStmt (query : Node) (options : List Text)
  /-- a statement whose first field is an `ObjectType`: `DefineStmt`, `RenameStmt`,
  `CommentStmt` and the like -/
  | objectStmt (objtype : ℕ) (fields : List Node)
  | other (tag : OtherTag) (fields : List Node)

/-- The elements a `foreach` goes through. -/
def elems : Node → List Node
  | .list l => l
  | _ => []

/-- The two fields of a `CaseWhen` that `raw_expression_tree_walker` reaches through the
`CaseExpr`. -/
def whenFields : Node → List Node
  | .caseWhen expr result => [expr, result]
  | _ => []

/-- What `raw_expression_tree_walker` calls the walker on, in its order. -/
def walked : Node → List Node
  | .null | .value _ | .aConst _ | .leaf _ => []
  | .rangeVar _ _ tableAlias => [tableAlias]
  | .groupingFunc args => [args]
  | .subLink testexpr subselect => [testexpr, subselect]
  | .caseExpr arg args defresult => arg :: (elems args).flatMap whenFields ++ [defresult]
  | .rowExpr args => [args]
  | .coalesceExpr args => [args]
  | .minMaxExpr args => [args]
  | .xmlExpr namedArgs args => [namedArgs, args]
  | .nullTest arg => [arg]
  | .booleanTest arg => [arg]
  | .joinExpr larg rarg quals tableAlias => [larg, rarg, quals, tableAlias]
  | .intoClause rel viewQuery => [rel, viewQuery]
  | .list elems => elems
  | .mergeWhenClause condition targetList values => [condition, targetList, values]
  | .mergeAction targetList qual => [targetList, qual]
  | .insertStmt relation cols selectStmt onConflictClause returningClause withClause =>
    [relation, cols, selectStmt, onConflictClause, returningClause, withClause]
  | .deleteStmt relation usingClause whereClause returningClause withClause =>
    [relation, usingClause, whereClause, returningClause, withClause]
  | .updateStmt relation targetList whereClause fromClause returningClause withClause =>
    [relation, targetList, whereClause, fromClause, returningClause, withClause]
  | .selectStmt distinctClause intoClause targetList fromClause whereClause groupClause
      havingClause windowClause valuesLists sortClause limitOffset limitCount lockingClause
      withClause larg rarg =>
    [distinctClause, intoClause, targetList, fromClause, whereClause, groupClause,
      havingClause, windowClause, valuesLists, sortClause, limitOffset, limitCount,
      lockingClause, withClause, larg, rarg]
  | .aExpr lexpr rexpr => [lexpr, rexpr]
  | .boolExpr args => [args]
  | .funcCall _ args aggOrder aggFilter window => [args, aggOrder, aggFilter, window]
  | .namedArgExpr arg => [arg]
  | .aIndices lidx uidx => [lidx, uidx]
  | .aIndirection arg indirection => [arg, indirection]
  | .aArrayExpr elements => [elements]
  | .resTarget indirection val => [indirection, val]
  | .multiAssignRef source => [source]
  | .typeCast arg typeName => [arg, typeName]
  | .collateClause arg => [arg]
  | .sortBy node => [node]
  | .windowDef partitionClause orderClause startOffset endOffset =>
    [partitionClause, orderClause, startOffset, endOffset]
  | .rangeSubselect subquery tableAlias => [subquery, tableAlias]
  | .rangeFunction functions tableAlias coldeflist => [functions, tableAlias, coldeflist]
  | .rangeTableSample relation args repeatable => [relation, args, repeatable]
  | .typeName typmods arrayBounds => [typmods, arrayBounds]
  | .columnDef typeName rawDefault collClause _ => [typeName, rawDefault, collClause]
  | .groupingSet content => [content]
  | .lockingClause lockedRels => [lockedRels]
  | .xmlSerialize expr typeName => [expr, typeName]
  | .withClause ctes => [ctes]
  | .inferClause indexElems whereClause => [indexElems, whereClause]
  | .onConflictClause infer targetList whereClause => [infer, targetList, whereClause]
  | .commonTableExpr ctequery _ _ => [ctequery]
  -- the `default:` of the switch
  | .caseWhen _ _ | .mergeStmt _ _ _ _ _ _ | .copyStmt _ _ _ | .lockStmt _
  | .transactionStmt _ _ _ | .variableSetStmt _ _ _ | .discardStmt | .prepareStmt _ _
  | .executeStmt _ _ | .deallocateStmt _ | .variableShowStmt _ | .explainStmt _ _
  | .objectStmt _ _ | .other _ _ => []

/-- The fields that `raw_expression_tree_walker` leaves out. -/
def skipped : Node → List Node
  | .caseExpr _ args _ => [args]
  | .caseWhen expr result => [expr, result]
  | .mergeStmt relation sourceRelation joinCondition mergeWhenClauses returningClause
      withClause =>
    [relation, sourceRelation, joinCondition, mergeWhenClauses, returningClause, withClause]
  | .columnDef _ _ _ constraints => [constraints]
  | .commonTableExpr _ searchClause cycleClause => [searchClause, cycleClause]
  | .copyStmt query _ _ => [query]
  | .prepareStmt _ query => [query]
  | .executeStmt _ params => [params]
  | .explainStmt query _ => [query]
  | .objectStmt _ fields => fields
  | .other _ fields => fields
  | _ => []

/-- Every subnode. -/
def fields (n : Node) : List Node := walked n ++ skipped n

/-! ## The two ways down a tree -/

variable {m n : Node}

theorem sizeOf_lt_of_mem_elems (h : m ∈ elems n) : sizeOf m < sizeOf n := by
  cases n <;> simp only [elems, not_mem_nil] at h
  have := sizeOf_lt_of_mem h
  simp only [Node.list.sizeOf_spec]
  omega

theorem sizeOf_lt_of_mem_whenFields (h : m ∈ whenFields n) : sizeOf m < sizeOf n := by
  cases n <;> simp only [whenFields, not_mem_nil, mem_cons, or_false] at h
  simp only [Node.caseWhen.sizeOf_spec]
  rcases h with rfl | rfl <;> omega

theorem sizeOf_lt_of_mem_walked : ∀ m ∈ walked n, sizeOf m < sizeOf n := by
  cases n with
  | list l => exact fun m hm => sizeOf_lt_of_mem_elems (n := .list l) hm
  | caseExpr arg args defresult =>
    intro m hm
    simp only [walked, cons_append, mem_cons, mem_append, mem_flatMap,
      not_mem_nil, or_false] at hm
    simp only [Node.caseExpr.sizeOf_spec]
    rcases hm with rfl | ⟨w, hw, hm⟩ | rfl
    · omega
    · have := sizeOf_lt_of_mem_elems hw
      have := sizeOf_lt_of_mem_whenFields hm
      omega
    · omega
  | _ =>
    simp [walked]
    try omega

theorem sizeOf_lt_of_mem_skipped : ∀ m ∈ skipped n, sizeOf m < sizeOf n := by
  cases n with
  | objectStmt _ l | other _ l =>
    intro m hm
    have hm : m ∈ l := hm
    have := sizeOf_lt_of_mem hm
    simp only [Node.objectStmt.sizeOf_spec, Node.other.sizeOf_spec]
    omega
  | _ =>
    simp [skipped]
    try omega

theorem sizeOf_lt_of_mem_fields (n : Node) : ∀ m ∈ fields n, sizeOf m < sizeOf n := by
  intro m hm
  rcases mem_append.1 hm with hm | hm
  · exact sizeOf_lt_of_mem_walked m hm
  · exact sizeOf_lt_of_mem_skipped m hm

/-- The walk that sees the whole tree. -/
def allNodes : Branching Node where
  kids := fields
  wf := TreeWalk.wf_of_size sizeOf sizeOf_lt_of_mem_fields

/-- The walk of `raw_expression_tree_walker`. -/
def walkedNodes : Branching Node where
  kids := walked
  wf := TreeWalk.wf_of_size sizeOf fun _ => sizeOf_lt_of_mem_walked

/-! ## Walkers -/

/-- A walker of the source, started by `raw_expression_tree_walker` on the fields of a
node.  Each of them sets a flag at a node it looks for and does not go below it; none
returns `true`, so no walk is cut short. -/
def rawExpressionTreeWalker (found : Node → Bool) (n : Node) : Bool :=
  (walked n).any (walkedNodes.walk found)

theorem rawExpressionTreeWalker_iff {found : Node → Bool} (hn : found n = false) :
    rawExpressionTreeWalker found n = true ↔ ∃ m, walkedNodes.Reaches n m ∧ found m = true := by
  rw [← Branching.walk_iff, Branching.walk_eq, hn, Bool.false_or]
  rfl

end PgBalancer.Routing
