import PgBalancer.Routing.PrimaryRelations
import PgBalancer.Routing.TransactionMemory

/-!
# Reads after writes under `dml_adaptive`

With `disable_load_balance_on_write = dml_adaptive` a transaction keeps a list of the names it
has written.  A statement other than a `SELECT` adds the relations that the walker meets in its
tree, and with each of them the object that `dml_adaptive_object_relationship_list` associates
with it; a function that is called in a `SELECT` adds its associated object too. A later
`SELECT` that mentions a name of the list stays on the primary. The model follows the `Query`
messages of a transaction, from the list that its `BEGIN` finds on. Above it stands the set of
the names that are protected (`protectedNames`), with no list and no search.

* `matches_transaction` — **the list refines the set of the protected names**.
* `adaptive_reads_iff` — **reads stay with the writes if and only if every `SELECT` that depends
  on an earlier statement, and would go elsewhere with an empty list, is not sent to a connection
  that it terminates and mentions, at a place that the walker gets to, a protected name**.
-/

namespace PgBalancer.Routing

open List

open PatternLists (Text)
open TreeWalk (Branching)

/-! ## The write list -/

/-- `DBObjectTypes` -/
inductive DBObjectType where
  | function
  | relation
  | unknown
  deriving DecidableEq

/-- `DBObjectRelation`; the type of the right token is not looked at. -/
structure DBObjectRelation where
  leftName : Text
  leftType : DBObjectType
  rightName : Text
  deriving DecidableEq

/-- The two fields of the session. -/
structure WriteList where
  isInTransaction : Bool
  transactionTempWriteList : List Text
  deriving DecidableEq

/-- `is_in_list` -/
def isInList (name : Text) (list : List Text) : Bool := list.any (sameIgnoringCase name)

section Source

variable {ρ : Type} (relationships : List DBObjectRelation) (e : Env ρ)

/-- `get_associated_object_from_dml_adaptive_relations`: the first entry decides. -/
def getAssociatedObject (leftToken : Text) (objectType : DBObjectType) : Option Text :=
  (relationships.find? fun r =>
    r.leftType = objectType && sameIgnoringCase r.leftName leftToken).map
      DBObjectRelation.rightName

/-- `check_object_relationship_list` -/
def checkObjectRelationshipList (name : Text) (isFuncName : Bool) (w : WriteList) : WriteList :=
  if e.config.disableLoadBalanceOnWrite = .dmlAdaptive ∧ w.isInTransaction then
    match getAssociatedObject relationships name (if isFuncName then .function else .relation) with
    | some rightToken =>
      { w with transactionTempWriteList := w.transactionTempWriteList ++ [rightToken] }
    | none => w
  else w

/-- What `add_object_into_temp_write_list` does at a `RangeVar`. -/
def addObject (w : WriteList) (relname : Text) : WriteList :=
  checkObjectRelationshipList relationships e relname false
    { w with
      transactionTempWriteList :=
        if isInList relname w.transactionTempWriteList then w.transactionTempWriteList
        else w.transactionTempWriteList ++ [relname] }

/-- The name of a relation. -/
def relationName : Node → Option Text
  | .rangeVar _ relname _ => some relname
  | _ => none

/-- The relations that a walker meets, in order. -/
def relationNames (n : Node) : List Text := (walkedNodes.nodes n).filterMap relationName

/-- `add_object_into_temp_write_list`: it starts at the root. -/
def addObjectIntoTempWriteList (n : Node) (w : WriteList) : WriteList :=
  (relationNames n).foldl (addObject relationships e) w

/-- The nodes that `function_call_walker` visits: it does not go below a writing function. -/
def functionNodes : Branching Node where
  kids n := if isWritingFunction e n then [] else walked n
  wf := TreeWalk.wf_of_size sizeOf fun n m hm => by
    split at hm
    · cases hm
    · exact sizeOf_lt_of_mem_walked m hm

/-- `strVal(llast(fcall->funcname))` -/
def calledName : Node → Option Text
  | .funcCall funcname _ _ _ _ => funcname.getLast?
  | _ => none

/-- The functions that `function_call_walker` meets in a `SELECT`. -/
def functionNames (n : Node) : List Text :=
  if isSelect n then ((walked n).flatMap (functionNodes e).nodes).filterMap calledName else []

/-- What a run of `function_call_walker` does to the list. -/
def recordFunctions (names : List Text) (w : WriteList) : WriteList :=
  names.foldl (fun w f => checkObjectRelationshipList relationships e f true w) w

/-- The functions that `is_select_query` looks at: those of an `EXPLAIN ANALYZE`. -/
def explainedNames (n : Node) : List Text :=
  match preparedQuery n with
  | .explainStmt query options =>
    if options.contains "analyze".toList then functionNames e query else []
  | _ => []

/-- `dml_adaptive` -/
def dmlAdaptive (n : Node) (w : WriteList) : WriteList :=
  if e.config.disableLoadBalanceOnWrite = .dmlAdaptive then
    if isTransaction n then
      if isStartTransactionQuery n then ⟨true, []⟩
      else if isCommitOrRollbackQuery n then ⟨false, []⟩
      else w
    else
      let w := recordFunctions relationships e (explainedNames e n) w
      if isSelectQuery e n then w else addObjectIntoTempWriteList relationships e n w
  else w

/-- The list when a query is routed. `process_pg_terminate_backend_func` has walked over the
functions of a `SELECT` before, and may have decided where it is sent. -/
def atRouting (redirected : Bool) (n : Node) (w : WriteList) : WriteList :=
  let w := recordFunctions relationships e (functionNames e n) w
  if redirected || e.isMultiStatement then w else dmlAdaptive relationships e n w

/-- The part of `pool_at_command_success` that walks over functions: `pool_has_function_call` is
called if `is_select_query` is true. -/
def atCommandSuccess (n : Node) (w : WriteList) : WriteList :=
  let w := recordFunctions relationships e (explainedNames e n) w
  if isSelectQuery e n then recordFunctions relationships e (functionNames e (preparedQuery n)) w
  else w

end Source

/-! ## Statements of a transaction -/

/-- The statements that name relations which their tree does not hold. -/
def namesBesides : Node → Bool
  | .copyStmt .. | .lockStmt .. => true
  | _ => false

/-- A `Query` message of an explicit transaction, and what it is executed with. The source looks at
the first statement only. -/
structure Request (ρ : Type) where
  env : Env ρ
  tree : Node
  /-- the further statements of the message -/
  rest : List Node
  /-- the table of a `COPY`, the tables of a `LOCK` -/
  besides : List Text
  /-- the node of the pooled connection that a `SELECT` terminates -/
  terminates : Option ℤ
  adaptive : env.config.disableLoadBalanceOnWrite = .dmlAdaptive
  stays : ∀ n ∈ tree :: rest, endsTransaction n = false
  rest_nil : env.isMultiStatement = false → rest = []
  besides_nil : (tree :: rest).any namesBesides = false → besides = []
  terminates_eq_none : isSelect tree = false → terminates = none

namespace Env

variable {ρ : Type}

/-- The session has this list. -/
def withWrites (e : Env ρ) (w : WriteList) : Env ρ :=
  { e with
    session :=
      { e.session with
        isInTransaction := w.isInTransaction
        transactionTempWriteList := w.transactionTempWriteList } }

/-- The session without a list. -/
def unaware (e : Env ρ) : Env ρ := e.withWrites ⟨false, []⟩

end Env

section Run

variable {ρ : Type} (relationships : List DBObjectRelation)

/-- The list after a statement that succeeds. -/
def afterStatement (w : WriteList) (r : Request ρ) : WriteList :=
  atCommandSuccess relationships r.env r.tree
    (atRouting relationships r.env r.terminates.isSome r.tree w)

/-- The list after some statements of a transaction, from the one that its `BEGIN` finds on. -/
def transaction (w : WriteList) (rs : List (Request ρ)) : WriteList :=
  rs.foldl (afterStatement relationships) w

/-- What a statement is routed with after the others. `pool_has_function_call` comes before the
list is looked at. -/
def decisionEnv (w : WriteList) (rs : List (Request ρ)) (r : Request ρ) : Env ρ :=
  r.env.withWrites
    (recordFunctions relationships r.env (functionNames r.env (preparedQuery r.tree))
      (atRouting relationships r.env r.terminates.isSome r.tree (transaction relationships w rs)))

/-! ## The property -/

/-- A `PREPARE` executes nothing, and an `EXPLAIN` only with `ANALYZE`. -/
def executes : Node → Bool
  | .prepareStmt .. => false
  | .explainStmt _ options => options.contains "analyze".toList
  | _ => true

namespace Request

variable (r : Request ρ)

/-- A relation that a statement with a certain property names, at any depth. -/
def NamesIn (p : Node → Bool) (x : Text) : Prop :=
  x ∈ r.besides ∨
    ∃ n ∈ r.tree :: r.rest, p n = true ∧ ∃ m, allNodes.Reaches n m ∧ relationName m = some x

/-- A relation of the message. -/
def Names : Text → Prop := r.NamesIn fun _ => true

/-- A relation of a statement that is not a `SELECT`, or one with `INTO`, a locking clause or a
`WITH` clause that writes. -/
def Writes : Text → Prop :=
  r.NamesIn fun n => !isSelect n || hasTopIntoOrLocking n || hasNonSelectCte n

/-- A function that the message calls, at any depth. -/
def Calls (f : Text) : Prop :=
  ∃ n ∈ r.tree :: r.rest, executes n = true ∧
    ∃ m, allNodes.Reaches n m ∧ calledName m = some f

/-- The relationship list associates an object with what the message writes or calls. -/
def Implies (a : DBObjectRelation) : Prop :=
  (a.leftType = .relation ∧ ∃ x, r.Writes x ∧ sameIgnoringCase a.leftName x = true) ∨
    (a.leftType = .function ∧ ∃ f, r.Calls f ∧ sameIgnoringCase a.leftName f = true)

/-- Some node other than the primary gets the message. -/
def SentElsewhere (e : Env ρ) : Prop :=
  ∃ map, queryDestination e r.terminates r.tree = .ok map ∧ ∃ i ∈ map, i ≠ e.primary

end Request

/-- A statement mentions a relation that an earlier one writes, or an associated object. -/
def Depends (rs : List (Request ρ)) (r : Request ρ) : Prop :=
  ∃ r' ∈ rs, (∃ x, r'.Writes x ∧ r.Names x) ∨
      ∃ a ∈ relationships, r'.Implies a ∧
        ∃ x, r.Names x ∧ sameIgnoringCase x a.rightName = true

/-- **The property.** -/
def KeepsReads (w : WriteList) (rs : List (Request ρ)) : Prop :=
  ∀ before r, before ++ [r] <+: rs → isSelect r.tree = true → Depends relationships before r →
    ¬ r.SentElsewhere (decisionEnv relationships w before r)

/-! ## The abstract model -/

/-- The objects associated with some functions. -/
def functionTargets (fs : List Text) : Set Text :=
  {z | ∃ f ∈ fs, getAssociatedObject relationships f .function = some z}

/-- The relations of a statement, and the objects associated with them. -/
def relationTargets (n : Node) : Set Text :=
  {z | ∃ y ∈ relationNames n, z = y ∨ getAssociatedObject relationships y .relation = some z}

namespace Request

variable (r : Request ρ)

/-- The relations of the statement go into the list. -/
def records : Bool :=
  !(r.terminates.isSome || r.env.isMultiStatement) && !isSelectQuery r.env r.tree

/-- The functions that the walker meets when the statement is executed. -/
def seenFunctions : List Text :=
  functionNames r.env r.tree ++ explainedNames r.env r.tree ++
    if isSelectQuery r.env r.tree then functionNames r.env (preparedQuery r.tree) else []

/-- The names a statement adds. -/
def contribution : Set Text :=
  {z | r.records = true ∧ z ∈ relationTargets relationships r.tree} ∪
    functionTargets relationships r.seenFunctions

/-- The names that the functions of a `SELECT` add before it is routed. -/
def ownContribution : Set Text := functionTargets relationships (functionNames r.env r.tree)

end Request

/-- The names that are protected: `none` where the source does not think to be in a transaction. -/
noncomputable def protectStep (names : Option (Set Text)) (r : Request ρ) : Option (Set Text) :=
  if r.env.isMultiStatement = false ∧ isStartTransactionQuery r.tree = true then some ∅
  else if r.env.isMultiStatement = false ∧ isCommitOrRollbackQuery r.tree = true then none
  else names.map (· ∪ r.contribution relationships)

/-- The names that a list protects. -/
def heldNames (w : WriteList) : Option (Set Text) :=
  if w.isInTransaction then some {z | z ∈ w.transactionTempWriteList} else none

/-- The protected names after some messages, while the list is in use. -/
noncomputable def protectedNames (w : WriteList) (rs : List (Request ρ)) : Option (Set Text) :=
  rs.foldl (protectStep relationships) (heldNames w)

/-- The walker gets to a relation whose name is protected. -/
def Protected (w : WriteList) (rs : List (Request ρ)) (r : Request ρ) : Prop :=
  ∃ names, protectedNames relationships w rs = some names ∧
    ∃ m x, walkedNodes.Reaches r.tree m ∧ relationName m = some x ∧
      ∃ z ∈ names ∪ r.ownContribution relationships, sameIgnoringCase x z = true

end Run

/-! ## The list refines the set -/

variable {x y : Text}

theorem sameIgnoringCase_iff :
    sameIgnoringCase x y = true ↔ x.map Char.toLower = y.map Char.toLower :=
  decide_eq_true_iff

/-- The list holds the names of a set, up to case. -/
def Matches (w : WriteList) : Option (Set Text) → Prop
  | none => w.isInTransaction = false
  | some names => w.isInTransaction = true ∧
    ∀ x, isInList x w.transactionTempWriteList = true ↔ ∃ z ∈ names, sameIgnoringCase x z = true

section Refinement

variable {ρ : Type} {relationships : List DBObjectRelation} {e : Env ρ} {x y : Text}
  {l l' : List Text}

theorem isInList_append :
    isInList x (l ++ l') = true ↔ isInList x l = true ∨ isInList x l' = true := by
  simp [isInList]

theorem isInList_singleton : isInList x [y] = true ↔ sameIgnoringCase x y = true := by
  simp [isInList]

theorem map_union_union (names : Option (Set Text)) (s t : Set Text) :
    (names.map (· ∪ s)).map (· ∪ t) = names.map (· ∪ (s ∪ t)) := by
  cases names with
  | none => rfl
  | some names => exact congrArg some (Set.union_assoc names s t)

variable {names : Option (Set Text)} {w : WriteList} {s t : Set Text}
  {add : WriteList → Text → WriteList} {adds : Text → Set Text}

theorem Matches.congr (h : Matches w (names.map (· ∪ s))) (hst : s = t) :
    Matches w (names.map (· ∪ t)) :=
  hst ▸ h

theorem Matches.append (h : Matches w names) (y : Text) :
    Matches { w with transactionTempWriteList := w.transactionTempWriteList ++ [y] }
      (names.map (· ∪ {y})) := by
  cases names with
  | none => exact h
  | some names =>
    obtain ⟨hin, hlist⟩ := h
    refine ⟨hin, fun x => ?_⟩
    rw [isInList_append, hlist x, isInList_singleton]
    constructor
    · rintro (⟨z, hz, hxz⟩ | hxy)
      · exact ⟨z, .inl hz, hxz⟩
      · exact ⟨y, .inr rfl, hxy⟩
    · rintro ⟨z, hz | rfl, hxz⟩
      · exact .inl ⟨z, hz, hxz⟩
      · exact .inr hxz

theorem Matches.there (h : Matches w names) (hy : isInList y w.transactionTempWriteList = true) :
    Matches w (names.map (· ∪ {y})) := by
  cases names with
  | none => exact h
  | some names =>
    obtain ⟨hin, hlist⟩ := h
    obtain ⟨z, hz, hyz⟩ := (hlist y).1 hy
    refine ⟨hin, fun x => ?_⟩
    rw [hlist x]
    constructor
    · rintro ⟨z', hz', hxz⟩
      exact ⟨z', .inl hz', hxz⟩
    · rintro ⟨z', hz' | rfl, hxz⟩
      · exact ⟨z', hz', hxz⟩
      · exact ⟨z, hz, sameIgnoringCase_iff.2
          ((sameIgnoringCase_iff.1 hxz).trans (sameIgnoringCase_iff.1 hyz))⟩

section

variable (he : e.config.disableLoadBalanceOnWrite = .dmlAdaptive)
include he

/-- A relationship adds the objects that depend on the name. -/
theorem Matches.check (h : Matches w names) (name : Text) (isFuncName : Bool) :
    Matches (checkObjectRelationshipList relationships e name isFuncName w)
      (names.map (· ∪ {z | getAssociatedObject relationships name
        (if isFuncName then .function else .relation) = some z})) := by
  unfold checkObjectRelationshipList
  generalize getAssociatedObject relationships name _ = associated
  cases names with
  | none =>
    have hout : w.isInTransaction = false := h
    rw [if_neg (by simp [hout])]
    exact h
  | some names =>
    rw [if_pos ⟨he, h.1⟩]
    cases associated with
    | none => simpa using h
    | some z =>
      have hset : {z' | some z = some z'} = ({z} : Set Text) := by
        ext z'
        simp [eq_comm]
      rw [hset]
      exact h.append z

theorem Matches.addObject (h : Matches w names) (y : Text) : Matches (addObject relationships e w y)
      (names.map (· ∪ ({y} ∪ {z | getAssociatedObject relationships y .relation = some z}))) := by
  rw [← map_union_union]
  refine Matches.check he ?_ y false
  split
  · rename_i hthere
    exact h.there hthere
  · exact h.append y

end

theorem Matches.foldl
    (hadd : ∀ w names y, Matches w names → Matches (add w y) (names.map (· ∪ adds y)))
    (ys : List Text) : ∀ {w : WriteList} {names : Option (Set Text)}, Matches w names →
      Matches (ys.foldl add w) (names.map (· ∪ {z | ∃ y ∈ ys, z ∈ adds y})) := by
  induction ys with
  | nil =>
    intro w names h
    cases names <;> simpa using h
  | cons y ys ih =>
    intro w names h
    have hset : {z | ∃ y' ∈ y :: ys, z ∈ adds y'} = adds y ∪ {z | ∃ y' ∈ ys, z ∈ adds y'} := by
      ext z
      simp
    rw [hset, ← map_union_union]
    exact ih (hadd w names y h)

section

variable (he : e.config.disableLoadBalanceOnWrite = .dmlAdaptive)
include he

variable (relationships) in
theorem Matches.addObjects (h : Matches w names) (n : Node) :
    Matches (addObjectIntoTempWriteList relationships e n w)
      (names.map (· ∪ relationTargets relationships n)) :=
  Matches.foldl (fun _ _ y h => h.addObject he y) _ h

variable (relationships) in
theorem Matches.recordFunctions (h : Matches w names) (fs : List Text) :
    Matches (recordFunctions relationships e fs w)
      (names.map (· ∪ functionTargets relationships fs)) :=
  Matches.foldl (fun _ _ f h => h.check he f true) _ h

end

/-! ### A statement -/

theorem functionTargets_append (fs fs' : List Text) : functionTargets relationships (fs ++ fs') =
      functionTargets relationships fs ∪ functionTargets relationships fs' := by
  ext z
  simp [functionTargets, or_and_right, exists_or]

variable {n : Node}

theorem dmlAdaptive_of_transaction (he : e.config.disableLoadBalanceOnWrite = .dmlAdaptive)
    (hn : isTransaction n = true) :
    dmlAdaptive relationships e n w = if isStartTransactionQuery n then ⟨true, []⟩
      else if isCommitOrRollbackQuery n then ⟨false, []⟩ else w := by
  rw [dmlAdaptive, if_pos he, if_pos hn]

theorem leaf_of_transaction (hn : isTransaction n = true) :
    relationNames n = [] ∧ functionNames e n = [] ∧ explainedNames e n = [] ∧
      isSelectQuery e n = false := by
  cases n with
  | transactionStmt kind options chain =>
    refine ⟨?_, rfl, rfl, rfl⟩
    rw [relationNames, Branching.nodes_eq]
    rfl
  | _ => cases hn

theorem isSelect_of_transaction (hn : isTransaction n = true) : isSelect n = false := by
  cases n with
  | transactionStmt => rfl
  | _ => cases hn

theorem isCommitOrRollbackQuery_of_not_transaction (hn : isTransaction n = false) :
    isCommitOrRollbackQuery n = false := by
  cases n with
  | transactionStmt => cases hn
  | _ => rfl

variable {r : Request ρ}

theorem Request.contribution_of_transaction (hn : isTransaction r.tree = true) :
    r.contribution relationships = ∅ := by
  obtain ⟨hrel, hfn, hex, hsel⟩ := leaf_of_transaction (e := r.env) hn
  simp [contribution, seenFunctions, relationTargets, functionTargets, hrel, hfn, hex, hsel]

theorem Matches.of_transaction (h : Matches w names) (hn : isTransaction r.tree = true) :
    Matches (afterStatement relationships w r) (protectStep relationships names r) := by
  obtain ⟨-, hfn, hex, hsel⟩ := leaf_of_transaction (e := r.env) hn
  have hnone : r.terminates = none := r.terminates_eq_none (isSelect_of_transaction hn)
  have hafter : afterStatement relationships w r =
      if r.env.isMultiStatement then w else dmlAdaptive relationships r.env r.tree w := by
    simp [afterStatement, atCommandSuccess, atRouting, hfn, hex, hsel, hnone,
      Routing.recordFunctions]
  rw [hafter, dmlAdaptive_of_transaction r.adaptive hn, protectStep,
    Request.contribution_of_transaction hn]
  have hnames : names.map (· ∪ ∅) = names := by simp
  rw [hnames]
  cases r.env.isMultiStatement with
  | true => simpa using h
  | false =>
    simp only [Bool.false_eq_true, if_false, true_and]
    split_ifs
    · exact ⟨rfl, by simp [isInList]⟩
    · rfl
    · exact h

theorem dmlAdaptive_of_plain (he : e.config.disableLoadBalanceOnWrite = .dmlAdaptive)
    (hn : isTransaction n = false) : dmlAdaptive relationships e n w =
      if isSelectQuery e n then Routing.recordFunctions relationships e (explainedNames e n) w
      else addObjectIntoTempWriteList relationships e n
        (Routing.recordFunctions relationships e (explainedNames e n) w) := by
  rw [dmlAdaptive, if_pos he, if_neg (by simp [hn])]

/-- The list when a statement has been executed; `s` is what has been added when it was routed. -/
theorem Matches.atRouting (h : Matches w names) (hn : isTransaction r.tree = false) :
    ∃ s, Matches (atRouting relationships r.env r.terminates.isSome r.tree w)
        (names.map (· ∪ s)) ∧
      s ∪ functionTargets relationships (explainedNames r.env r.tree) =
        {z | r.records = true ∧ z ∈ relationTargets relationships r.tree} ∪
          functionTargets relationships
            (functionNames r.env r.tree ++ explainedNames r.env r.tree) := by
  have he := r.adaptive
  have hseen := h.recordFunctions relationships he (functionNames r.env r.tree)
  have hexplained := hseen.recordFunctions relationships he (explainedNames r.env r.tree)
  simp only [Routing.atRouting, dmlAdaptive_of_plain he hn, Request.records]
  cases r.terminates.isSome || r.env.isMultiStatement with
  | true =>
    refine ⟨_, hseen, ?_⟩
    simp [functionTargets_append]
  | false =>
    cases isSelectQuery r.env r.tree with
    | true =>
      rw [map_union_union] at hexplained
      refine ⟨_, hexplained, ?_⟩
      simp [functionTargets_append, Set.union_assoc]
    | false =>
      have hadded := hexplained.addObjects relationships he r.tree
      rw [map_union_union, map_union_union] at hadded
      refine ⟨_, hadded, ?_⟩
      rw [functionTargets_append]
      ext z
      simp only [Set.mem_union, Set.mem_ofPred_eq, Bool.not_false, Bool.and_self, true_and]
      tauto

theorem Matches.of_plain (h : Matches w names) (hn : isTransaction r.tree = false) :
    Matches (afterStatement relationships w r) (names.map (· ∪ r.contribution relationships)) := by
  have he := r.adaptive
  obtain ⟨s, hs, hset⟩ := h.atRouting hn
  have hagain := hs.recordFunctions relationships he (explainedNames r.env r.tree)
  rw [map_union_union, hset] at hagain
  simp only [Routing.afterStatement, atCommandSuccess, Request.contribution, Request.seenFunctions]
  cases isSelectQuery r.env r.tree with
  | true =>
    have hcalled := hagain.recordFunctions relationships he
      (functionNames r.env (preparedQuery r.tree))
    rw [map_union_union] at hcalled
    refine hcalled.congr ?_
    rw [if_pos rfl, functionTargets_append (_ ++ _), Set.union_assoc]
  | false => simpa using hagain

/-- **A statement changes the list as it changes the set.** -/
theorem Matches.afterStatement (h : Matches w names) (r : Request ρ) :
    Matches (afterStatement relationships w r) (protectStep relationships names r) := by
  cases hn : isTransaction r.tree with
  | true => exact h.of_transaction hn
  | false =>
    obtain ⟨hstart, -, -⟩ := plain_of_not_transaction hn
    rw [protectStep, hstart, isCommitOrRollbackQuery_of_not_transaction hn]
    simpa using h.of_plain hn

theorem Matches.heldNames (w : WriteList) : Matches w (heldNames w) := by
  unfold Routing.heldNames
  cases hin : w.isInTransaction with
  | false => exact hin
  | true => exact ⟨hin, fun x => by simp [isInList]⟩

variable (relationships) in
theorem matches_transaction (w : WriteList) (rs : List (Request ρ)) :
    Matches (transaction relationships w rs) (protectedNames relationships w rs) := by
  unfold transaction protectedNames
  have h := Matches.heldNames w
  generalize Routing.heldNames w = names at h ⊢
  induction rs generalizing w names with
  | nil => exact h
  | cons r rs ih => exact ih _ _ (h.afterStatement r)

end Refinement

/-! ## Routing with the list -/

section Decision

variable {ρ : Type} {relationships : List DBObjectRelation} {e : Env ρ} {n : Node} {w : WriteList}

theorem poolWhereToSend_select (hn : isSelect n = true) : poolWhereToSend e n = poolSetNodeToBeSent
      (if e.isMultiStatement || poolHasInsertintoOrLockingClause n || hasNonSelectCte n ||
          (e.session.writingTransaction && e.config.disableLoadBalanceOnWrite = .always)
        then e.primary else balance e n) := by
  have hread : poolWhereToSend e n = destination e n := poolWhereToSend_read (.select n hn)
  rw [hread, destination, whereToSendMainReplica, sendToWhere_of_select hn]
  cases e.isMultiStatement with
  | true => rfl
  | false =>
    rw [Bool.false_or]
    cases poolHasInsertintoOrLockingClause n || hasNonSelectCte n with
    | true => rfl
    | false =>
      rw [Bool.false_or, apply_ite poolSetNodeToBeSent]
      rfl

theorem not_sentElsewhere_of_balance (hn : isSelect n = true) (h : balance e n = e.primary) :
    ¬ SentElsewhere e n := by
  rintro ⟨map, hmap, i, hi, hne⟩
  rw [poolWhereToSend_select hn, h, ite_self] at hmap
  exact hne (mem_poolSetNodeToBeSent hmap hi)

theorem prefersPrimary_withWrites : prefersPrimary (e.withWrites w) n =
      (prefersPrimary e.unaware n || isSelectObjectInTempWriteList (e.withWrites w) n) := by
  have hnone : isSelectObjectInTempWriteList e.unaware n = false := by
    have hnot : walkedNodes.walk (isRelation fun _ relname =>
        false && [].any (sameIgnoringCase relname)) n = false := by
      rw [← Bool.not_eq_true, Branching.walk_iff]
      rintro ⟨m, -, hm⟩
      cases m <;> simp [isRelation] at hm
    simp only [isSelectObjectInTempWriteList, Env.unaware, Env.withWrites]
    rw [hnot, Bool.and_false]
  conv_rhs => rw [prefersPrimary, hnone, Bool.or_false]
  rfl

theorem poolWhereToSend_withWrites (hn : isSelect n = true)
    (h : isSelectObjectInTempWriteList (e.withWrites w) n = false) :
    poolWhereToSend (e.withWrites w) n = poolWhereToSend e.unaware n := by
  have hprefers : prefersPrimary (e.withWrites w) n = prefersPrimary e.unaware n := by
    rw [prefersPrimary_withWrites, h, Bool.or_false]
  have hbalance : balance (e.withWrites w) n = balance e.unaware n := by
    unfold balance
    rw [hprefers]
    rfl
  rw [poolWhereToSend_select hn, poolWhereToSend_select hn, hbalance]
  rfl

/-- **With a list, a `SELECT` is sent elsewhere if it is without, and mentions no name of the
list.** -/
theorem sentElsewhere_withWrites (hn : isSelect n = true) : SentElsewhere (e.withWrites w) n ↔
      SentElsewhere e.unaware n ∧ isSelectObjectInTempWriteList (e.withWrites w) n = false := by
  cases hlist : isSelectObjectInTempWriteList (e.withWrites w) n with
  | true =>
    have hprefers : prefersPrimary (e.withWrites w) n = true := by
      rw [prefersPrimary_withWrites, hlist, Bool.or_true]
    simp [not_sentElsewhere_of_balance hn (balance_of_prefers hprefers)]
  | false =>
    unfold SentElsewhere
    rw [poolWhereToSend_withWrites hn hlist]
    simp only [and_true]
    rfl

theorem isSelectObjectInTempWriteList_iff (he : e.config.disableLoadBalanceOnWrite = .dmlAdaptive) :
    isSelectObjectInTempWriteList (e.withWrites w) n = true ↔
      w.isInTransaction = true ∧ ∃ m x, walkedNodes.Reaches n m ∧ relationName m = some x ∧
        isInList x w.transactionTempWriteList = true := by
  have hrelation : ∀ m, isRelation (fun _ relname => w.isInTransaction &&
      w.transactionTempWriteList.any (sameIgnoringCase relname)) m = true ↔
        w.isInTransaction = true ∧ ∃ x, relationName m = some x ∧
          isInList x w.transactionTempWriteList = true := by
    intro m
    cases m <;> simp [isRelation, relationName, isInList]
  have hmode : (e.withWrites w).config.disableLoadBalanceOnWrite = .dmlAdaptive := he
  rw [isSelectObjectInTempWriteList, hmode]
  simp only [decide_true, Bool.true_and, Env.withWrites, Branching.walk_iff, hrelation]
  constructor
  · rintro ⟨m, hm, hin, x, hx, hlist⟩
    exact ⟨hin, m, x, hm, hx, hlist⟩
  · rintro ⟨hin, m, x, hm, hx, hlist⟩
    exact ⟨m, hm, hin, x, hx, hlist⟩

theorem plain_of_select (hn : isSelect n = true) :
    isTransaction n = false ∧ explainedNames e n = [] := by
  cases n with
  | selectStmt => exact ⟨rfl, rfl⟩
  | _ => cases hn

variable {r : Request ρ}

variable (relationships w) in
/-- The list that a `SELECT` is routed with: its own functions have been recorded. -/
theorem matches_decision (before : List (Request ρ)) (hn : isSelect r.tree = true)
    (hsel : isSelectQuery r.env r.tree = true) :
    Matches (recordFunctions relationships r.env (functionNames r.env (preparedQuery r.tree))
        (atRouting relationships r.env r.terminates.isSome r.tree
          (transaction relationships w before)))
      ((protectedNames relationships w before).map (· ∪ r.ownContribution relationships)) := by
  have hrouting : atRouting relationships r.env r.terminates.isSome r.tree
      (transaction relationships w before) =
        recordFunctions relationships r.env (functionNames r.env r.tree)
          (transaction relationships w before) := by
    obtain ⟨hplain, hexplained⟩ := plain_of_select (e := r.env) hn
    simp only [atRouting, dmlAdaptive_of_plain r.adaptive hplain, hsel, hexplained, if_true,
      recordFunctions, foldl_nil, ite_self]
  have honce := (matches_transaction relationships w before).recordFunctions relationships
    r.adaptive (functionNames r.env r.tree)
  have htwice := honce.recordFunctions relationships r.adaptive (functionNames r.env r.tree)
  rw [map_union_union] at htwice
  rw [hrouting, preparedQuery_of_select hn]
  exact htwice.congr (Set.union_self _)

theorem isSelectObjectInTempWriteList_decisionEnv (before : List (Request ρ))
    (hn : isSelect r.tree = true) (hsel : isSelectQuery r.env r.tree = true) :
    isSelectObjectInTempWriteList (decisionEnv relationships w before r) r.tree = true ↔
      Protected relationships w before r := by
  have hmatch := matches_decision relationships w before hn hsel
  rw [decisionEnv, isSelectObjectInTempWriteList_iff r.adaptive, Protected]
  generalize recordFunctions _ _ _ _ = w' at hmatch ⊢
  cases hnames : protectedNames relationships w before with
  | none =>
    rw [hnames] at hmatch
    have hout : w'.isInTransaction = false := hmatch
    simp [hout]
  | some names =>
    rw [hnames] at hmatch
    obtain ⟨hin, hlist⟩ := hmatch
    simp only [hin, true_and, hlist, Option.some.injEq, exists_eq_left']

theorem isSelectQuery_of_sentElsewhere (hn : isSelect n = true) (h : SentElsewhere e n) :
    isSelectQuery e n = true := by
  by_contra hsel
  exact not_sentElsewhere_of_balance hn (balance_of_not_select (by simpa using hsel)) h

/-- **A `SELECT` after other statements is sent elsewhere exactly if it would be without the list,
and terminates a connection or shows no protected name to the walker.** -/
theorem sentElsewhere_decisionEnv (before : List (Request ρ)) (hn : isSelect r.tree = true) :
    r.SentElsewhere (decisionEnv relationships w before r) ↔
      r.SentElsewhere r.env.unaware ∧
        ¬ (r.terminates = none ∧ Protected relationships w before r) := by
  unfold Request.SentElsewhere queryDestination
  cases r.terminates with
  | some i =>
    simp only [reduceCtorEq, false_and, not_false_eq_true, and_true]
    rfl
  | none =>
    simp only [true_and]
    refine (sentElsewhere_withWrites hn).trans (and_congr_right fun hsent => ?_)
    have hsel : isSelectQuery r.env.unaware r.tree = true :=
      isSelectQuery_of_sentElsewhere hn hsent
    rw [← isSelectObjectInTempWriteList_decisionEnv before hn hsel, Bool.not_eq_true]
    rfl

end Decision

/-! ## The main statement -/

/-- **Which transactions keep their reads with their writes**: those in which every `SELECT` that
depends on an earlier statement, and would be sent elsewhere by a session without a list,
terminates no connection and shows a protected name to the walker. -/
theorem adaptive_reads_iff {ρ : Type} (relationships : List DBObjectRelation) (w : WriteList)
    (rs : List (Request ρ)) : KeepsReads relationships w rs ↔
      ∀ before r, before ++ [r] <+: rs → isSelect r.tree = true →
        Depends relationships before r → r.SentElsewhere r.env.unaware →
          r.terminates = none ∧ Protected relationships w before r := by
  unfold KeepsReads
  constructor
  · intro h before r hprefix hn hdep hsent
    by_contra hnot
    exact h before r hprefix hn hdep
      ((sentElsewhere_decisionEnv before hn).2 ⟨hsent, hnot⟩)
  · intro h before r hprefix hn hdep hsent
    obtain ⟨hunaware, hnot⟩ := (sentElsewhere_decisionEnv before hn).1 hsent
    exact hnot (h before r hprefix hn hdep hunaware)

/-! ## A rollback to a savepoint -/

/-- A transaction under `dml_adaptive`, with node 1 for reads. -/
def adaptiveEnv (query : Text) : Env Unit :=
  { plainEnv with
    config := { plainEnv.config with disableLoadBalanceOnWrite := .dmlAdaptive }
    session := { idleSession with tstate := .transaction }
    query := query }

/-- The table `t`. -/
def tableT : Node := .rangeVar none ['t'] .null

/-- A message of one statement. -/
def single (query : String) (tree : Node) (h : endsTransaction tree = false) : Request Unit where
  env := adaptiveEnv query.toList
  tree := tree
  rest := []
  besides := []
  terminates := none
  adaptive := rfl
  stays := by simpa using h
  rest_nil _ := rfl
  besides_nil _ := rfl
  terminates_eq_none _ := rfl

/-- The beginning of a transaction. -/
def beginT : Request Unit := single "BEGIN" (.transactionStmt .begin [] false) rfl

/-- A statement that writes `t`. -/
def insertIntoT : Request Unit :=
  single "INSERT INTO t DEFAULT VALUES" (.insertStmt tableT .null .null .null .null .null) rfl

/-- A savepoint is given up. -/
def rollbackToS : Request Unit := single "ROLLBACK TO s" (.transactionStmt .rollbackTo [] false) rfl

/-- A statement that reads `t`. -/
def selectFromT : Request Unit :=
  single "SELECT FROM t" (.selectStmt .null .null .null (.list [tableT]) .null .null .null .null
    .null .null .null .null .null .null .null .null) rfl

theorem prefersPrimary_selectFromT :
    prefersPrimary selectFromT.env.unaware selectFromT.tree = false := by
  have hrelation : ∀ m, isRelation (fun _ _ => false) m = false := by
    intro m
    cases m <;> rfl
  have hwriting : ∀ m, isWritingFunction selectFromT.env.unaware m = false := by
    intro m
    cases m <;> simp [isWritingFunction, isWritingName, selectFromT, single, adaptiveEnv,
      plainEnv, Env.unaware, Env.withWrites, PatternLists.bootConfig]
  have hlist : isSelectObjectInTempWriteList selectFromT.env.unaware selectFromT.tree = false := by
    rw [← Bool.not_eq_true, Env.unaware, isSelectObjectInTempWriteList_iff rfl]
    simp
  have hfunction : poolHasFunctionCall selectFromT.env.unaware selectFromT.tree = false :=
    poolHas_eq_false hwriting
  have hcatalog : poolHasSystemCatalog selectFromT.env.unaware selectFromT.tree = false :=
    poolHas_eq_false hrelation
  have htemp : poolHasTempTable selectFromT.env.unaware selectFromT.tree = false :=
    poolHas_eq_false hrelation
  have hunlogged : poolHasUnloggedTable selectFromT.env.unaware selectFromT.tree = false :=
    poolHas_eq_false hrelation
  rw [prefersPrimary, hfunction, hlist, hcatalog, htemp, hunlogged]
  rfl

theorem poolWhereToSend_selectFromT :
    poolWhereToSend selectFromT.env.unaware selectFromT.tree = .ok [1] := by
  have hinto : poolHasInsertintoOrLockingClause selectFromT.tree = false := by
    simp [poolHasInsertintoOrLockingClause, poolHas, rawExpressionTreeWalker, selectFromT, single,
      tableT, walked, Branching.walk_eq, walkedNodes, isIntoOrLocking]
  rw [poolWhereToSend_select rfl, hinto, balance, prefersPrimary_selectFromT]
  rfl

theorem depends_selectFromT : Depends [] [beginT, insertIntoT, rollbackToS] selectFromT := by
  have hinsert : allNodes.Reaches insertIntoT.tree tableT :=
    Branching.Reaches.head (by simp [allNodes, fields, walked, insertIntoT, single])
      (Branching.Reaches.refl _)
  have hselect : allNodes.Reaches selectFromT.tree tableT :=
    Branching.Reaches.head (k := .list [tableT])
      (by simp [allNodes, fields, walked, selectFromT, single])
      (Branching.Reaches.head (by simp [allNodes, fields, walked]) (Branching.Reaches.refl _))
  refine ⟨insertIntoT, by simp, .inl ⟨['t'], .inr ?_, .inr ?_⟩⟩
  · exact ⟨insertIntoT.tree, mem_cons_self, rfl, tableT, hinsert, rfl⟩
  · exact ⟨selectFromT.tree, mem_cons_self, rfl, tableT, hselect, rfl⟩

/-- After `BEGIN`, `INSERT INTO t` and `ROLLBACK TO s` the transaction goes on, but the list is
empty and out of use, so `SELECT FROM t` is sent to the standby. -/
theorem rollback_to_forgets :
    Depends [] [beginT, insertIntoT, rollbackToS] selectFromT ∧
      (decisionEnv [] ⟨false, []⟩ [beginT, insertIntoT, rollbackToS] selectFromT).primary = 0 ∧
      poolWhereToSend (decisionEnv [] ⟨false, []⟩ [beginT, insertIntoT, rollbackToS] selectFromT)
        selectFromT.tree = .ok [1] ∧
      ¬ KeepsReads [] ⟨false, []⟩ [beginT, insertIntoT, rollbackToS, selectFromT] := by
  have hnames : protectedNames [] ⟨false, []⟩ [beginT, insertIntoT, rollbackToS] = none := by
    simp [protectedNames, protectStep, rollbackToS, single, adaptiveEnv, plainEnv,
      isStartTransactionQuery, isCommitOrRollbackQuery]
  have hlist : isSelectObjectInTempWriteList
      (decisionEnv [] ⟨false, []⟩ [beginT, insertIntoT, rollbackToS] selectFromT)
      selectFromT.tree = false := by
    rw [← Bool.not_eq_true, isSelectObjectInTempWriteList_decisionEnv _ rfl rfl]
    rintro ⟨names, hsome, -⟩
    rw [hnames] at hsome
    cases hsome
  have hsent : poolWhereToSend
      (decisionEnv [] ⟨false, []⟩ [beginT, insertIntoT, rollbackToS] selectFromT)
      selectFromT.tree = .ok [1] :=
    (poolWhereToSend_withWrites rfl hlist).trans poolWhereToSend_selectFromT
  refine ⟨depends_selectFromT, rfl, hsent, fun h => ?_⟩
  refine h _ selectFromT (prefix_refl _) rfl depends_selectFromT ?_
  exact ⟨[1], hsent, 1, mem_singleton_self 1, by decide⟩

end PgBalancer.Routing
