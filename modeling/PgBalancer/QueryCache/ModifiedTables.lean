import PgBalancer.Routing.WhereToSend

/-!
# The tables a statement modifies

After a statement has written, the cached results over the tables it wrote must go.  Which
tables these are is read off the parse tree by `pool_extract_table_oids`: the targets of the
data-modifying entries of the `WITH` clause first, then the target of the statement itself.
The oids are collected in an array of 128 entries, and what happens when it is full differs
from loop to loop.

* `extracts_written_iff` — **all tables are reported exactly if the targets fit into the
  array and every table written has the oid of one of the first 128 targets**.
-/

namespace PgBalancer.QueryCache

open List

open PatternLists (Text)
open Routing (makeTableName)

/-! ## Statements -/

/-- The parts of a `RangeVar` that make its name. -/
structure RangeVar where
  schemaname : Option Text
  relname : Text
  deriving DecidableEq

/-- `make_table_name_from_rangevar` -/
def RangeVar.table (r : RangeVar) : Text := makeTableName r.schemaname r.relname

/-- `make_table_name_from_rangevar(makeRangeVarFromNameList(names))` -/
def tableFromNameList : List Text → Text
  | [relname] => makeTableName none relname
  | [schemaname, relname] | [_, schemaname, relname] => makeTableName (some schemaname) relname
  | _ => []

/-- The query of an entry of a `WITH` clause. -/
inductive CteQuery where
  | insertStmt (relation : RangeVar)
  | updateStmt (relation : RangeVar)
  | deleteStmt (relation : RangeVar)
  | mergeStmt (relation : RangeVar)
  | selectStmt
  deriving DecidableEq

/-- `ObjectType`, as far as `DROP` is concerned. -/
inductive ObjectType where
  | table
  | other
  deriving DecidableEq

/-- A parse tree, as far as `pool_extract_table_oids` reads it.  `withClause` has the queries
of the entries, and none if there is no such clause. -/
inductive Stmt where
  | insertStmt (relation : RangeVar) (withClause : List CteQuery)
  | updateStmt (relation : RangeVar) (withClause : List CteQuery)
  | deleteStmt (relation : RangeVar) (withClause : List CteQuery)
  | selectStmt (withClause : List CteQuery)
  | alterTableStmt (relation : RangeVar)
  | copyStmt (relation : RangeVar) (isFrom : Bool)
  | dropStmt (removeType : ObjectType) (objects : List (List Text))
  | truncateStmt (relations : List RangeVar)
  | explainStmt (options : List Text) (query : Stmt)
  | other

/-! ## Extraction -/

/-- `POOL_MAX_DML_OIDS` -/
def maxDmlOids : ℕ := 128

/-- `pool_table_name_to_oid`; `oid` is the answer of the catalog. -/
def poolTableNameToOid (oid : Text → ℤ) : Option Text → ℤ
  | none => 0
  | some table => oid table

/-- The table that `pool_extract_withclause_oids` takes from an entry. -/
def CteQuery.table : CteQuery → Option Text
  | .insertStmt relation | .deleteStmt relation | .updateStmt relation => some relation.table
  | .mergeStmt _ | .selectStmt => none

/-- The loop of `pool_extract_withclause_oids`, with the oids collected so far. -/
def withclauseLoop (oid : Text → ℤ) : List CteQuery → List ℤ → List ℤ
  | [], oids => oids
  | cte :: ctes, oids =>
    let o := poolTableNameToOid oid cte.table
    if o > 0 then
      if oids.length ≥ maxDmlOids then oids else withclauseLoop oid ctes (oids ++ [o])
    else withclauseLoop oid ctes oids

/-- `pool_extract_withclause_oids` -/
def poolExtractWithclauseOids (oid : Text → ℤ) (withClause : List CteQuery) : List ℤ :=
  withclauseLoop oid withClause []

/-- The loop over the targets of `DROP TABLE` and of `TRUNCATE`.  A full array makes it
return 0. -/
def objectsLoop (oid : Text → ℤ) : List Text → List ℤ → List ℤ
  | [], oids => oids
  | table :: tables, oids =>
    if oids.length ≥ maxDmlOids then []
    else
      let o := poolTableNameToOid oid (some table)
      if o > 0 then objectsLoop oid tables (oids ++ [o]) else objectsLoop oid tables oids

/-- The end of the function, for the statements with one target. -/
def finishOids (oid : Text → ℤ) (table : Option Text) (oids : List ℤ) : List ℤ :=
  let o := poolTableNameToOid oid table
  if o > 0 then
    if oids.length ≥ maxDmlOids then [] else oids ++ [o]
  else oids

/-- `strncmp("analyze", def->defname, 7) == 0` for some option -/
def hasAnalyze (options : List Text) : Bool :=
  options.any fun defname => defname.take 7 = "analyze".toList

/-- `pool_extract_table_oids`: the first `num_oids` entries of the array it fills. -/
def poolExtractTableOids (oid : Text → ℤ) : Stmt → List ℤ
  | .insertStmt relation withClause | .updateStmt relation withClause
  | .deleteStmt relation withClause =>
    finishOids oid (some relation.table) (poolExtractWithclauseOids oid withClause)
  | .selectStmt withClause => finishOids oid none (poolExtractWithclauseOids oid withClause)
  | .alterTableStmt relation => finishOids oid (some relation.table) []
  | .copyStmt relation isFrom =>
    if isFrom then finishOids oid (some relation.table) [] else []
  | .dropStmt removeType objects =>
    if removeType ≠ .table then [] else objectsLoop oid (objects.map tableFromNameList) []
  | .truncateStmt relations => objectsLoop oid (relations.map RangeVar.table) []
  | .explainStmt options query =>
    if hasAnalyze options then poolExtractTableOids oid query else finishOids oid none []
  | .other => []

/-! ## What a statement writes -/

/-- The table an entry of a `WITH` clause writes. -/
def CteQuery.written : CteQuery → Option Text
  | .insertStmt relation | .deleteStmt relation | .updateStmt relation
  | .mergeStmt relation => some relation.table
  | .selectStmt => none

/-- The tables written by the statement and by the entries of its `WITH` clause. -/
def Stmt.written : Stmt → List Text
  | .insertStmt relation withClause | .updateStmt relation withClause
  | .deleteStmt relation withClause => withClause.filterMap CteQuery.written ++ [relation.table]
  | .selectStmt withClause => withClause.filterMap CteQuery.written
  | .alterTableStmt relation | .copyStmt relation _ => [relation.table]
  | .dropStmt _ objects => objects.map tableFromNameList
  | .truncateStmt relations => relations.map RangeVar.table
  | .explainStmt _ query => query.written
  | .other => []

/-- The statements that are looked into: `INSERT`, `UPDATE`, `DELETE`, `SELECT`,
`ALTER TABLE`, `COPY FROM`, `DROP TABLE`, `TRUNCATE`, and `EXPLAIN ANALYZE` of these. -/
def Stmt.Modifying : Stmt → Prop
  | .insertStmt .. | .updateStmt .. | .deleteStmt .. | .selectStmt .. | .alterTableStmt ..
  | .truncateStmt .. => True
  | .copyStmt _ isFrom => isFrom = true
  | .dropStmt removeType _ => removeType = .table
  | .explainStmt options query => hasAnalyze options = true ∧ query.Modifying
  | .other => False

/-- The tables that are looked up, in the order of the code. -/
def Stmt.targets : Stmt → List Text
  | .insertStmt relation withClause | .updateStmt relation withClause
  | .deleteStmt relation withClause => withClause.filterMap CteQuery.table ++ [relation.table]
  | .selectStmt withClause => withClause.filterMap CteQuery.table
  | .alterTableStmt relation | .copyStmt relation _ => [relation.table]
  | .dropStmt _ objects => objects.map tableFromNameList
  | .truncateStmt relations => relations.map RangeVar.table
  | .explainStmt _ query => query.targets
  | .other => []

/-- A `SELECT`, or `EXPLAIN ANALYZE` of one: it keeps what the array holds when it is full. -/
def Stmt.keepsFirst : Stmt → Prop
  | .selectStmt _ => True
  | .explainStmt _ query => query.keepsFirst
  | _ => False

/-- A mapping of all table names to oids, none of them `InvalidOid`. -/
structure TotalOids where
  oid : Text → ℤ
  pos : ∀ table, 0 < oid table

/-- The targets fit, and what is written is among those that are kept. -/
def Stmt.Fits (m : TotalOids) (s : Stmt) : Prop :=
  (s.keepsFirst ∨ s.targets.length ≤ maxDmlOids) ∧
    ∀ table ∈ s.written, m.oid table ∈ (s.targets.take maxDmlOids).map m.oid

/-! ## The loops -/

section Loops

variable (m : TotalOids)

theorem withclauseLoop_eq (ctes : List CteQuery) : ∀ oids : List ℤ, oids.length ≤ maxDmlOids →
      withclauseLoop m.oid ctes oids =
        oids ++ ((ctes.filterMap CteQuery.table).take (maxDmlOids - oids.length)).map m.oid := by
  induction ctes with
  | nil => simp [withclauseLoop]
  | cons cte ctes ih =>
    intro oids hlen
    cases htable : cte.table with
    | none => simp [withclauseLoop, poolTableNameToOid, htable, ih oids hlen]
    | some table =>
      rw [filterMap_cons_some htable]
      simp only [withclauseLoop, htable, poolTableNameToOid, m.pos table, if_true]
      by_cases hfull : maxDmlOids ≤ oids.length
      · have hzero : maxDmlOids - oids.length = 0 := by omega
        simp [hfull, hzero]
      · obtain ⟨k, hk⟩ : ∃ k, maxDmlOids - oids.length = k + 1 :=
          ⟨maxDmlOids - oids.length - 1, by omega⟩
        have hroom : maxDmlOids - (oids ++ [m.oid table]).length = k := by
          simp only [length_append, length_singleton]
          omega
        have hstep := ih (oids ++ [m.oid table]) (by simp; omega)
        rw [if_neg (by omega), hstep, hroom, hk]
        simp

theorem poolExtractWithclauseOids_eq (ctes : List CteQuery) : poolExtractWithclauseOids m.oid ctes =
      ((ctes.filterMap CteQuery.table).take maxDmlOids).map m.oid := by
  have h := withclauseLoop_eq m ctes [] (Nat.zero_le _)
  simpa [poolExtractWithclauseOids] using h

theorem objectsLoop_eq (tables : List Text) : ∀ oids : List ℤ, oids.length ≤ maxDmlOids →
      objectsLoop m.oid tables oids =
        if oids.length + tables.length ≤ maxDmlOids then oids ++ tables.map m.oid else [] := by
  induction tables with
  | nil =>
    intro oids hlen
    simp [objectsLoop, hlen]
  | cons table tables ih =>
    intro oids hlen
    simp only [objectsLoop, poolTableNameToOid, m.pos table, if_true, length_cons]
    by_cases hfull : maxDmlOids ≤ oids.length
    · rw [if_pos hfull, if_neg (by omega)]
    · rw [if_neg (by omega), ih _ (by simp; omega)]
      simp only [length_append, length_singleton, append_assoc,
        singleton_append, map_cons]
      congr 1
      simp only [eq_iff_iff]
      omega

theorem finishOids_some (table : Text) (tables : List Text) :
    finishOids m.oid (some table) ((tables.take maxDmlOids).map m.oid) =
      if tables.length + 1 ≤ maxDmlOids then (tables ++ [table]).map m.oid else [] := by
  simp only [finishOids, poolTableNameToOid, m.pos table, if_true, length_map,
    length_take]
  by_cases hfit : tables.length + 1 ≤ maxDmlOids
  · rw [if_neg (by omega), if_pos hfit, take_of_length_le (by omega)]
    simp
  · rw [if_pos (by omega), if_neg hfit]

@[simp] theorem finishOids_none (oids : List ℤ) : finishOids m.oid none oids = oids := by
  simp [finishOids, poolTableNameToOid]

end Loops

/-! ## The result -/

variable {m : TotalOids}

/-- What is extracted are the targets, as far as there is room. -/
theorem poolExtractTableOids_eq (s : Stmt) (h : s.Modifying) :
    (s.keepsFirst → poolExtractTableOids m.oid s = (s.targets.take maxDmlOids).map m.oid) ∧
      (¬ s.keepsFirst → poolExtractTableOids m.oid s =
        if s.targets.length ≤ maxDmlOids then s.targets.map m.oid else []) := by
  have hone : ∀ table, finishOids m.oid (some table) [] = [m.oid table] := by
    intro table
    simpa [maxDmlOids] using finishOids_some m table []
  induction s with
  | insertStmt relation ctes | updateStmt relation ctes | deleteStmt relation ctes =>
    refine ⟨fun hk => hk.elim, fun _ => ?_⟩
    simp only [poolExtractTableOids, poolExtractWithclauseOids_eq, finishOids_some, Stmt.targets,
      length_append, length_singleton]
  | selectStmt ctes =>
    refine ⟨fun _ => ?_, fun hk => (hk trivial).elim⟩
    simp only [poolExtractTableOids, poolExtractWithclauseOids_eq, finishOids_none, Stmt.targets]
  | alterTableStmt relation =>
    refine ⟨fun hk => hk.elim, fun _ => ?_⟩
    simp [poolExtractTableOids, Stmt.targets, hone, maxDmlOids]
  | copyStmt relation isFrom =>
    refine ⟨fun hk => hk.elim, fun _ => ?_⟩
    have h : isFrom = true := h
    simp [poolExtractTableOids, Stmt.targets, h, hone, maxDmlOids]
  | dropStmt removeType objects =>
    refine ⟨fun hk => hk.elim, fun _ => ?_⟩
    have h : removeType = .table := h
    simp [poolExtractTableOids, Stmt.targets, h, objectsLoop_eq m _ [] (Nat.zero_le _)]
  | truncateStmt relations =>
    refine ⟨fun hk => hk.elim, fun _ => ?_⟩
    simp [poolExtractTableOids, Stmt.targets, objectsLoop_eq m _ [] (Nat.zero_le _)]
  | explainStmt options query ih =>
    have hstep : poolExtractTableOids m.oid (.explainStmt options query) =
        poolExtractTableOids m.oid query := by
      rw [poolExtractTableOids, if_pos h.1]
    rw [hstep]
    exact ih h.2
  | other => exact h.elim

theorem written_ne_nil (s : Stmt) (h : ¬ s.keepsFirst) (hlen : maxDmlOids < s.targets.length) :
    s.written ≠ [] := by
  induction s with
  | selectStmt ctes => exact (h trivial).elim
  | explainStmt options query ih => exact ih h hlen
  | insertStmt | updateStmt | deleteStmt | alterTableStmt | copyStmt => simp [Stmt.written]
  | dropStmt removeType objects =>
    rintro hnil
    simp only [Stmt.written, map_eq_nil_iff] at hnil
    simp [Stmt.targets, hnil] at hlen
  | truncateStmt relations =>
    rintro hnil
    simp only [Stmt.written, map_eq_nil_iff] at hnil
    simp [Stmt.targets, hnil] at hlen
  | other => simp [Stmt.targets] at hlen

/-- **The oids of all tables a statement writes are reported exactly if its targets fit.** -/
theorem extracts_written_iff (m : TotalOids) (s : Stmt) (h : s.Modifying) :
    (∀ table ∈ s.written, m.oid table ∈ poolExtractTableOids m.oid s) ↔ s.Fits m := by
  obtain ⟨hfirst, hall⟩ := poolExtractTableOids_eq (m := m) s h
  by_cases hk : s.keepsFirst
  · rw [hfirst hk, Stmt.Fits]
    simp only [hk, true_or, true_and]
  · rw [hall hk, Stmt.Fits]
    simp only [hk, false_or]
    by_cases hfit : s.targets.length ≤ maxDmlOids
    · rw [if_pos hfit, take_of_length_le hfit]
      simp only [hfit, true_and]
    · rw [if_neg hfit]
      simp only [hfit, false_and, iff_false]
      intro hempty
      obtain ⟨table, htable⟩ := exists_mem_of_ne_nil _ (written_ne_nil s hk (by omega))
      exact not_mem_nil (hempty table htable)

/-- Every table has oid 1, for the examples below. -/
def oneOid : TotalOids := ⟨fun _ => 1, fun _ => Int.one_pos⟩

/-- A table without a schema. -/
def tableT : RangeVar := ⟨none, "t".toList⟩

/-- `WITH x AS (DELETE FROM t RETURNING *) INSERT INTO t SELECT * FROM x` reports `t`. -/
theorem extracts_written_insert : (∀ table ∈ (Stmt.insertStmt tableT [.deleteStmt tableT]).written,
      oneOid.oid table ∈
        poolExtractTableOids oneOid.oid (.insertStmt tableT [.deleteStmt tableT])) ↔
      (Stmt.insertStmt tableT [.deleteStmt tableT]).Fits oneOid :=
  extracts_written_iff oneOid (.insertStmt tableT [.deleteStmt tableT]) trivial

/-- `TRUNCATE` of 129 tables reports none of them, and a `SELECT` whose `WITH` clause has a
`MERGE` does not report its target. -/
theorem truncate_many_unreported :
    (¬ ∀ table ∈ (Stmt.truncateStmt (List.replicate 129 tableT)).written, oneOid.oid table ∈
        poolExtractTableOids oneOid.oid (.truncateStmt (List.replicate 129 tableT))) ∧
    ¬ ∀ table ∈ (Stmt.selectStmt [.mergeStmt tableT]).written,
      oneOid.oid table ∈ poolExtractTableOids oneOid.oid (.selectStmt [.mergeStmt tableT]) := by
  decide

end PgBalancer.QueryCache
