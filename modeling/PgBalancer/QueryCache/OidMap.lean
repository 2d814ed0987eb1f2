import PgBalancer.QueryCache.StoreRun

/-!
# The oid map and cache invalidation

When a result is committed, its cache id is appended to one file per table it
was computed from, under `memqcache_oiddir/database_oid/table_oid`.  When a table
is written to, every cache id in its file is deleted from the store and the file
is unlinked.  The files are never cleaned otherwise, so they hold ids that are
stale, listed twice, or in use for another query by now.

Next to the store and the map, `OidState` records for each key the database and
the tables its result was last committed with.  The oid of the database is looked up
at each call, in a relation cache of the process; the answer is an input here.

* `invalidate_complete_iff` — **an invalidation reaches every dependent item
  exactly when it and the commits are given one and the same positive oid.**  The
  source keeps oids in an `int` and takes one that is not positive for a failed
  look-up; it then stores the result without listing it, and invalidates nothing.
-/

namespace PgBalancer.QueryCache

open List Function

/-- The ids listed in the file of a database oid and a table oid. -/
abbrev OidMap := Int × Int → List CacheId

/-- What `pool_get_database_oid` answers: the oid as an `int`, `0` if there is none, and `none` if
an error is raised.  The relation cache does not tell `DB` from `db`, and never expires. -/
abbrev DatabaseOid := Option Int

/-- A row of a system catalog about to be stored in the shared relation cache. -/
structure CatalogRow where
  queryHash : QueryHash
  data : List UInt8
  expire : Int64
  now : Int64

/-- Where and from which tables the result of a query was computed. -/
structure Origin where
  /-- the database -/
  db : Nat
  tableOids : List Int
  deriving DecidableEq

/-- The store, the oid map, and for each key the origin of the result last
committed under it. -/
structure OidState where
  store : Store
  oidMap : OidMap
  origin : QueryHash → Option Origin

variable (cfg : Config)

/-- `pool_catalog_commit_cache`: a catalog row has no tables to be listed under. -/
def poolCatalogCommitCache (t : OidState) (row : CatalogRow) : Option OidState :=
  if (poolHashSearch t.store.hash row.queryHash).isSome then some t
  else
    (poolAddItemShmemCache cfg t.store row.queryHash row.data row.expire row.now).map
      fun (r, s) =>
        { t with
          store := s
          origin := if r.isSome then Function.update t.origin row.queryHash none else t.origin }

/-- What looking up the database oid may do on the way: on a miss of the relation
cache the row that was fetched is stored. -/
def storeCatalogRow (t : OidState) : Option CatalogRow → Option OidState
  | none => some t
  | some row => poolCatalogCommitCache cfg t row

/-- The loop of `pool_add_table_oid_map`: append the cache id to the file of each
table. -/
def appendToFiles (oidMap : OidMap) (dboid : Int) (cacheid : CacheId) : List Int → OidMap
  | [] => oidMap
  | oid :: oids =>
    appendToFiles
      (Function.update oidMap (dboid, oid) (oidMap (dboid, oid) ++ [cacheid])) dboid cacheid oids

/-- `pool_add_table_oid_map`; an error leaves it before a file is opened. -/
def poolAddTableOidMap (t : OidState) (cacheid : CacheId) (answer : DatabaseOid)
    (row : Option CatalogRow) (tableOids : List Int) : Option OidState :=
  (storeCatalogRow cfg t row).map fun t =>
    match answer with
    | none => t
    | some dboid =>
      if dboid ≤ 0 then t
      else { t with oidMap := appendToFiles t.oidMap dboid cacheid tableOids }

/-- `pool_commit_cache` for a query whose key is `queryHash`, in a session on
database `db`; the result is stored by the time an error may be raised. -/
def poolCommitCache (t : OidState) (queryHash : QueryHash) (data : List UInt8)
    (expire now : Int64) (db : Nat) (answer : DatabaseOid) (row : Option CatalogRow)
    (tableOids : List Int) : Option (Int × OidState) :=
  if (poolHashSearch t.store.hash queryHash).isSome then some (0, t)
  else
    (poolAddItemShmemCache cfg t.store queryHash data expire now).bind fun (r, s) =>
      match r with
      | none => some (-1, { t with store := s })
      | some cacheid =>
        (poolAddTableOidMap cfg
          { t with
            store := s
            origin := Function.update t.origin queryHash (some ⟨db, tableOids⟩) }
          cacheid answer row tableOids).map fun t => (0, t)

/-- Delete every cache id of a list. -/
def deleteItems (s : Store) (ids : List CacheId) : Store :=
  ids.foldl (fun s id => (poolDeleteItemShmemCache cfg s id).2) s

/-- The loop of `pool_invalidate_query_cache` over the tables. -/
def invalidateTables (t : OidState) (unlinkp : Bool) (dboid : Int) : List Int → OidState
  | [] => t
  | oid :: oids =>
    invalidateTables
      { t with
        store := deleteItems cfg t.store (t.oidMap (dboid, oid))
        oidMap := if unlinkp then Function.update t.oidMap (dboid, oid) [] else t.oidMap }
      unlinkp dboid oids

/-- `pool_invalidate_query_cache`; a `dboid` of `0` stands for the session's database. -/
def poolInvalidateQueryCache (t : OidState) (tableOids : List Int) (unlinkp : Bool)
    (dboid : Int) (answer : DatabaseOid) (row : Option CatalogRow) : Option OidState :=
  if dboid = 0 then
    (storeCatalogRow cfg t row).map fun t =>
      match answer with
      | none => t
      | some dboid => if dboid ≤ 0 then t else invalidateTables cfg t unlinkp dboid tableOids
  else some (invalidateTables cfg t unlinkp dboid tableOids)

/-- `pool_discard_oid_maps`: the directories whose name starts with a digit. -/
def poolDiscardOidMaps (oidMap : OidMap) : OidMap :=
  fun p => if 0 ≤ p.1 then [] else oidMap p

/-- One operation, under the exclusive lock. -/
inductive OidOp where
  /-- `pool_commit_cache` -/
  | commit (queryHash : QueryHash) (data : List UInt8) (expire now : Int64) (db : Nat)
      (answer : DatabaseOid) (row : Option CatalogRow) (tableOids : List Int)
  /-- `pool_catalog_commit_cache` -/
  | catalogCommit (row : CatalogRow)
  /-- `pool_invalidate_query_cache` -/
  | invalidate (tableOids : List Int) (unlinkp : Bool) (dboid : Int) (answer : DatabaseOid)
      (row : Option CatalogRow)
  /-- `pool_reuse_block` -/
  | evict
  /-- a look-up, which deletes the item it finds expired -/
  | get (queryHash : QueryHash) (now now' : Int64)
  /-- the part of a look-up under the exclusive lock -/
  | getExclusive (queryHash : QueryHash) (now : Int64)
  /-- `query_cache_delete_by_stmt` -/
  | deleteByStmt (queryHash : QueryHash)
  /-- `pool_clear_memory_cache` -/
  | clear

/-- `query_cache_delete_by_stmt`, as far as it concerns the store. -/
def queryCacheDeleteByStmt (s : Store) (queryHash : QueryHash) : Store :=
  match poolHashSearch s.hash queryHash with
  | none => s
  | some cacheid => (poolDeleteItemShmemCache cfg s cacheid).2

/-- Perform one operation. -/
def oidStep (t : OidState) : OidOp → Option OidState
  | .commit queryHash data expire now db answer row tableOids =>
    (poolCommitCache cfg t queryHash data expire now db answer row tableOids).map Prod.snd
  | .catalogCommit row => poolCatalogCommitCache cfg t row
  | .invalidate tableOids unlinkp dboid answer row =>
    poolInvalidateQueryCache cfg t tableOids unlinkp dboid answer row
  | .evict => some { t with store := (poolReuseBlock cfg t.store).2 }
  | .get queryHash now now' =>
    some { t with store := (poolGetItemShmemCache cfg t.store queryHash now now').2 }
  | .getExclusive queryHash now =>
    some { t with store := (getItemExclusive cfg t.store queryHash now).2 }
  | .deleteByStmt queryHash =>
    some { t with store := queryCacheDeleteByStmt cfg t.store queryHash }
  | .clear => (poolClearMemoryCache cfg t.store).map fun s =>
    { t with store := s, oidMap := poolDiscardOidMaps t.oidMap }

/-- Perform a sequence of operations. -/
def oidRun (t : OidState) (ops : List OidOp) : Option OidState := ops.foldlM (oidStep cfg) t

/-- The state of a freshly started process. -/
def initialOidState (s₀ : Store) : OidState := ⟨s₀, fun _ => [], fun _ => none⟩

variable {cfg} {t t' : OidState} {s s₀ : Store} {c c' : Contents} {dboid x : Int}
  {cacheid id : CacheId} {p : Int × Int} {tableOids : List Int} {answer : DatabaseOid}

/-! ## Listing -/

theorem mem_appendToFiles_of_mem : ∀ (oids : List Int) (oidMap : OidMap), id ∈ oidMap p →
      id ∈ appendToFiles oidMap dboid cacheid oids p := by
  intro oids
  induction oids with
  | nil => exact fun _ h => h
  | cons oid oids ih =>
    intro oidMap h
    refine ih _ ?_
    by_cases hp : p = (dboid, oid)
    · subst hp
      rw [update_self]
      exact mem_append_left _ h
    · rwa [update_of_ne hp]

theorem mem_appendToFiles : ∀ (oids : List Int) (oidMap : OidMap), x ∈ oids →
      cacheid ∈ appendToFiles oidMap dboid cacheid oids (dboid, x) := by
  intro oids
  induction oids with
  | nil => exact fun _ h => absurd h not_mem_nil
  | cons oid oids ih =>
    intro oidMap h
    rcases mem_cons.1 h with rfl | h
    · refine mem_appendToFiles_of_mem oids _ ?_
      rw [update_self]
      exact mem_append_right _ (mem_singleton_self _)
    · exact ih _ h

/-- A commit in database `db` is given the answer `a`. -/
def OidOp.Answered (db : Nat) (a : DatabaseOid) : OidOp → Prop
  | .commit _ _ _ _ db' answer _ _ => db' = db → answer = a
  | _ => True

section

variable (cfg) (db : Nat) (d : Int)

/-- **Every live item of database `db` is listed under each of its tables**, if `d` is taken for the
oid of the database. -/
def Registered (t : OidState) (c : Contents) : Prop :=
  ∀ id it, Live cfg c id it → ∀ o, t.origin it.queryHash = some o →
    o.db = db → ∀ x ∈ o.tableOids, id ∈ t.oidMap (d, x)

/-- The store is well formed and every live item is listed. -/
def OidInv (t : OidState) : Prop := ∃ c, StoreRep cfg t.store c ∧ Registered cfg db d t c

end

variable {db : Nat} {d : Int}

theorem Registered.sub (h : Registered cfg db d t c) (hsub : c'.Sub cfg c)
    (horigin : t'.origin = t.origin) (hmap : t'.oidMap = t.oidMap) :
    Registered cfg db d t' c' := by
  intro id it hl o ho hdb x hx
  rw [horigin] at ho
  rw [hmap]
  exact h id it (hsub id it hl) o ho hdb x hx

/-! ## Committing -/

/-- Storing a catalog row: what is live afterwards is the row, which has no
origin, or was live before. -/
theorem catalogCommit_spec (h : StoreRep cfg t.store c) (row : CatalogRow) :
    ∃ t' c', poolCatalogCommitCache cfg t row = some t' ∧ StoreRep cfg t'.store c' ∧
      t'.oidMap = t.oidMap ∧ ∀ id it, Live cfg c' id it → t'.origin it.queryHash = none ∨
        Live cfg c id it ∧ t'.origin it.queryHash = t.origin it.queryHash := by
  unfold poolCatalogCommitCache
  split
  · exact ⟨t, c, rfl, h, rfl, fun id it hl => .inr ⟨hl, rfl⟩⟩
  · next hnew =>
    have hnone : poolHashSearch t.store.hash row.queryHash = none := by simpa using hnew
    obtain ⟨r, s', c', heq, h', hfail, hok, -⟩ := h.addItem row.data row.expire row.now hnone
    rw [heq]
    refine ⟨_, c', rfl, h', rfl, ?_⟩
    cases r with
    | none => exact fun id it hl => .inr ⟨hfail rfl id it hl, rfl⟩
    | some id₁ =>
      obtain ⟨hnew', hold⟩ := hok id₁ rfl
      intro id it hl
      simp only [Option.isSome_some, if_true]
      by_cases hid : id = id₁
      · subst hid
        left
        rw [hl.unique hnew', update_self]
      · right
        have hkey : it.queryHash ≠ row.queryHash := fun hk => hid (h'.id_unique hl hnew' hk)
        exact ⟨hold id it hl hid, by rw [update_of_ne hkey]⟩

variable {row : Option CatalogRow}

theorem storeCatalogRow_spec (h : StoreRep cfg t.store c) (row : Option CatalogRow) :
    ∃ t' c', storeCatalogRow cfg t row = some t' ∧ StoreRep cfg t'.store c' ∧ t'.oidMap = t.oidMap ∧
      ∀ id it, Live cfg c' id it → t'.origin it.queryHash = none ∨
        Live cfg c id it ∧ t'.origin it.queryHash = t.origin it.queryHash := by
  cases row with
  | none => exact ⟨t, c, rfl, h, rfl, fun id it hl => .inr ⟨hl, rfl⟩⟩
  | some row => exact catalogCommit_spec h row

theorem Registered.storeCatalogRow (h : Registered cfg db d t c) (hmap : t'.oidMap = t.oidMap)
    (hlive : ∀ id it, Live cfg c' id it → t'.origin it.queryHash = none ∨
      Live cfg c id it ∧ t'.origin it.queryHash = t.origin it.queryHash) :
    Registered cfg db d t' c' := by
  intro id it hl o ho hdb x hx
  rcases hlive id it hl with hnone | ⟨hold, horigin⟩
  · rw [hnone] at ho
    cases ho
  · rw [hmap]
    exact h id it hold o (horigin ▸ ho) hdb x hx

variable {db' : Nat}

/-- The item that is added stands in the file of each of its tables. -/
theorem addTableOidMap_inv (hpos : 0 < d) (hanswer : db' = db → answer = some d)
    (hrep : StoreRep cfg t.store c)
    (hothers : ∀ id it, Live cfg c id it → id ≠ cacheid → ∀ o, t.origin it.queryHash = some o →
      o.db = db → ∀ x ∈ o.tableOids, id ∈ t.oidMap (d, x))
    (hself : ∀ it, Live cfg c cacheid it → t.origin it.queryHash = some ⟨db', tableOids⟩)
    (row : Option CatalogRow) :
    ∃ t', poolAddTableOidMap cfg t cacheid answer row tableOids = some t' ∧
      OidInv cfg db d t' := by
  obtain ⟨t₁, c₁, hrow, hrep₁, hmap, hlive⟩ := storeCatalogRow_spec hrep row
  simp only [poolAddTableOidMap, hrow, Option.map_some]
  refine ⟨_, rfl, c₁, ?_, fun id it hl o ho hdb x hx => ?_⟩
  · cases answer with
    | none => exact hrep₁
    | some dboid => dsimp only; split <;> exact hrep₁
  -- a live item with an origin was live, with that origin, before the row was stored
  · have hold : Live cfg c id it ∧ t.origin it.queryHash = some o := by
      have ho' : t₁.origin it.queryHash = some o := by
        cases answer with
        | none => exact ho
        | some dboid => dsimp only at ho; split at ho <;> exact ho
      rcases hlive id it hl with hnil | ⟨hold, horigin⟩
      · rw [hnil] at ho'
        cases ho'
      · exact ⟨hold, horigin ▸ ho'⟩
    by_cases hid : id = cacheid
    · subst hid
      have heq := hold.2
      rw [hself it hold.1] at heq
      cases heq
      rw [hanswer hdb]
      simp only [not_le.2 hpos, if_false]
      exact mem_appendToFiles tableOids _ hx
    · have hmem := hothers id it hold.1 hid o hold.2 hdb x hx
      rw [← hmap] at hmem
      cases answer with
      | none => exact hmem
      | some dboid =>
        dsimp only
        split
        · exact hmem
        · exact mem_appendToFiles_of_mem tableOids _ hmem

/-- **A commit lists what it stores**, even when the look-up of the database oid
stores a row of its own in between and takes the new item's place. -/
theorem commit_inv (hpos : 0 < d) (hanswer : db' = db → answer = some d) (h : OidInv cfg db d t)
    (queryHash : QueryHash) (data : List UInt8) (expire now : Int64) :
    ∃ r t', poolCommitCache cfg t queryHash data expire now db' answer row tableOids =
      some (r, t') ∧
      OidInv cfg db d t' := by
  obtain ⟨c, hrep, hreg⟩ := h
  unfold poolCommitCache
  split
  · exact ⟨0, t, rfl, c, hrep, hreg⟩
  · next hnew =>
    have hnone : poolHashSearch t.store.hash queryHash = none := by simpa using hnew
    obtain ⟨r, s₁, c₁, heq, hrep₁, hfail, hok, -⟩ := hrep.addItem data expire now hnone
    rw [heq]
    cases r with
    | none => exact ⟨-1, _, rfl, c₁, hrep₁, hreg.sub (hfail rfl) rfl rfl⟩
    | some id₁ =>
      obtain ⟨hnew', hold⟩ := hok id₁ rfl
      obtain ⟨t', heq', h'⟩ := addTableOidMap_inv
        (t := { t with
          store := s₁
          origin := Function.update t.origin queryHash (some ⟨db', tableOids⟩) })
        hpos hanswer hrep₁
        (by
          intro id it hl hid o ho hdb x hx
          have hkey : it.queryHash ≠ queryHash := fun hk => hid (hrep₁.id_unique hl hnew' hk)
          simp only [update_of_ne hkey] at ho
          exact hreg id it (hold id it hl hid) o ho hdb x hx)
        (by
          intro it hl
          rw [hl.unique hnew']
          exact update_self ..)
        row
      exact ⟨0, t', by simp [heq'], h'⟩

/-! ## Invalidating -/

/-- Deleting a list of cache ids, whatever they point to, leaves exactly the
items at other ids. -/
theorem deleteItems_spec : ∀ (ids : List CacheId) (s : Store) (c : Contents), StoreRep cfg s c →
      ∃ c', StoreRep cfg (deleteItems cfg s ids) c' ∧
        ∀ id it, Live cfg c' id it ↔ Live cfg c id it ∧ id ∉ ids := by
  intro ids
  induction ids with
  | nil => exact fun s c h => ⟨c, h, by simp⟩
  | cons id₀ ids ih =>
    intro s c h
    rcases h.deleteItem id₀ with ⟨it₀, c₁, -, -, h₁, hc₁⟩ | ⟨hdead, heq⟩
    · obtain ⟨c', h', hc'⟩ := ih _ c₁ h₁
      refine ⟨c', h', fun id it => ?_⟩
      rw [hc', hc₁, mem_cons, not_or, and_assoc]
    · obtain ⟨c', h', hc'⟩ := ih s c h
      refine ⟨c', ?_, fun id it => ?_⟩
      · rw [deleteItems, foldl_cons, heq]
        exact h'
      · rw [hc', mem_cons, not_or]
        refine and_congr_right fun hl => (and_iff_right ?_).symm
        rintro rfl
        exact hdead it hl

/-- **The invalidation loop.**  Everything listed under the tables is deleted, so
nothing that stays live was computed from one of them; the rest stays listed,
although files are unlinked on the way. -/
theorem invalidateTables_spec (unlinkp : Bool) :
    ∀ (oids : List Int) (t : OidState) (c : Contents), StoreRep cfg t.store c →
      Registered cfg db d t c →
      ∃ c', StoreRep cfg (invalidateTables cfg t unlinkp dboid oids).store c' ∧
        Registered cfg db d (invalidateTables cfg t unlinkp dboid oids) c' ∧ c'.Sub cfg c ∧
        (invalidateTables cfg t unlinkp dboid oids).origin = t.origin ∧
        ∀ id it, Live cfg c' id it → ∀ o, t.origin it.queryHash = some o →
          o.db = db → dboid = d → ∀ x ∈ oids, x ∉ o.tableOids := by
  intro oids
  induction oids with
  | nil => exact fun t c h hreg => ⟨c, h, hreg, Contents.Sub.refl cfg c, rfl, by simp⟩
  | cons oid oids ih =>
    intro t c h hreg
    obtain ⟨c₁, h₁, hc₁⟩ := deleteItems_spec (t.oidMap (dboid, oid)) t.store c h
    have hsub₁ : c₁.Sub cfg c := fun id it hl => ((hc₁ id it).1 hl).1
    set t₁ : OidState := { t with
      store := deleteItems cfg t.store (t.oidMap (dboid, oid))
      oidMap := if unlinkp then Function.update t.oidMap (dboid, oid) [] else t.oidMap }
    -- an item listed in the unlinked file has just been deleted
    have hreg₁ : Registered cfg db d t₁ c₁ := by
      intro id it hl o ho hdb x hx
      have hmem := hreg id it (hsub₁ id it hl) o ho hdb x hx
      have hne : (d, x) ≠ (dboid, oid) := by
        intro heq
        rw [heq] at hmem
        exact ((hc₁ id it).1 hl).2 hmem
      change id ∈ (if unlinkp then Function.update t.oidMap (dboid, oid) [] else t.oidMap) _
      split
      · rwa [update_of_ne hne]
      · exact hmem
    obtain ⟨c', h', hreg', hsub', horigin', hgone⟩ := ih t₁ c₁ h₁ hreg₁
    refine ⟨c', h', hreg', hsub'.trans hsub₁, horigin', ?_⟩
    intro id it hl o ho hdb hd x hx
    rcases mem_cons.1 hx with rfl | hx
    · intro hmem
      have hl₁ := hsub' id it hl
      refine ((hc₁ id it).1 hl₁).2 ?_
      rw [hd]
      exact hreg id it (hsub₁ id it hl₁) o ho hdb x hmem
    · exact hgone id it hl o ho hdb hd x hx

theorem invalidate_inv (h : OidInv cfg db d t) (unlinkp : Bool) :
    ∃ t', poolInvalidateQueryCache cfg t tableOids unlinkp dboid answer row = some t' ∧
      OidInv cfg db d t' := by
  obtain ⟨c, hrep, hreg⟩ := h
  unfold poolInvalidateQueryCache
  split
  · obtain ⟨t₁, c₁, hrow, hrep₁, hmap, hlive⟩ := storeCatalogRow_spec hrep row
    have hreg₁ := hreg.storeCatalogRow hmap hlive
    rw [hrow, Option.map_some]
    refine ⟨_, rfl, ?_⟩
    split
    · exact ⟨c₁, hrep₁, hreg₁⟩
    · split
      · exact ⟨c₁, hrep₁, hreg₁⟩
      · obtain ⟨c', hrep', hreg', -⟩ := invalidateTables_spec unlinkp
          tableOids t₁ c₁ hrep₁ hreg₁
        exact ⟨c', hrep', hreg'⟩
  · obtain ⟨c', hrep', hreg', -⟩ := invalidateTables_spec unlinkp tableOids t c hrep hreg
    exact ⟨_, rfl, c', hrep', hreg'⟩

/-! ## Runs -/

section

variable (h0 : initialStore cfg = some s₀)
include h0

/-- **Every operation comes back and keeps the live items listed.** -/
theorem oidStep_inv (hpos : 0 < d) (h : OidInv cfg db d t) (op : OidOp)
    (hop : op.Answered db (some d)) : ∃ t', oidStep cfg t op = some t' ∧ OidInv cfg db d t' := by
  cases op with
  | commit queryHash data expire now db' answer row tableOids =>
    obtain ⟨r, t', heq, h'⟩ := commit_inv hpos hop h queryHash data expire now
    exact ⟨t', by rw [oidStep, heq]; rfl, h'⟩
  | catalogCommit row =>
    obtain ⟨c, hrep, hreg⟩ := h
    obtain ⟨t', c', heq, hrep', hmap, hlive⟩ := catalogCommit_spec hrep row
    exact ⟨t', heq, c', hrep', hreg.storeCatalogRow hmap hlive⟩
  | invalidate tableOids unlinkp dboid answer row =>
    exact invalidate_inv h unlinkp
  | evict =>
    obtain ⟨c, hrep, hreg⟩ := h
    exact ⟨_, rfl, _, hrep.reuseBlock, hreg.sub (sub_update_nil cfg c _) rfl rfl⟩
  | get key now now' =>
    obtain ⟨c, hrep, hreg⟩ := h
    obtain ⟨c', hrep', hsub, -⟩ := hrep.findItem key now now'
    exact ⟨_, rfl, c', hrep', hreg.sub hsub rfl rfl⟩
  | getExclusive key now =>
    obtain ⟨c, hrep, hreg⟩ := h
    obtain ⟨c', hrep', hsub, -⟩ := hrep.findItemExclusive key now
    exact ⟨_, rfl, c', hrep', hreg.sub hsub rfl rfl⟩
  | deleteByStmt key =>
    obtain ⟨c, hrep, hreg⟩ := h
    refine ⟨_, rfl, ?_⟩
    simp only [queryCacheDeleteByStmt]
    split
    · exact ⟨c, hrep, hreg⟩
    · next id _ =>
      rcases hrep.deleteItem id with ⟨it, c', -, -, hrep', hc'⟩ | ⟨-, heq⟩
      · exact ⟨c', hrep', hreg.sub (fun id' it' hl => ((hc' id' it').1 hl).1) rfl rfl⟩
      · rw [heq]
        exact ⟨c, hrep, hreg⟩
  | clear =>
    obtain ⟨s', hs'⟩ := poolClearMemoryCache_isSome h0 t.store
    refine ⟨_, by rw [oidStep, hs']; rfl, fun _ => [], storeRep_clear hs', ?_⟩
    intro id it hl
    simpa using hl.getElem

theorem oidRun_inv (hpos : 0 < d) (ops : List OidOp) (hops : ∀ op ∈ ops, op.Answered db (some d)) :
    ∀ t, OidInv cfg db d t → ∃ t', oidRun cfg t ops = some t' ∧ OidInv cfg db d t' :=
  fun _ h => History.exists_run (fun op hop _ h => oidStep_inv h0 hpos h op (hops op hop)) h

theorem oidInv_initial : OidInv cfg db d (initialOidState s₀) := by
  refine ⟨_, storeRep_initial h0, fun id it hl => ?_⟩
  simpa using hl.getElem

end

/-! ## Completeness of invalidation -/

/-- A single result is stored and found by its key; it is listed under the answer at most. -/
theorem commit_single (h0 : initialStore cfg = some s₀) (db : Nat) (a : DatabaseOid)
    (key : QueryHash) (oid : Int) :
    ∃ t id, oidRun cfg (initialOidState s₀) [.commit key [0] 0 0 db a none [oid]] = some t ∧
      poolHashSearch t.store.hash key = some id ∧ t.origin key = some ⟨db, [oid]⟩ ∧
      ∀ d, t.oidMap (d, oid) ≠ [] → a = some d := by
  have hrep := storeRep_initial h0
  have hnone : poolHashSearch s₀.hash key = none :=
    (hrep.search_eq_none key).2 fun id it hl => by simpa using hl.getElem
  obtain ⟨r, s₁, c₁, heq, hrep₁, -, hok, hfail⟩ := hrep.addItem [0] 0 0 hnone
  have hB := cfg.blockSize_ge
  have hr := hfail (by simp) (by simp [Config.maxFreeSpace, blockHeaderSize]; omega)
  obtain ⟨id, rfl⟩ := Option.ne_none_iff_exists'.1 hr
  have hfound := (hrep₁.index key id).2 ⟨_, (hok id rfl).1, rfl⟩
  have hrun : oidRun cfg (initialOidState s₀) [.commit key [0] 0 0 db a none [oid]] =
      poolAddTableOidMap cfg ⟨s₁, fun _ => [], update (fun _ => none) key (some ⟨db, [oid]⟩)⟩
        id a none [oid] := by
    simp [oidRun, oidStep, poolCommitCache, initialOidState, hnone, heq, Option.map_map,
      Function.comp_def]
  rw [hrun]
  simp only [poolAddTableOidMap, storeCatalogRow, Option.map_some]
  refine ⟨_, id, rfl, ?_⟩
  split
  · exact ⟨hfound, by simp, fun _ h => absurd rfl h⟩
  · next dboid =>
    split
    · exact ⟨hfound, by simp, fun _ h => absurd rfl h⟩
    · refine ⟨hfound, by simp, fun d h => ?_⟩
      by_contra hne
      simp [appendToFiles, update_of_ne, show d ≠ dboid from fun hd => hne (hd ▸ rfl)] at h

/-- **Invalidation is complete exactly if commits and invalidations agree on a positive oid.**
Let every commit in database `db` be answered `a`, and an invalidation `b`.  Then, whatever ran
before, right after invalidating some tables no result committed in `db` for one of these tables can
be found any more, if and only if `a` and `b` are one positive oid; otherwise a single commit
followed by an invalidation of its table is enough to miss it. -/
theorem invalidate_complete_iff (h0 : initialStore cfg = some s₀) (db : Nat) (a b : DatabaseOid) :
    (∀ (ops : List OidOp) (tableOids : List Int) (row : Option CatalogRow),
      (∀ op ∈ ops, op.Answered db a) → ∃ t t', oidRun cfg (initialOidState s₀) ops = some t ∧
        poolInvalidateQueryCache cfg t tableOids true 0 b row = some t' ∧
        ∀ key id, poolHashSearch t'.store.hash key = some id →
          ∀ o, t'.origin key = some o → o.db = db → ∀ x ∈ tableOids, x ∉ o.tableOids) ↔
      ∃ d, 0 < d ∧ a = some d ∧ b = some d := by
  constructor
  · intro hall
    by_contra hdb
    obtain ⟨t₁, id, hrun, hsearch, horigin, hlisted⟩ := commit_single h0 db a (constKey 97) 16384
    obtain ⟨t, t', ht, ht', hgone⟩ := hall [.commit (constKey 97) [0] 0 0 db a none [16384]] [16384]
      none (by simp [OidOp.Answered])
    rw [hrun] at ht
    obtain rfl := Option.some.inj ht
    -- nothing is listed where the invalidation looks, if it does
    have hsame : t'.store = t₁.store ∧ t'.origin = t₁.origin := by
      simp only [poolInvalidateQueryCache, storeCatalogRow, Option.map_some, if_true] at ht'
      obtain rfl := Option.some.inj ht'
      split
      · exact ⟨rfl, rfl⟩
      · next d =>
        split
        · exact ⟨rfl, rfl⟩
        · next hpos =>
          have hnil : t₁.oidMap (d, 16384) = [] := by
            by_contra hne
            exact hdb ⟨d, not_le.1 hpos, hlisted d hne, rfl⟩
          exact ⟨by simp [invalidateTables, deleteItems, hnil], rfl⟩
    rw [← hsame.1] at hsearch
    rw [← hsame.2] at horigin
    exact hgone _ id hsearch _ horigin rfl 16384 (by simp) (by simp)
  · rintro ⟨d, hpos, rfl, rfl⟩ ops tableOids row hops
    obtain ⟨t, ht, c, hrep, hreg⟩ := oidRun_inv h0 hpos ops hops _ (oidInv_initial h0)
    obtain ⟨t₁, c₁, hrow, hrep₁, hmap, hlive⟩ := storeCatalogRow_spec hrep row
    obtain ⟨c', hrep', -, -, horigin', hgone⟩ := invalidateTables_spec true
      tableOids t₁ c₁ hrep₁ (hreg.storeCatalogRow hmap hlive)
    refine ⟨t, invalidateTables cfg t₁ true d tableOids, ht, ?_, ?_⟩
    · simp only [poolInvalidateQueryCache, hrow, Option.map_some, if_true]
      rw [if_neg (not_le.2 hpos)]
    · intro key id hsearch o ho hdb x hx
      obtain ⟨it, hl, rfl⟩ := (hrep'.index key id).1 hsearch
      rw [horigin'] at ho
      exact hgone id it hl o ho hdb rfl x hx

/-- A database whose oid is answered the same each time. -/
theorem invalidate_complete_iff_smallConfig : ∃ s₀, initialStore smallConfig = some s₀ ∧
      ∀ (ops : List OidOp) (tableOids : List Int) (row : Option CatalogRow),
        (∀ op ∈ ops, op.Answered 16400 (some 16400)) →
        ∃ t t', oidRun smallConfig (initialOidState s₀) ops = some t ∧
          poolInvalidateQueryCache smallConfig t tableOids true 0 (some 16400) row = some t' ∧
          ∀ key id, poolHashSearch t'.store.hash key = some id →
            ∀ o, t'.origin key = some o → o.db = 16400 → ∀ x ∈ tableOids, x ∉ o.tableOids :=
  ⟨_, rfl, (invalidate_complete_iff rfl 16400 _ _).2 ⟨16400, by decide, rfl, rfl⟩⟩

/-- Database 3000000000 is a valid one, but its oid is negative as an `int`: a
result computed from table 16384 survives the invalidation of that table. -/
theorem invalidate_misses_large_database_oid : ((initialStore smallConfig).bind fun s =>
      (oidRun smallConfig (initialOidState s) [.commit (constKey 97) [1] 0 0 3000000000
        (some ((3000000000 : Int).bmod (2 ^ 32))) none [16384]]).bind fun t =>
          poolInvalidateQueryCache smallConfig t [16384] true 0
            (some ((3000000000 : Int).bmod (2 ^ 32))) none).map
      (fun t => (poolHashSearch t.store.hash (constKey 97), t.origin (constKey 97))) =
      some (some ⟨0, 0⟩, some ⟨3000000000, [16384]⟩) := by
  decide +kernel

end PgBalancer.QueryCache
