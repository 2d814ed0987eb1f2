import PgBalancer.QueryCache.Handler
import PgBalancer.Lib.Triple

/-!
# The lock of the query cache

The shared memory of the query cache is protected by one file lock, taken in a shared or
an exclusive flavour.  A process remembers in `is_shmem_locked` that it has the lock, and
a second acquisition does nothing, whatever its flavour.  The functions that take the lock
call each other: committing a result asks for the oid of the database, which is looked up
in the relation cache, which itself uses the query cache.

A call is a program that may end in an ERROR; the main loop of the process catches it and
goes on.

* `lock_discipline` — **in every sequence of calls without an ERROR under the lock and
  without the two functions that forget to release it, the lock is free between the calls,
  the store changes under the exclusive lock only and the semaphore of the statistics is
  unlocked only by who has locked it**.
-/

open Std.Do EStateM

set_option mvcgen.warning false

namespace PgBalancer.QueryCache.Lock

/-! ## The lock -/

/-- `POOL_MEMQ_LOCK_TYPE` -/
inductive Flavour where
  | shared
  | exclusive
  deriving DecidableEq

/-- What the discipline is about, with the circumstances at the time. -/
inductive LockAction where
  /-- the store is changed -/
  | mutate (held : Option Flavour)
  /-- `pool_semaphore_unlock(QUERY_CACHE_STATS_SEM)` -/
  | unlockStats (held : Bool)
  deriving DecidableEq

/-- The store changes under the exclusive lock, the semaphore is unlocked by its owner. -/
def LockAction.Allowed : LockAction → Prop
  | .mutate held => held = some .exclusive
  | .unlockStats held => held = true

/-- What a process holds, and what it has done. -/
structure LockState where
  /-- the file lock; `is_shmem_locked` says whether there is one -/
  held : Option Flavour
  /-- `QUERY_CACHE_STATS_SEM` -/
  statsHeld : Bool
  trace : List LockAction
  deriving DecidableEq

/-- The settings that decide about locking. -/
structure LockConfig where
  /-- `pool_is_shmem_cache()`: not `memcached` -/
  shmem : Bool
  enableSharedRelcache : Bool

/-- A function that may leave with an ERROR. -/
abbrev LockM := EStateM Unit LockState

variable (cfg : LockConfig)

/-- `pool_shmem_lock` -/
def poolShmemLock (type : Flavour) : LockM Unit :=
  modify fun s => if cfg.shmem && s.held.isNone then { s with held := some type } else s

/-- `pool_shmem_unlock` -/
def poolShmemUnlock : LockM Unit :=
  modify fun s => if cfg.shmem && s.held.isSome then { s with held := none } else s

/-- `pool_is_shmem_lock` -/
def poolIsShmemLock : LockM Bool := do
  return (← get).held.isSome

/-- `pool_semaphore_lock(QUERY_CACHE_STATS_SEM)` -/
def poolSemaphoreLock : LockM Unit := modify fun s => { s with statsHeld := true }

/-- `pool_semaphore_unlock(QUERY_CACHE_STATS_SEM)` -/
def poolSemaphoreUnlock : LockM Unit :=
  modify fun s => { s with statsHeld := false, trace := .unlockStats s.statsHeld :: s.trace }

/-- The store in shared memory, or its oid maps, are changed. -/
def mutate : LockM Unit :=
  modify fun s => if cfg.shmem then { s with trace := .mutate s.held :: s.trace } else s

/-- `PG_TRY(); { p } PG_CATCH(); { pool_shmem_unlock(); PG_RE_THROW(); }` -/
def unlockOnError {α : Type} (p : LockM α) : LockM α :=
  tryCatch p fun e => do
    poolShmemUnlock cfg
    throw e

/-! ## Fetching -/

/-- What the second look at an expired entry finds, under the exclusive lock. -/
inductive Recheck where
  /-- somebody else has removed it -/
  | gone
  | expired
  /-- somebody else has renewed it -/
  | renewed
  deriving DecidableEq

/-- What a search for an item finds. -/
inductive ItemOutcome where
  | missing
  | found
  | expired (again : Recheck)
  deriving DecidableEq

/-- What a fetch meets. -/
structure FetchOutcome where
  /-- the query is empty -/
  noQuery : Bool
  item : ItemOutcome
  /-- there is no memory for a copy of the item -/
  noMemory : Bool
  deriving DecidableEq

/-- `pool_find_item_on_shmem_cache` -/
def poolFindItemOnShmemCache : ItemOutcome → LockM Bool
  | .missing => return false
  | .found => return true
  | .expired again => do
    poolShmemUnlock cfg
    poolShmemLock cfg .exclusive
    match again with
    | .gone => return false
    | .expired => do
      mutate cfg
      return false
    | .renewed => return true

/-- `pool_fetch_cache` -/
def poolFetchCache (o : FetchOutcome) : LockM Bool := do
  if o.noQuery then throw ()
  let found ← poolFindItemOnShmemCache cfg o.item
  if found && o.noMemory then throw ()
  return found

/-- `pool_fetch_from_memory_cache`, up to the point where the result is sent -/
def poolFetchFromMemoryCache (o : FetchOutcome) : LockM Bool := do
  poolShmemLock cfg .shared
  let found ← unlockOnError cfg (poolFetchCache cfg o)
  poolShmemUnlock cfg
  return found

/-! ## The relation cache -/

/-- What a lookup in the relation cache meets. -/
structure RelcacheOutcome where
  /-- it is in the cache of the process -/
  localHit : Bool
  fetch : FetchOutcome
  /-- `do_query` raises an ERROR -/
  error : Bool
  /-- the entry is not in the query cache yet -/
  isNew : Bool
  value : Int
  deriving DecidableEq

/-- The search of `pool_search_relcache` in the query cache. -/
def searchQueryCache (locked : Bool) (o : FetchOutcome) : LockM Bool := do
  if cfg.enableSharedRelcache then
    if !locked then poolShmemLock cfg .shared
    unlockOnError cfg (poolFetchCache cfg o)
  else return false

/-- `pool_catalog_commit_cache` -/
def poolCatalogCommitCache (isNew : Bool) : LockM Unit := do
  if isNew then mutate cfg

/-- What `pool_search_relcache` does with a query that is not in the query cache. -/
def askBackend (r : RelcacheOutcome) : LockM Unit := do
  if r.error then throw ()
  if cfg.enableSharedRelcache then
    poolShmemUnlock cfg
    poolShmemLock cfg .exclusive
    poolCatalogCommitCache cfg r.isNew

/-- `pool_search_relcache`, for what is not in the cache of the process -/
def lookUp (locked : Bool) (r : RelcacheOutcome) : LockM Int := do
  let found ← searchQueryCache cfg locked r.fetch
  if !found then askBackend cfg r
  if cfg.enableSharedRelcache && !locked then poolShmemUnlock cfg
  return r.value

/-- `pool_search_relcache` -/
def poolSearchRelcache (r : RelcacheOutcome) : LockM Int := do
  if r.localHit then return r.value
  let locked ← poolIsShmemLock
  lookUp cfg locked r

/-! ## Committing and invalidating -/

/-- What an operation on the store meets. -/
structure OpOutcome where
  /-- there is nothing to commit: the result is too large, or the query is empty -/
  rejected : Bool
  /-- the entry is not in the query cache yet -/
  isNew : Bool
  /-- there is room for the item -/
  added : Bool
  /-- the directories of the oid maps exist -/
  hasDir : Bool
  relcache : RelcacheOutcome
  deriving DecidableEq

/-- `pool_add_table_oid_map` -/
def poolAddTableOidMap (tableOids : List Int) (o : OpOutcome) : LockM Unit := do
  if o.hasDir then
    let dboid ← poolSearchRelcache cfg o.relcache
    if 0 < dboid then tableOids.forM fun _ => mutate cfg

/-- `pool_commit_cache` -/
def poolCommitCache (tableOids : List Int) (o : OpOutcome) : LockM Unit := do
  if !o.rejected && o.isNew then
    mutate cfg
    if o.added then poolAddTableOidMap cfg tableOids o

/-- The database that is invalidated, by default that of the session. -/
def invalidatedDb (dboid : Int) (r : RelcacheOutcome) : LockM Int :=
  if dboid = 0 then poolSearchRelcache cfg r else return dboid

/-- `pool_invalidate_query_cache` -/
def poolInvalidateQueryCache (tableOids : List Int) (dboid : Int) (o : OpOutcome) :
    LockM Unit := do
  if o.hasDir then
    let db ← invalidatedDb cfg dboid o.relcache
    if dboid ≠ 0 ∨ 0 < db then tableOids.forM fun _ => mutate cfg

/-- `pool_stats_count_up_num_selects` -/
def poolStatsCountUpNumSelects : LockM Unit := do
  poolSemaphoreLock
  poolSemaphoreUnlock

/-! ## The entry points -/

variable {α : Type}

/-- An operation of the handler on the shared cache. -/
def runOp (op : CacheOp α) (o : OpOutcome) : LockM Unit :=
  match op with
  | .commit _ _ tableOids => poolCommitCache cfg tableOids o
  | .invalidate tableOids dboid => poolInvalidateQueryCache cfg tableOids dboid o
  | .discardOidMapsByDb _ => mutate cfg
  | .countUpNumSelects _ => return ()

/-- Does the operation count a SELECT? -/
def isCount : CacheOp α → Bool
  | .countUpNumSelects _ => true
  | _ => false

/-- Does `pool_handle_query_cache` take the lock? -/
def takesLock (auto : Bool) (c : HandlerCall) (b : Buffers α) : Bool :=
  (c.cacheable && c.state = .idle && !b.poolIsCacheExceeded c) || c.node = .commit ||
    (poolHandleQueryCache auto c b).2.any fun op => !isCount op

/-- What a call of the handler meets: in the lookups of the tables of a SELECT, and in the
operations on the store. -/
structure HandlerOutcome where
  tables : List RelcacheOutcome
  op : Nat → OpOutcome

/-- `pool_extract_table_oids_from_select_stmt`: a lookup for each table -/
def extractTableOids : List RelcacheOutcome → LockM Unit
  | [] => return ()
  | r :: tables => do
    let _ ← poolSearchRelcache cfg r
    extractTableOids tables

/-- The part of the handler that has the lock. -/
def lockedPart (ops : List (CacheOp α)) (o : Nat → OpOutcome) : LockM Unit := do
  poolShmemLock cfg .exclusive
  ops.zipIdx.forM fun (op, i) => runOp cfg op (o i)
  poolShmemUnlock cfg

/-- `pool_handle_query_cache`: the operations of the handler, with the lock around them -/
def handleQueryCache (auto : Bool) (c : HandlerCall) (b : Buffers α) (o : HandlerOutcome) :
    LockM Unit := do
  if c.cacheable then extractTableOids cfg o.tables
  let ops := (poolHandleQueryCache auto c b).2
  if takesLock auto c b then lockedPart cfg ops o.op
  if ops.any isCount then poolStatsCountUpNumSelects

/-- The store is emptied; `pool_hash_reset` may reject the number of elements. -/
def clearStore (error : Bool) : LockM Unit := do
  mutate cfg
  if error then throw ()
  mutate cfg

/-- `pool_clear_memory_cache` -/
def poolClearMemoryCache (error : Bool) : LockM Unit := do
  poolShmemLock cfg .exclusive
  unlockOnError cfg (clearStore cfg error)
  poolShmemUnlock cfg

/-- `InvalidateQueryCache`, which unlocks the semaphore of the statistics and not the
store -/
def invalidateQueryCache (tableoid dboid : Int) (o : OpOutcome) : LockM Unit := do
  poolShmemLock cfg .exclusive
  poolInvalidateQueryCache cfg [tableoid] dboid o
  poolSemaphoreUnlock

/-- `query_cache_delete_by_stmt`, with the same mistake -/
def queryCacheDeleteByStmt (found : Bool) : LockM Bool := do
  poolShmemLock cfg .exclusive
  if found then mutate cfg
  poolSemaphoreUnlock
  return found

/-- A call from outside. -/
inductive LockCall (α : Type) where
  | fetch (o : FetchOutcome)
  | handle (auto : Bool) (c : HandlerCall) (b : Buffers α) (o : HandlerOutcome)
  | relcache (r : RelcacheOutcome)
  | clear (error : Bool)
  | invalidate (tableoid dboid : Int) (o : OpOutcome)
  | delete (found : Bool)

/-- The program behind a call. -/
def program : LockCall α → LockM Unit
  | .fetch o => do
    let _ ← poolFetchFromMemoryCache cfg o
  | .handle auto c b o => handleQueryCache cfg auto c b o
  | .relcache r => do
    let _ ← poolSearchRelcache cfg r
  | .clear error => poolClearMemoryCache cfg error
  | .invalidate tableoid dboid o => invalidateQueryCache cfg tableoid dboid o
  | .delete found => do
    let _ ← queryCacheDeleteByStmt cfg found

/-- One call after the other; an ERROR ends a call, not the process. -/
def lockRun (s : LockState) (calls : List (LockCall α)) : LockState :=
  calls.foldl (fun s call => (program cfg call).final s) s

/-- Nothing is held. -/
def lockStart : LockState := ⟨none, false, []⟩

/-! ## What the functions do to the lock -/

/-- The lock is held in the flavour `l`, and so far everything was allowed.  Without shared
memory there is no lock. -/
def At (l : Option Flavour) (s : LockState) : Prop :=
  s.held = (if cfg.shmem then l else none) ∧ s.statsHeld = false ∧ ∀ a ∈ s.trace, a.Allowed

/-- The lock is held in the given flavour or in the exclusive one. -/
def AtLeast (type : Flavour) (s : LockState) : Prop :=
  At cfg (some type) s ∨ At cfg (some .exclusive) s

/-- The exclusive lock is held. -/
abbrev Exclusive : LockState → Prop := At cfg (some .exclusive)

variable {type : Flavour}

theorem poolShmemLock_spec :
    Ends (At cfg none) (poolShmemLock cfg type) (At cfg (some type)) fun _ => False := by
  refine EStateM.triple_modify fun s hs => ?_
  obtain ⟨hheld, hstats, htrace⟩ := hs
  cases hm : cfg.shmem <;> simp_all [At]

variable {l : Option Flavour}

theorem poolShmemUnlock_spec (l : Option Flavour) :
    Ends (At cfg l) (poolShmemUnlock cfg) (At cfg none) fun _ => False := by
  refine EStateM.triple_modify fun s hs => ?_
  obtain ⟨hheld, hstats, htrace⟩ := hs
  cases hm : cfg.shmem <;> cases hl : l <;> simp_all [At]

theorem mutate_spec : Ends (Exclusive cfg) (mutate cfg) (Exclusive cfg) fun _ => False := by
  refine EStateM.triple_modify fun s hs => ?_
  obtain ⟨hheld, hstats, htrace⟩ := hs
  cases hm : cfg.shmem <;> simp_all [At, LockAction.Allowed]

variable {tableOids : List Int}

theorem mutations_spec : Ends (Exclusive cfg) (tableOids.forM fun _ => mutate cfg) (Exclusive cfg)
      fun _ => False := by
  induction tableOids with
  | nil => mvcgen [List.forM]
  | cons oid tableOids ih => mvcgen [List.forM, mutate_spec, ih]

theorem poolFindItemOnShmemCache_spec (item : ItemOutcome) :
    Ends (At cfg (some type)) (poolFindItemOnShmemCache cfg item) (AtLeast cfg type)
      fun _ => False := by
  mvcgen [poolFindItemOnShmemCache, poolShmemLock_spec, poolShmemUnlock_spec, mutate_spec]
    with grind [AtLeast]

variable {o : FetchOutcome}

theorem poolFetchCache_spec (type : Flavour) (o : FetchOutcome) :
    Ends (At cfg (some type)) (poolFetchCache cfg o) (AtLeast cfg type) (AtLeast cfg type) := by
  mvcgen [poolFetchCache, poolFindItemOnShmemCache_spec] with grind [AtLeast]

theorem unlockOnError_spec {β : Type} {p : LockM β} {P : LockState → Prop} {type : Flavour}
    (hp : Ends P p (AtLeast cfg type) (AtLeast cfg type)) :
    Ends P (unlockOnError cfg p) (AtLeast cfg type) (At cfg none) := by
  have hunlock := EStateM.triple_or (poolShmemUnlock_spec cfg (some type))
    (poolShmemUnlock_spec cfg (some .exclusive))
  mvcgen [unlockOnError, hp, hunlock] with exact id

theorem poolFetchFromMemoryCache_spec :
    Ends (At cfg none) (poolFetchFromMemoryCache cfg o) (At cfg none) (At cfg none) := by
  have hfetch := unlockOnError_spec cfg (poolFetchCache_spec cfg .shared o)
  have hunlock := EStateM.triple_or (poolShmemUnlock_spec cfg (some .shared))
    (poolShmemUnlock_spec cfg (some .exclusive))
  mvcgen [poolFetchFromMemoryCache, poolShmemLock_spec, hfetch, hunlock]

/-! ### Lookups -/

/-- The lookup ends in an ERROR while the lock is held, by itself or by its caller. -/
def RelcacheOutcome.leaks (locked : Bool) (r : RelcacheOutcome) : Bool :=
  cfg.shmem && (cfg.enableSharedRelcache || locked) && !r.localHit && r.error

theorem poolCatalogCommitCache_spec (isNew : Bool) :
    Ends (Exclusive cfg) (poolCatalogCommitCache cfg isNew) (Exclusive cfg) fun _ => False := by
  mvcgen [poolCatalogCommitCache, mutate_spec]

variable {r : RelcacheOutcome}

/-- With the shared relation cache an answer of the backend is stored under the exclusive
lock, whatever was held before. -/
theorem askBackend_spec (l : Option Flavour) (r : RelcacheOutcome) :
    Ends (At cfg l) (askBackend cfg r)
      (fun s => At cfg (if cfg.enableSharedRelcache then some .exclusive else l) s)
      fun s => r.error = true ∧ At cfg l s := by
  mvcgen [askBackend, poolShmemLock_spec, poolShmemUnlock_spec, poolCatalogCommitCache_spec]
    with grind

theorem searchQueryCache_top (o : FetchOutcome) : Ends (At cfg none) (searchQueryCache cfg false o)
      (fun s => if cfg.enableSharedRelcache then AtLeast cfg .shared s else At cfg none s)
        (At cfg none) := by
  have hfetch := unlockOnError_spec cfg (poolFetchCache_spec cfg .shared o)
  mvcgen [searchQueryCache, poolShmemLock_spec, hfetch] with grind

theorem searchQueryCache_inside : Ends (Exclusive cfg) (searchQueryCache cfg true o) (Exclusive cfg)
      (At cfg none) := by
  have hfetch := unlockOnError_spec cfg (poolFetchCache_spec cfg .exclusive o)
  mvcgen [searchQueryCache, hfetch] with grind [AtLeast]

theorem at_of_not_shmem (h : cfg.shmem = false) (l' : Option Flavour) : At cfg l = At cfg l' := by
  funext s
  simp [At, h]

theorem askBackend_shared (hshared : cfg.enableSharedRelcache = true) (type : Flavour)
    (r : RelcacheOutcome) :
    Ends (AtLeast cfg type) (askBackend cfg r) (At cfg (some .exclusive)) fun s => r.error = true ∧
      AtLeast cfg type s := by
  have hexcl : (if cfg.enableSharedRelcache then some .exclusive else some type) =
      some Flavour.exclusive := if_pos hshared
  refine EStateM.triple_or ?_ ?_
  · refine EStateM.triple_mono (askBackend_spec cfg (some type) r) ?_ ?_
    · exact fun _ s hs => hexcl ▸ hs
    · exact fun _ s hs => ⟨hs.1, .inl hs.2⟩
  · refine EStateM.triple_mono (askBackend_spec cfg (some .exclusive) r) ?_ ?_
    · exact fun _ s hs => (ite_self (some Flavour.exclusive)) ▸ hs
    · exact fun _ s hs => ⟨hs.1, .inr hs.2⟩

theorem at_none_of_error {locked : Bool} {r : RelcacheOutcome} {l : Option Flavour} {s : LockState}
    (hl : r.localHit = false) (hr : r.leaks cfg locked = false)
    (hlock : cfg.enableSharedRelcache = true ∨ locked = true) (he : r.error = true)
    (hs : At cfg l s) : At cfg none s := by
  have hshmem : cfg.shmem = false := by
    rcases hlock with hlock | hlock <;> simpa [RelcacheOutcome.leaks, hl, he, hlock] using hr
  rwa [at_of_not_shmem cfg hshmem none] at hs

theorem lookUp_top (hl : r.localHit = false) (hr : r.leaks cfg false = false) :
    Ends (At cfg none) (lookUp cfg false r) (At cfg none) (At cfg none) := by
  have hsearch := searchQueryCache_top cfg r.fetch
  by_cases hshared : cfg.enableSharedRelcache = true
  · have hask := askBackend_shared cfg hshared .shared r
    have hunlock := EStateM.triple_or (poolShmemUnlock_spec cfg (some .shared))
      (poolShmemUnlock_spec cfg (some .exclusive))
    have herror := fun l s => at_none_of_error cfg (l := l) (s := s) hl hr (.inl hshared)
    simp only [hshared, if_true] at hsearch
    mvcgen [lookUp, hsearch, hask, hunlock] with grind [AtLeast]
  · have hask := askBackend_spec cfg none r
    simp only [hshared, Bool.false_eq_true, if_false] at hsearch hask
    mvcgen [lookUp, hsearch, hask] with grind

theorem lookUp_inside (hl : r.localHit = false) (hr : r.leaks cfg true = false) :
    Ends (Exclusive cfg) (lookUp cfg true r) (Exclusive cfg) (At cfg none) :=
      by
  have hask := askBackend_spec cfg (some .exclusive) r
  have herror := fun l s => at_none_of_error cfg (l := l) (s := s) hl hr (.inr rfl)
  simp only [ite_self] at hask
  mvcgen [lookUp, searchQueryCache_inside, hask] with grind

theorem poolSearchRelcache_spec {r : RelcacheOutcome} {l : Option Flavour} {E : LockState → Prop}
    (hlook : r.localHit = false →
      Ends (At cfg l) (lookUp cfg (cfg.shmem && l.isSome) r) (At cfg l) E) :
    Ends (At cfg l) (poolSearchRelcache cfg r) (At cfg l) E := by
  refine EStateM.triple_iff.2 ?_
  intro s hs
  by_cases hl : r.localHit = true
  · have hrun : poolSearchRelcache cfg r s = .ok r.value s := by
      simp only [poolSearchRelcache, hl, if_true]
      rfl
    rw [hrun]
    exact ⟨fun a s' h => by cases h; exact hs, fun e s' h => by cases h⟩
  · have hrun : poolSearchRelcache cfg r s = lookUp cfg (cfg.shmem && l.isSome) r s := by
      have hlocked : s.held.isSome = (cfg.shmem && l.isSome) := by
        rw [hs.1]
        cases cfg.shmem <;> rfl
      rw [← hlocked]
      simp only [poolSearchRelcache, hl]
      rfl
    rw [hrun]
    exact EStateM.triple_iff.1 (hlook (by simpa using hl)) s hs

theorem poolSearchRelcache_top (hr : r.leaks cfg false = false) :
    Ends (At cfg none) (poolSearchRelcache cfg r) (At cfg none) (At cfg none) := by
  refine poolSearchRelcache_spec cfg fun hl => ?_
  rw [Option.isSome_none, Bool.and_false]
  exact lookUp_top cfg hl hr

/-- A lookup by a caller that has the exclusive lock: an ERROR of the fetch releases the
lock of the caller. -/
theorem poolSearchRelcache_inside (hr : r.leaks cfg true = false) :
    Ends (Exclusive cfg) (poolSearchRelcache cfg r) (Exclusive cfg) (At cfg none) := by
  refine poolSearchRelcache_spec cfg fun hl => ?_
  rw [Option.isSome_some, Bool.and_true]
  cases hshmem : cfg.shmem with
  | false =>
    rw [at_of_not_shmem cfg hshmem none]
    exact lookUp_top cfg hl (by simp [RelcacheOutcome.leaks, hshmem])
  | true => exact lookUp_inside cfg hl hr

/-! ### Operations -/

variable {o : OpOutcome}

theorem poolAddTableOidMap_spec (tableOids : List Int) (ho : o.relcache.leaks cfg true = false) :
    Ends (Exclusive cfg) (poolAddTableOidMap cfg tableOids o) (Exclusive cfg) (At cfg none) := by
  mvcgen [poolAddTableOidMap, poolSearchRelcache_inside, mutations_spec] with exact id

theorem poolCommitCache_spec (tableOids : List Int) (ho : o.relcache.leaks cfg true = false) :
    Ends (Exclusive cfg) (poolCommitCache cfg tableOids o) (Exclusive cfg) (At cfg none) := by
  have hmap := poolAddTableOidMap_spec cfg tableOids ho
  mvcgen [poolCommitCache, mutate_spec, hmap]

theorem poolInvalidateQueryCache_spec (tableOids : List Int) (dboid : Int)
    (ho : o.relcache.leaks cfg true = false) :
    Ends (Exclusive cfg) (poolInvalidateQueryCache cfg tableOids dboid o)
      (Exclusive cfg) (At cfg none) := by
  mvcgen [poolInvalidateQueryCache, invalidatedDb, poolSearchRelcache_inside, mutations_spec]
    with exact id

theorem runOp_spec (op : CacheOp α) (ho : o.relcache.leaks cfg true = false) :
    Ends (Exclusive cfg) (runOp cfg op o) (Exclusive cfg) (At cfg none) := by
  have hcommit := fun tableOids => poolCommitCache_spec cfg tableOids ho
  have hinvalidate := fun tableOids dboid => poolInvalidateQueryCache_spec cfg tableOids dboid ho
  mvcgen [runOp, hcommit, hinvalidate, mutate_spec] with exact id

theorem runOps_spec (ops : List (CacheOp α × Nat)) (o : Nat → OpOutcome)
    (ho : ∀ i, (o i).relcache.leaks cfg true = false) :
    Ends (Exclusive cfg) (ops.forM fun (op, i) => runOp cfg op (o i))
      (Exclusive cfg) (At cfg none) := by
  have hop := fun (op : CacheOp α) i => runOp_spec cfg op (ho i)
  induction ops with
  | nil => mvcgen [List.forM]
  | cons op ops ih => mvcgen [List.forM, hop, ih]

theorem lockedPart_spec (ops : List (CacheOp α)) (o : Nat → OpOutcome)
    (ho : ∀ i, (o i).relcache.leaks cfg true = false) :
    Ends (At cfg none) (lockedPart cfg ops o) (At cfg none) (At cfg none) := by
  mvcgen [lockedPart, poolShmemLock_spec, runOps_spec, poolShmemUnlock_spec] with exact id

theorem poolStatsCountUpNumSelects_spec :
    Ends (At cfg none) poolStatsCountUpNumSelects (At cfg none) fun _ => False := by
  refine EStateM.triple_iff.2 ?_
  rintro s ⟨hheld, hstats, htrace⟩
  constructor
  · rintro a s' ⟨⟩
    refine ⟨hheld, rfl, ?_⟩
    rintro a (_ | ⟨_, ha⟩)
    · exact rfl
    · exact htrace a ha
  · rintro e s' ⟨⟩

theorem extractTableOids_spec (tables : List RelcacheOutcome)
    (ht : ∀ r ∈ tables, r.leaks cfg false = false) :
    Ends (At cfg none) (extractTableOids cfg tables) (At cfg none) (At cfg none) := by
  induction tables with
  | nil => mvcgen [extractTableOids]
  | cons r tables ih =>
    have hsearch := poolSearchRelcache_top cfg (ht r List.mem_cons_self)
    have hrest := ih fun r hr => ht r (List.mem_cons_of_mem _ hr)
    mvcgen [extractTableOids, hsearch, hrest]

theorem handleQueryCache_spec (auto : Bool) (c : HandlerCall) (b : Buffers α)
    (o : HandlerOutcome) (ht : ∀ r ∈ o.tables, r.leaks cfg false = false)
    (ho : ∀ i, (o.op i).relcache.leaks cfg true = false) :
    Ends (At cfg none) (handleQueryCache cfg auto c b o) (At cfg none) (At cfg none) := by
  mvcgen [handleQueryCache, extractTableOids_spec, lockedPart_spec, poolStatsCountUpNumSelects_spec]
    with exact id

theorem poolClearMemoryCache_spec (error : Bool) :
    Ends (At cfg none) (poolClearMemoryCache cfg error) (At cfg none) (At cfg none) := by
  have hclear : Ends (Exclusive cfg) (clearStore cfg error) (AtLeast cfg .exclusive)
    (AtLeast cfg .exclusive) := by
    mvcgen [clearStore, mutate_spec] with grind [AtLeast]
  have hcaught := unlockOnError_spec cfg hclear
  have hunlock := EStateM.triple_or (poolShmemUnlock_spec cfg (some .exclusive))
    (poolShmemUnlock_spec cfg (some .exclusive))
  mvcgen [poolClearMemoryCache, poolShmemLock_spec, hcaught, hunlock] with exact id

/-! ## Sequences of calls -/

/-- No ERROR of a lookup leaves the lock behind, and the function is none of the two that
do so without an ERROR. -/
def LockCall.Sound : LockCall α → Prop
  | .fetch _ | .clear _ => True
  | .handle _ _ _ o =>
    (∀ r ∈ o.tables, r.leaks cfg false = false) ∧ ∀ i, (o.op i).relcache.leaks cfg true = false
  | .relcache r => r.leaks cfg false = false
  | .invalidate .. | .delete _ => False

/-- **Every entry point gives the lock back**, also if it ends in an ERROR. -/
theorem program_spec (call : LockCall α) (hcall : call.Sound cfg) :
    Ends (At cfg none) (program cfg call) (At cfg none) (At cfg none) := by
  cases call with
  | fetch o =>
    mvcgen [program, poolFetchFromMemoryCache_spec]
  | handle auto c b o => exact handleQueryCache_spec cfg auto c b o hcall.1 hcall.2
  | relcache r =>
    mvcgen [program, poolSearchRelcache_top]
  | clear error => exact poolClearMemoryCache_spec cfg error
  | invalidate tableoid dboid o => exact hcall.elim
  | delete found => exact hcall.elim

theorem at_lockRun {calls : List (LockCall α)} (hcalls : ∀ call ∈ calls, call.Sound cfg)
    {s : LockState} (hs : At cfg none s) : At cfg none (lockRun cfg s calls) := by
  induction calls generalizing s with
  | nil => exact hs
  | cons call calls ih =>
    have hcall := program_spec cfg call (hcalls call List.mem_cons_self)
    refine ih (fun call h => hcalls call (List.mem_cons_of_mem _ h)) ?_
    exact EStateM.final_of_triple hcall hs

/-- The discipline of the lock, for a process between two calls. -/
def Disciplined (s : LockState) : Prop :=
  s.held = none ∧ ∀ a ∈ s.trace, a.Allowed

/-- **Lock discipline.**  After any sequence of calls none of which meets an ERROR while it
has the lock, and none of which is `InvalidateQueryCache` or `query_cache_delete_by_stmt`,
the lock is free as it was before, every change of the store was made under the exclusive
lock, and the semaphore was unlocked by its owner only. -/
theorem lock_discipline (cfg : LockConfig) (calls : List (LockCall α))
    (hcalls : ∀ call ∈ calls, call.Sound cfg) : Disciplined (lockRun cfg lockStart calls) := by
  have hstart : At cfg none lockStart := by simp [At, lockStart]
  obtain ⟨hheld, -, htrace⟩ := at_lockRun cfg hcalls hstart
  exact ⟨by simpa using hheld, htrace⟩

/-! ## Three calls -/

/-- Shared memory and a shared relation cache. -/
def sharedConfig : LockConfig := ⟨true, true⟩

/-- A lookup that is in no cache; the backend answers or raises an ERROR. -/
def unknownTable (error : Bool) : RelcacheOutcome where
  localHit := false
  fetch := ⟨false, .missing, false⟩
  error := error
  isNew := true
  value := 16384

/-- A result is committed without any trouble. -/
def committed : OpOutcome := ⟨false, true, true, true, { unknownTable false with localHit := true }⟩

/-- The end of a cacheable SELECT outside a transaction. -/
def selectCall : HandlerCall where
  query := none
  node := .select
  state := .idle
  partialFetch := false
  isCacheSafe := true
  queryCacheDisabled := false
  queryInProgress := true
  selectOids := [1]
  skipCacheCommit := false
  slExtended := false
  canDestroy := true
  dboid := 0
  dropdbOids := []
  select_of_safe := fun _ => rfl
  select_of_partial := fun h => by cases h

/-- A result has been collected. -/
def selectBuffers : Buffers Unit := ⟨[], [], some ⟨none, [()], [], 0, false, false⟩, 0⟩

/-- The `SELECT` ends outside a transaction. -/
def selectEnds : LockCall Unit := .handle true selectCall selectBuffers ⟨[], fun _ => committed⟩

/-- A lookup that the backend answers, and a result that is committed. -/
theorem lock_discipline_of_answer : Disciplined (lockRun sharedConfig lockStart
      [LockCall.relcache (unknownTable false), selectEnds]) := by
  refine lock_discipline sharedConfig _ ?_
  intro call hcall
  simp only [List.mem_cons, List.not_mem_nil, or_false] at hcall
  rcases hcall with rfl | rfl
  · exact rfl
  · refine ⟨?_, fun _ => rfl⟩
    intro r hr
    cases hr

/-- A lookup in which the backend raises an ERROR. -/
def failedLookup : LockCall Unit := .relcache (unknownTable true)

/-- `InvalidateQueryCache` -/
def invalidation : LockCall Unit := .invalidate 1 5 committed

/-- An ERROR of the backend in a lookup leaves the shared lock behind, and the next result
is stored under it.  The invalidation keeps the lock, and unlocks a semaphore it has not
locked. -/
theorem lock_discipline_broken :
    (lockRun sharedConfig lockStart [failedLookup]).held = some .shared ∧ .mutate (some .shared) ∈
        (lockRun sharedConfig lockStart [failedLookup, selectEnds]).trace ∧
      lockRun sharedConfig lockStart [invalidation] =
        ⟨some .exclusive, false, [.unlockStats false, .mutate (some .exclusive)]⟩ ∧
      ¬ Disciplined (lockRun sharedConfig lockStart [failedLookup, selectEnds]) ∧
      ¬ Disciplined (lockRun sharedConfig lockStart [invalidation]) := by
  have hmutate : .mutate (some .shared) ∈
      (lockRun sharedConfig lockStart [failedLookup, selectEnds]).trace := by decide +kernel
  have hkept : lockRun sharedConfig lockStart [invalidation] =
      ⟨some .exclusive, false, [.unlockStats false, .mutate (some .exclusive)]⟩ := by
    decide +kernel
  refine ⟨by decide +kernel, hmutate, hkept, fun h => ?_, fun h => ?_⟩
  · cases h.2 _ hmutate
  · rw [hkept] at h
    cases h.1

end PgBalancer.QueryCache.Lock
