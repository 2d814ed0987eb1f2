import PgBalancer.QueryCache.Key

/-!
# The query cache handler

At the end of a statement (`CommandComplete` for an extended query in streaming
replication mode, `ReadyForQuery` otherwise) `pool_handle_query_cache` decides
what happens to the result that was collected and to the table oids the
statements so far have written to.  Outside a transaction it commits or
invalidates at once; inside one it only keeps book, and the COMMIT branch hands
over what was kept.

The handler is a function of what one call reads (`HandlerCall`) and of the
buffers of the session (`Buffers`).  It returns the new buffers and the operations
it performs on the shared cache, in order.  Messages of a result are of an
arbitrary type: the handler moves them around and never looks inside.

* `commit_hands_over_iff` — **COMMIT hands over every oid the transaction has
  recorded exactly when each oid recorded before a call that empties the buffer is
  recorded again after it.**  A row-limited fetch of a cacheable SELECT is such a
  call.
-/

namespace PgBalancer.QueryCache

open List

/-- The transaction state reported by the last `ReadyForQuery` of the backend:
`'I'`, `'T'` or `'E'`. -/
inductive TState where
  | idle
  | transaction
  | failed
  deriving DecidableEq

/-- The statements that `pool_handle_query_cache` tells apart. -/
inductive NodeKind where
  /-- `SelectStmt` -/
  | select
  /-- `TransactionStmt` of kind `TRANS_STMT_ROLLBACK`; `ROLLBACK TO` is not one -/
  | rollback
  /-- `TransactionStmt` of kind `TRANS_STMT_COMMIT` -/
  | commit
  /-- `DropdbStmt` -/
  | dropDatabase
  | other
  deriving DecidableEq

/-! ## Temporary caches -/

/-- `POOL_TEMP_QUERY_CACHE`: the result of a SELECT while it is collected. -/
structure TempCache (α : Type) where
  /-- the text the result will be committed under; `none` is the null pointer -/
  query : Option CString
  buffer : List α
  oids : List Int
  numOids : Nat
  isExceeded : Bool
  isDiscarded : Bool
  deriving DecidableEq

/-- `pool_create_temp_query_cache` -/
def poolCreateTempQueryCache {α : Type} (query : Option CString) : TempCache α :=
  ⟨query, [], [], 0, false, false⟩

/-- `pool_add_oids_temp_query_cache` -/
def poolAddOidsTempQueryCache {α : Type} (cache : TempCache α) (oids : List Int) : TempCache α :=
  if oids = [] then cache
  else { cache with oids := cache.oids ++ oids, numOids := oids.length }

/-- What `pool_check_and_discard_cache_buffer` does to one cache: it is marked
when it shares a table with `oids`. -/
def discardIfShared {α : Type} (oids : List Int) (cache : TempCache α) : TempCache α :=
  if !cache.isDiscarded && (cache.oids.take cache.numOids).any (oids.contains ·) then
    { cache with isDiscarded := true }
  else cache

/-! ## What a call reads and what it changes -/

/-- What `pool_handle_query_cache` reads beside the buffers: its arguments, flags
of the session and of the current query context, and what the parse tree and the
oid directory yield.  Only a SELECT is ever marked cache safe, and the same check
guards the flag of a partial fetch. -/
structure HandlerCall where
  query : Option CString
  node : NodeKind
  state : TState
  partialFetch : Bool
  /-- `pool_is_cache_safe()` -/
  isCacheSafe : Bool
  /-- `query_cache_disabled()` -/
  queryCacheDisabled : Bool
  /-- `pool_is_query_in_progress() && query_context` -/
  queryInProgress : Bool
  /-- `pool_extract_table_oids_from_select_stmt` -/
  selectOids : List Int
  skipCacheCommit : Bool
  /-- `SL_MODE && pool_is_doing_extended_query_message()` -/
  slExtended : Bool
  /-- `can_query_context_destroy(query_context)` -/
  canDestroy : Bool
  dboid : Int
  /-- `pool_get_dropdb_table_oids` -/
  dropdbOids : List Int
  select_of_safe : isCacheSafe = true → node = .select
  select_of_partial : partialFetch = true → node = .select

/-- The first test of the handler: may the result be cached? -/
def HandlerCall.cacheable (c : HandlerCall) : Bool :=
  !c.partialFetch && c.isCacheSafe && !c.queryCacheDisabled

theorem HandlerCall.select_of_cacheable {c : HandlerCall} (h : c.cacheable = true) :
    c.partialFetch = false ∧ c.node = .select := by
  simp only [cacheable, Bool.and_eq_true, Bool.not_eq_true'] at h
  exact ⟨h.1.1, c.select_of_safe h.1.2⟩

/-- The buffers of a session. -/
structure Buffers (α : Type) where
  /-- `oidbuf`, the first `oidbufp` entries: the tables written to so far -/
  oidbuf : List Int
  /-- `query_cache_array`: the results of the transaction so far -/
  cacheArray : List (Option (TempCache α))
  /-- `temp_cache` of the current query context -/
  tempCache : Option (TempCache α)
  /-- SELECTs of the transaction, for the statistics -/
  tmpSelects : Nat

/-- What a call does to the shared cache, with the arguments it passes. -/
inductive CacheOp (α : Type) where
  /-- `pool_commit_cache` -/
  | commit (query : Option CString) (data : List α) (tableOids : List Int)
  /-- `pool_invalidate_query_cache` -/
  | invalidate (tableOids : List Int) (dboid : Int)
  /-- `pool_discard_oid_maps_by_db` -/
  | discardOidMapsByDb (dboid : Int)
  /-- `pool_stats_count_up_num_selects` -/
  | countUpNumSelects (n : Nat)
  deriving DecidableEq

variable {α : Type}

/-! ## Buffer functions -/

/-- `pool_add_dml_table_oid` -/
def poolAddDmlTableOid (oidbuf : List Int) (oid : Int) : List Int :=
  if oid = 0 ∨ oid ∈ oidbuf then oidbuf else oidbuf ++ [oid]

namespace Buffers

/-- The buffers of a session that has done nothing yet. -/
def empty : Buffers α := ⟨[], [], none, 0⟩

/-- `pool_is_cache_exceeded`: without a temporary cache there is nothing to keep. -/
def poolIsCacheExceeded (c : HandlerCall) (b : Buffers α) : Bool :=
  c.queryInProgress &&
    match b.tempCache with
    | some cache => cache.isExceeded
    | none => true

/-- `pool_reset_memqcache_buffer` -/
def poolResetMemqcacheBuffer (c : HandlerCall) (resetDmlOids : Bool) (b : Buffers α) :
    Buffers α where
  oidbuf := if resetDmlOids then [] else b.oidbuf
  cacheArray := []
  tempCache := if c.slExtended || c.canDestroy then none else b.tempCache
  tmpSelects := 0

/-- `pool_check_and_discard_cache_buffer` -/
def poolCheckAndDiscardCacheBuffer (oids : List Int) (b : Buffers α) : Buffers α :=
  { b with cacheArray := b.cacheArray.map (·.map (discardIfShared oids)) }

/-- `pool_tmp_stats_count_up_num_selects` -/
def poolTmpStatsCountUpNumSelects (b : Buffers α) : Buffers α :=
  { b with tmpSelects := b.tmpSelects + 1 }

/-- The step from one statement to the next: the calls of `pool_add_dml_table_oid`
for the tables it writes to. -/
def recordOids (oids : List Int) (b : Buffers α) : Buffers α :=
  { b with oidbuf := oids.foldl poolAddDmlTableOid b.oidbuf }

end Buffers

open Buffers

/-! ## The handler -/

/-- A cacheable SELECT outside a transaction: the collected result is committed
and the temporary cache starts over. -/
def commitCurrent (c : HandlerCall) (b : Buffers α) : Buffers α × List (CacheOp α) :=
  match b.tempCache with
  | none => (b, [])
  | some cache =>
    if b.poolIsCacheExceeded c || cache.buffer.isEmpty then (b, [])
    else
      ({ b with tempCache := if c.slExtended then none
        else some (poolCreateTempQueryCache c.query) },
        if c.skipCacheCommit then [] else [.commit c.query cache.buffer c.selectOids])

/-- A cacheable SELECT inside a transaction: the collected result is kept for the
COMMIT, unless it has grown too large. -/
def keepForCommit (c : HandlerCall) (b : Buffers α) : Buffers α :=
  let cache := b.tempCache.map (poolAddOidsTempQueryCache · c.selectOids)
  if b.poolIsCacheExceeded c then { b with tempCache := none }
  else { b with cacheArray := b.cacheArray ++ [cache], tempCache := none }

/-- The loop of the COMMIT branch over `query_cache_array`. -/
def commitArray : List (Option (TempCache α)) → List (CacheOp α)
  | [] => []
  | none :: caches => commitArray caches
  | some cache :: caches =>
    if cache.isDiscarded then commitArray caches
    else .commit cache.query cache.buffer (cache.oids.take cache.numOids) :: commitArray caches

/-- `pool_handle_query_cache`, where `auto` is `memqcache_auto_cache_invalidation`. -/
def poolHandleQueryCache (auto : Bool) (c : HandlerCall) (b : Buffers α) :
    Buffers α × List (CacheOp α) :=
  if c.cacheable then
    if c.state = .idle then
      let (b, ops) := commitCurrent c b
      (b.poolResetMemqcacheBuffer c true, ops ++ [.countUpNumSelects 1])
    else ((keepForCommit c b).poolTmpStatsCountUpNumSelects, [])
  else if c.node = .rollback then (b.poolResetMemqcacheBuffer c true, [])
  else if c.partialFetch then (b.poolResetMemqcacheBuffer c true, [])
  else if c.node = .commit then
    (b.poolResetMemqcacheBuffer c true,
      (if auto then [.invalidate b.oidbuf 0] else []) ++ commitArray b.cacheArray ++
        [.countUpNumSelects b.tmpSelects])
  else if c.node = .select then
    if c.state = .idle then
      (b.poolResetMemqcacheBuffer c true,
        (if b.oidbuf ≠ [] ∧ auto = true then [.invalidate b.oidbuf 0] else []) ++
          [.countUpNumSelects 1])
    else if b.oidbuf ≠ [] ∧ auto = true then
      (((b.poolCheckAndDiscardCacheBuffer b.oidbuf).poolResetMemqcacheBuffer c
        false).poolTmpStatsCountUpNumSelects, [])
    else (b.poolTmpStatsCountUpNumSelects, [])
  else if c.node = .dropDatabase ∧ c.dboid ≠ 0 then
    if c.dropdbOids ≠ [] ∧ auto = true then
      (b.poolResetMemqcacheBuffer c true,
        [.invalidate c.dropdbOids c.dboid, .discardOidMapsByDb c.dboid])
    else (b, [])
  else if b.oidbuf ≠ [] ∧ auto = true then
    if c.state = .idle then (b.poolResetMemqcacheBuffer c true, [.invalidate b.oidbuf 0])
    else
      ((b.poolCheckAndDiscardCacheBuffer b.oidbuf).poolResetMemqcacheBuffer c false, [])
  else if b.oidbuf = [] then (b.poolResetMemqcacheBuffer c true, [])
  else (b, [])

/-! ## The buffer of written oids -/

/-- A call after which the buffer of written oids is empty whatever it held: a
partial fetch, a DROP DATABASE that found something to drop, and any other
statement in state `'I'`. -/
def HandlerCall.Forgets (c : HandlerCall) : Prop :=
  c.partialFetch = true ∨
    if c.node = .dropDatabase ∧ c.dboid ≠ 0 then c.dropdbOids ≠ [] else c.state = .idle

instance (c : HandlerCall) : Decidable c.Forgets :=
  inferInstanceAs (Decidable (c.partialFetch = true ∨
    if c.node = .dropDatabase ∧ c.dboid ≠ 0 then c.dropdbOids ≠ [] else c.state = .idle))

/-- A call for a statement that leaves the transaction open. -/
def HandlerCall.Intermediate (c : HandlerCall) : Prop := c.node ≠ .commit ∧ c.node ≠ .rollback

@[simp] theorem oidbuf_reset (c : HandlerCall) (resetDmlOids : Bool) (b : Buffers α) :
    (b.poolResetMemqcacheBuffer c resetDmlOids).oidbuf = if resetDmlOids then [] else b.oidbuf :=
  rfl

@[simp] theorem oidbuf_checkAndDiscard (oids : List Int) (b : Buffers α) :
    (b.poolCheckAndDiscardCacheBuffer oids).oidbuf = b.oidbuf := rfl

@[simp] theorem oidbuf_countUp (b : Buffers α) :
    b.poolTmpStatsCountUpNumSelects.oidbuf = b.oidbuf := rfl

@[simp] theorem oidbuf_keepForCommit (c : HandlerCall) (b : Buffers α) :
    (keepForCommit c b).oidbuf = b.oidbuf := by
  unfold keepForCommit
  split <;> rfl

/-- With automatic invalidation on, a call for a statement inside a transaction
empties the buffer of written oids or leaves it as it was. -/
theorem oidbuf_handle {c : HandlerCall} (hc : c.Intermediate) (b : Buffers α) :
    (poolHandleQueryCache true c b).1.oidbuf = if c.Forgets then [] else b.oidbuf := by
  obtain ⟨hcommit, hrollback⟩ := hc
  unfold poolHandleQueryCache HandlerCall.Forgets
  by_cases hcacheable : c.cacheable = true
  · obtain ⟨hp, hnode⟩ := HandlerCall.select_of_cacheable hcacheable
    by_cases hs : c.state = .idle <;> simp [hcacheable, hp, hnode, hs]
  by_cases hp : c.partialFetch = true
  · simp [hcacheable, hp, hrollback]
  obtain ⟨kind, hnode⟩ : ∃ kind, c.node = kind := ⟨_, rfl⟩
  cases kind with
  | commit => exact absurd hnode hcommit
  | rollback => exact absurd hnode hrollback
  | select =>
    by_cases hs : c.state = .idle <;> by_cases hb : b.oidbuf = [] <;>
      simp [hcacheable, hp, hnode, hs, hb]
  | dropDatabase =>
    by_cases hd : c.dboid = 0
    -- an unknown database: the statement is handled as any other DDL
    · by_cases hs : c.state = .idle <;> by_cases hb : b.oidbuf = [] <;>
        simp [hcacheable, hp, hnode, hd, hs, hb]
    · by_cases hoids : c.dropdbOids = [] <;> simp [hcacheable, hp, hnode, hd, hoids]
  | other =>
    by_cases hs : c.state = .idle <;> by_cases hb : b.oidbuf = [] <;>
      simp [hcacheable, hp, hnode, hs, hb]

/-- What the operations of a call invalidate in the database of the session. -/
def invalidated : List (CacheOp α) → List Int
  | [] => []
  | .invalidate oids 0 :: ops => oids ++ invalidated ops
  | _ :: ops => invalidated ops

@[simp] theorem invalidated_commitArray (caches : List (Option (TempCache α)))
    (ops : List (CacheOp α)) : invalidated (commitArray caches ++ ops) = invalidated ops := by
  induction caches with
  | nil => rfl
  | cons cache caches ih =>
    cases cache with
    | none => simpa [commitArray] using ih
    | some cache => by_cases h : cache.isDiscarded = true <;> simp [commitArray, h, invalidated, ih]

theorem invalidated_commit {c : HandlerCall} (hc : c.node = .commit) (b : Buffers α) :
    invalidated (poolHandleQueryCache true c b).2 = b.oidbuf := by
  have hcacheable : c.cacheable = false := by
    by_contra h
    have := (HandlerCall.select_of_cacheable (by simpa using h)).2
    simp [hc] at this
  have hp : c.partialFetch = false := by
    by_contra h
    have := c.select_of_partial (by simpa using h)
    simp [hc] at this
  simp [poolHandleQueryCache, hcacheable, hp, hc, invalidated]

/-! ## Runs of a transaction -/

/-- One event of a transaction: a statement that writes to tables is received, or
a statement has completed. -/
inductive TransEvent where
  | record (oids : List Int)
  | handle (c : HandlerCall)

/-- One event. -/
def transStep (b : Buffers α) : TransEvent → Buffers α
  | .record oids => b.recordOids oids
  | .handle c => (poolHandleQueryCache true c b).1

/-- The buffers after a list of events. -/
def transRun (b : Buffers α) (es : List TransEvent) : Buffers α := es.foldl transStep b

/-- The oids an event asks to be recorded.  Oid `0` is no table. -/
def TransEvent.oids : TransEvent → List Int
  | .record oids => oids.filter (· ≠ 0)
  | .handle _ => []

/-- The oids recorded in the course of a list of events. -/
def recordedOids (es : List TransEvent) : List Int := es.flatMap (·.oids)

@[simp] theorem recordedOids_append (es es' : List TransEvent) :
    recordedOids (es ++ es') = recordedOids es ++ recordedOids es' := by
  simp [recordedOids]

/-- Every handler call of `es` is for a statement that leaves the transaction open. -/
def Open (es : List TransEvent) : Prop := ∀ c, .handle c ∈ es → c.Intermediate

/-- No handler call of `es` empties the buffer of written oids. -/
def Retains (es : List TransEvent) : Prop := ∀ c, .handle c ∈ es → ¬ c.Forgets

variable {b : Buffers α} {es pre post : List TransEvent} {c : HandlerCall} {x : Int}

@[simp] theorem transRun_append (es' : List TransEvent) :
    transRun b (es ++ es') = transRun (transRun b es) es' := by
  simp [transRun]

@[simp] theorem transRun_cons (e : TransEvent) :
    transRun b (e :: es) = transRun (transStep b e) es := rfl

theorem Open.of_append (h : Open (pre ++ .handle c :: post)) :
    Open pre ∧ c.Intermediate ∧ Open post :=
  ⟨fun d hd => h d (by simp [hd]), h c (by simp), fun d hd => h d (by simp [hd])⟩

theorem mem_poolAddDmlTableOid {oidbuf : List Int} {oid : Int} :
    x ∈ poolAddDmlTableOid oidbuf oid ↔ x ∈ oidbuf ∨ x = oid ∧ oid ≠ 0 := by
  unfold poolAddDmlTableOid
  split
  case isTrue h =>
    constructor
    · exact Or.inl
    · rintro (hx | ⟨rfl, hne⟩)
      · exact hx
      · exact h.resolve_left hne
  case isFalse h =>
    have hne : oid ≠ 0 := fun h0 => h (.inl h0)
    simp [hne]

theorem mem_oidbuf_record (oids : List Int) :
    x ∈ (b.recordOids oids).oidbuf ↔ x ∈ b.oidbuf ∨ x ∈ oids ∧ x ≠ 0 := by
  show x ∈ oids.foldl poolAddDmlTableOid b.oidbuf ↔ _
  generalize b.oidbuf = oidbuf
  induction oids generalizing oidbuf with
  | nil => simp
  | cons oid oids ih =>
    rw [foldl_cons, ih, mem_poolAddDmlTableOid, mem_cons, or_assoc, or_and_right]
    refine or_congr_right (or_congr_left ?_)
    constructor <;> (rintro ⟨rfl, hne⟩; exact ⟨rfl, hne⟩)

theorem mem_oidbuf_step {e : TransEvent} (he : ∀ c, e = .handle c → c.Intermediate ∧ ¬ c.Forgets) :
    x ∈ (transStep b e).oidbuf ↔ x ∈ b.oidbuf ∨ x ∈ e.oids := by
  cases e with
  | record oids => simp [transStep, TransEvent.oids, mem_oidbuf_record]
  | handle c =>
    obtain ⟨hc, hforgets⟩ := he c rfl
    simp [transStep, TransEvent.oids, oidbuf_handle hc, hforgets]

/-- Without a call that empties it, the buffer of written oids ends up with what it
held and all that was recorded. -/
theorem mem_oidbuf_run (ho : Open es) (hr : Retains es) :
    x ∈ (transRun b es).oidbuf ↔ x ∈ b.oidbuf ∨ x ∈ recordedOids es := by
  induction es generalizing b with
  | nil => simp [transRun, recordedOids]
  | cons e es ih =>
    rw [transRun_cons, ih (fun c hc => ho c (by simp [hc])) (fun c hc => hr c (by simp [hc])),
      mem_oidbuf_step fun c hc => ⟨ho c (by simp [hc]), hr c (by simp [hc])⟩]
    simp [recordedOids, or_assoc]

theorem mem_of_mem_oidbuf_run (ho : Open es) (h : x ∈ (transRun b es).oidbuf) :
    x ∈ b.oidbuf ∨ x ∈ recordedOids es := by
  induction es generalizing b with
  | nil => exact .inl h
  | cons e es ih =>
    have hstep : x ∈ (transStep b e).oidbuf → x ∈ b.oidbuf ∨ x ∈ e.oids := by
      by_cases he : ∃ c, e = .handle c ∧ c.Forgets
      · obtain ⟨c, rfl, hforgets⟩ := he
        simp [transStep, oidbuf_handle (ho c (by simp)), hforgets]
      · exact (mem_oidbuf_step fun c hc =>
          ⟨ho c (by simp [hc]), fun hf => he ⟨c, hc, hf⟩⟩).1
    simp only [recordedOids, flatMap_cons, mem_append]
    rcases ih (fun c hc => ho c (by simp [hc])) h with h | h
    · exact (hstep h).imp_right .inl
    · exact .inr (.inr h)

theorem exists_last_forgets (es : List TransEvent) :
    Retains es ∨ ∃ pre c post, es = pre ++ .handle c :: post ∧ c.Forgets ∧ Retains post := by
  induction es with
  | nil => exact .inl (by simp [Retains])
  | cons e es ih =>
    rcases ih with hr | ⟨pre, c, post, rfl, hc, hpost⟩
    · by_cases he : ∃ c, e = .handle c ∧ c.Forgets
      · obtain ⟨c, rfl, hc⟩ := he
        exact .inr ⟨[], c, es, rfl, hc, hr⟩
      · refine .inl fun c hmem => ?_
        rcases mem_cons.1 hmem with rfl | hmem
        · exact fun hf => he ⟨c, rfl, hf⟩
        · exact hr c hmem
    · exact .inr ⟨e :: pre, c, post, rfl, hc, hpost⟩

/-- Every oid recorded in the transaction `es`, begun with the buffers `b`, is
handed to `pool_invalidate_query_cache` by the COMMIT call `c`. -/
def HandsOver (b : Buffers α) (es : List TransEvent) (c : HandlerCall) : Prop :=
  ∀ oid ∈ recordedOids es, oid ∈ invalidated (poolHandleQueryCache true c (transRun b es)).2

/-- No call of `es` in a state other than `'I'` empties the buffer of written oids
when there is something in it. -/
def KeepsOids (b : Buffers α) (es : List TransEvent) : Prop :=
  ∀ pre c post, es = pre ++ .handle c :: post → c.state ≠ .idle →
    (transRun b pre).oidbuf ≠ [] → (transStep (transRun b pre) (.handle c)).oidbuf ≠ []

/-- Whatever is recorded before a call that empties the buffer is recorded again
after it, which makes COMMIT hand over all. -/
theorem handsOver_iff (ho : Open es) (hc : c.node = .commit) : HandsOver b es c ↔
      ∀ pre d post, es = pre ++ .handle d :: post → d.Forgets →
        ∀ oid ∈ recordedOids pre, oid ∈ recordedOids post := by
  unfold HandsOver
  rw [invalidated_commit hc]
  constructor
  · rintro h pre d post rfl hd oid hoid
    obtain ⟨-, hint, hpost⟩ := ho.of_append
    have hfinal := h oid (by simp [hoid])
    rw [transRun_append, transRun_cons] at hfinal
    have hempty : (transStep (transRun b pre) (.handle d)).oidbuf = [] := by
      simp [transStep, oidbuf_handle hint, hd]
    simpa [hempty] using mem_of_mem_oidbuf_run hpost hfinal
  · intro h oid hoid
    rcases exists_last_forgets es with hr | ⟨pre, d, post, rfl, hd, hr⟩
    · exact (mem_oidbuf_run ho hr).2 (.inr hoid)
    · obtain ⟨-, -, hpost⟩ := ho.of_append
      have hagain : oid ∈ recordedOids post := by
        rw [recordedOids_append, mem_append] at hoid
        rcases hoid with hoid | hoid
        · exact h pre d post rfl hd oid hoid
        · simpa [recordedOids, TransEvent.oids] using hoid
      rw [transRun_append, transRun_cons]
      exact (mem_oidbuf_run hpost hr).2 (.inr hagain)

theorem keepsOids_iff (ho : Open es) : KeepsOids b es ↔
      ∀ pre d post, es = pre ++ .handle d :: post → d.Forgets → d.state ≠ .idle →
        (transRun b pre).oidbuf = [] := by
  constructor
  · rintro h pre d post rfl hd hs
    obtain ⟨-, hint, -⟩ := ho.of_append
    by_contra hne
    exact h pre d post rfl hs hne (by simp [transStep, oidbuf_handle hint, hd])
  · rintro h pre d post rfl hs hne
    obtain ⟨-, hint, -⟩ := ho.of_append
    have hd : ¬ d.Forgets := fun hd => hne (h pre d post rfl hd hs)
    simpa [transStep, oidbuf_handle hint, hd] using hne

/-- **No invalidation is lost exactly when nothing is forgotten.**  A transaction
whose events are `es` and that ends with the COMMIT call `c` hands over every oid
it has recorded, and keeps the buffer of oids until then, if and only if at each
call that empties the buffer (a partial fetch, or a statement completed while the
session still counts as idle) all that was recorded before is recorded again
later, and nothing is in the buffer unless the session counts as idle. -/
theorem commit_hands_over_iff (b : Buffers α) (es : List TransEvent) (c : HandlerCall)
    (ho : Open es) (hc : c.node = .commit) : HandsOver b es c ∧ KeepsOids b es ↔
      ∀ pre d post, es = pre ++ .handle d :: post → d.Forgets →
        (∀ oid ∈ recordedOids pre, oid ∈ recordedOids post) ∧
          (d.state ≠ .idle → (transRun b pre).oidbuf = []) := by
  rw [handsOver_iff ho hc, keepsOids_iff ho]
  constructor
  · rintro ⟨hover, hkeep⟩ pre d post he hd
    exact ⟨hover pre d post he hd, hkeep pre d post he hd⟩
  · intro h
    exact ⟨fun pre d post he hd => (h pre d post he hd).1,
      fun pre d post he hd => (h pre d post he hd).2⟩

/-! ## A transaction with a row-limited fetch -/

/-- A statement other than SELECT that completes inside a transaction. -/
def inTransaction (node : NodeKind) : HandlerCall where
  query := none
  node := node
  state := .transaction
  partialFetch := false
  isCacheSafe := false
  queryCacheDisabled := false
  queryInProgress := true
  selectOids := []
  skipCacheCommit := false
  slExtended := true
  canDestroy := true
  dboid := 0
  dropdbOids := []
  select_of_safe := by simp
  select_of_partial := by simp

/-- A cacheable SELECT on table `16385` inside a transaction; with `rowLimit`, only
some of its rows were asked for. -/
def selectInTransaction (rowLimit : Bool) : HandlerCall where
  query := none
  node := .select
  state := .transaction
  partialFetch := rowLimit
  isCacheSafe := true
  queryCacheDisabled := false
  queryInProgress := true
  selectOids := [16385]
  skipCacheCommit := false
  slExtended := true
  canDestroy := true
  dboid := 0
  dropdbOids := []
  select_of_safe := by simp
  select_of_partial := by simp

/-- INSERT into table `16384`, then a SELECT on another one. -/
def insertThenSelect (rowLimit : Bool) : List TransEvent :=
  [.record [16384], .handle (inTransaction .other), .handle (selectInTransaction rowLimit)]

theorem open_insertThenSelect (rowLimit : Bool) : Open (insertThenSelect rowLimit) := by
  intro c hc
  simp only [insertThenSelect, mem_cons, TransEvent.handle.injEq, reduceCtorEq,
    not_mem_nil, or_false, false_or] at hc
  rcases hc with rfl | rfl <;> simp [HandlerCall.Intermediate, inTransaction, selectInTransaction]

theorem retains_insertThenSelect : Retains (insertThenSelect false) := by
  intro c hc
  simp only [insertThenSelect, mem_cons, TransEvent.handle.injEq, reduceCtorEq,
    not_mem_nil, or_false, false_or] at hc
  rcases hc with rfl | rfl <;> decide

/-- The `COMMIT` has the table to invalidate. -/
theorem commit_hands_over_insert :
    HandsOver (Buffers.empty : Buffers UInt8) (insertThenSelect false) (inTransaction .commit) ∧
      KeepsOids (Buffers.empty : Buffers UInt8) (insertThenSelect false) :=
  (commit_hands_over_iff _ _ _ (open_insertThenSelect false) rfl).2
    fun _ d _ he hd => absurd hd (retains_insertThenSelect d (by simp [he]))

/-- After a fetch with a row limit the COMMIT has nothing to invalidate, though the
transaction has written to table `16384`. -/
theorem partial_fetch_loses_insert : recordedOids (insertThenSelect true) = [16384] ∧
      invalidated (poolHandleQueryCache true (inTransaction .commit)
        (transRun (Buffers.empty : Buffers UInt8) (insertThenSelect true))).2 = [] ∧
      (transRun (Buffers.empty : Buffers UInt8) ((insertThenSelect true).take 2)).oidbuf = [16384] ∧
      (selectInTransaction true).state = .transaction ∧
      (transRun (Buffers.empty : Buffers UInt8) (insertThenSelect true)).oidbuf = [] := by
  decide +kernel

end PgBalancer.QueryCache
