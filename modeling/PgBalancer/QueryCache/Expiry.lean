import PgBalancer.QueryCache.LiveIndex

/-!
# Expired items

A look-up that meets an expired item gives up its shared lock and waits for the exclusive one, to
delete the item.  In between other processes may do anything: delete the item, recycle its block,
put a new item under the same key.  So the item is looked up and checked a second time.

* `served_not_expired` — **a look-up returns an item that is live under the lock then held and has
  not expired at the last reading of the clock, or none**.
-/

namespace PgBalancer.QueryCache

open ByteMem

variable {cfg : Config} {s s₀ : Store} {c : Contents} {t t' : Traced} {op : StoreOp}
  {ops : List StoreOp} {key : QueryHash} {id : CacheId} {now : Int64}

/-- `pool_find_item_on_shmem_cache`; `others` is what other processes do between
`pool_shmem_unlock` and `pool_shmem_lock`, and `now` and `now'` are the two readings of the clock.
With the cache id comes the clock as it was read last, and the store under the lock then held. -/
def findItemInterleaved (cfg : Config) (t : Traced) (queryHash : QueryHash) (now now' : Int64)
    (others : List StoreOp) : Option (Option CacheId × Int64 × Store) :=
  match poolHashSearch t.store.hash queryHash with
  | none => some (none, now, t.store)
  | some c =>
    let cih := itemHeader t.store.shmem (cfg.blockAddress c.blockid) c.itemid
    let expire := (itemExpire t.store.shmem cih).toInt
    if 0 < expire ∧ expire < now.toInt - (itemTimestamp t.store.shmem cih).toInt then
      (run cfg t others).map fun t =>
        ((findItemExclusive cfg t.store queryHash now').1, now',
          (findItemExclusive cfg t.store queryHash now').2)
    else some (some c, now, t.store)

/-! ## Life times -/

/-- The life time an item is added with is one that `memqcache_expire` can have. -/
def StoreOp.ExpireNonneg : StoreOp → Prop
  | .add _ _ expire _ => 0 ≤ expire.toInt
  | _ => True

/-- No live item has a negative life time. -/
def NonnegExpire (cfg : Config) (s : Store) : Prop :=
  ∃ c, StoreRep cfg s c ∧ ∀ id it, Live cfg c id it → 0 ≤ it.expire.toInt

theorem nonnegExpire_step (h : NonnegExpire cfg t.store) (hop : op.ExpireNonneg)
    (hstep : step cfg t op = some t') : NonnegExpire cfg t'.store := by
  obtain ⟨c, hrep, hexpire⟩ := h
  obtain ⟨c', hrep', hlive⟩ := step_live hrep hstep
  refine ⟨c', hrep', fun id it hl => ?_⟩
  rcases hlive id it hl with hold | ⟨key, data, expire, now, rfl, rfl⟩
  · exact hexpire id it hold
  · exact hop

theorem nonnegExpire_run (h : NonnegExpire cfg t.store) (hops : ∀ op ∈ ops, op.ExpireNonneg)
    (hrun : run cfg t ops = some t') : NonnegExpire cfg t'.store :=
  History.run_keeps (I := fun t => NonnegExpire cfg t.store)
    (fun op hop _ _ h hstep => nonnegExpire_step h (hops op hop) hstep) h hrun

theorem nonnegExpire_initial (h0 : initialStore cfg = some s₀) : NonnegExpire cfg s₀ := by
  refine ⟨_, storeRep_initial h0, fun id it hl => ?_⟩
  have hget := hl.getElem
  simp at hget

/-! ## What is served -/

/-- `cih->timestamp` and `cih->expire` of the item at `id` -/
def itemTimes (cfg : Config) (s : Store) (id : CacheId) : Int × Int :=
  let cih := itemHeader s.shmem (cfg.blockAddress id.blockid) id.itemid
  ((itemTimestamp s.shmem cih).toInt, (itemExpire s.shmem cih).toInt)

/-- The item at `id` is live and has this key, and it has not expired at `now`. -/
def Servable (cfg : Config) (s : Store) (key : QueryHash) (now : Int64) (id : CacheId) : Prop :=
  ItemLive cfg s id ∧ itemKey cfg s id = key ∧
    ((itemTimes cfg s id).2 = 0 ∨ now.toInt ≤ (itemTimes cfg s id).1 + (itemTimes cfg s id).2)

theorem StoreRep.itemLive_of_search (h : StoreRep cfg s c)
    (hsearch : poolHashSearch s.hash key = some id) : ItemLive cfg s id ∧ itemKey cfg s id = key ∧
      ∃ it, Live cfg c id it ∧ (itemTimes cfg s id).2 = it.expire.toInt := by
  obtain ⟨it, hl, rfl⟩ := (h.index key id).1 hsearch
  refine ⟨h.itemLive_iff.2 ⟨it, hl⟩, h.itemKey_eq hl, it, hl, ?_⟩
  have hrep := (h.block id.blockid hl.block_lt).item _ _ hl.getElem
  simp only [itemTimes, itemHeader, hrep.offset, hrep.expire]

theorem StoreRep.servable_exclusive (h : StoreRep cfg s c)
    (hfind : (QueryCache.findItemExclusive cfg s key now).1 = some id) :
    Servable cfg (QueryCache.findItemExclusive cfg s key now).2 key now id := by
  unfold QueryCache.findItemExclusive at hfind ⊢
  cases hsearch : poolHashSearch s.hash key with
  | none =>
    rw [hsearch] at hfind
    cases hfind
  | some id' =>
    rw [hsearch] at hfind
    dsimp only at hfind ⊢
    split_ifs at hfind ⊢ with hexpired
    obtain rfl := Option.some.inj hfind
    obtain ⟨hlive, hkey, -⟩ := h.itemLive_of_search hsearch
    refine ⟨hlive, hkey, .inr ?_⟩
    simp only [itemTimes]
    exact not_lt.1 hexpired

/-- **No expired item is served**, whatever other processes do while the look-up waits for the
exclusive lock. -/
theorem served_not_expired (h0 : initialStore cfg = some s₀) {ops others : List StoreOp}
    (hops : ∀ op ∈ ops, op.ExpireNonneg) (key : QueryHash) (now now' : Int64) :
    ∃ t r last s', run cfg ⟨s₀, fun _ => none⟩ ops = some t ∧
      findItemInterleaved cfg t key now now' others = some (r, last, s') ∧
      (r = none ∨ ∃ id, r = some id ∧ Servable cfg s' key last id) := by
  obtain ⟨t, hrun, hinv⟩ := run_inv h0 ops _ (inv_initial h0)
  obtain ⟨c, hrep, hexpire⟩ := nonnegExpire_run (nonnegExpire_initial h0) hops hrun
  unfold findItemInterleaved
  cases hsearch : poolHashSearch t.store.hash key with
  | none =>
    refine ⟨t, none, now, t.store, hrun, ?_, .inl rfl⟩
    rw [hsearch]
  | some id =>
    obtain ⟨hlive, hkey, it, hl, htimes⟩ := hrep.itemLive_of_search hsearch
    by_cases hexpired : 0 < (itemTimes cfg t.store id).2 ∧
        (itemTimes cfg t.store id).2 < now.toInt - (itemTimes cfg t.store id).1
    · -- the lock is given up; what is found under the next one is checked again
      obtain ⟨t₁, hrun₁, c₁, hrep₁, -⟩ := run_inv h0 others t hinv
      refine ⟨t, (QueryCache.findItemExclusive cfg t₁.store key now').1, now',
        (QueryCache.findItemExclusive cfg t₁.store key now').2, hrun, ?_, ?_⟩
      · rw [hsearch]
        simp only [itemTimes] at hexpired
        dsimp only
        rw [if_pos hexpired, hrun₁, Option.map_some]
      · cases hfind : (QueryCache.findItemExclusive cfg t₁.store key now').1 with
        | none => exact .inl rfl
        | some id' => exact .inr ⟨id', rfl, hrep₁.servable_exclusive hfind⟩
    · refine ⟨t, some id, now, t.store, hrun, ?_, .inr ⟨id, rfl, hlive, hkey, ?_⟩⟩
      · rw [hsearch]
        simp only [itemTimes] at hexpired
        dsimp only
        rw [if_neg hexpired]
      · have hnonneg := hexpire id it hl
        rw [← htimes] at hnonneg
        omega

/-- An item that has expired is found, and another process puts it in anew in between. -/
theorem served_not_expired_refreshed : ∃ s₀, initialStore smallConfig = some s₀ ∧
      ∃ t r last s', run smallConfig ⟨s₀, fun _ => none⟩ [.add (constKey 48) [1, 2, 3] 10 0] =
        some t ∧
        findItemInterleaved smallConfig t (constKey 48) 20 21
          [.delete ⟨0, 0⟩, .add (constKey 48) [4, 5] 10 20] = some (r, last, s') ∧
        (r = none ∨ ∃ id, r = some id ∧ Servable smallConfig s' (constKey 48) last id) := by
  refine ⟨_, rfl, served_not_expired rfl (fun op hop => ?_) _ _ _⟩
  obtain rfl := List.mem_singleton.1 hop
  show 0 ≤ Int64.toInt 10
  decide

end PgBalancer.QueryCache
