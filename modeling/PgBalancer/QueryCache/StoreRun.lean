import PgBalancer.QueryCache.StoreSpec
import PgBalancer.Lib.History

/-!
# The store as a map

Any number of processes take turns on the store, each operation under the lock.
`StoreOp` lists what they can do and `run` performs a sequence of it, keeping
next to the store a record of the data each key was last successfully added
with.  The record is what a caller believes the cache to hold.

* `get_last_added` — **a look-up that returns an item returns the data of the
  last successful addition under that key**: never the bytes of another key and
  never a partly overwritten item, whatever was deleted by stale cache ids,
  evicted, expired or cleared in between.
-/

namespace PgBalancer.QueryCache

open ByteMem

/-- One operation on the store. -/
inductive StoreOp where
  /-- `pool_add_item_shmem_cache`, called once `pool_hash_search` has found nothing -/
  | add (queryHash : QueryHash) (data : List UInt8) (expire now : Int64)
  /-- `pool_delete_item_shmem_cache`, with whatever cache id an oid map holds -/
  | delete (cacheid : CacheId)
  /-- `pool_get_item_shmem_cache`, when no other process runs in between -/
  | get (queryHash : QueryHash) (now now' : Int64)
  /-- the rest of `pool_get_item_shmem_cache` after it has given up the shared
  lock and waited for the exclusive one -/
  | getExclusive (queryHash : QueryHash) (now : Int64)
  /-- `pool_reuse_block` -/
  | reuse
  /-- `pool_clear_memory_cache` -/
  | clear

/-- The store, and the data each key was last successfully added with. -/
structure Traced where
  store : Store
  added : QueryHash → Option (List UInt8)

variable (cfg : Config)

/-- The end of `pool_get_item_shmem_cache` under the exclusive lock. -/
def getItemExclusive (s : Store) (queryHash : QueryHash) (now : Int64) : GetResult × Store :=
  let (c, s) := findItemExclusive cfg s queryHash now
  (itemData cfg s.shmem c, s)

/-- Perform one operation.  `none` if it does not come back. -/
def step (t : Traced) : StoreOp → Option Traced
  | .add queryHash data expire now =>
    if (poolHashSearch t.store.hash queryHash).isSome then some t
    else
      (poolAddItemShmemCache cfg t.store queryHash data expire now).map fun (r, s) =>
        { store := s
          added := if r.isSome then Function.update t.added queryHash (some data) else t.added }
  | .delete cacheid => some { t with store := (poolDeleteItemShmemCache cfg t.store cacheid).2 }
  | .get queryHash now now' =>
    some { t with store := (poolGetItemShmemCache cfg t.store queryHash now now').2 }
  | .getExclusive queryHash now =>
    some { t with store := (getItemExclusive cfg t.store queryHash now).2 }
  | .reuse => some { t with store := (poolReuseBlock cfg t.store).2 }
  | .clear => (poolClearMemoryCache cfg t.store).map fun s => { t with store := s }

/-- Perform a sequence of operations. -/
def run (t : Traced) (ops : List StoreOp) : Option Traced := ops.foldlM (step cfg) t

variable {cfg} {t t' : Traced} {s₀ s' : Store} {op : StoreOp} {key : QueryHash} {data : List UInt8}
  {c c' : Contents} {r : Option CacheId}

/-- The record agrees with the contents: a live item holds the data its key was
last added with. -/
def Recorded (cfg : Config) (t : Traced) (c : Contents) : Prop :=
  ∀ id it, Live cfg c id it → t.added it.queryHash = some it.data

/-- The store is well formed and the record agrees with it. -/
def Inv (cfg : Config) (t : Traced) : Prop :=
  ∃ c, StoreRep cfg t.store c ∧ Recorded cfg t c

theorem Recorded.sub (h : Recorded cfg t c) (hsub : c'.Sub cfg c) (hadded : t'.added = t.added) :
    Recorded cfg t' c' := by
  intro id it hl
  rw [hadded]
  exact h id it (hsub id it hl)

theorem step_isSome (h0 : initialStore cfg = some s₀) (hrep : StoreRep cfg t.store c) :
    ∃ t', step cfg t op = some t' := by
  cases op with
  | add key data expire now =>
    simp only [step]
    split
    · exact ⟨t, rfl⟩
    · next hnew =>
      obtain ⟨r, s', c', heq, -⟩ := hrep.addItem data expire now (by simpa using hnew)
      exact ⟨_, by rw [heq]; rfl⟩
  | clear =>
    obtain ⟨s', hs'⟩ := poolClearMemoryCache_isSome h0 t.store
    exact ⟨_, by rw [step, hs']; rfl⟩
  | delete | get | getExclusive | reuse => exact ⟨_, rfl⟩

/-- A step loses items, or it adds one. -/
theorem step_spec (hrep : StoreRep cfg t.store c) (hstep : step cfg t op = some t') :
    ∃ c', StoreRep cfg t'.store c' ∧ (c'.Sub cfg c ∧ t'.added = t.added ∨
      ∃ key data expire now id, op = .add key data expire now ∧
        t'.added = Function.update t.added key (some data) ∧
        Live cfg c' id ⟨key, false, now, expire, data⟩ ∧
        ∀ id' it, Live cfg c' id' it → id' ≠ id → Live cfg c id' it) := by
  cases op with
  | add key data expire now =>
    simp only [step] at hstep
    split at hstep
    · obtain rfl := Option.some.inj hstep
      exact ⟨c, hrep, .inl ⟨.refl cfg c, rfl⟩⟩
    · next hnew =>
      obtain ⟨r, s', c', heq, hrep', hfail, hok, -⟩ :=
        hrep.addItem data expire now (by simpa using hnew)
      rw [heq] at hstep
      obtain rfl := Option.some.inj hstep
      refine ⟨c', hrep', ?_⟩
      cases r with
      | none => exact .inl ⟨hfail rfl, rfl⟩
      | some id => exact .inr ⟨key, data, expire, now, id, rfl, rfl, hok id rfl⟩
  | delete id =>
    obtain rfl := Option.some.inj hstep
    rcases hrep.deleteItem id with ⟨it, c', -, -, hrep', hc'⟩ | ⟨-, heq⟩
    · exact ⟨c', hrep', .inl ⟨fun id' it' hl => ((hc' id' it').1 hl).1, rfl⟩⟩
    · dsimp only
      rw [heq]
      exact ⟨c, hrep, .inl ⟨.refl cfg c, rfl⟩⟩
  | get key now now' =>
    obtain rfl := Option.some.inj hstep
    obtain ⟨c', hrep', hsub, -⟩ := hrep.findItem key now now'
    exact ⟨c', hrep', .inl ⟨hsub, rfl⟩⟩
  | getExclusive key now =>
    obtain rfl := Option.some.inj hstep
    obtain ⟨c', hrep', hsub, -⟩ := hrep.findItemExclusive key now
    exact ⟨c', hrep', .inl ⟨hsub, rfl⟩⟩
  | reuse =>
    obtain rfl := Option.some.inj hstep
    exact ⟨_, hrep.reuseBlock, .inl ⟨sub_update_nil cfg c _, rfl⟩⟩
  | clear =>
    obtain ⟨s', hclear, rfl⟩ := Option.map_eq_some_iff.1 hstep
    refine ⟨fun _ => [], storeRep_clear hclear, .inl ⟨fun id it hl => ?_, rfl⟩⟩
    simpa using hl.getElem

/-- **Every operation comes back and keeps the record in agreement.** -/
theorem step_inv (h0 : initialStore cfg = some s₀) (h : Inv cfg t) (op : StoreOp) :
    ∃ t', step cfg t op = some t' ∧ Inv cfg t' := by
  obtain ⟨c, hrep, hrec⟩ := h
  obtain ⟨t', hstep⟩ := step_isSome h0 hrep
  obtain ⟨c', hrep', ⟨hsub, hadded⟩ | ⟨key, data, expire, now, id, -, hadded, hnew, hold⟩⟩ :=
    step_spec hrep hstep
  · exact ⟨t', hstep, c', hrep', hrec.sub hsub hadded⟩
  · refine ⟨t', hstep, c', hrep', fun id' it hl => ?_⟩
    rw [hadded]
    by_cases hid : id' = id
    · subst hid
      rw [hl.unique hnew, Function.update_self]
    · -- an older item has another key: the two would share a place otherwise
      have hkey : it.queryHash ≠ key := fun hk => hid (hrep'.id_unique hl hnew hk)
      rw [Function.update_of_ne hkey]
      exact hrec id' it (hold id' it hl hid)

theorem Inv.step (h : Inv cfg t) (h0 : initialStore cfg = some s₀)
    (hstep : step cfg t op = some t') : Inv cfg t' := by
  obtain ⟨t₁, heq, h₁⟩ := step_inv h0 h op
  rwa [← Option.some.inj (heq.symm.trans hstep)]

theorem step_add {expire now : Int64} (hrep : StoreRep cfg t.store c)
    (hstep : step cfg t (.add key data expire now) = some t') : t'.store = t.store ∨
      ∃ b s₂ c₂, t'.store = s₂.withItem cfg b (c₂ b).length key data now expire ∧
        Recycles cfg t.store s₂ ∧ StoreRep cfg s₂ c₂ ∧ c₂.Sub cfg c ∧
        Room cfg c₂ b (data.length + 48 + 24) ∧ isFreeHashElement s₂.hash = true ∧
        poolHashSearch s₂.hash key = none := by
  simp only [step] at hstep
  split at hstep
  · exact .inl (congrArg _ (Option.some.inj hstep).symm)
  · next hsome =>
    obtain ⟨⟨r, s'⟩, hadd, rfl⟩ := Option.map_eq_some_iff.1 hstep
    rcases hrep.addItem_cases data expire now (by simpa using hsome) with
      ⟨heq, -⟩ | ⟨b, s₂, c₂, heq, hcases⟩
    · cases heq.symm.trans hadd
      exact .inl rfl
    · cases heq.symm.trans hadd
      exact .inr ⟨b, s₂, c₂, rfl, hcases⟩

/-- **What a step can bring in.**  Everything that is live afterwards was live before, but for the
item of an addition. -/
theorem step_live (hrep : StoreRep cfg t.store c) (hstep : step cfg t op = some t') :
    ∃ c', StoreRep cfg t'.store c' ∧ ∀ id it, Live cfg c' id it → Live cfg c id it ∨
      ∃ key data expire now, op = .add key data expire now ∧
        it = ⟨key, false, now, expire, data⟩ := by
  obtain ⟨c', hrep', hcases⟩ := step_spec hrep hstep
  refine ⟨c', hrep', fun id it hl => ?_⟩
  rcases hcases with ⟨hsub, -⟩ | ⟨key, data, expire, now, id', hop, -, hnew, hold⟩
  · exact .inl (hsub id it hl)
  · by_cases hid : id = id'
    · subst hid
      exact .inr ⟨key, data, expire, now, hop, hl.unique hnew⟩
    · exact .inl (hold id it hl hid)

theorem run_inv (h0 : initialStore cfg = some s₀) (ops : List StoreOp) :
    ∀ t, Inv cfg t → ∃ t', run cfg t ops = some t' ∧ Inv cfg t' :=
  fun _ h => History.exists_run (fun op _ _ h => step_inv h0 h op) h

theorem inv_initial (h0 : initialStore cfg = some s₀) : Inv cfg ⟨s₀, fun _ => none⟩ := by
  refine ⟨_, storeRep_initial h0, fun id it hl => ?_⟩
  simpa using hl.getElem

theorem Recorded.itemData (hrec : Recorded cfg t c) (hrep : StoreRep cfg s' c)
    (hr : ∀ id, r = some id → ∃ it, Live cfg c id it ∧ it.queryHash = key) :
    QueryCache.itemData cfg s'.shmem r = .notFound ∨
      ∃ data, QueryCache.itemData cfg s'.shmem r = .found data ∧ t.added key = some data := by
  rcases hrep.itemData_found hr with hnone | ⟨id, it, hl, rfl, hdata⟩
  · exact .inl hnone
  · exact .inr ⟨it.data, hdata, hrec id it hl⟩

/-- **The store is a map.**  After any sequence of operations on a freshly
initialised store, looking up a key either finds nothing or returns exactly the
bytes that key was last successfully added with.  This holds for the plain look-up
and for one that had to wait for the exclusive lock. -/
theorem get_last_added (h0 : initialStore cfg = some s₀) (ops : List StoreOp) :
    ∃ t, run cfg ⟨s₀, fun _ => none⟩ ops = some t ∧ ∀ key now now',
      ((poolGetItemShmemCache cfg t.store key now now').1 = .notFound ∨
        ∃ data, (poolGetItemShmemCache cfg t.store key now now').1 = .found data ∧
          t.added key = some data) ∧ ((getItemExclusive cfg t.store key now).1 = .notFound ∨
        ∃ data, (getItemExclusive cfg t.store key now).1 = .found data ∧
          t.added key = some data) := by
  obtain ⟨t, heq, c, hrep, hrec⟩ := run_inv h0 ops _ (inv_initial h0)
  refine ⟨t, heq, fun key now now' => ⟨?_, ?_⟩⟩
  · obtain ⟨c', hrep', hsub, hr⟩ := hrep.findItem key now now'
    exact Recorded.itemData (hrec.sub hsub rfl) hrep' hr
  · obtain ⟨c', hrep', hsub, hr⟩ := hrep.findItemExclusive key now
    exact Recorded.itemData (hrec.sub hsub rfl) hrep' hr

/-- Two blocks of 512 bytes and room for three entries. -/
def smallConfig : Config where
  blockSize := 512
  numBlocks := 2
  maxNumCache := 3
  blockSize_ge := by decide
  blockSize_lt := by decide
  numBlocks_pos := by decide
  maxNumCache_pos := by decide

/-- The key that repeats one character. -/
def constKey (ch : UInt8) : QueryHash := ⟨List.replicate 32 ch, by simp⟩

/-- Two items, of which the first one is deleted. -/
theorem get_last_added_smallConfig : ∃ s₀, initialStore smallConfig = some s₀ ∧
      ∃ t, run smallConfig ⟨s₀, fun _ => none⟩
        [.add (constKey 48) [1, 2, 3] 0 0, .add (constKey 97) [4] 0 0, .delete ⟨0, 0⟩] = some t ∧
        ∀ key now now', ((poolGetItemShmemCache smallConfig t.store key now now').1 = .notFound ∨
            ∃ data, (poolGetItemShmemCache smallConfig t.store key now now').1 = .found data ∧
              t.added key = some data) ∧
          ((getItemExclusive smallConfig t.store key now).1 = .notFound ∨
            ∃ data, (getItemExclusive smallConfig t.store key now).1 = .found data ∧
              t.added key = some data) :=
  ⟨_, rfl, get_last_added rfl _⟩

/-- Deleting the first item of a block leaves the second one in place. -/
example : ((initialStore smallConfig).bind fun s => run smallConfig ⟨s, fun _ => none⟩
      [.add (constKey 48) [1, 2, 3] 0 0, .add (constKey 97) [4] 0 0, .delete ⟨0, 0⟩]).map
    (fun t => ((poolGetItemShmemCache smallConfig t.store (constKey 48) 0 0).1,
      (poolGetItemShmemCache smallConfig t.store (constKey 97) 0 0).1)) =
    some (.notFound, .found [4]) := by
  decide +kernel

end PgBalancer.QueryCache
