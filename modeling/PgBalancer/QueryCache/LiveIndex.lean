import PgBalancer.QueryCache.StoreRun

/-!
# The index and the live items

Every live item is to have one hash element, and every hash element is to be that of a live item.
Items are added, deleted, recycled and cleared in different orders, and a hash element that is not
taken out with its item is lost: the loop that recycles blocks until a hash element is free would
not end.

* `index_bijection` — **they do in every state of every run, and the loop of an addition ends within
  one turn of the hand with a block that has room**.
-/

namespace PgBalancer.QueryCache

open ByteMem

variable {cfg : Config} {s s₀ : Store} {c : Contents} {h : HashTable}

/-- An element with this key and cache id hangs off bucket `b`. -/
def HashTable.Element (h : HashTable) (b : Nat) (key : QueryHash) (id : CacheId) : Prop :=
  b < h.nhash ∧ ⟨key, id⟩ ∈ (h.table.chain b).entries

theorem element_iff (hwf : h.Wf) {b : Nat} {key : QueryHash} {id : CacheId} :
    h.Element b key id ↔ b = createHashKey h.mask key ∧ poolHashSearch h key = some id := by
  rw [poolHashSearch_eq hwf]
  constructor
  · rintro ⟨-, hmem⟩
    have hb := hwf.table.placed b key (AList.mem_keys.2 (List.mem_keys_of_mem hmem))
    subst hb
    exact ⟨rfl, AList.mem_lookup_iff.2 hmem⟩
  · rintro ⟨rfl, hlookup⟩
    exact ⟨createHashKey_lt hwf key, AList.mem_lookup_iff.1 hlookup⟩

/-- The key of the item at `id`. -/
def itemKey (cfg : Config) (s : Store) (id : CacheId) : QueryHash :=
  itemQueryHash s.shmem (itemPointer (cfg.blockAddress id.blockid) id.itemid)

/-- Live items and hash elements correspond to each other. -/
structure IndexBijection (cfg : Config) (s : Store) : Prop where
  /-- a live item has one hash element, with the key of the item and its own address -/
  element : ∀ id, ItemLive cfg s id → (∃! b, s.hash.Element b (itemKey cfg s id) id) ∧
    ∀ b key, s.hash.Element b key id → key = itemKey cfg s id
  /-- a hash element is that of a live item -/
  item : ∀ b key id, s.hash.Element b key id → ItemLive cfg s id ∧ itemKey cfg s id = key

theorem StoreRep.itemKey_eq (hrep : StoreRep cfg s c) {id : CacheId} {it : Item}
    (hl : Live cfg c id it) : itemKey cfg s id = it.queryHash :=
  ((hrep.block id.blockid hl.block_lt).item _ _ hl.getElem).queryHash

theorem StoreRep.indexBijection (hrep : StoreRep cfg s c) : IndexBijection cfg s where
  element id hlive := by
    obtain ⟨it, hl⟩ := hrep.itemLive_iff.1 hlive
    rw [hrep.itemKey_eq hl]
    refine ⟨⟨createHashKey s.hash.mask it.queryHash, ?_, fun b hb => ?_⟩, fun b key hb => ?_⟩
    · exact (element_iff hrep.hash).2 ⟨rfl, (hrep.index _ id).2 ⟨it, hl, rfl⟩⟩
    · exact ((element_iff hrep.hash).1 hb).1
    · obtain ⟨it', hl', rfl⟩ := (hrep.index key id).1 ((element_iff hrep.hash).1 hb).2
      rw [hl'.unique hl]
  item b key id hb := by
    obtain ⟨it, hl, rfl⟩ := (hrep.index key id).1 ((element_iff hrep.hash).1 hb).2
    exact ⟨hrep.itemLive_iff.2 ⟨it, hl⟩, hrep.itemKey_eq hl⟩

/-- Whatever request `pool_get_block` accepts, the loop of an addition ends within one turn of the
hand, with a free hash element and a block that has room for the request. -/
def EvictionEnds (cfg : Config) (s : Store) : Prop :=
  ∀ request, (poolGetBlock cfg s request).1 ≠ none → ∃ b s₁ b' s₂,
    poolGetBlock cfg s request = (some b, s₁) ∧
    reuseUntilFree cfg cfg.numBlocks b
      { s₁ with shmem := poolInitCacheBlock cfg s₁.shmem b } = some (b', s₂) ∧
    isFreeHashElement s₂.hash = true ∧ b' < cfg.numBlocks ∧
    request ≤ freeBytes s₂.shmem (cfg.blockAddress b')

theorem StoreRep.evictionEnds (hrep : StoreRep cfg s c) : EvictionEnds cfg s := by
  intro request haccepted
  have hmax : request ≤ cfg.maxFreeSpace := by
    by_contra hlarge
    rw [poolGetBlock, if_pos (not_le.1 hlarge)] at haccepted
    exact haccepted rfl
  obtain ⟨b, s₁, c₁, hget, hrep₁, -, hroom₁⟩ := hrep.getBlock hmax
  obtain ⟨b', s₂, c₂, hloop, hrep₂, -, hroom₂, hfree⟩ :=
    (hrep₁.initBlock hroom₁.1).reuseOneTurn hmax hroom₁
  exact ⟨b, s₁, b', s₂, hget, hloop, hfree, hroom₂.1, (hrep₂.room_iff hroom₂.1).1 hroom₂⟩

/-- **Live items and hash elements correspond to each other in every state of every run**, and the
loop that makes a hash element free ends. -/
theorem index_bijection (h0 : initialStore cfg = some s₀) (ops : List StoreOp) :
    ∃ t, run cfg ⟨s₀, fun _ => none⟩ ops = some t ∧ IndexBijection cfg t.store ∧
      EvictionEnds cfg t.store := by
  obtain ⟨t, hrun, c, hrep, -⟩ := run_inv h0 ops _ (inv_initial h0)
  exact ⟨t, hrun, hrep.indexBijection, hrep.evictionEnds⟩

/-- Two items, of which the first one is deleted. -/
theorem index_bijection_smallConfig : ∃ s₀, initialStore smallConfig = some s₀ ∧
      ∃ t, run smallConfig ⟨s₀, fun _ => none⟩
        [.add (constKey 48) [1, 2, 3] 0 0, .add (constKey 97) [4] 0 0, .delete ⟨0, 0⟩] = some t ∧
      IndexBijection smallConfig t.store ∧ EvictionEnds smallConfig t.store :=
  ⟨_, rfl, index_bijection rfl _⟩

end PgBalancer.QueryCache
