import PgBalancer.Lib.ByteMem
import PgBalancer.QueryCache.HashTable

/-!
# The shared-memory store of the query cache

The store that `pool_memqcache.c` keeps on shared memory, byte for byte: an
array of fixed-size blocks, a free-space map with one byte per block, a hand
that picks the next block to recycle, and the hash table that says where the
result of a query is.

A block is laid out as

    header | item pointer 0 | item pointer 1 | ... free space ... | item 1 | item 0

Time is an argument wherever the source calls `time(NULL)`.  The one loop whose
end is not obvious, `while (!is_free_hash_element())`, runs on fuel; that the
fuel is enough is proved in `PgBalancer.QueryCache.StoreSpec`.
-/

namespace PgBalancer.QueryCache

open ByteMem

/-- The settings the store is built from, in the ranges the configuration
file accepts. -/
structure Config where
  /-- `memqcache_cache_block_size` -/
  blockSize : Nat
  /-- `memqcache_total_size / memqcache_cache_block_size` -/
  numBlocks : Nat
  /-- `memqcache_max_num_cache` -/
  maxNumCache : Nat
  blockSize_ge : 512 ≤ blockSize
  blockSize_lt : blockSize < 2 ^ 31
  numBlocks_pos : 0 < numBlocks
  maxNumCache_pos : 0 < maxNumCache

/-! ## Layout -/

/-- `sizeof(POOL_CACHE_BLOCK_HEADER)` -/
def blockHeaderSize : Nat := 12

/-- `sizeof(POOL_CACHE_ITEM_POINTER)` -/
def itemPointerSize : Nat := 48

/-- `sizeof(POOL_CACHE_ITEM_HEADER)` -/
def itemHeaderSize : Nat := 24

/-- `bh->flags` -/
def blockFlags (m : Mem) (p : Nat) : UInt8 := m p

/-- `bh->num_items` -/
def numItems (m : Mem) (p : Nat) : Nat := getLe m (p + 4) 4

/-- `bh->free_bytes` -/
def freeBytes (m : Mem) (p : Nat) : Nat := getLe m (p + 8) 4

/-- `item_pointer`: the address of the `i`-th item pointer of the block at `p`. -/
def itemPointer (p i : Nat) : Nat := p + blockHeaderSize + itemPointerSize * i

/-- `cip->query_hash` -/
def itemQueryHash (m : Mem) (q : Nat) : QueryHash := ⟨read m q 32, length_read m q 32⟩

/-- `cip->offset` -/
def itemOffset (m : Mem) (q : Nat) : Nat := getLe m (q + 40) 4

/-- `cip->flags` -/
def itemFlags (m : Mem) (q : Nat) : UInt8 := m (q + 44)

/-- `item_header`: the address of the `i`-th item of the block at `p`. -/
def itemHeader (m : Mem) (p i : Nat) : Nat := p + itemOffset m (itemPointer p i)

/-- `cih->total_length` -/
def itemTotalLength (m : Mem) (a : Nat) : Nat := getLe m a 4

/-- A signed 64-bit field. -/
def getInt64 (m : Mem) (a : Nat) : Int64 := (UInt64.ofNat (getLe m a 8)).toInt64

/-- Store a signed 64-bit field. -/
def setInt64 (m : Mem) (a : Nat) (v : Int64) : Mem := setLe m a 8 v.toUInt64.toNat

/-- `cih->timestamp` -/
def itemTimestamp (m : Mem) (a : Nat) : Int64 := getInt64 m (a + 8)

/-- `cih->expire` -/
def itemExpire (m : Mem) (a : Nat) : Int64 := getInt64 m (a + 16)

/-- `POOL_BLOCK_USED` -/
def poolBlockUsed : UInt8 := 1

/-- `POOL_ITEM_USED` -/
def poolItemUsed : UInt8 := 1

/-- `POOL_ITEM_DELETED` -/
def poolItemDeleted : UInt8 := 4

namespace Config

variable (cfg : Config)

/-- `block_address` -/
def blockAddress (blockid : Nat) : Nat := blockid * cfg.blockSize

/-- `POOL_MAX_FREE_SPACE` -/
def maxFreeSpace : Nat := cfg.blockSize - blockHeaderSize

/-- `POOL_FSMM_RATIO` -/
def fsmmRatio : Nat := cfg.blockSize / 256

end Config

/-! ## Blocks and the free-space map -/

/-- The shared memory of the query cache. -/
structure Store where
  /-- the array of blocks -/
  shmem : Mem
  /-- the free-space map, one byte per block -/
  fsmm : Nat → UInt8
  /-- `*pool_fsmm_clock_hand` -/
  clockHand : Nat
  hash : HashTable

variable (cfg : Config)

/-- `pool_init_cache_block`: wipe a block that is not marked as used. -/
def poolInitCacheBlock (m : Mem) (blockid : Nat) : Mem :=
  let p := cfg.blockAddress blockid
  if cfg.numBlocks ≤ blockid then m
  else if blockFlags m p &&& poolBlockUsed = 0 then
    setLe (fill m p cfg.blockSize 0) (p + 8) 4 (cfg.blockSize - blockHeaderSize)
  else m

/-- `pool_init_whole_cache_blocks` -/
def poolInitWholeCacheBlocks (m : Mem) : Mem :=
  (List.range cfg.numBlocks).foldl (poolInitCacheBlock cfg) m

/-- `pool_update_fsmm`: the free space is kept in units of the ratio, cut off to
one byte. -/
def poolUpdateFsmm (fsmm : Nat → UInt8) (blockid freeSpace : Nat) : Nat → UInt8 :=
  if cfg.numBlocks ≤ blockid then fsmm
  else if cfg.maxFreeSpace < freeSpace then fsmm
  else Function.update fsmm blockid (UInt8.ofNat (freeSpace / cfg.fsmmRatio))

/-- The loop of `pool_reuse_block` that takes the first `n` items of a block
out of the hash table. -/
def unindexItems (m : Mem) (p : Nat) : (n : Nat) → HashTable → HashTable
  | 0, hash => hash
  | n + 1, hash =>
    let hash := unindexItems m p n hash
    let cip := itemPointer p n
    if itemFlags m cip &&& poolItemDeleted = 0 then (poolHashDelete hash (itemQueryHash m cip)).2
    else hash

/-- `pool_reuse_block`: recycle the block under the hand and move the hand on. -/
def poolReuseBlock (s : Store) : Nat × Store :=
  let reused := s.clockHand
  let p := cfg.blockAddress reused
  let m := write s.shmem p [0]
  (reused,
    { shmem := poolInitCacheBlock cfg m reused
      fsmm := poolUpdateFsmm cfg s.fsmm reused cfg.maxFreeSpace
      clockHand := if cfg.numBlocks ≤ reused + 1 then 0 else reused + 1
      hash := unindexItems m p (numItems m p) s.hash })

/-- The search loop of `pool_get_block`: the first block whose free space suffices, both by
the map and by its header. -/
def searchFsmm (s : Store) (freeSpace : Nat) : Option Nat :=
  (List.range cfg.numBlocks).find? fun i =>
    decide (freeSpace / cfg.fsmmRatio ≤ (s.fsmm i).toNat) &&
      decide (freeSpace ≤ freeBytes s.shmem (cfg.blockAddress i))

/-- `pool_get_block`: a block that is found, or a recycled one.  `none` stands for the
`-1` of a request no block can ever satisfy. -/
def poolGetBlock (s : Store) (freeSpace : Nat) : Option Nat × Store :=
  if cfg.maxFreeSpace < freeSpace then (none, s)
  else
    match searchFsmm cfg s freeSpace with
    | some i => (some i, s)
    | none => let (b, s) := poolReuseBlock cfg s; (some b, s)

/-! ## Deleting an item -/

/-- What `pool_delete_item_shmem_cache` writes to the block of the item: the item
is marked, a block left with no other item is wiped, and the last item of a block
gives its `size` bytes back.  `num_items - 1` is unsigned, so it wraps around on
the block that has just been wiped. -/
def deleteItemBytes (m : Mem) (cacheid : CacheId) (size : Nat) : Mem :=
  let p := cfg.blockAddress cacheid.blockid
  let cip := itemPointer p cacheid.itemid
  let m := write m (cip + 44) [itemFlags m cip ||| poolItemDeleted]
  let m := if numItems m p - 1 = 0 then poolInitCacheBlock cfg (write m p [0]) cacheid.blockid
    else m
  if cacheid.itemid = (numItems m p + (2 ^ 32 - 1)) % 2 ^ 32 then
    setLe (setLe m (p + 8) 4 (freeBytes m p + size)) (p + 4) 4 (numItems m p - 1)
  else m

/-- `pool_delete_item_shmem_cache` -/
def poolDeleteItemShmemCache (s : Store) (cacheid : CacheId) : Int × Store :=
  let p := cfg.blockAddress cacheid.blockid
  let cip := itemPointer p cacheid.itemid
  if cfg.numBlocks ≤ cacheid.blockid then (-1, s)
  else if blockFlags s.shmem p &&& poolBlockUsed = 0 then (-1, s)
  else if numItems s.shmem p ≤ cacheid.itemid then (-1, s)
  else if itemFlags s.shmem cip &&& poolItemUsed = 0 then (-1, s)
  else if itemFlags s.shmem cip &&& poolItemDeleted ≠ 0 then (-1, s)
  else
    let key := itemQueryHash s.shmem cip
    let size := itemTotalLength s.shmem (itemHeader s.shmem p cacheid.itemid) + itemPointerSize
    let m := deleteItemBytes cfg s.shmem cacheid size
    (0, { s with
      shmem := m
      hash := (poolHashDelete s.hash key).2
      fsmm := poolUpdateFsmm cfg s.fsmm cacheid.blockid (freeBytes m p) })

/-! ## Adding an item -/

/-- The loop of `pool_add_item_shmem_cache` that recycles blocks until a hash
element is free.  `none` when the fuel runs out first. -/
def reuseUntilFree : (fuel blockid : Nat) → Store → Option (Nat × Store)
  | fuel, blockid, s =>
    if isFreeHashElement s.hash then some (blockid, s)
    else
      match fuel with
      | 0 => none
      | fuel + 1 => reuseUntilFree fuel (poolReuseBlock cfg s).1 (poolReuseBlock cfg s).2

/-- Where the body of the next item of the block at `p` goes: below the last
item, or at the very end of an empty block. -/
def nextItemAddress (m : Mem) (p totalLength : Nat) : Nat :=
  if numItems m p = 0 then p + cfg.blockSize - totalLength
  else p + itemOffset m (itemPointer p (numItems m p - 1)) - totalLength

/-- Copy the header and the data of an item to address `item`. -/
def writeItem (m : Mem) (item : Nat) (data : List UInt8) (timestamp expire : Int64) : Mem :=
  let m := setLe m item 4 (itemHeaderSize + data.length)
  let m := setInt64 m (item + 8) timestamp
  let m := setInt64 m (item + 16) expire
  write m (item + itemHeaderSize) data

/-- Copy an item pointer to address `cip`. -/
def writeItemPointer (m : Mem) (cip : Nat) (queryHash : QueryHash) (offset : Nat) : Mem :=
  let m := write m cip queryHash.bytes
  let m := setLe m (cip + 32) 8 0
  let m := setLe m (cip + 40) 4 offset
  write m (cip + 44) [poolItemUsed]

/-- The part of `pool_add_item_shmem_cache` that writes to the block at `p`:
item, item pointer and block header. -/
def placeItem (m : Mem) (p : Nat) (queryHash : QueryHash) (data : List UInt8)
    (timestamp expire : Int64) : Mem :=
  let n := numItems m p
  let free := freeBytes m p
  let item := nextItemAddress cfg m p (itemHeaderSize + data.length)
  let m := if n = 0 then write m p [poolBlockUsed] else m
  let m := writeItem m item data timestamp expire
  let m := writeItemPointer m (itemPointer p n) queryHash (item - p)
  let m := setLe m (p + 8) 4 (free - itemHeaderSize - data.length - itemPointerSize)
  setLe m (p + 4) 4 (n + 1)

/-- `pool_add_item_shmem_cache`, with the cache id it returns (`none` for
`NULL`).  The outer `none` is the fuel of the eviction loop running out. -/
def poolAddItemShmemCache (s : Store) (queryHash : QueryHash) (data : List UInt8)
    (expire now : Int64) : Option (Option CacheId × Store) :=
  if data.length = 0 then some (none, s)
  else
    let requestSize := data.length + itemPointerSize + itemHeaderSize
    match poolGetBlock cfg s requestSize with
    | (none, s) => some (none, s)
    | (some blockid, s) =>
      let s := { s with shmem := poolInitCacheBlock cfg s.shmem blockid }
      (reuseUntilFree cfg cfg.numBlocks blockid s).map fun (blockid, s) =>
        let p := cfg.blockAddress blockid
        if freeBytes s.shmem p < requestSize then (none, s)
        else
          let cacheid := ⟨blockid, numItems s.shmem p⟩
          let m := placeItem cfg s.shmem p queryHash data now expire
          let (rc, hash) := poolHashInsert s.hash queryHash cacheid false
          let s := { s with
            shmem := m
            fsmm := poolUpdateFsmm cfg s.fsmm blockid (freeBytes m p)
            hash := hash }
          if rc < 0 then (none, (poolDeleteItemShmemCache cfg s cacheid).2)
          else (some cacheid, s)

/-! ## Looking an item up -/

/-- `pool_cache_item_header`: the address of the item, `none` for `NULL`. -/
def poolCacheItemHeader (m : Mem) (cacheid : CacheId) : Option Nat :=
  let p := cfg.blockAddress cacheid.blockid
  if cfg.numBlocks ≤ cacheid.blockid then none
  else if numItems m p ≤ cacheid.itemid then none
  else some (itemHeader m p cacheid.itemid)

/-- `pool_find_item_on_shmem_cache` once it holds the exclusive lock: the entry
is looked up again, because another process may have run in between. -/
def findItemExclusive (s : Store) (queryHash : QueryHash) (now : Int64) :
    Option CacheId × Store :=
  match poolHashSearch s.hash queryHash with
  | none => (none, s)
  | some c =>
    let cih := itemHeader s.shmem (cfg.blockAddress c.blockid) c.itemid
    if (itemTimestamp s.shmem cih).toInt + (itemExpire s.shmem cih).toInt < now.toInt then
      (none, (poolDeleteItemShmemCache cfg s c).2)
    else (some c, s)

/-- `pool_find_item_on_shmem_cache`; `now` and `now'` are the two readings of the
clock. -/
def poolFindItemOnShmemCache (s : Store) (queryHash : QueryHash) (now now' : Int64) :
    Option CacheId × Store :=
  match poolHashSearch s.hash queryHash with
  | none => (none, s)
  | some c =>
    let cih := itemHeader s.shmem (cfg.blockAddress c.blockid) c.itemid
    let expire := (itemExpire s.shmem cih).toInt
    if 0 < expire ∧ expire < now.toInt - (itemTimestamp s.shmem cih).toInt then
      findItemExclusive cfg s queryHash now'
    else (some c, s)

/-- What a look-up hands to its caller. -/
inductive GetResult where
  /-- `NULL`: there is no unexpired item -/
  | notFound
  /-- the bytes of the item -/
  | found (data : List UInt8)
  /-- the item header is `NULL` and the caller is about to dereference it -/
  | nullHeader
  deriving DecidableEq

/-- The end of `pool_get_item_shmem_cache`: from a cache id to the bytes of the
item. -/
def itemData (m : Mem) : Option CacheId → GetResult
  | none => .notFound
  | some c =>
    match poolCacheItemHeader cfg m c with
    | none => .nullHeader
    | some cih => .found (read m (cih + itemHeaderSize) (itemTotalLength m cih - itemHeaderSize))

/-- `pool_get_item_shmem_cache` -/
def poolGetItemShmemCache (s : Store) (queryHash : QueryHash) (now now' : Int64) :
    GetResult × Store :=
  let (c, s) := poolFindItemOnShmemCache cfg s queryHash now now'
  (itemData cfg s.shmem c, s)

/-! ## Starting up and starting over -/

/-- The byte every entry of the free-space map starts from. -/
def initialFsmm : Nat → UInt8 := fun _ => UInt8.ofNat (cfg.maxFreeSpace / cfg.fsmmRatio)

/-- The store a freshly started process works on.  `none` when
`pool_hash_init` does not come back. -/
def initialStore : Option Store :=
  (poolHashInit cfg.maxNumCache).map fun hash =>
    { shmem := poolInitWholeCacheBlocks cfg fun _ => 0
      fsmm := initialFsmm cfg
      clockHand := 0
      hash := hash }

/-- `pool_clear_memory_cache`, as far as it concerns the store. -/
def poolClearMemoryCache (s : Store) : Option Store :=
  (poolHashInit cfg.maxNumCache).map fun hash =>
    { shmem := poolInitWholeCacheBlocks cfg (fill s.shmem 0 (cfg.blockSize * cfg.numBlocks) 0)
      fsmm := initialFsmm cfg
      clockHand := 0
      hash := hash }

end PgBalancer.QueryCache
