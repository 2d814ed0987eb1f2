import PgBalancer.Lib.ChainedTable

/-!
# The hash table of the query cache

The index of the shared-memory cache, `pool_hash_*` in `pool_memqcache.c`: it
maps the MD5 signature of a query to the place of its result.  The number of
hash keys is rounded up to a power of two, a key's bucket is taken from its
first eight characters, and the elements come from a pool whose first one is
never handed out.

* `poolHashInsert_spec`, `poolHashDelete_spec` — **the operations change the value of their key and
  of no other**.
* `sized_iff` — **the table has room for its elements if and only if there are at most `2 ^ 30`**.
-/

namespace PgBalancer.QueryCache

open ChainedTable

/-- `POOL_QUERY_HASH`: the 32 characters of an MD5 signature. -/
structure QueryHash where
  bytes : List UInt8
  length_eq : bytes.length = 32
  deriving DecidableEq

/-- `POOL_CACHEID`: a block number and an item number within the block. -/
structure CacheId where
  blockid : Nat
  itemid : Nat
  deriving DecidableEq

/-! ## The bucket of a key -/

/-- The value of a hexadecimal digit. -/
def hexDigit? (c : UInt8) : Option Nat :=
  if 48 ≤ c ∧ c ≤ 57 then some (c.toNat - 48)
  else if 97 ≤ c ∧ c ≤ 102 then some (c.toNat - 87)
  else if 65 ≤ c ∧ c ≤ 70 then some (c.toNat - 55)
  else none

/-- `isspace` in the C locale. -/
def isSpace (c : UInt8) : Bool := c == 32 || (9 ≤ c && c ≤ 13)

/-- The digits at the front of `s`, as a number. -/
def hexValue (s : List UInt8) : Nat :=
  (s.takeWhile fun c => (hexDigit? c).isSome).foldl (fun v c => 16 * v + (hexDigit? c).getD 0) 0

/-- Drop a `0x` that stands in front of a digit. -/
def dropHexMark : List UInt8 → List UInt8
  | 48 :: x :: d :: s =>
    if (x = 120 ∨ x = 88) ∧ (hexDigit? d).isSome then d :: s else 48 :: x :: d :: s
  | s => s

/-- `strtoul(s, NULL, 16)` on a 64-bit machine. -/
def strtoul16 (s : List UInt8) : Nat :=
  match s.dropWhile isSpace with
  | 45 :: s => (2 ^ 64 - hexValue (dropHexMark s)) % 2 ^ 64
  | 43 :: s => hexValue (dropHexMark s)
  | s => hexValue (dropHexMark s)

/-- `create_hash_key`: the top eight characters as a 32-bit number, masked. -/
def createHashKey (mask : Nat) (key : QueryHash) : Nat :=
  (strtoul16 (key.bytes.take 8) % 2 ^ 32) &&& mask

/-! ## The table -/

/-- `hash_header`, `hash_elements` and `hash_free` together. -/
structure HashTable where
  /-- number of hash keys -/
  nhash : Nat
  /-- mask for the hash function -/
  mask : Nat
  table : Table QueryHash CacheId

/-- The loop of `pool_hash_init` that rounds `nelements` up to a power of two.
`none` when the doubling would leave the range of `int`, in which case the
source does not come out of the loop with a usable size. -/
def roundUpLoop (nelements : Nat) : (fuel nelements2 shift : Nat) → Option (Nat × Nat)
  | 0, _, _ => none
  | fuel + 1, nelements2, shift =>
    if 2 * nelements2 < nelements then
      roundUpLoop nelements fuel (2 * nelements2) (shift - 1)
    else some (2 * nelements2, shift - 1)

/-- `pool_hash_init` and `pool_hash_reset`.  Of the `nelements2` elements the
first serves as the head of the free list and is never handed out. -/
def poolHashInit (nelements : Nat) : Option HashTable :=
  if nelements = 0 then none
  else
    (roundUpLoop nelements 30 1 32).map fun (nelements2, shift) =>
      { nhash := nelements2
        mask := (2 ^ 32 - 1) >>> shift
        table := Table.empty _ _ (nelements2 - 1) }

/-- `is_free_hash_element` -/
def isFreeHashElement (t : HashTable) : Bool := 0 < t.table.free

/-- `pool_hash_search` -/
def poolHashSearch (t : HashTable) (key : QueryHash) : Option CacheId :=
  if t.nhash ≤ createHashKey t.mask key then none
  else t.table.lookup (createHashKey t.mask) key

/-- `pool_hash_insert`: `-1` when the key is already there (unless `update`) or
when no element is free. -/
def poolHashInsert (t : HashTable) (key : QueryHash) (cacheid : CacheId) (update : Bool) :
    Int × HashTable :=
  if t.nhash ≤ createHashKey t.mask key then (-1, t)
  else if (t.table.lookup (createHashKey t.mask) key).isSome then
    if update then
      let b := createHashKey t.mask key
      (0, { t with table.chain :=
        Function.update t.table.chain b ((t.table.chain b).replace key cacheid) })
    else (-1, t)
  else if isFreeHashElement t then
    (0, { t with table := t.table.insert (createHashKey t.mask) key cacheid })
  else (-1, t)

/-- `pool_hash_delete`: `-1` when the key is not there. -/
def poolHashDelete (t : HashTable) (key : QueryHash) : Int × HashTable :=
  if t.nhash ≤ createHashKey t.mask key then (-1, t)
  else if (t.table.lookup (createHashKey t.mask) key).isSome then
    (0, { t with table := t.table.erase (createHashKey t.mask) key })
  else (-1, t)

/-! ## Well-formed tables -/

namespace HashTable

/-- What `pool_hash_init` establishes and the other operations keep. -/
structure Wf (t : HashTable) : Prop where
  mask_eq : t.mask + 1 = t.nhash
  two_le : 2 ≤ t.nhash
  table : t.table.Wf (createHashKey t.mask) t.nhash (t.nhash - 1)

end HashTable

variable {t : HashTable} {key key' : QueryHash} {id : CacheId}

theorem createHashKey_lt (h : t.Wf) (key : QueryHash) : createHashKey t.mask key < t.nhash := by
  have hle : createHashKey t.mask key ≤ t.mask := Nat.and_le_right
  have hmask := h.mask_eq
  omega

theorem poolHashSearch_eq (h : t.Wf) (key : QueryHash) :
    poolHashSearch t key = t.table.lookup (createHashKey t.mask) key := by
  unfold poolHashSearch
  rw [if_neg (by have := createHashKey_lt h key; omega)]

variable {nelements fuel n2 r s shift : Nat}

theorem roundUpLoop_spec (hshift : shift = fuel + 2) (hn2 : n2 * 2 ^ shift = 2 ^ 32)
    (h : roundUpLoop nelements fuel n2 shift = some (r, s)) :
    r * 2 ^ s = 2 ^ 32 ∧ s < shift ∧ 2 ≤ s ∧ nelements ≤ r := by
  induction fuel generalizing n2 shift with
  | zero => simp [roundUpLoop] at h
  | succ fuel ih =>
    have hdouble : 2 * n2 * 2 ^ (shift - 1) = 2 ^ 32 := by
      obtain rfl : shift = fuel + 2 + 1 := by omega
      rw [← hn2, Nat.add_sub_cancel, pow_succ]
      ring
    rw [roundUpLoop] at h
    split at h
    · obtain ⟨hr, hs, hle⟩ := ih (by omega) hdouble h
      exact ⟨hr, by omega, hle⟩
    · cases h
      exact ⟨hdouble, by omega, by omega, by omega⟩

theorem roundUpLoop_isSome : ∀ fuel n2 shift, 0 < fuel → nelements ≤ n2 * 2 ^ fuel →
      (roundUpLoop nelements fuel n2 shift).isSome := by
  intro fuel
  induction fuel with
  | zero => intro _ _ h; omega
  | succ fuel ih =>
    intro n2 shift _ hle
    rw [roundUpLoop]
    split
    · next hlt =>
      have hle' : nelements ≤ 2 * n2 * 2 ^ fuel := by
        rw [pow_succ] at hle
        nlinarith
      rcases Nat.eq_zero_or_pos fuel with rfl | hpos
      · omega
      · exact ih _ _ hpos hle'
    · rfl

theorem mask_add_one (hpow : n2 * 2 ^ shift = 2 ^ 32) : (2 ^ 32 - 1) >>> shift + 1 = n2 := by
  have hpos : 0 < 2 ^ shift := Nat.two_pow_pos shift
  obtain ⟨n, rfl⟩ : ∃ n, n2 = n + 1 := by
    refine Nat.exists_eq_succ_of_ne_zero ?_
    rintro rfl
    norm_num at hpow
  have hle : n * 2 ^ shift ≤ 2 ^ 32 - 1 := by
    rw [Nat.add_mul] at hpow
    omega
  have hdiv : (2 ^ 32 - 1) / 2 ^ shift = n :=
    Nat.div_eq_of_lt_le hle (by rw [hpow]; norm_num)
  rw [Nat.shiftRight_eq_div_pow, hdiv]

/-- What a successful initialisation has found. -/
theorem poolHashInit_inv (h : poolHashInit nelements = some t) : ∃ n2 shift,
    roundUpLoop nelements 30 1 32 = some (n2, shift) ∧ n2 * 2 ^ shift = 2 ^ 32 ∧ shift < 32 ∧
      2 ≤ shift ∧ nelements ≤ n2 ∧ t = ⟨n2, (2 ^ 32 - 1) >>> shift, Table.empty _ _ (n2 - 1)⟩ := by
  unfold poolHashInit at h
  split at h
  · cases h
  · obtain ⟨⟨n2, shift⟩, hloop, rfl⟩ := Option.map_eq_some_iff.1 h
    obtain ⟨hpow, hlt, hge, hle⟩ := roundUpLoop_spec rfl (by norm_num) hloop
    exact ⟨n2, shift, hloop, hpow, hlt, hge, hle, rfl⟩

theorem wf_poolHashInit (h : poolHashInit nelements = some t) : t.Wf := by
  obtain ⟨n2, shift, -, hpow, hlt, -, -, rfl⟩ := poolHashInit_inv h
  refine ⟨mask_add_one hpow, ?_, Table.wf_empty _ _ _⟩
  -- `shift` is at most 31, so one doubling at least has been made
  by_contra hcon
  have hn2 : n2 ≤ 1 := by simpa using Nat.lt_succ_iff.1 (not_le.1 hcon)
  have hle : 2 ^ shift ≤ 2 ^ 31 := Nat.pow_le_pow_right (by norm_num) (by omega)
  have := Nat.mul_le_mul hn2 hle
  omega

theorem poolHashInit_isSome (hpos : 0 < nelements) (hle : nelements ≤ 2 ^ 30) :
    (poolHashInit nelements).isSome := by
  have hloop := roundUpLoop_isSome 30 1 32 (by omega) (by omega : nelements ≤ 1 * 2 ^ 30)
  rw [poolHashInit, if_neg (by omega), Option.isSome_map]
  exact hloop

theorem le_nhash_of_init (h : poolHashInit nelements = some t) : nelements ≤ t.nhash := by
  obtain ⟨n2, shift, -, -, -, -, hle, rfl⟩ := poolHashInit_inv h
  exact hle

theorem poolHashSearch_init (h : poolHashInit nelements = some t) (key : QueryHash) :
    poolHashSearch t key = none := by
  rw [poolHashSearch_eq (wf_poolHashInit h)]
  obtain ⟨n2, shift, -, -, -, -, -, rfl⟩ := poolHashInit_inv h
  exact Table.lookup_empty _ key

/-! ## The index as a map -/

/-- **Inserting a new key** succeeds when an element is free, and adds exactly
that key. -/
theorem poolHashInsert_spec (id : CacheId) (h : t.Wf) (hfree : isFreeHashElement t = true)
    (hkey : poolHashSearch t key = none) :
    (poolHashInsert t key id false).1 = 0 ∧ (poolHashInsert t key id false).2.Wf ∧
      ∀ k, poolHashSearch (poolHashInsert t key id false).2 k =
        if k = key then some id else poolHashSearch t k := by
  have hb := createHashKey_lt h key
  rw [poolHashSearch_eq h] at hkey
  have heq : poolHashInsert t key id false =
      (0, { t with table := t.table.insert (createHashKey t.mask) key id }) := by
    unfold poolHashInsert
    rw [if_neg (by omega), hkey, if_neg (by simp), if_pos hfree]
  have hwf : (poolHashInsert t key id false).2.Wf := by
    rw [heq]
    exact ⟨h.mask_eq, h.two_le, h.table.insert hb (by simpa [isFreeHashElement] using hfree) hkey⟩
  refine ⟨by rw [heq], hwf, fun k => ?_⟩
  rw [poolHashSearch_eq hwf, poolHashSearch_eq h, heq]
  exact Table.lookup_insert t.table key k id

/-- **Updating a key** that is there changes exactly its cache id. -/
theorem poolHashInsert_update_spec (id : CacheId) (h : t.Wf)
    (hkey : (poolHashSearch t key).isSome) :
    (poolHashInsert t key id true).1 = 0 ∧ (poolHashInsert t key id true).2.Wf ∧
      ∀ k, poolHashSearch (poolHashInsert t key id true).2 k =
        if k = key then some id else poolHashSearch t k := by
  have hb := createHashKey_lt h key
  rw [poolHashSearch_eq h] at hkey
  have heq : poolHashInsert t key id true =
      (0, { t with table.chain := Function.update t.table.chain (createHashKey t.mask key) (
        (t.table.chain (createHashKey t.mask key)).replace key id) }) := by
    unfold poolHashInsert
    rw [if_neg (by omega), if_pos hkey]
    rfl
  have hwf : (poolHashInsert t key id true).2.Wf := by
    rw [heq]
    exact ⟨h.mask_eq, h.two_le, h.table.replace hb id⟩
  refine ⟨by rw [heq], hwf, fun k => ?_⟩
  rw [poolHashSearch_eq hwf, poolHashSearch_eq h, heq]
  exact Table.lookup_replace hkey k id

/-- **Deleting a key** removes exactly that key; deleting an absent one changes
nothing. -/
theorem poolHashDelete_spec (h : t.Wf) (key : QueryHash) : (poolHashDelete t key).2.Wf ∧
      ∀ k, poolHashSearch (poolHashDelete t key).2 k =
        if k = key then none else poolHashSearch t k := by
  have hb := createHashKey_lt h key
  unfold poolHashDelete
  rw [if_neg (by omega)]
  cases hl : t.table.lookup (createHashKey t.mask) key with
  | none =>
    refine ⟨by simpa using h, fun k => ?_⟩
    by_cases hk : k = key
    · simp [hk, poolHashSearch_eq h, hl]
    · simp [hk]
  | some v =>
    have hwf : HashTable.Wf { t with table := t.table.erase (createHashKey t.mask) key } :=
      ⟨h.mask_eq, h.two_le, h.table.erase hb hl⟩
    refine ⟨by simpa using hwf, fun k => ?_⟩
    simp only [Option.isSome_some, if_true, poolHashSearch_eq hwf, poolHashSearch_eq h]
    exact Table.lookup_erase t.table key k

namespace HashTable

/-- An index with no entry has a free element: the pool is never exhausted by
elements that nothing points to. -/
theorem Wf.isFreeHashElement_of_empty (h : t.Wf) (hnone : ∀ k, poolHashSearch t k = none) :
    isFreeHashElement t = true := by
  have hfree : t.table.free = t.nhash - 1 :=
    h.table.free_eq_capacity fun k => by rw [← poolHashSearch_eq h]; exact hnone k
  have := h.two_le
  simp only [isFreeHashElement, decide_eq_true_eq]
  omega

end HashTable

/-! ## The size of the table -/

/-- `nelements2` after a number of doublings. -/
def doubled : Nat → Int32
  | 0 => 1
  | k + 1 => doubled k <<< 1

/-- The sizes that `pool_hash_init` asks for: the header with its buckets, and the elements. -/
def headerSize (nelements2 : Nat) : Nat := 16 + 16 * nelements2

/-- The size of the elements. -/
def elementsSize (nelements2 : Nat) : Nat := 48 * nelements2

/-- `pool_hash_size` -/
def poolHashSize (nelements : Nat) : Option Nat :=
  (roundUpLoop nelements 30 1 32).map fun p => headerSize p.1 + elementsSize p.1

/-- `MAXALIGN` -/
def maxAlign (len : Nat) : Nat := (len + 7) / 8 * 8

/-- `pool_shared_memory_segment_get_chunk` in a segment of which `used` bytes are given away. -/
def getChunk (chunkSize size used : Nat) : Option Nat :=
  if chunkSize < used + maxAlign size then none else some (used + maxAlign size)

theorem doubled_le (k : Nat) : (doubled k).toInt ≤ 2 ^ 30 := by
  have hzero : ∀ k, doubled (k + 32) = 0 := by
    intro k
    induction k with
    | zero => decide
    | succ k ih =>
      rw [Nat.succ_add, doubled, ih]
      decide
  by_cases hk : k < 32
  · revert k
    decide
  · obtain ⟨k, rfl⟩ := Nat.exists_eq_add_of_le' (not_lt.1 hk)
    rw [hzero]
    decide

/-- What is expected of the sizes for a number of elements. -/
structure Sized (nelements : Nat) (t : HashTable) : Prop where
  ends : ∃ k, (nelements : Int) ≤ (doubled (k + 1)).toInt
  power : ∃ k, t.nhash = 2 ^ k
  room : max 2 nelements ≤ t.nhash
  int : t.nhash < 2 ^ 31
  mask_eq : t.mask = t.nhash - 1
  keys : ∀ key, createHashKey t.mask key < t.nhash
  chunks : ∃ size, poolHashSize nelements = some size ∧
    ((getChunk size (headerSize t.nhash) 0).bind (getChunk size (elementsSize t.nhash))).isSome

/-- **The table is sized exactly for** the numbers that the loop can round up in an `int`. -/
theorem sized_iff (nelements : Nat) :
    (∃ t, poolHashInit nelements = some t ∧ Sized nelements t) ↔
      0 < nelements ∧ nelements ≤ 2 ^ 30 := by
  constructor
  · rintro ⟨t, ht, hsized⟩
    obtain ⟨k, hk⟩ := hsized.ends
    refine ⟨Nat.pos_of_ne_zero fun hzero => ?_, ?_⟩
    · simp [poolHashInit, hzero] at ht
    · have := doubled_le (k + 1)
      omega
  · rintro ⟨hpos, hle⟩
    obtain ⟨t, ht⟩ := Option.isSome_iff_exists.1 (poolHashInit_isSome hpos hle)
    have hwf := wf_poolHashInit ht
    have hmask := hwf.mask_eq
    have hkeys := createHashKey_lt hwf
    have htwo := hwf.two_le
    obtain ⟨n2, shift, hloop, hpow, -, hge, hroom, rfl⟩ := poolHashInit_inv ht
    obtain ⟨k, -, hk⟩ := (Nat.dvd_prime_pow Nat.prime_two).1 ⟨_, hpow.symm⟩
    have hint : n2 < 2 ^ 31 := by
      have := Nat.mul_le_mul_left n2 (Nat.pow_le_pow_right two_pos hge)
      omega
    refine ⟨_, ht, ⟨29, ?_⟩, ⟨k, hk⟩, max_le htwo hroom, hint, by omega, hkeys, _,
      congrArg _ hloop, ?_⟩
    · have : (doubled (29 + 1)).toInt = 2 ^ 30 := by decide
      omega
    · have hheader : maxAlign (headerSize n2) = headerSize n2 := by
        unfold maxAlign headerSize
        omega
      have helements : maxAlign (elementsSize n2) = elementsSize n2 := by
        unfold maxAlign elementsSize
        omega
      simp [getChunk, hheader, helements]

/-- For `2 ^ 30 + 1` elements the doubling goes through the sign bit to zero, and on. -/
theorem rounding_never_ends :
    poolHashInit (2 ^ 30 + 1) = none ∧ ∀ k, (doubled k).toInt < 2 ^ 30 + 1 :=
  ⟨rfl, fun k => Int.lt_add_one_iff.2 (doubled_le k)⟩

end PgBalancer.QueryCache
