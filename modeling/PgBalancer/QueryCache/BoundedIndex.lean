import PgBalancer.QueryCache.HashMemory

/-!
# The hash table is a bounded map

What the index is for is a finite map from keys to cache ids that holds so many keys and no more.
`BoundedMap` is that map; the table in memory refines it over every sequence of operations.

* `hash_refines_bounded_map` — **over every sequence of operations the memory answers like the
  bounded map and stays well linked; an insertion that fails changes nothing**.
-/

namespace PgBalancer.QueryCache

open LinkedChain ChainedTable List

/-! ## The map -/

/-- A finite map with room for `cap` keys. -/
structure BoundedMap (cap : Nat) where
  entries : Finmap fun _ : QueryHash => CacheId
  card_le : entries.keys.card ≤ cap

/-- An operation on the index; a reset is with the number of elements it was created with. -/
inductive HashOp where
  | insert (key : QueryHash) (cacheid : CacheId) (update : Bool)
  | search (key : QueryHash)
  | delete (key : QueryHash)
  | reset

/-- What an operation returns. -/
inductive HashAnswer where
  | cacheid (id : Option CacheId)
  | status (code : Int)
  deriving DecidableEq

namespace BoundedMap

variable {cap : Nat}

/-- The map without entries. -/
def empty (cap : Nat) : BoundedMap cap := ⟨∅, by simp⟩

theorem keys_insert (f : Finmap fun _ : QueryHash => CacheId) (key : QueryHash) (id : CacheId) :
    (f.insert key id).keys = insert key f.keys := by
  ext k
  rw [Finmap.mem_keys, Finmap.mem_insert, Finset.mem_insert, Finmap.mem_keys]

/-- A new key needs room, one that is there needs to be updated. -/
def insert (f : BoundedMap cap) (key : QueryHash) (id : CacheId) (update : Bool) :
    Int × BoundedMap cap :=
  if hmem : key ∈ f.entries then
    if update then
      (0, ⟨f.entries.insert key id, by
        rw [keys_insert, Finset.insert_eq_of_mem (Finmap.mem_keys.2 hmem)]
        exact f.card_le⟩)
    else (-1, f)
  else if hroom : f.entries.keys.card < cap then
    (0, ⟨f.entries.insert key id, by
      rw [keys_insert]
      exact (Finset.card_insert_le _ _).trans hroom⟩)
  else (-1, f)

/-- Take a key out, if it is there. -/
def delete (f : BoundedMap cap) (key : QueryHash) : Int × BoundedMap cap :=
  if key ∈ f.entries then
    (0, ⟨f.entries.erase key, by
      rw [Finmap.keys_erase]
      exact (Finset.card_le_card (Finset.erase_subset _ _)).trans f.card_le⟩)
  else (-1, f)

/-- One operation on the map. -/
def step (f : BoundedMap cap) : HashOp → HashAnswer × BoundedMap cap
  | .insert key id update => ((.status (f.insert key id update).1), (f.insert key id update).2)
  | .search key => (.cacheid (f.entries.lookup key), f)
  | .delete key => (.status (f.delete key).1, (f.delete key).2)
  | .reset => (.status 0, empty cap)

/-- The answers to a sequence of operations. -/
def run (f : BoundedMap cap) : List HashOp → List HashAnswer × BoundedMap cap
  | [] => ([], f)
  | op :: ops => ((f.step op).1 :: (run (f.step op).2 ops).1, (run (f.step op).2 ops).2)

end BoundedMap

/-! ## The memory -/

namespace HashMemory

/-- An operation on the memory; `none` when it does not come back. -/
def step (nelements : Nat) (m : HashMemory) : HashOp → Option (HashAnswer × HashMemory)
  | .insert key id update =>
    (m.poolHashInsert key id update).map fun r => (.status r.1, r.2)
  | .search key => (m.poolHashSearch key).map fun r => (.cacheid r, m)
  | .delete key => (m.poolHashDelete key).map fun r => (.status r.1, r.2)
  | .reset => (m.poolHashReset nelements).map fun m => (.status 0, m)

/-- The same on the memory. -/
def run (nelements : Nat) (m : HashMemory) : List HashOp → Option (List HashAnswer × HashMemory)
  | [] => some ([], m)
  | op :: ops =>
    (m.step nelements op).bind fun (answer, m) =>
      (m.run nelements ops).map fun (answers, m) => (answer :: answers, m)

/-- The shape of the memory. -/
structure WellLinked (m : HashMemory) (free : List Nat) (chains : Nat → List Nat) : Prop where
  /-- the free list ends -/
  free_linked : Linked m.next (m.next m.hashFree) free
  /-- the chain of each bucket ends -/
  chain_linked : ∀ b < m.nhash, Linked m.next (m.head b) (chains b)
  /-- every element is the sentinel, on the free list or in one chain, and nowhere twice -/
  partition :
    (m.hashFree :: (free ++ (List.range m.nhash).flatMap chains)).Perm (List.range m.nhash)
  /-- every element of a chain has a key of that bucket -/
  placed : ∀ b < m.nhash, ∀ i ∈ chains b, createHashKey m.mask (m.elements i).hashkey = b
  /-- no key occurs twice -/
  keys_nodup : (((List.range m.nhash).flatMap chains).map fun i => (m.elements i).hashkey).Nodup
  /-- the bucket of a key is in range -/
  bucket_lt : ∀ key, createHashKey m.mask key < m.nhash

end HashMemory

section Shape

variable {m : HashMemory} {t : HashTable} {free : List Nat} {chains : Nat → List Nat}

section

variable (h : Represents m t free chains)
include h

theorem Represents.placed (hwf : t.Wf) {b i : Nat}
    (hb : b < m.nhash) (hi : i ∈ chains b) : createHashKey m.mask (m.elements i).hashkey = b := by
  rw [h.mask_eq]
  refine hwf.table.placed b _ ?_
  have hmem : m.entry i ∈ (t.table.chain b).entries := by
    rw [h.entries b hb]
    exact mem_map_of_mem hi
  exact mem_keys_of_mem hmem

theorem Represents.keys_nodup (hwf : t.Wf) :
    (((List.range m.nhash).flatMap chains).map fun i => (m.elements i).hashkey).Nodup := by
  rw [map_flatMap, nodup_flatMap]
  constructor
  · intro b hb
    have hkeys := (t.table.chain b).nodupKeys
    rw [h.entries b (mem_range.1 hb)] at hkeys
    simpa [List.NodupKeys, List.keys, HashMemory.entry, Function.comp_def] using hkeys
  · -- the keys of two buckets are told apart by their buckets
    refine List.Pairwise.imp_of_mem ?_ nodup_range
    intro b b' hb hb' hne key hkey hkey'
    obtain ⟨i, hi, rfl⟩ := mem_map.1 hkey
    obtain ⟨j, hj, hij⟩ := mem_map.1 hkey'
    have hplaced := h.placed hwf (mem_range.1 hb) hi
    rw [← hij, h.placed hwf (mem_range.1 hb') hj] at hplaced
    exact hne hplaced.symm

theorem Represents.wellLinked (hwf : t.Wf) :
    m.WellLinked free chains where
  free_linked := h.sentinel ▸ h.free_linked
  chain_linked := h.chain_linked
  partition := h.sentinel ▸ h.partition
  placed _ hb _ hi := h.placed hwf hb hi
  keys_nodup := h.keys_nodup hwf
  bucket_lt := h.createHashKey_lt hwf

theorem Represents.isFreeHashElement_eq : m.isFreeHashElement = isFreeHashElement t := by
  have hlen := h.free_length
  have hlinked := h.free_linked
  rw [HashMemory.isFreeHashElement, h.sentinel]
  cases free with
  | nil => simp [hlinked.eq_none, isFreeHashElement, ← hlen]
  | cons e free => simp [hlinked.eq_some, isFreeHashElement, ← hlen]

end

end Shape

/-! ## Refinement -/

/-- The table holds the map, and as many elements are free as the map has room for. -/
structure Holds {cap : Nat} (t : HashTable) (f : BoundedMap cap) : Prop where
  wf : t.Wf
  nhash_eq : t.nhash = cap + 1
  lookup : ∀ key, f.entries.lookup key = poolHashSearch t key
  room : f.entries.keys.card + t.table.free = cap

/-- The memory holds a table that holds the map. -/
def Simulates {cap : Nat} (m : HashMemory) (f : BoundedMap cap) : Prop :=
  ∃ t free chains, Holds t f ∧ Represents m t free chains

variable {cap nelements : Nat} {t t₀ : HashTable} {m : HashMemory} {f : BoundedMap cap}

namespace Holds

theorem mem_iff (h : Holds t f) (key : QueryHash) :
    key ∈ f.entries ↔ (poolHashSearch t key).isSome := by
  rw [← h.lookup, Finmap.lookup_isSome]

theorem isFree_iff (h : Holds t f) : isFreeHashElement t = true ↔ f.entries.keys.card < cap := by
  have hroom := h.room
  rw [isFreeHashElement, decide_eq_true_eq]
  omega

theorem empty (h : poolHashInit nelements = some t) (hcap : t.nhash = cap + 1) :
    Holds t (BoundedMap.empty cap) where
  wf := wf_poolHashInit h
  nhash_eq := hcap
  lookup key := by
    rw [poolHashSearch_init h]
    rfl
  room := by
    have hfree := (wf_poolHashInit h).table.free_eq_capacity fun k => by
      rw [← poolHashSearch_eq (wf_poolHashInit h)]
      exact poolHashSearch_init h k
    rw [hfree, hcap, BoundedMap.empty, Finmap.keys_empty, Finset.card_empty]
    omega

theorem lookup_insert (h : Holds t f) {t' : HashTable} {key : QueryHash} {id : CacheId}
    (hsearch : ∀ k, poolHashSearch t' k = if k = key then some id else poolHashSearch t k) (k) :
    (f.entries.insert key id).lookup k = poolHashSearch t' k := by
  rw [hsearch]
  by_cases hk : k = key
  · subst hk
    rw [Finmap.lookup_insert, if_pos rfl]
  · rw [Finmap.lookup_insert_of_ne _ hk, if_neg hk, h.lookup]

/-- `pool_hash_insert` inserts into the index. -/
theorem insert (h : Holds t f) (key : QueryHash) (id : CacheId) (update : Bool) :
    (poolHashInsert t key id update).1 = (f.insert key id update).1 ∧
      Holds (poolHashInsert t key id update).2 (f.insert key id update).2 := by
  have hb := createHashKey_lt h.wf key
  have hmem := h.mem_iff key
  rw [poolHashSearch_eq h.wf] at hmem
  unfold BoundedMap.insert
  by_cases hin : key ∈ f.entries
  · rw [dif_pos hin]
    cases update with
    | false =>
      have heq : poolHashInsert t key id false = (-1, t) := by
        unfold poolHashInsert
        rw [if_neg (by omega), if_pos (hmem.1 hin)]
        rfl
      rw [heq]
      exact ⟨rfl, h⟩
    | true =>
      obtain ⟨hcode, hwf, hsearch⟩ := poolHashInsert_update_spec id h.wf ((h.mem_iff key).1 hin)
      refine ⟨hcode, hwf, ?_, h.lookup_insert hsearch, ?_⟩
      · rw [← h.nhash_eq]
        unfold poolHashInsert
        rw [if_neg (by omega), if_pos (hmem.1 hin)]
        rfl
      · have hfree : (poolHashInsert t key id true).2.table.free = t.table.free := by
          unfold poolHashInsert
          rw [if_neg (by omega), if_pos (hmem.1 hin)]
          rfl
        rw [hfree]
        change (f.entries.insert key id).keys.card + _ = cap
        rw [BoundedMap.keys_insert, Finset.insert_eq_of_mem (Finmap.mem_keys.2 hin)]
        exact h.room
  · rw [dif_neg hin]
    have hnone := hin
    rw [hmem] at hnone
    have hnone' : poolHashSearch t key = none := by
      rw [poolHashSearch_eq h.wf]
      simpa using hnone
    by_cases hroom : f.entries.keys.card < cap
    · rw [dif_pos hroom]
      have heq : ∀ upd, poolHashInsert t key id upd =
          (0, { t with table := t.table.insert (createHashKey t.mask) key id }) := by
        intro upd
        unfold poolHashInsert
        rw [if_neg (by omega), if_neg hnone, if_pos (h.isFree_iff.2 hroom)]
      obtain ⟨hcode, hwf, hsearch⟩ := poolHashInsert_spec id h.wf (h.isFree_iff.2 hroom) hnone'
      rw [heq] at hcode hwf hsearch ⊢
      refine ⟨rfl, hwf, h.nhash_eq, h.lookup_insert hsearch, ?_⟩
      have hcard : (f.entries.insert key id).keys.card = f.entries.keys.card + 1 := by
        rw [BoundedMap.keys_insert, Finset.card_insert_of_notMem fun hk =>
          hin (Finmap.mem_keys.1 hk)]
      have hsum := h.room
      dsimp only [Table.insert]
      omega
    · rw [dif_neg hroom]
      have heq : poolHashInsert t key id update = (-1, t) := by
        unfold poolHashInsert
        rw [if_neg (by omega), if_neg hnone, if_neg (mt h.isFree_iff.1 hroom)]
      rw [heq]
      exact ⟨rfl, h⟩

/-- `pool_hash_delete` deletes from the index. -/
theorem delete (h : Holds t f) (key : QueryHash) :
    (poolHashDelete t key).1 = (f.delete key).1 ∧
      Holds (poolHashDelete t key).2 (f.delete key).2 := by
  have hb := createHashKey_lt h.wf key
  have hmem := h.mem_iff key
  rw [poolHashSearch_eq h.wf] at hmem
  obtain ⟨hwf, hsearch⟩ := poolHashDelete_spec h.wf key
  unfold BoundedMap.delete
  by_cases hin : key ∈ f.entries
  · have heq : poolHashDelete t key =
        (0, { t with table := t.table.erase (createHashKey t.mask) key }) := by
      unfold poolHashDelete
      rw [if_neg (by omega), if_pos (hmem.1 hin)]
    rw [if_pos hin]
    rw [heq] at hwf hsearch ⊢
    refine ⟨rfl, hwf, h.nhash_eq, fun k => ?_, ?_⟩
    · rw [hsearch]
      by_cases hk : k = key
      · subst hk
        rw [Finmap.lookup_erase, if_pos rfl]
      · rw [Finmap.lookup_erase_ne hk, if_neg hk, h.lookup]
    · have hcard : (f.entries.erase key).keys.card + 1 = f.entries.keys.card := by
        rw [Finmap.keys_erase]
        exact Finset.card_erase_add_one (Finmap.mem_keys.2 hin)
      have hsum := h.room
      dsimp only [Table.erase]
      omega
  · have heq : poolHashDelete t key = (-1, t) := by
      unfold poolHashDelete
      rw [if_neg (by omega), if_neg (mt hmem.2 hin)]
    rw [if_neg hin, heq]
    exact ⟨rfl, h⟩

end Holds

namespace Simulates

/-- **One operation on the memory is one operation on the map.** -/
theorem step (h0 : poolHashInit nelements = some t₀) (hcap : t₀.nhash = cap + 1)
    (h : Simulates m f) (op : HashOp) :
    ∃ m', m.step nelements op = some ((f.step op).1, m') ∧ Simulates m' (f.step op).2 := by
  obtain ⟨t, free, chains, hholds, hrep⟩ := h
  cases op with
  | insert key id update =>
    obtain ⟨m', free', chains', heq, hrep', -⟩ := hrep.insert hholds.wf key id update
    obtain ⟨hcode, hholds'⟩ := hholds.insert key id update
    refine ⟨m', ?_, _, free', chains', hholds', hrep'⟩
    rw [HashMemory.step, heq, hcode]
    rfl
  | search key =>
    refine ⟨m, ?_, t, free, chains, hholds, hrep⟩
    rw [HashMemory.step, hrep.search hholds.wf key, ← hholds.lookup key]
    rfl
  | delete key =>
    obtain ⟨m', free', chains', heq, hrep'⟩ := hrep.delete hholds.wf key
    obtain ⟨hcode, hholds'⟩ := hholds.delete key
    refine ⟨m', ?_, _, free', chains', hholds', hrep'⟩
    rw [HashMemory.step, heq, hcode]
    rfl
  | reset =>
    obtain ⟨m', free', chains', heq, hrep'⟩ := represents_reset m h0
    refine ⟨m', ?_, t₀, free', chains', .empty h0 hcap, hrep'⟩
    rw [HashMemory.step, heq]
    rfl

theorem run (h0 : poolHashInit nelements = some t₀) (hcap : t₀.nhash = cap + 1) :
    ∀ (ops : List HashOp) {m : HashMemory} {f : BoundedMap cap}, Simulates m f →
      ∃ m', m.run nelements ops = some ((f.run ops).1, m') ∧ Simulates m' (f.run ops).2 := by
  intro ops
  induction ops with
  | nil => exact fun {m f} h => ⟨m, rfl, h⟩
  | cons op ops ih =>
    intro m f h
    obtain ⟨m₁, hstep, h₁⟩ := h.step h0 hcap op
    obtain ⟨m₂, hrun, h₂⟩ := ih h₁
    refine ⟨m₂, ?_, h₂⟩
    rw [HashMemory.run, hstep, Option.bind_some]
    dsimp only
    rw [hrun]
    rfl

end Simulates

/-- An insertion fails exactly on a key that is there and is not to be updated, or on a new key when
the free list is exhausted; and then nothing is changed. -/
def InsertFailsExactly (m : HashMemory) : Prop :=
  ∀ key id update, ∃ r m' found, m.poolHashInsert key id update = some (r, m') ∧
    m.poolHashSearch key = some found ∧
    (r = -1 ↔ (found.isSome ∧ update = false) ∨ (found = none ∧ m.next m.hashFree = none)) ∧
    (r = -1 → m' = m)

theorem Simulates.insertFailsExactly (h : Simulates m f) : InsertFailsExactly m := by
  obtain ⟨t, free, chains, hholds, hrep⟩ := h
  intro key id update
  obtain ⟨m', free', chains', heq, -, hsame⟩ := hrep.insert hholds.wf key id update
  refine ⟨_, m', _, heq, hrep.search hholds.wf key, ?_, hsame⟩
  have hfree : m.next m.hashFree = none ↔ ¬ isFreeHashElement t = true := by
    rw [← hrep.isFreeHashElement_eq, HashMemory.isFreeHashElement, Option.not_isSome_iff_eq_none]
  have hb := createHashKey_lt hholds.wf key
  rw [hfree, poolHashSearch_eq hholds.wf]
  unfold poolHashInsert
  rw [if_neg (by omega)]
  cases t.table.lookup (createHashKey t.mask) key with
  | some id' => cases update <;> simp
  | none => cases isFreeHashElement t <;> simp

/-- **The hash table on shared memory is a bounded map.** -/
theorem hash_refines_bounded_map (hpos : 1 ≤ nelements) (hle : nelements ≤ 2 ^ 30)
    (ops : List HashOp) :
    ∃ m₀ answers m, HashMemory.poolHashInit nelements = some m₀ ∧ nelements ≤ m₀.nhash ∧
      m₀.run nelements ops = some (answers, m) ∧ m.nhash = m₀.nhash ∧
      answers = ((BoundedMap.empty (m₀.nhash - 1)).run ops).1 ∧ (∀ key, m.poolHashSearch key =
        some (((BoundedMap.empty (m₀.nhash - 1)).run ops).2.entries.lookup key)) ∧
      (∃ free chains, m.WellLinked free chains) ∧ InsertFailsExactly m := by
  obtain ⟨t₀, h0⟩ := Option.isSome_iff_exists.1 (poolHashInit_isSome hpos hle)
  obtain ⟨m₀, free₀, chains₀, hm₀, hrep₀⟩ := represents_reset _ h0
  have htwo := (wf_poolHashInit h0).two_le
  have hcap : t₀.nhash = m₀.nhash - 1 + 1 := by
    rw [hrep₀.nhash_eq]
    omega
  have hstart : Simulates m₀ (BoundedMap.empty (m₀.nhash - 1)) :=
    ⟨t₀, free₀, chains₀, .empty h0 hcap, hrep₀⟩
  obtain ⟨m, hrun, hsim⟩ := Simulates.run h0 hcap ops hstart
  have hfails := hsim.insertFailsExactly
  obtain ⟨t, free, chains, hholds, hrep⟩ := hsim
  refine ⟨m₀, _, m, hm₀, ?_, hrun, ?_, rfl, fun key => ?_,
    ⟨free, chains, hrep.wellLinked hholds.wf⟩, hfails⟩
  · rw [hrep₀.nhash_eq]
    exact le_nhash_of_init h0
  · rw [hrep.nhash_eq, hholds.nhash_eq, ← hcap, hrep₀.nhash_eq]
  · rw [hrep.search hholds.wf key, hholds.lookup]

/-- A key is put in, found, put in again and deleted. -/
def zeroKeyOps : List HashOp :=
  let key : QueryHash := ⟨List.replicate 32 48, rfl⟩
  [.insert key ⟨1, 2⟩ false, .search key, .insert key ⟨3, 4⟩ true, .delete key]

/-- Operations on one key, in a table for three. -/
theorem hash_refines_bounded_map_three :
    ∃ m₀ answers m, HashMemory.poolHashInit 3 = some m₀ ∧ 3 ≤ m₀.nhash ∧
      m₀.run 3 zeroKeyOps = some (answers, m) ∧ m.nhash = m₀.nhash ∧
      answers = ((BoundedMap.empty (m₀.nhash - 1)).run zeroKeyOps).1 ∧
      (∀ key, m.poolHashSearch key =
        some (((BoundedMap.empty (m₀.nhash - 1)).run zeroKeyOps).2.entries.lookup key)) ∧
      (∃ free chains, m.WellLinked free chains) ∧ InsertFailsExactly m :=
  hash_refines_bounded_map (by decide) (by decide) _

end PgBalancer.QueryCache
