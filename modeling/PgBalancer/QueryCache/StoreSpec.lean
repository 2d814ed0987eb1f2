import PgBalancer.QueryCache.Block

/-!
# What the store holds

Seen from outside, the store is a family of lists of items, one list per block,
together with an index that finds exactly the items not marked as deleted.
`StoreRep` says when the bytes stand for such contents, and every operation of
the store is shown to act on the contents:

* `StoreRep.deleteItem`, `reuseBlock` — an item, or all items of a block, are taken out.
* `StoreRep.addItem` — **an item is added, at the cost of blocks that are recycled**.
* `findItem` — **the item with the key is found, unless it has expired**.
* `storeRep_initial`, `storeRep_clear` — the store is empty at the start and when it is cleared.
-/

namespace PgBalancer.QueryCache

open ByteMem List Function

open Function (update)

/-- The items of each block. -/
abbrev Contents := Nat → List Item

/-- `it` is stored at `id` and not marked as deleted. -/
@[mk_iff] structure Live (cfg : Config) (c : Contents) (id : CacheId) (it : Item) : Prop where
  block_lt : id.blockid < cfg.numBlocks
  getElem : (c id.blockid)[id.itemid]? = some it
  not_deleted : it.deleted = false

/-- The bytes of the store stand for the contents `c`. -/
structure StoreRep (cfg : Config) (s : Store) (c : Contents) : Prop where
  block : ∀ b < cfg.numBlocks, BlockRep cfg.blockSize s.shmem (cfg.blockAddress b) (c b)
  hand_lt : s.clockHand < cfg.numBlocks
  hash : s.hash.Wf
  /-- the index finds exactly the live items, each under its own key -/
  index : ∀ key id, poolHashSearch s.hash key = some id ↔
    ∃ it, Live cfg c id it ∧ it.queryHash = key

variable {cfg : Config} {s s₁ s₂ s₃ : Store} {c c' c'' : Contents} {id id' : CacheId}
  {it it' : Item}

/-! ## Live items -/

theorem Live.unique (h : Live cfg c id it) (h' : Live cfg c id it') : it = it' :=
  Option.some.inj (h.getElem.symm.trans h'.getElem)

namespace StoreRep

theorem id_unique (h : StoreRep cfg s c) (h₁ : Live cfg c id it) (h₂ : Live cfg c id' it')
    (hkey : it.queryHash = it'.queryHash) : id = id' := by
  have hs₁ := (h.index it.queryHash id).2 ⟨it, h₁, rfl⟩
  have hs₂ := (h.index it.queryHash id').2 ⟨it', h₂, hkey.symm⟩
  exact Option.some.inj (hs₁.symm.trans hs₂)

theorem search_eq_none (h : StoreRep cfg s c) (key : QueryHash) :
    poolHashSearch s.hash key = none ↔ ∀ id it, Live cfg c id it → it.queryHash ≠ key := by
  constructor
  · intro hnone id it hl hkey
    rw [(h.index key id).2 ⟨it, hl, hkey⟩] at hnone
    cases hnone
  · intro hall
    rw [Option.eq_none_iff_forall_ne_some]
    intro id hid
    obtain ⟨it, hl, hkey⟩ := (h.index key id).1 hid
    exact hall id it hl hkey

end StoreRep

/-- `c'` holds nothing that is not in `c`: items may have been lost, none has
been added, moved or altered. -/
def Contents.Sub (cfg : Config) (c' c : Contents) : Prop :=
  ∀ id it, Live cfg c' id it → Live cfg c id it

theorem Contents.Sub.refl (cfg : Config) (c : Contents) : c.Sub cfg c := fun _ _ h => h

theorem Contents.Sub.trans (h₁ : c''.Sub cfg c') (h₂ : c'.Sub cfg c) : c''.Sub cfg c :=
  fun id it h => h₂ id it (h₁ id it h)

/-! ## Changing one block -/

variable {b r b' p a n size i B fuel : Nat}

theorem blockAddress_disjoint (cfg : Config) (h : b ≠ b') :
    cfg.blockAddress b + cfg.blockSize ≤ cfg.blockAddress b' ∨
      cfg.blockAddress b' + cfg.blockSize ≤ cfg.blockAddress b := by
  unfold Config.blockAddress
  rcases Nat.lt_or_gt_of_ne h with hlt | hlt
  · left
    rw [← Nat.succ_mul]
    exact Nat.mul_le_mul_right _ hlt
  · right
    rw [← Nat.succ_mul]
    exact Nat.mul_le_mul_right _ hlt

variable {items : List Item} {m' : Mem}

theorem StoreRep.block_update (h : StoreRep cfg s c)
    (hframe : ∀ a n, a + n ≤ cfg.blockAddress b ∨ cfg.blockAddress b + cfg.blockSize ≤ a →
      AgreeOn s.shmem m' a n)
    (hb : BlockRep cfg.blockSize m' (cfg.blockAddress b) items) :
    ∀ b' < cfg.numBlocks, BlockRep cfg.blockSize m' (cfg.blockAddress b')
      (update c b items b') := by
  intro b' hb'
  by_cases hbb : b' = b
  · subst hbb
    rwa [update_self]
  · rw [update_of_ne hbb]
    exact (h.block b' hb').of_agreeOn (hframe _ _ (blockAddress_disjoint cfg hbb))

theorem live_update : Live cfg (update c b items) id it ↔
      if id.blockid = b then b < cfg.numBlocks ∧ items[id.itemid]? = some it ∧ it.deleted = false
      else Live cfg c id it := by
  rw [live_iff]
  split_ifs with hb
  · rw [hb, update_self]
  · rw [update_of_ne hb, live_iff]

/-! ## Recycling a block -/

/-- The keys of the live items among the first `n` of a block. -/
def HasKey (items : List Item) (n : Nat) (key : QueryHash) : Prop :=
  ∃ i < n, ∃ it, items[i]? = some it ∧ it.deleted = false ∧ it.queryHash = key

variable {m : Mem} {t : HashTable}

/-- **The unindexing loop** removes the keys of the live items it has passed, and
no other key. -/
theorem unindexItems_spec (ht : t.Wf)
    (hitems : ∀ i it, items[i]? = some it → ∃ off, ItemRep m p i off it) :
    ∀ n ≤ items.length, (unindexItems m p n t).Wf ∧
      ∀ key, (HasKey items n key → poolHashSearch (unindexItems m p n t) key = none) ∧
        (¬ HasKey items n key →
          poolHashSearch (unindexItems m p n t) key = poolHashSearch t key) := by
  intro n
  induction n with
  | zero =>
    intro _
    refine ⟨ht, fun key => ⟨?_, fun _ => rfl⟩⟩
    rintro ⟨i, hi, -⟩
    omega
  | succ n ih =>
    intro hn
    obtain ⟨hwf, hsearch⟩ := ih (by omega)
    have hget : items[n]? = some items[n] := List.getElem?_eq_getElem (by omega)
    obtain ⟨off, hrep⟩ := hitems n _ hget
    -- the keys passed so far and the key of item `n`
    have hkeys : ∀ key, HasKey items (n + 1) key ↔
        HasKey items n key ∨ (items[n].deleted = false ∧ items[n].queryHash = key) := by
      intro key
      rw [HasKey, Nat.exists_lt_succ_right]
      simp [HasKey, hget]
    simp only [unindexItems]
    by_cases hd : items[n].deleted = false
    · rw [if_pos ((itemFlags_and_deleted hrep).2 hd), hrep.queryHash]
      obtain ⟨hwf', hdel⟩ := poolHashDelete_spec hwf items[n].queryHash
      refine ⟨hwf', fun key => ?_⟩
      rw [hdel, hkeys]
      constructor
      · rintro (hk | ⟨-, rfl⟩)
        · split
          · rfl
          · exact (hsearch key).1 hk
        · simp
      · intro hk
        rw [not_or] at hk
        rw [if_neg (fun heq => hk.2 ⟨hd, heq.symm⟩)]
        exact (hsearch key).2 hk.1
    · rw [if_neg (fun hf => hd ((itemFlags_and_deleted hrep).1 hf))]
      refine ⟨hwf, fun key => ?_⟩
      have hiff : HasKey items (n + 1) key ↔ HasKey items n key := by
        rw [hkeys]
        exact or_iff_left fun h => hd h.1
      rw [hiff]
      exact hsearch key

namespace StoreRep

variable {a n : Nat}

theorem agreeOn_reuse {m : Mem} {b : Nat}
    (hd : a + n ≤ cfg.blockAddress b ∨ cfg.blockAddress b + cfg.blockSize ≤ a) :
    AgreeOn m (poolInitCacheBlock cfg (write m (cfg.blockAddress b) [0]) b) a n := by
  have hB := cfg.blockSize_ge
  exact (agreeOn_write (by simp only [length_singleton]; omega)).trans
    (agreeOn_poolInitCacheBlock hd)

/-- **Recycling a block** empties the block under the hand and takes its live
items out of the index. -/
theorem reuseBlock (h : StoreRep cfg s c) :
    StoreRep cfg (poolReuseBlock cfg s).2 (update c s.clockHand []) := by
  set b := s.clockHand with hb
  set p := cfg.blockAddress b with hp
  have hblk := h.block b h.hand_lt
  have hfree := hblk.freeBytes_add
  have hB := cfg.blockSize_ge
  set m := write s.shmem p [0] with hm
  have hframe : ∀ a n, a + n ≤ p ∨ p + 1 ≤ a → AgreeOn s.shmem m a n :=
    fun a n hd => agreeOn_write (by simpa using hd)
  -- clearing the flags byte leaves the items where they are
  have hnum : numItems m p = (c b).length := by
    rw [← hblk.numItems_eq]
    exact (hframe _ _ (by omega)).getLe_eq
  have hitems : ∀ i it, (c b)[i]? = some it → ∃ off, ItemRep m p i off it := by
    intro i it hi
    obtain ⟨-, hlow, -⟩ := hblk.item_bounds hi
    refine ⟨_, (hblk.item i it hi).of_agreeOn (hframe _ _ ?_) (hframe _ _ (by omega))⟩
    simp only [itemPointer, blockHeaderSize]
    omega
  obtain ⟨hwf, hsearch⟩ := unindexItems_spec h.hash hitems (c b).length (le_refl _)
  refine ⟨?_, ?_, ?_, ?_⟩
  · refine h.block_update (fun a n hd => agreeOn_reuse hd) (blockRep_init h.hand_lt ?_)
    rw [blockFlags, write_byte_self]
    rfl
  · simp only [poolReuseBlock]
    have hlt := h.hand_lt
    split <;> omega
  · simp only [poolReuseBlock]
    rw [← hb, ← hp, ← hm, hnum]
    exact hwf
  · intro key id
    simp only [poolReuseBlock]
    rw [← hb, ← hp, ← hm, hnum]
    by_cases hk : HasKey (c b) (c b).length key
    · rw [(hsearch key).1 hk]
      obtain ⟨i, -, jt, hjt, hd, hjk⟩ := hk
      have hj : Live cfg c ⟨b, i⟩ jt := ⟨h.hand_lt, hjt, hd⟩
      simp only [reduceCtorEq, false_iff, not_exists, not_and]
      intro it hl hkey
      rw [live_update] at hl
      split at hl
      · simp at hl
      · next hne => exact hne (congrArg CacheId.blockid (h.id_unique hl hj (hkey.trans hjk.symm)))
    · rw [(hsearch key).2 hk, h.index]
      refine exists_congr fun it => and_congr_left fun hkey => ?_
      rw [live_update]
      split
      · next heq =>
        simp only [List.getElem?_nil, reduceCtorEq, false_and, and_false, iff_false]
        intro hl
        have hget := hl.getElem
        rw [heq] at hget
        exact hk ⟨_, (List.getElem?_eq_some_iff.1 hget).1, it, hget, hl.not_deleted, hkey⟩
      · rfl

end StoreRep

/-! ## Deleting an item -/

theorem agreeOn_deleteItemBytes (hitem : 12 + 48 * id.itemid + 48 ≤ cfg.blockSize)
    (hd : a + n ≤ cfg.blockAddress id.blockid ∨ cfg.blockAddress id.blockid + cfg.blockSize ≤ a) :
    AgreeOn m (deleteItemBytes cfg m id size) a n := by
  have hB := cfg.blockSize_ge
  simp only [deleteItemBytes]
  set p := cfg.blockAddress id.blockid
  set m₁ := write m (itemPointer p id.itemid + 44)
    [itemFlags m (itemPointer p id.itemid) ||| poolItemDeleted]
  set m₂ := if numItems m₁ p - 1 = 0 then poolInitCacheBlock cfg (write m₁ p [0]) id.blockid
    else m₁ with hm₂
  have h₁ : AgreeOn m m₁ a n := by
    refine agreeOn_write ?_
    simp only [length_singleton, itemPointer, blockHeaderSize, itemPointerSize]
    omega
  have h₂ : AgreeOn m₁ m₂ a n := by
    rw [hm₂]
    split
    · exact StoreRep.agreeOn_reuse hd
    · exact AgreeOn.refl _ _ _
  refine h₁.trans (h₂.trans ?_)
  split
  · exact (agreeOn_setLe (by omega)).trans (agreeOn_setLe (by omega))
  · exact AgreeOn.refl _ _ _

/-- What is left of the items of a block when item `i` is deleted: the block is wiped if this was
the only item, the last item is dropped, and any other is marked. -/
def deleteAt (items : List Item) (i : Nat) : List Item :=
  match items[i]? with
  | none => items
  | some it =>
    if it.deleted then items
    else if items.length = 1 then []
    else if i + 1 = items.length then items.dropLast
    else items.set i { it with deleted := true }

/-- **Deleting an item from its block.** -/
theorem BlockRep.deleteAt (hb : id.blockid < cfg.numBlocks)
    (h : BlockRep cfg.blockSize m (cfg.blockAddress id.blockid) items)
    (hi : items[id.itemid]? = some it) (hd : it.deleted = false) :
    BlockRep cfg.blockSize (deleteItemBytes cfg m id (it.totalLength + itemPointerSize))
      (cfg.blockAddress id.blockid) (QueryCache.deleteAt items id.itemid) := by
  set p := cfg.blockAddress id.blockid with hp
  have hB := cfg.blockSize_lt
  have hfree := h.freeBytes_add
  obtain ⟨-, -, hlt⟩ := h.item_bounds hi
  have hmark := h.markDeleted hi
  simp only [deleteItemBytes, ← hp, QueryCache.deleteAt, hi, hd, Bool.false_eq_true, if_false]
  set m₁ := write m (itemPointer p id.itemid + 44)
    [itemFlags m (itemPointer p id.itemid) ||| poolItemDeleted] with hm₁
  have hnum : numItems m₁ p = items.length := by rw [hmark.numItems_eq, length_set]
  by_cases hone : items.length = 1
  · -- the only item: the block is wiped, and `num_items - 1` wraps around
    have hwipe : BlockRep cfg.blockSize (poolInitCacheBlock cfg (write m₁ p [0]) id.blockid)
        p [] := by
      refine blockRep_init hb ?_
      rw [blockFlags, write_byte_self]
      rfl
    have hzero : numItems m₁ p - 1 = 0 := by omega
    rw [if_pos hzero, hwipe.numItems_eq, length_nil, if_neg (by omega), if_pos hone]
    exact hwipe
  · have hmany : ¬ numItems m₁ p - 1 = 0 := by omega
    rw [if_neg hmany, hnum, if_neg hone]
    by_cases hlast : id.itemid + 1 = items.length
    · -- the last of several items gives its space back
      rw [if_pos (by omega), if_pos hlast]
      obtain ⟨init, last, rfl⟩ : ∃ init last, items = init ++ [last] :=
        ((eq_nil_or_concat' items).resolve_left (ne_nil_of_length_pos (by omega)))
      simp only [length_append, length_singleton, Nat.add_right_cancel_iff] at hlast hone
      rw [hlast, List.getElem?_concat_length, Option.some.injEq] at hi
      subst hi
      rw [hlast, set_append_right _ _ (le_refl _), Nat.sub_self, set_cons_zero] at hmark
      have hpop := hmark.popItem (ne_nil_of_length_pos (by omega)) hB
      rw [hnum] at hpop
      rw [dropLast_concat]
      exact hpop
    · rw [if_neg (by omega), if_neg hlast]
      exact hmark

/-- A deletion leaves the other items alive. -/
theorem deleteAt_live (hi : items[i]? = some it) (hd : it.deleted = false) (j : Nat) (jt : Item) :
    (deleteAt items i)[j]? = some jt ∧ jt.deleted = false ↔
      (items[j]? = some jt ∧ jt.deleted = false) ∧ j ≠ i := by
  have hlt := (List.getElem?_eq_some_iff.1 hi).1
  simp only [deleteAt, hi, hd, Bool.false_eq_true, if_false]
  split_ifs with hone hlast
  · simp only [List.getElem?_nil, reduceCtorEq, false_and, false_iff, not_and, ne_eq, not_not]
    rintro ⟨hjt, -⟩
    have := (List.getElem?_eq_some_iff.1 hjt).1
    omega
  · rw [List.getElem?_dropLast]
    split_ifs with hj
    · exact (and_iff_left (by omega)).symm
    · simp only [false_and, false_iff, not_and, ne_eq, not_not]
      rintro ⟨hjt, -⟩
      have := (List.getElem?_eq_some_iff.1 hjt).1
      omega
  · by_cases hj : j = i
    · subst hj
      rw [List.getElem?_set_self hlt]
      simp only [Option.some.injEq, ne_eq, not_true_eq_false, and_false, iff_false, not_and]
      rintro rfl
      simp
    · simp [List.getElem?_set_ne (Ne.symm hj), hj]

theorem BlockRep.flags_and_used (h : BlockRep B m p items) :
    blockFlags m p &&& poolBlockUsed = 0 ↔ items = [] := by
  rw [h.flags_eq]
  cases items with
  | nil => simp
  | cons it rest => simp [poolBlockUsed]

/-- The item at `id` is in use and not deleted, as the flags of its block and its pointer say. -/
def ItemLive (cfg : Config) (s : Store) (id : CacheId) : Prop :=
  let p := cfg.blockAddress id.blockid
  id.blockid < cfg.numBlocks ∧ blockFlags s.shmem p &&& poolBlockUsed ≠ 0 ∧
    id.itemid < numItems s.shmem p ∧
      itemFlags s.shmem (itemPointer p id.itemid) &&& poolItemUsed ≠ 0 ∧
    itemFlags s.shmem (itemPointer p id.itemid) &&& poolItemDeleted = 0

instance (cfg : Config) (s : Store) (id : CacheId) : Decidable (ItemLive cfg s id) :=
  inferInstanceAs (Decidable (_ ∧ _))

section

variable (h : StoreRep cfg s c)
include h

theorem StoreRep.itemLive_iff : ItemLive cfg s id ↔ ∃ it, Live cfg c id it := by
  constructor
  · rintro ⟨hb, -, hi, -, hd⟩
    have hblk := h.block id.blockid hb
    rw [hblk.numItems_eq] at hi
    have hit : (c id.blockid)[id.itemid]? = some _ := List.getElem?_eq_getElem hi
    exact ⟨_, hb, hit, (itemFlags_and_deleted (hblk.item _ _ hit)).1 hd⟩
  · rintro ⟨it, hl⟩
    have hblk := h.block id.blockid hl.block_lt
    have hrep := hblk.item _ _ hl.getElem
    refine ⟨hl.block_lt, ?_, ?_, itemFlags_and_used hrep, ?_⟩
    · rw [ne_eq, hblk.flags_and_used]
      intro hnil
      have hget := hl.getElem
      simp [hnil] at hget
    · rw [hblk.numItems_eq]
      exact (List.getElem?_eq_some_iff.1 hl.getElem).1
    · exact (itemFlags_and_deleted hrep).2 hl.not_deleted

/-- Once the item at `id` is gone, the index has to lose its key and nothing
else. -/
theorem StoreRep.index_delete (hl : Live cfg c id it)
    (hc' : ∀ id' it', Live cfg c' id' it' ↔ Live cfg c id' it' ∧ id' ≠ id) (key : QueryHash) :
    poolHashSearch (poolHashDelete s.hash it.queryHash).2 key = some id' ↔
      ∃ it', Live cfg c' id' it' ∧ it'.queryHash = key := by
  rw [(poolHashDelete_spec h.hash it.queryHash).2]
  split
  · next hkey =>
    simp only [reduceCtorEq, false_iff, not_exists, not_and]
    intro it' hl' hkey'
    obtain ⟨hlive, hne⟩ := (hc' id' it').1 hl'
    exact hne (h.id_unique hlive hl (hkey'.trans hkey))
  · next hkey =>
    rw [h.index]
    refine exists_congr fun it' => and_congr_left fun hkey' => ?_
    rw [hc']
    refine (and_iff_left_of_imp ?_).symm
    rintro hlive rfl
    exact hkey (by rw [← hkey', hlive.unique hl])

/-- **Deleting a live item** takes it out of its block, and its key out of the index. -/
theorem StoreRep.deleteLive (hl : Live cfg c id it) :
    (poolDeleteItemShmemCache cfg s id).1 = 0 ∧ StoreRep cfg (poolDeleteItemShmemCache cfg s id).2
        (update c id.blockid (deleteAt (c id.blockid) id.itemid)) ∧
      ∀ id' it', Live cfg (update c id.blockid (deleteAt (c id.blockid) id.itemid)) id' it' ↔
        Live cfg c id' it' ∧ id' ≠ id := by
  have hb := hl.block_lt
  have hit := hl.getElem
  have hblk := h.block id.blockid hb
  have hrep := hblk.item _ _ hit
  obtain ⟨-, hlow, hlt⟩ := hblk.item_bounds hit
  have hused : ¬ blockFlags s.shmem (cfg.blockAddress id.blockid) &&& poolBlockUsed = 0 := by
    rw [hblk.flags_and_used]
    rintro hnil
    simp [hnil] at hit
  have hflag : ¬ itemFlags s.shmem (itemPointer (cfg.blockAddress id.blockid) id.itemid) &&&
      poolItemDeleted ≠ 0 := not_not.2 ((itemFlags_and_deleted hrep).2 hl.not_deleted)
  have hsize : itemTotalLength s.shmem
      (itemHeader s.shmem (cfg.blockAddress id.blockid) id.itemid) = it.totalLength := by
    rw [itemHeader, hrep.offset]
    exact hrep.totalLength
  have hc' : ∀ id' it', Live cfg (update c id.blockid
      (deleteAt (c id.blockid) id.itemid)) id' it' ↔ Live cfg c id' it' ∧ id' ≠ id := by
    intro id' it'
    rw [live_update]
    split
    · next heq =>
      have hne : id' ≠ id ↔ id'.itemid ≠ id.itemid := by
        cases id'
        cases id
        simp_all
      rw [deleteAt_live hit hl.not_deleted, live_iff, heq, hne, and_assoc, and_assoc, and_assoc]
    · next hne => exact (and_iff_left fun heq => hne (congrArg CacheId.blockid heq)).symm
  simp only [poolDeleteItemShmemCache]
  rw [if_neg (not_le.2 hb), if_neg hused, hblk.numItems_eq, if_neg (not_le.2 hlt),
    if_neg (itemFlags_and_used hrep), if_neg hflag]
  refine ⟨rfl, ⟨?_, h.hand_lt, (poolHashDelete_spec h.hash _).1, ?_⟩, hc'⟩
  · rw [hsize]
    exact h.block_update (fun a n hd => agreeOn_deleteItemBytes (by omega) hd)
      (hblk.deleteAt hb hit hl.not_deleted)
  · intro key id'
    simp only [hrep.queryHash]
    exact h.index_delete hl hc' key

/-- **Deleting by cache id.**  If a live item sits at `id` it is taken out, and
nothing else is; otherwise (the id is out of range, its block was recycled, or
the item was deleted before) nothing happens. -/
theorem StoreRep.deleteItem (id : CacheId) :
    (∃ it c', Live cfg c id it ∧ (poolDeleteItemShmemCache cfg s id).1 = 0 ∧
        StoreRep cfg (poolDeleteItemShmemCache cfg s id).2 c' ∧
        ∀ id' it', Live cfg c' id' it' ↔ Live cfg c id' it' ∧ id' ≠ id) ∨
      (∀ it, ¬ Live cfg c id it) ∧ poolDeleteItemShmemCache cfg s id = (-1, s) := by
  by_cases hlive : ∃ it, Live cfg c id it
  · left
    obtain ⟨it, hl⟩ := hlive
    obtain ⟨hrc, hrep, hc'⟩ := h.deleteLive hl
    exact ⟨it, _, hl, hrc, hrep, hc'⟩
  · right
    rw [not_exists] at hlive
    refine ⟨hlive, ?_⟩
    simp only [poolDeleteItemShmemCache]
    by_cases hb : cfg.numBlocks ≤ id.blockid
    · rw [if_pos hb]
    rw [if_neg hb]
    have hblk := h.block id.blockid (by omega)
    by_cases hi : numItems s.shmem (cfg.blockAddress id.blockid) ≤ id.itemid
    · rw [if_pos hi, ite_self]
    -- the item is there, so it must have been deleted before
    have hlt := hi
    rw [hblk.numItems_eq] at hlt
    have hit : (c id.blockid)[id.itemid]? = some _ := List.getElem?_eq_getElem (not_le.1 hlt)
    have hrep := hblk.item _ _ hit
    have hd := fun hd => hlive _ ⟨not_le.1 hb, hit, hd⟩
    rw [if_pos (fun hf => hd ((itemFlags_and_deleted hrep).1 hf)), ite_self, ite_self, ite_self]

end

/-! ## Finding room -/

/-- Block `b` can take `r` more bytes. -/
def Room (cfg : Config) (c : Contents) (b r : Nat) : Prop :=
  b < cfg.numBlocks ∧ r + 12 + 48 * (c b).length + bodySize (c b) ≤ cfg.blockSize

theorem StoreRep.room_iff (h : StoreRep cfg s c) (hb : b < cfg.numBlocks) :
    Room cfg c b r ↔ r ≤ freeBytes s.shmem (cfg.blockAddress b) := by
  have hfree := (h.block b hb).freeBytes_add
  simp only [Room, hb, true_and]
  omega

theorem sub_update_nil (cfg : Config) (c : Contents) (b : Nat) :
    Contents.Sub cfg (update c b []) c := by
  intro id it hl
  rw [live_update] at hl
  split at hl
  · simp at hl
  · exact hl

theorem StoreRep.room_reuse (h : StoreRep cfg s c) (hr : r ≤ cfg.maxFreeSpace) :
    Room cfg (update c s.clockHand []) s.clockHand r := by
  have hB := cfg.blockSize_ge
  have hmax : cfg.maxFreeSpace = cfg.blockSize - 12 := rfl
  refine ⟨h.hand_lt, ?_⟩
  simp only [update_self, length_nil, bodySize_nil]
  omega

theorem StoreRep.getBlock (h : StoreRep cfg s c) (hr : r ≤ cfg.maxFreeSpace) :
    ∃ b s' c', poolGetBlock cfg s r = (some b, s') ∧ StoreRep cfg s' c' ∧ c'.Sub cfg c ∧
      Room cfg c' b r := by
  simp only [poolGetBlock]
  rw [if_neg (not_lt.2 hr)]
  split
  · next i hfind =>
    have hi : i < cfg.numBlocks := mem_range.1 (mem_of_find?_eq_some hfind)
    have hcond := List.find?_some hfind
    simp only [Bool.and_eq_true, decide_eq_true_eq] at hcond
    exact ⟨i, s, c, rfl, h, Contents.Sub.refl cfg c, (h.room_iff hi).2 hcond.2⟩
  · exact ⟨s.clockHand, _, _, rfl, h.reuseBlock, sub_update_nil cfg c _, h.room_reuse hr⟩

theorem StoreRep.initBlock (h : StoreRep cfg s c) (hb : b < cfg.numBlocks) :
    StoreRep cfg { s with shmem := poolInitCacheBlock cfg s.shmem b } c := by
  refine ⟨?_, h.hand_lt, h.hash, h.index⟩
  have hblk := h.block b hb
  by_cases hflags : blockFlags s.shmem (cfg.blockAddress b) &&& poolBlockUsed = 0
  · have hnil := hblk.flags_and_used.1 hflags
    have hupd := h.block_update (fun a n hd => agreeOn_poolInitCacheBlock hd)
      (blockRep_init hb hflags)
    rwa [← hnil, update_eq_self] at hupd
  · intro b' hb'
    simp only [poolInitCacheBlock]
    rw [if_neg (not_le.2 hb), if_neg hflags]
    exact h.block b' hb'

/-- **The eviction loop ends.**  Every turn empties the block under the hand, so
after one round nothing is indexed any more and a hash element must be free. -/
theorem StoreRep.reuseUntilFree (hr : r ≤ cfg.maxFreeSpace) :
    ∀ (fuel : Nat) (s : Store) (c : Contents) (b : Nat), StoreRep cfg s c →
      (∀ b' < cfg.numBlocks, (∀ j < fuel, b' ≠ (s.clockHand + j) % cfg.numBlocks) → c b' = []) →
      Room cfg c b r →
      ∃ b' s' c', QueryCache.reuseUntilFree cfg fuel b s = some (b', s') ∧ StoreRep cfg s' c' ∧
        c'.Sub cfg c ∧ Room cfg c' b' r ∧ isFreeHashElement s'.hash = true := by
  intro fuel
  induction fuel with
  | zero =>
    intro s c b h hempty hroom
    have hfree : isFreeHashElement s.hash = true := by
      refine h.hash.isFreeHashElement_of_empty fun key => (h.search_eq_none key).2 ?_
      intro id it hl
      have hget := hl.getElem
      rw [hempty id.blockid hl.block_lt (by simp)] at hget
      simp at hget
    refine ⟨b, s, c, ?_, h, Contents.Sub.refl cfg c, hroom, hfree⟩
    rw [QueryCache.reuseUntilFree, if_pos hfree]
  | succ fuel ih =>
    intro s c b h hempty hroom
    by_cases hfree : isFreeHashElement s.hash = true
    · refine ⟨b, s, c, ?_, h, Contents.Sub.refl cfg c, hroom, hfree⟩
      rw [QueryCache.reuseUntilFree, if_pos hfree]
    · have hhand : (poolReuseBlock cfg s).2.clockHand =
          if cfg.numBlocks ≤ s.clockHand + 1 then 0 else s.clockHand + 1 := rfl
      have hlt := h.hand_lt
      -- the blocks still to come are those after the old hand
      have hrest : ∀ b' < cfg.numBlocks,
          (∀ j < fuel, b' ≠ ((poolReuseBlock cfg s).2.clockHand + j) % cfg.numBlocks) →
            update c s.clockHand [] b' = [] := by
        intro b' hb' hne
        by_cases hbh : b' = s.clockHand
        · rw [hbh, update_self]
        · rw [update_of_ne hbh]
          refine hempty b' hb' fun j hj => ?_
          rcases j with _ | j
          · rwa [Nat.add_zero, Nat.mod_eq_of_lt hlt]
          · have hstep : ((poolReuseBlock cfg s).2.clockHand + j) % cfg.numBlocks =
                (s.clockHand + (j + 1)) % cfg.numBlocks := by
              rw [hhand]
              split
              · have hN : s.clockHand + (j + 1) = cfg.numBlocks + j := by omega
                rw [hN, Nat.add_mod_left, Nat.zero_add]
              · rw [Nat.add_assoc, Nat.add_comm 1 j]
            rw [← hstep]
            exact hne j (by omega)
      obtain ⟨b', s', c', heq, h', hsub, hroom', hfree'⟩ :=
        ih _ _ (poolReuseBlock cfg s).1 h.reuseBlock hrest (h.room_reuse hr)
      refine ⟨b', s', c', ?_, h', hsub.trans (sub_update_nil cfg c _), hroom', hfree'⟩
      rw [QueryCache.reuseUntilFree, if_neg hfree]
      exact heq

/-- **One turn of the hand is enough**, since it passes every block. -/
theorem StoreRep.reuseOneTurn (h : StoreRep cfg s c) (hr : r ≤ cfg.maxFreeSpace)
    (hroom : Room cfg c b r) :
    ∃ b' s' c', QueryCache.reuseUntilFree cfg cfg.numBlocks b s = some (b', s') ∧
      StoreRep cfg s' c' ∧ c'.Sub cfg c ∧ Room cfg c' b' r ∧ isFreeHashElement s'.hash = true := by
  refine StoreRep.reuseUntilFree hr cfg.numBlocks s c b h (fun b' hb' hne => ?_) hroom
  have hhand := h.hand_lt
  refine absurd ?_ (hne ((b' + cfg.numBlocks - s.clockHand) % cfg.numBlocks)
    (Nat.mod_lt _ cfg.numBlocks_pos))
  rw [Nat.add_mod_mod, show s.clockHand + (b' + cfg.numBlocks - s.clockHand) =
    b' + cfg.numBlocks by omega, Nat.add_mod_right, Nat.mod_eq_of_lt hb']

/-! ## Adding an item -/

/-- An item appended to a block becomes live at the end of it, and everything
else stays as it was. -/
theorem live_append (hb : b < cfg.numBlocks) (hd : it.deleted = false) :
    Live cfg (update c b (c b ++ [it])) id' it' ↔
      if id' = ⟨b, (c b).length⟩ then it' = it else Live cfg c id' it' := by
  rw [live_update]
  by_cases hb' : id'.blockid = b
  · rw [if_pos hb']
    by_cases hi : id'.itemid = (c b).length
    · have hid : id' = ⟨b, (c b).length⟩ := by cases id'; simp_all
      rw [if_pos hid, hi]
      simp only [hb, List.getElem?_concat_length, Option.some.injEq, true_and]
      constructor
      · rintro ⟨rfl, -⟩
        rfl
      · rintro rfl
        exact ⟨rfl, hd⟩
    · have hid : id' ≠ ⟨b, (c b).length⟩ := by rintro rfl; exact hi rfl
      have hget : (c b ++ [it])[id'.itemid]? = (c b)[id'.itemid]? := by
        rcases Nat.lt_or_ge id'.itemid (c b).length with hlt | hge
        · exact List.getElem?_append_left hlt
        · rw [List.getElem?_eq_none hge, List.getElem?_eq_none (by simp; omega)]
      rw [if_neg hid, hget, live_iff, hb']
  · rw [if_neg hb', if_neg (by rintro rfl; exact hb' rfl)]

variable {key : QueryHash} {data : List UInt8} {expire now : Int64} {fsmm : Nat → UInt8}

/-- An item is placed in a block that has room for it. -/
theorem StoreRep.placeItem (h : StoreRep cfg s c) (hroom : Room cfg c b (data.length + 48 + 24))
    (hfree : isFreeHashElement s.hash = true) (hnew : poolHashSearch s.hash key = none) :
    StoreRep cfg { s with
        shmem := QueryCache.placeItem cfg s.shmem (cfg.blockAddress b) key data now expire
        fsmm := fsmm
        hash := (poolHashInsert s.hash key ⟨b, (c b).length⟩ false).2 }
      (update c b (c b ++ [⟨key, false, now, expire, data⟩])) := by
  have hb := hroom.1
  have hblk := h.block b hb
  have hbytes := (h.room_iff hb).1 hroom
  have hfree' := hblk.freeBytes_add
  obtain ⟨-, hwf, hsearch⟩ := poolHashInsert_spec ⟨b, (c b).length⟩ h.hash hfree hnew
  refine ⟨h.block_update (fun a n hd => ?_) (hblk.placeItem hbytes), h.hand_lt, hwf, ?_⟩
  · exact hblk.agreeOn_placeItem hbytes (by omega) (by omega) (by omega)
  · intro key' id'
    rw [hsearch]
    simp only [live_append hb]
    by_cases hkey : key' = key
    · subst hkey
      rw [if_pos rfl, Option.some.injEq]
      constructor
      · rintro rfl
        exact ⟨_, by rw [if_pos rfl], rfl⟩
      · rintro ⟨it, hl, hit⟩
        split at hl
        · next hid => exact hid.symm
        · exact absurd hit ((h.search_eq_none _).1 hnew _ _ hl)
    · rw [if_neg hkey, h.index]
      refine exists_congr fun it => and_congr_left fun hit => ?_
      split
      · next hid =>
        constructor
        · intro hl
          have hget := hl.getElem
          rw [hid] at hget
          simp at hget
        · rintro rfl
          exact absurd hit (Ne.symm hkey)
      · rfl

/-! ### What an addition does, step by step -/

/-- What happens to the store before an item is placed: blocks are recycled, and blocks that are not
in use are wiped. -/
inductive Recycles (cfg : Config) (s : Store) : Store → Prop
  | refl : Recycles cfg s s
  | reuse {s' : Store} : Recycles cfg s s' → Recycles cfg s (poolReuseBlock cfg s').2
  | init {s' : Store} {b : Nat} : Recycles cfg s s' → b < cfg.numBlocks →
      Recycles cfg s { s' with shmem := poolInitCacheBlock cfg s'.shmem b }

theorem Recycles.trans (h₁ : Recycles cfg s₁ s₂) (h₂ : Recycles cfg s₂ s₃) :
    Recycles cfg s₁ s₃ := by
  induction h₂ with
  | refl => exact h₁
  | reuse _ ih => exact ih.reuse
  | init _ hb ih => exact ih.init hb

variable {s' s₀ : Store}

theorem recycles_poolGetBlock (h : poolGetBlock cfg s r = (some b, s')) : Recycles cfg s s' := by
  unfold poolGetBlock at h
  dsimp only at h
  split_ifs at h
  · cases h
  split at h
  · cases h
    exact .refl
  · obtain ⟨-, rfl⟩ := Prod.ext_iff.1 h
    exact Recycles.refl.reuse

theorem recycles_reuseUntilFree (h : QueryCache.reuseUntilFree cfg fuel b s = some (b', s')) :
    Recycles cfg s s' := by
  fun_induction QueryCache.reuseUntilFree cfg fuel b s with
  | case1 =>
    cases h
    exact .refl
  | case2 => cases h
  | case3 b s hfree fuel ih => exact Recycles.refl.reuse.trans (ih h)

/-- The store with an item placed in block `b`. -/
def Store.withItem (s : Store) (cfg : Config) (b n : Nat) (key : QueryHash) (data : List UInt8)
    (now expire : Int64) : Store :=
  let m := QueryCache.placeItem cfg s.shmem (cfg.blockAddress b) key data now expire
  { s with
    shmem := m
    fsmm := poolUpdateFsmm cfg s.fsmm b (freeBytes m (cfg.blockAddress b))
    hash := (poolHashInsert s.hash key ⟨b, n⟩ false).2 }

/-- **What an addition does.**  Nothing, if the data is empty or no block can hold it.  Otherwise
blocks are recycled until one has room and a hash element is free, and the item is placed there. -/
theorem StoreRep.addItem_cases (h : StoreRep cfg s c) (data : List UInt8) (expire now : Int64)
    (hnew : poolHashSearch s.hash key = none) :
    (poolAddItemShmemCache cfg s key data expire now = some (none, s) ∧
      (data.length = 0 ∨ cfg.maxFreeSpace < data.length + 48 + 24)) ∨
    ∃ b s₂ c₂, poolAddItemShmemCache cfg s key data expire now =
        some (some ⟨b, (c₂ b).length⟩, s₂.withItem cfg b (c₂ b).length key data now expire) ∧
      Recycles cfg s s₂ ∧ StoreRep cfg s₂ c₂ ∧ c₂.Sub cfg c ∧
      Room cfg c₂ b (data.length + 48 + 24) ∧ isFreeHashElement s₂.hash = true ∧
      poolHashSearch s₂.hash key = none := by
  have hps : itemPointerSize = 48 := rfl
  have hih : itemHeaderSize = 24 := rfl
  simp only [poolAddItemShmemCache, hps, hih]
  by_cases hzero : data.length = 0
  · rw [if_pos hzero]
    exact .inl ⟨rfl, .inl hzero⟩
  rw [if_neg hzero]
  by_cases hmax : cfg.maxFreeSpace < data.length + 48 + 24
  · simp only [poolGetBlock, if_pos hmax]
    exact .inl ⟨trivial, .inr hmax⟩
  right
  obtain ⟨b, s₁, c₁, heq, h₁, hsub₁, hroom₁⟩ := h.getBlock (not_lt.1 hmax)
  rw [heq]
  obtain ⟨b₂, s₂, c₂, hloop, h₂, hsub₂, hroom₂, hfree⟩ :=
    (h₁.initBlock hroom₁.1).reuseOneTurn (not_lt.1 hmax) hroom₁
  have hsub := hsub₂.trans hsub₁
  have hnew₂ : poolHashSearch s₂.hash key = none :=
    (h₂.search_eq_none key).2 fun id it hl => (h.search_eq_none key).1 hnew id it (hsub id it hl)
  have hnum := (h₂.block b₂ hroom₂.1).numItems_eq
  have hbytes := (h₂.room_iff hroom₂.1).1 hroom₂
  obtain ⟨hrc, -, -⟩ := poolHashInsert_spec ⟨b₂, (c₂ b₂).length⟩ h₂.hash hfree hnew₂
  simp only [hloop, Option.map_some, if_neg (not_lt.2 hbytes), hnum, hrc]
  refine ⟨b₂, s₂, c₂, rfl, ?_, h₂, hsub, hroom₂, hfree, hnew₂⟩
  exact ((recycles_poolGetBlock heq).init hroom₁.1).trans (recycles_reuseUntilFree hloop)

/-- **Adding an item.**  The call always comes back.  If it reports a cache id, the
item is live there, and whatever else is live was live before; if it reports
failure, blocks may have been recycled but nothing has been added.  It fails only
on empty data and on data no block can hold. -/
theorem StoreRep.addItem (h : StoreRep cfg s c) (data : List UInt8) (expire now : Int64)
    (hnew : poolHashSearch s.hash key = none) :
    ∃ r s' c', poolAddItemShmemCache cfg s key data expire now = some (r, s') ∧ StoreRep cfg s' c' ∧
      (r = none → c'.Sub cfg c) ∧
      (∀ id, r = some id → Live cfg c' id ⟨key, false, now, expire, data⟩ ∧
        ∀ id' it, Live cfg c' id' it → id' ≠ id → Live cfg c id' it) ∧
      (0 < data.length → data.length + 48 + 24 ≤ cfg.maxFreeSpace → r ≠ none) := by
  rcases h.addItem_cases data expire now hnew with
    ⟨heq, hbad⟩ | ⟨b, s₂, c₂, heq, -, h₂, hsub, hroom, hfree, hnew₂⟩
  · exact ⟨none, s, c, heq, h, fun _ => Contents.Sub.refl cfg c, by simp, by omega⟩
  · refine ⟨_, _, _, heq, h₂.placeItem hroom hfree hnew₂, by simp, ?_, by simp⟩
    intro id hid
    obtain rfl := Option.some.inj hid
    refine ⟨(live_append hroom.1 rfl).2 (by rw [if_pos rfl]), fun id' it hl hne => ?_⟩
    rw [live_append hroom.1 rfl, if_neg hne] at hl
    exact hsub id' it hl

/-! ## Looking an item up -/

namespace StoreRep

section

variable (h : StoreRep cfg s c)
include h

theorem itemData_live (hl : Live cfg c id it) :
    itemData cfg s.shmem (some id) = .found it.data := by
  have hblk := h.block id.blockid hl.block_lt
  have hrep := hblk.item _ _ hl.getElem
  have hlt := (List.getElem?_eq_some_iff.1 hl.getElem).1
  have hlen : it.totalLength = itemHeaderSize + it.data.length := rfl
  simp only [itemData, poolCacheItemHeader]
  rw [if_neg (not_le.2 hl.block_lt), hblk.numItems_eq, if_neg (not_le.2 hlt)]
  simp only [itemHeader, hrep.offset, hrep.totalLength, hlen, Nat.add_sub_cancel_left, hrep.data]

theorem findItemExclusive (key : QueryHash) (now : Int64) :
    ∃ c', StoreRep cfg (QueryCache.findItemExclusive cfg s key now).2 c' ∧ c'.Sub cfg c ∧
      ∀ id, (QueryCache.findItemExclusive cfg s key now).1 = some id →
        ∃ it, Live cfg c' id it ∧ it.queryHash = key := by
  unfold QueryCache.findItemExclusive
  split
  · exact ⟨c, h, Contents.Sub.refl cfg c, by simp⟩
  · next id hsearch =>
    simp only
    split
    · rcases h.deleteItem id with ⟨it, c', -, -, h', hc'⟩ | ⟨-, heq⟩
      · exact ⟨c', h', fun id' it' hl => ((hc' id' it').1 hl).1, by simp⟩
      · rw [heq]
        exact ⟨c, h, Contents.Sub.refl cfg c, by simp⟩
    · refine ⟨c, h, Contents.Sub.refl cfg c, fun id' hid => ?_⟩
      obtain rfl := Option.some.inj hid
      exact (h.index key id).1 hsearch

theorem findItem (key : QueryHash) (now now' : Int64) :
    ∃ c', StoreRep cfg (poolFindItemOnShmemCache cfg s key now now').2 c' ∧ c'.Sub cfg c ∧
      ∀ id, (poolFindItemOnShmemCache cfg s key now now').1 = some id →
        ∃ it, Live cfg c' id it ∧ it.queryHash = key := by
  unfold poolFindItemOnShmemCache
  split
  · exact ⟨c, h, Contents.Sub.refl cfg c, by simp⟩
  · next id hsearch =>
    simp only
    split
    · exact h.findItemExclusive key now'
    · refine ⟨c, h, Contents.Sub.refl cfg c, fun id' hid => ?_⟩
      obtain rfl := Option.some.inj hid
      exact (h.index key id).1 hsearch

theorem itemData_found {r : Option CacheId} {key : QueryHash}
    (hr : ∀ id, r = some id → ∃ it, Live cfg c id it ∧ it.queryHash = key) :
    itemData cfg s.shmem r = .notFound ∨ ∃ id it, Live cfg c id it ∧ it.queryHash = key ∧
        itemData cfg s.shmem r = .found it.data := by
  cases r with
  | none => exact .inl rfl
  | some id =>
    obtain ⟨it, hl, hkey⟩ := hr id rfl
    exact .inr ⟨id, it, hl, hkey, h.itemData_live hl⟩

end

end StoreRep

/-! ## The empty store -/

section

variable (hzero : ∀ b < cfg.numBlocks, blockFlags m (cfg.blockAddress b) = 0) {fsmm : Nat → UInt8}
  {hash : HashTable}
include hzero

/-- The blocks that are initialised are empty. -/
theorem blockRep_initWhole : ∀ n ≤ cfg.numBlocks,
      (∀ b < n, BlockRep cfg.blockSize ((List.range n).foldl (poolInitCacheBlock cfg) m)
        (cfg.blockAddress b) []) ∧ ∀ b < cfg.numBlocks, n ≤ b →
        blockFlags ((List.range n).foldl (poolInitCacheBlock cfg) m) (cfg.blockAddress b) = 0 := by
  intro n
  induction n with
  | zero => exact fun _ => ⟨fun b hb => absurd hb (by omega), fun b hb _ => hzero b hb⟩
  | succ n ih =>
    intro hn
    obtain ⟨hdone, hrest⟩ := ih (by omega)
    have hB := cfg.blockSize_ge
    rw [range_succ, foldl_append, foldl_cons, foldl_nil]
    refine ⟨fun b hb => ?_, fun b hb hle => ?_⟩
    · by_cases hbn : b = n
      · subst hbn
        exact blockRep_init (by omega) (by rw [hrest b (by omega) (le_refl _)]; rfl)
      · exact (hdone b (by omega)).of_agreeOn
          (agreeOn_poolInitCacheBlock (blockAddress_disjoint cfg hbn))
    · have hd := blockAddress_disjoint cfg (show b ≠ n by omega)
      rw [blockFlags, agreeOn_poolInitCacheBlock (n := 1) (by omega) _ (le_refl _) (by omega)]
      exact hrest b hb (by omega)

theorem storeRep_empty (hinit : poolHashInit cfg.maxNumCache = some hash) :
    StoreRep cfg ⟨poolInitWholeCacheBlocks cfg m, fsmm, 0, hash⟩ fun _ => [] := by
  refine ⟨fun b hb => (blockRep_initWhole hzero cfg.numBlocks (le_refl _)).1 b hb,
    cfg.numBlocks_pos, wf_poolHashInit hinit, fun key id => ?_⟩
  rw [poolHashSearch_init hinit]
  simp only [reduceCtorEq, false_iff, not_exists, not_and]
  intro it hl
  simpa using hl.getElem

end

/-- **A freshly initialised store is empty.** -/
theorem storeRep_initial (h : initialStore cfg = some s) : StoreRep cfg s fun _ => [] := by
  obtain ⟨hash, hinit, rfl⟩ := Option.map_eq_some_iff.1 h
  exact storeRep_empty (fun _ _ => rfl) hinit

/-- **Clearing the cache empties it**, whatever it held. -/
theorem storeRep_clear (h : poolClearMemoryCache cfg s = some s') :
    StoreRep cfg s' fun _ => [] := by
  obtain ⟨hash, hinit, rfl⟩ := Option.map_eq_some_iff.1 h
  refine storeRep_empty (fun b hb => ?_) hinit
  have hlt : cfg.blockAddress b < cfg.blockSize * cfg.numBlocks := by
    unfold Config.blockAddress
    rw [Nat.mul_comm]
    exact Nat.mul_lt_mul_of_pos_left hb (by have := cfg.blockSize_ge; omega)
  rw [blockFlags]
  simpa using fill_self (m := s.shmem) (a := 0) (v := 0) hlt

theorem poolClearMemoryCache_isSome (h : initialStore cfg = some s₀) (s : Store) :
    ∃ s', poolClearMemoryCache cfg s = some s' := by
  obtain ⟨hash, hinit, -⟩ := Option.map_eq_some_iff.1 h
  exact ⟨_, by rw [poolClearMemoryCache, hinit]; rfl⟩

end PgBalancer.QueryCache
