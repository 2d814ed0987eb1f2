import PgBalancer.QueryCache.Store

/-!
# What a block holds

The bytes of a block stand for a list of items.  `BlockRep` says when they do,
and this file shows what the operations on one block do to the list:

* `blockRep_init` — a block that is initialised is empty.
* `BlockRep.placeItem` — **a new item is appended**, if there is room for it.
* `BlockRep.markDeleted`, `BlockRep.popItem` — an item is marked, the last one is dropped.
-/

namespace PgBalancer.QueryCache

open ByteMem List

/-- An item of a block: its key, whether it is marked as deleted, and what was
stored. -/
structure Item where
  queryHash : QueryHash
  deleted : Bool
  timestamp : Int64
  expire : Int64
  data : List UInt8

namespace Item

/-- The bytes an item takes, its header included. -/
def totalLength (it : Item) : Nat := itemHeaderSize + it.data.length

/-- The flags byte of the item's pointer. -/
def flags (it : Item) : UInt8 :=
  if it.deleted then poolItemUsed ||| poolItemDeleted else poolItemUsed

end Item

/-- The bytes a list of items takes at the end of its block. -/
def bodySize (items : List Item) : Nat := (items.map Item.totalLength).sum

@[simp] theorem bodySize_nil : bodySize [] = 0 := rfl

@[simp] theorem bodySize_append (l₁ l₂ : List Item) :
    bodySize (l₁ ++ l₂) = bodySize l₁ + bodySize l₂ := by
  simp [bodySize]

@[simp] theorem bodySize_singleton (it : Item) : bodySize [it] = it.totalLength := by
  simp [bodySize]

theorem bodySize_take_succ {items : List Item} {i : Nat} {it : Item} (h : items[i]? = some it) :
    bodySize (items.take (i + 1)) = bodySize (items.take i) + it.totalLength := by
  rw [take_add_one, h, bodySize_append]
  simp

theorem bodySize_take_le (items : List Item) (i : Nat) :
    bodySize (items.take i) ≤ bodySize items := by
  conv_rhs => rw [← take_append_drop i items]
  rw [bodySize_append]
  omega

/-! ## Signed fields -/

theorem getInt64_setInt64 (m : Mem) (a : Nat) (v : Int64) : getInt64 (setInt64 m a v) a = v := by
  have hlt : v.toUInt64.toNat < 256 ^ 8 := v.toUInt64.toNat_lt
  rw [getInt64, setInt64, getLe_setLe hlt, UInt64.ofNat_toNat, Int64.toInt64_toUInt64]

variable {a b n : Nat}

theorem getInt64_congr {m m' : Mem} (h : AgreeOn m m' a 8) : getInt64 m' a = getInt64 m a := by
  rw [getInt64, getInt64, h.getLe_eq]

theorem agreeOn_setInt64 {m : Mem} {v : Int64} (h : b + n ≤ a ∨ a + 8 ≤ b) :
    AgreeOn m (setInt64 m a v) b n :=
  agreeOn_setLe h

/-! ## Representation -/

/-- Item `i` of the block at `p` is `it`, with its body at offset `off`. -/
structure ItemRep (m : Mem) (p i off : Nat) (it : Item) : Prop where
  queryHash : itemQueryHash m (itemPointer p i) = it.queryHash
  offset : itemOffset m (itemPointer p i) = off
  flags : itemFlags m (itemPointer p i) = it.flags
  totalLength : itemTotalLength m (p + off) = it.totalLength
  timestamp : itemTimestamp m (p + off) = it.timestamp
  expire : itemExpire m (p + off) = it.expire
  data : read m (p + off + itemHeaderSize) it.data.length = it.data

/-- The block of `B` bytes at `p` holds `items`, the first one at its very end. -/
structure BlockRep (B : Nat) (m : Mem) (p : Nat) (items : List Item) : Prop where
  flags_eq : blockFlags m p = if items.isEmpty then 0 else poolBlockUsed
  numItems_eq : numItems m p = items.length
  freeBytes_eq : freeBytes m p + blockHeaderSize + itemPointerSize * items.length + bodySize items =
    B
  item : ∀ i it, items[i]? = some it → ItemRep m p i (B - bodySize (items.take (i + 1))) it

variable {m m' : Mem} {p i off B : Nat} {it : Item} {items : List Item}

/-- An item survives every write that spares its body and its pointer up to the
flags byte; that byte then says whether it is deleted. -/
theorem ItemRep.reflag (h : ItemRep m p i off it) (d : Bool)
    (hptr : AgreeOn m m' (itemPointer p i) 44)
    (hflags : itemFlags m' (itemPointer p i) = { it with deleted := d }.flags)
    (hbody : AgreeOn m m' (p + off) it.totalLength) :
    ItemRep m' p i off { it with deleted := d } := by
  have hlen : it.totalLength = 24 + it.data.length := rfl
  have hhead : itemHeaderSize = 24 := rfl
  refine ⟨?_, ?_, hflags, ?_, ?_, ?_, ?_⟩
  · rw [← h.queryHash]
    simp only [itemQueryHash, QueryHash.mk.injEq]
    exact (hptr.mono (by omega) (by omega)).read_eq
  · rw [← h.offset]
    exact (hptr.mono (by omega) (by omega)).getLe_eq
  · rw [itemTotalLength, (hbody.mono (by omega) (by omega)).getLe_eq]
    exact h.totalLength
  · rw [← h.timestamp]
    exact getInt64_congr (hbody.mono (by omega) (by omega))
  · rw [← h.expire]
    exact getInt64_congr (hbody.mono (by omega) (by omega))
  · rw [(hbody.mono (by omega) (by simp only; omega)).read_eq]
    exact h.data

/-- **Frame rule for one item**: only its pointer and its body matter. -/
theorem ItemRep.of_agreeOn (h : ItemRep m p i off it)
    (hptr : AgreeOn m m' (itemPointer p i) itemPointerSize)
    (hbody : AgreeOn m m' (p + off) it.totalLength) : ItemRep m' p i off it := by
  have hps : itemPointerSize = 48 := rfl
  refine h.reflag it.deleted (hptr.mono (le_refl _) (by omega)) ?_ hbody
  rw [itemFlags, hptr _ (by omega) (by omega)]
  exact h.flags

section

variable (h : BlockRep B m p items)
include h

theorem BlockRep.freeBytes_add : freeBytes m p + 12 + 48 * items.length + bodySize items = B :=
  h.freeBytes_eq

/-- The body and the pointer of an item lie inside its block, on either side of
the free space. -/
theorem BlockRep.item_bounds (hi : items[i]? = some it) :
    B - bodySize (items.take (i + 1)) + it.totalLength + bodySize (items.take i) = B ∧
      12 + 48 * items.length + freeBytes m p ≤ B - bodySize (items.take (i + 1)) ∧
      i < items.length := by
  have hsucc := bodySize_take_succ hi
  have hle := bodySize_take_le items (i + 1)
  have hfree := h.freeBytes_add
  obtain ⟨hlt, -⟩ := List.getElem?_eq_some_iff.1 hi
  omega

/-- **Frame rule for a block.** -/
theorem BlockRep.of_agreeOn (hag : AgreeOn m m' p B) : BlockRep B m' p items := by
  have hfree := h.freeBytes_add
  refine ⟨?_, ?_, ?_, ?_⟩
  · rw [← h.flags_eq]
    exact hag p (by omega) (by omega)
  · rw [← h.numItems_eq]
    exact (hag.mono (by omega) (by omega)).getLe_eq
  · have heq : freeBytes m' p = freeBytes m p := (hag.mono (by omega) (by omega)).getLe_eq
    rw [heq]
    exact h.freeBytes_eq
  · intro i it hi
    obtain ⟨hbody, hptr, hlt⟩ := h.item_bounds hi
    refine (h.item i it hi).of_agreeOn (hag.mono ?_ ?_) (hag.mono (by omega) (by omega))
    all_goals simp only [itemPointer, blockHeaderSize, itemPointerSize]; omega

end

/-! ## Wiping a block -/

section Wipe

variable {cfg : Config} {b a n : Nat}

theorem agreeOn_poolInitCacheBlock
    (hd : a + n ≤ cfg.blockAddress b ∨ cfg.blockAddress b + cfg.blockSize ≤ a) :
    AgreeOn m (poolInitCacheBlock cfg m b) a n := by
  have hB := cfg.blockSize_ge
  simp only [poolInitCacheBlock]
  split
  · exact AgreeOn.refl _ _ _
  · split
    · exact (agreeOn_fill (by omega)).trans (agreeOn_setLe (by omega))
    · exact AgreeOn.refl _ _ _

/-- **A wiped block is empty**, with all but its header free. -/
theorem blockRep_init (hb : b < cfg.numBlocks)
    (hflags : blockFlags m (cfg.blockAddress b) &&& poolBlockUsed = 0) :
    BlockRep cfg.blockSize (poolInitCacheBlock cfg m b) (cfg.blockAddress b) [] := by
  have hB := cfg.blockSize_ge
  have hB' := cfg.blockSize_lt
  have hhead : blockHeaderSize = 12 := rfl
  simp only [poolInitCacheBlock]
  rw [if_neg (by omega), if_pos hflags]
  refine ⟨?_, ?_, ?_, by simp⟩
  · rw [blockFlags, agreeOn_setLe (n := 1) (by omega) _ (le_refl _) (by omega)]
    exact fill_self (k := 0) (by omega)
  · rw [numItems, (agreeOn_setLe (by omega)).getLe_eq]
    have hag : AgreeOn (fill m (cfg.blockAddress b + 4) 4 0)
        (fill m (cfg.blockAddress b) cfg.blockSize 0) (cfg.blockAddress b + 4) 4 := by
      intro x h₁ h₂
      simp only [fill]
      rw [if_pos (by omega), if_pos (by omega)]
    rw [hag.getLe_eq, getLe_fill_zero (le_refl _)]
    rfl
  · rw [freeBytes, getLe_setLe (by omega)]
    simp only [length_nil, bodySize_nil]
    omega

end Wipe

/-! ## Placing an item -/

section Place

variable {queryHash : QueryHash} {data : List UInt8} {timestamp expire : Int64} {a item n cip : Nat}

theorem agreeOn_writeItem (hd : a + n ≤ item ∨ item + itemHeaderSize + data.length ≤ a) :
    AgreeOn m (writeItem m item data timestamp expire) a n := by
  have hhead : itemHeaderSize = 24 := rfl
  unfold writeItem
  refine AgreeOn.trans ?_ (agreeOn_write (by omega))
  refine AgreeOn.trans ?_ (agreeOn_setLe (by omega))
  exact (agreeOn_setLe (by omega)).trans (agreeOn_setLe (by omega))

theorem agreeOn_writeItemPointer {off : Nat} (hd : a + n ≤ cip ∨ cip + itemPointerSize ≤ a) :
    AgreeOn m (writeItemPointer m cip queryHash off) a n := by
  have hsize : itemPointerSize = 48 := rfl
  have hlen := queryHash.length_eq
  unfold writeItemPointer
  refine AgreeOn.trans ?_ (agreeOn_write (by simp only [length_singleton]; omega))
  refine AgreeOn.trans ?_ (agreeOn_setLe (by omega))
  exact (agreeOn_write (by omega)).trans (agreeOn_setLe (by omega))

/-- What `writeItem` and `writeItemPointer` have written is an item, provided the
pointer lies below the body. -/
theorem itemRep_write (m : Mem) {off : Nat} (hoff : itemPointer p n + itemPointerSize ≤ p + off)
    (hlt : off + itemHeaderSize + data.length < 2 ^ 31) :
    ItemRep (writeItemPointer (writeItem m (p + off) data timestamp expire) (itemPointer p n)
      queryHash off) p n off ⟨queryHash, false, timestamp, expire, data⟩ := by
  have hhead : itemHeaderSize = 24 := rfl
  have hsize : itemPointerSize = 48 := rfl
  have hlen := queryHash.length_eq
  set m₁ := writeItem m (p + off) data timestamp expire with hm₁
  set m₂ := writeItemPointer m₁ (itemPointer p n) queryHash off with hm₂
  -- the pointer is written last and does not touch the body
  have hbody : AgreeOn m₁ m₂ (p + off) (itemHeaderSize + data.length) :=
    agreeOn_writeItemPointer (by omega)
  refine ⟨?_, ?_, ?_, ?_, ?_, ?_, ?_⟩
  · have hread : read (write m₁ (itemPointer p n) queryHash.bytes) (itemPointer p n) 32 =
        queryHash.bytes := by
      rw [← hlen]
      exact read_write_self m₁ _ queryHash.bytes
    have hag : AgreeOn (write m₁ (itemPointer p n) queryHash.bytes) m₂ (itemPointer p n) 32 :=
      ((agreeOn_setLe (by omega)).trans (agreeOn_setLe (by omega))).trans
        (agreeOn_write (by omega))
    simp only [itemQueryHash, hag.read_eq, hread]
  · simp only [itemOffset, hm₂, writeItemPointer]
    rw [(agreeOn_write (by omega)).getLe_eq, getLe_setLe (by omega)]
  · exact write_byte_self _ _ _
  · rw [itemTotalLength, (hbody.mono (by omega) (by omega)).getLe_eq, hm₁]
    simp only [writeItem, setInt64]
    rw [(agreeOn_write (by omega)).getLe_eq, (agreeOn_setLe (by omega)).getLe_eq,
      (agreeOn_setLe (by omega)).getLe_eq, getLe_setLe (by omega)]
    rfl
  · rw [itemTimestamp, getInt64_congr (hbody.mono (by omega) (by omega)), hm₁]
    simp only [writeItem]
    rw [getInt64_congr (agreeOn_write (by omega)), getInt64_congr (agreeOn_setInt64 (by omega)),
      getInt64_setInt64]
  · rw [itemExpire, getInt64_congr (hbody.mono (by omega) (by omega)), hm₁]
    simp only [writeItem]
    rw [getInt64_congr (agreeOn_write (by omega)), getInt64_setInt64]
  · change read m₂ (p + off + itemHeaderSize) data.length = data
    rw [(hbody.mono (by omega) (by omega)).read_eq, hm₁]
    exact read_write_self _ _ data

variable {cfg : Config}

section

variable (h : BlockRep cfg.blockSize m p items) {a n : Nat}
include h

theorem BlockRep.nextItemAddress_eq (len : Nat) (hroom : len ≤ freeBytes m p) :
    nextItemAddress cfg m p len = p + (cfg.blockSize - bodySize items - len) := by
  have hfree := h.freeBytes_add
  unfold nextItemAddress
  rcases eq_nil_or_concat' items with rfl | ⟨init, last, rfl⟩
  · rw [if_pos (by simp [h.numItems_eq])]
    simp only [bodySize_nil, length_nil] at hfree ⊢
    omega
  · have hlast : (init ++ [last])[init.length]? = some last := by simp
    have hoff := (h.item _ _ hlast).offset
    rw [if_neg (by simp [h.numItems_eq]), h.numItems_eq]
    simp only [length_append, length_singleton, Nat.add_sub_cancel] at hoff hfree ⊢
    rw [hoff, take_of_length_le (by simp)]
    omega

/-- Placing an item touches the block header, the new pointer and the new body
only. -/
theorem BlockRep.agreeOn_placeItem (hroom : data.length + 48 + 24 ≤ freeBytes m p)
    (hhdr : a + n ≤ p ∨ p + 12 ≤ a)
    (hptr : a + n ≤ p + 12 + 48 * items.length ∨ p + 12 + 48 * items.length + 48 ≤ a)
    (hbody : a + n ≤ p + (cfg.blockSize - bodySize items - (24 + data.length)) ∨
      p + (cfg.blockSize - bodySize items) ≤ a) :
    AgreeOn m (placeItem cfg m p queryHash data timestamp expire) a n := by
  have hih : itemHeaderSize = 24 := rfl
  have hfree := h.freeBytes_add
  have hnext := h.nextItemAddress_eq (itemHeaderSize + data.length) (by omega)
  simp only [placeItem, h.numItems_eq, hnext]
  refine AgreeOn.trans ?_ (agreeOn_setLe (by omega))
  refine AgreeOn.trans ?_ (agreeOn_setLe (by omega))
  refine AgreeOn.trans ?_ (agreeOn_writeItemPointer hptr)
  refine AgreeOn.trans ?_ (agreeOn_writeItem (by omega))
  split
  · exact agreeOn_write (by simp only [length_singleton]; omega)
  · exact AgreeOn.refl _ _ _

/-- **Placing an item appends it** to what the block holds. -/
theorem BlockRep.placeItem (hroom : data.length + 48 + 24 ≤ freeBytes m p) :
    BlockRep cfg.blockSize (placeItem cfg m p queryHash data timestamp expire) p
      (items ++ [⟨queryHash, false, timestamp, expire, data⟩]) := by
  have hih : itemHeaderSize = 24 := rfl
  have hps : itemPointerSize = 48 := rfl
  have hbh : blockHeaderSize = 12 := rfl
  have hB := cfg.blockSize_lt
  have hfree := h.freeBytes_add
  have hnext := h.nextItemAddress_eq (itemHeaderSize + data.length) (by omega)
  have hptr : itemPointer p items.length = p + 12 + 48 * items.length := rfl
  refine ⟨?_, ?_, ?_, ?_⟩
  · -- the flags byte is written first and by nothing after
    have hag : AgreeOn (if items.length = 0 then write m p [poolBlockUsed] else m)
        (QueryCache.placeItem cfg m p queryHash data timestamp expire) p 1 := by
      simp only [QueryCache.placeItem, h.numItems_eq, hnext]
      refine AgreeOn.trans ?_ (agreeOn_setLe (by omega))
      refine AgreeOn.trans ?_ (agreeOn_setLe (by omega))
      exact (agreeOn_writeItem (by omega)).trans (agreeOn_writeItemPointer (by omega))
    rw [blockFlags, hag p (by omega) (by omega)]
    rcases items with _ | ⟨it, rest⟩
    · simp
    · simpa [blockFlags] using h.flags_eq
  · rw [numItems, QueryCache.placeItem, getLe_setLe (by rw [h.numItems_eq]; omega), h.numItems_eq]
    simp
  · rw [freeBytes, QueryCache.placeItem, (agreeOn_setLe (by omega)).getLe_eq,
      getLe_setLe (by omega), bodySize_append, bodySize_singleton, length_append]
    simp only [Item.totalLength, length_singleton, hps, hbh, hih]
    omega
  · intro i it hi
    rcases Nat.lt_or_ge i items.length with hlt | hge
    · -- an old item: pointer and body lie on either side of what is written
      rw [List.getElem?_append_left hlt] at hi
      obtain ⟨hbody, hlow, -⟩ := h.item_bounds hi
      rw [take_append_of_le_length (by omega)]
      refine (h.item i it hi).of_agreeOn ?_ ?_
      · refine h.agreeOn_placeItem hroom ?_ ?_ ?_
        all_goals simp only [itemPointer, hbh, hps]; omega
      · exact h.agreeOn_placeItem hroom (by omega) (by omega) (by omega)
    · -- the new item
      obtain rfl : i = items.length := by
        have := (List.getElem?_eq_some_iff.1 hi).1
        simp only [length_append, length_singleton] at this
        omega
      simp only [List.getElem?_concat_length, Option.some.injEq] at hi
      subst hi
      rw [take_of_length_le (by simp), bodySize_append, bodySize_singleton,
        ← Nat.sub_sub]
      simp only [QueryCache.placeItem, h.numItems_eq, hnext, Nat.add_sub_cancel_left,
        Item.totalLength]
      refine (itemRep_write (if items.length = 0 then write m p [poolBlockUsed] else m)
        (by omega) (by omega)).of_agreeOn ?_ ?_
      · exact (agreeOn_setLe (by omega)).trans (agreeOn_setLe (by omega))
      · exact (agreeOn_setLe (by omega)).trans (agreeOn_setLe (by omega))

end

end Place

/-! ## Deleting an item -/

section Delete

variable {cfg : Config} {init : List Item}

theorem itemFlags_and_used (h : ItemRep m p i off it) :
    itemFlags m (itemPointer p i) &&& poolItemUsed ≠ 0 := by
  rw [h.flags, Item.flags]
  cases it.deleted <;> decide

theorem itemFlags_and_deleted (h : ItemRep m p i off it) :
    itemFlags m (itemPointer p i) &&& poolItemDeleted = 0 ↔ it.deleted = false := by
  rw [h.flags, Item.flags]
  cases it.deleted <;> decide

/-- **Setting the deleted flag** of item `i` marks that item and no other. -/
theorem BlockRep.markDeleted (h : BlockRep B m p items) (hi : items[i]? = some it) :
    BlockRep B (write m (itemPointer p i + 44)
        [itemFlags m (itemPointer p i) ||| poolItemDeleted]) p
      (items.set i { it with deleted := true }) := by
  have hps : itemPointerSize = 48 := rfl
  have hbh : blockHeaderSize = 12 := rfl
  have hfree := h.freeBytes_add
  obtain ⟨-, hlow, hlt⟩ := h.item_bounds hi
  have hptr : itemPointer p i = p + 12 + 48 * i := rfl
  set m' := write m (itemPointer p i + 44)
    [itemFlags m (itemPointer p i) ||| poolItemDeleted] with hm'
  have hframe : ∀ a n, a + n ≤ p + 12 + 48 * i + 44 ∨ p + 12 + 48 * i + 45 ≤ a →
      AgreeOn m m' a n :=
    fun a n hd => agreeOn_write (by simp only [length_singleton]; omega)
  -- marking an item changes no length, so every offset stays
  have hsize : ∀ k, bodySize ((items.set i { it with deleted := true }).take k) =
      bodySize (items.take k) := by
    intro k
    have hmap : (items.set i { it with deleted := true }).map Item.totalLength =
        items.map Item.totalLength := by
      rw [map_set]
      refine ext_getElem? fun j => ?_
      rw [List.getElem?_set]
      split
      · next hj =>
        subst hj
        rw [if_pos (by simpa using hlt), List.getElem?_map, hi]
        rfl
      · rfl
    rw [bodySize, bodySize, map_take, map_take, hmap]
  refine ⟨?_, ?_, ?_, ?_⟩
  · have hne : items ≠ [] := ne_nil_of_length_pos (by omega)
    rw [blockFlags, hframe p 1 (by omega) p (by omega) (by omega)]
    simpa [hne, blockFlags] using h.flags_eq
  · rw [numItems, (hframe _ _ (by omega)).getLe_eq, length_set]
    exact h.numItems_eq
  · have heq : freeBytes m' p = freeBytes m p := (hframe _ _ (by omega)).getLe_eq
    have hall := hsize items.length
    rw [take_of_length_le (by simp), take_of_length_le (le_refl _)] at hall
    rw [heq, hall, length_set]
    exact h.freeBytes_eq
  · intro j jt hj
    rw [hsize]
    by_cases hij : i = j
    · subst hij
      rw [List.getElem?_set_self (by omega), Option.some.injEq] at hj
      subst hj
      have hrep := h.item i it hi
      refine hrep.reflag true (hframe _ _ (by omega)) ?_ (hframe _ _ (by omega))
      rw [itemFlags, hm', write_byte_self, hrep.flags]
      simp only [Item.flags]
      cases it.deleted <;> decide
    · rw [List.getElem?_set_ne hij] at hj
      obtain ⟨hbody, hlow', hlt'⟩ := h.item_bounds hj
      refine (h.item j jt hj).of_agreeOn (hframe _ _ ?_) (hframe _ _ (by omega))
      simp only [itemPointer, hps, hbh]
      omega

/-- **Giving the space of the last item back** to the block drops that item. -/
theorem BlockRep.popItem (h : BlockRep B m p (init ++ [it])) (hne : init ≠ []) (hB : B < 2 ^ 31) :
    BlockRep B (setLe (setLe m (p + 8) 4 (freeBytes m p + (it.totalLength + itemPointerSize)))
      (p + 4) 4 (numItems m p - 1)) p init := by
  have hps : itemPointerSize = 48 := rfl
  have hfree := h.freeBytes_add
  have hnum := h.numItems_eq
  simp only [length_append, length_singleton, bodySize_append, bodySize_singleton]
    at hfree hnum
  have hframe : ∀ a n, a + n ≤ p + 4 ∨ p + 12 ≤ a →
      AgreeOn m (setLe (setLe m (p + 8) 4 (freeBytes m p + (it.totalLength + itemPointerSize)))
        (p + 4) 4 (numItems m p - 1)) a n :=
    fun a n hd => (agreeOn_setLe (by omega)).trans (agreeOn_setLe (by omega))
  refine ⟨?_, ?_, ?_, ?_⟩
  · rw [blockFlags, hframe p 1 (by omega) p (by omega) (by omega)]
    simpa [hne, blockFlags] using h.flags_eq
  · rw [numItems, getLe_setLe (by omega)]
    omega
  · rw [freeBytes, (agreeOn_setLe (by omega)).getLe_eq, getLe_setLe (by omega)]
    simp only [blockHeaderSize, hps]
    omega
  · intro i jt hi
    have hlt := (List.getElem?_eq_some_iff.1 hi).1
    have hi' : (init ++ [it])[i]? = some jt := by rwa [List.getElem?_append_left hlt]
    obtain ⟨-, hlow, -⟩ := h.item_bounds hi'
    have hrep := h.item i jt hi'
    rw [take_append_of_le_length (by omega)] at hrep hlow
    refine hrep.of_agreeOn (hframe _ _ ?_) (hframe _ _ (by omega))
    simp only [itemPointer, blockHeaderSize]
    omega

end Delete

end PgBalancer.QueryCache
