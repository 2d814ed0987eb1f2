import PgBalancer.QueryCache.StoreRun

/-!
# The layout of a block

Item pointers grow upwards from the header of a block and item bodies grow downwards from its end.
A new body is put below the one of the last pointer, whether that item is deleted or not, and the
free space is counted in the header by hand.  `Layout` says what the bytes of a block have to
satisfy for this to work, in terms of the fields of the source.

* `block_layout` — **every block is laid out like that after every sequence of operations, and every
  addition then writes inside of its block**.
-/

namespace PgBalancer.QueryCache

open ByteMem Finset

variable {cfg : Config} {m : Mem} {p : Nat} {items : List Item} {s s' s₀ : Store} {c : Contents}

/-- `item_header(p, i)->total_length` -/
def itemTotal (m : Mem) (p i : Nat) : Nat := itemTotalLength m (itemHeader m p i)

/-- The layout of the block at `p`. -/
structure Layout (cfg : Config) (m : Mem) (p : Nat) : Prop where
  /-- the bodies are contiguous, downwards from the end of the block in the order of the items -/
  offset : ∀ i < numItems m p, itemOffset m (itemPointer p i) +
    ∑ j ∈ range (i + 1), itemTotal m p j = cfg.blockSize
  /-- no body overlaps the array of pointers -/
  apart : ∀ i < numItems m p,
    blockHeaderSize + itemPointerSize * numItems m p ≤ itemOffset m (itemPointer p i)
  /-- what is free is what is neither header nor pointer nor body, deleted items included -/
  free : freeBytes m p + blockHeaderSize +
    ∑ j ∈ range (numItems m p), (itemPointerSize + itemTotal m p j) = cfg.blockSize

section

variable (h : BlockRep cfg.blockSize m p items)
include h

theorem BlockRep.itemTotal_eq {i : Nat} {it : Item}
    (hi : items[i]? = some it) : itemTotal m p i = it.totalLength := by
  have hrep := h.item i it hi
  rw [itemTotal, itemHeader, hrep.offset, hrep.totalLength]

theorem BlockRep.sum_itemTotal {k : Nat}
    (hk : k ≤ items.length) : ∑ j ∈ range k, itemTotal m p j = bodySize (items.take k) := by
  induction k with
  | zero => simp
  | succ k ih =>
    have hget : items[k]? = some items[k] := List.getElem?_eq_getElem (by omega)
    rw [sum_range_succ, ih (by omega), bodySize_take_succ hget, h.itemTotal_eq hget]

theorem BlockRep.layout : Layout cfg m p where
  offset i hi := by
    rw [h.numItems_eq] at hi
    have hget : items[i]? = some items[i] := List.getElem?_eq_getElem hi
    have hle := bodySize_take_le items (i + 1)
    have hfree := h.freeBytes_add
    rw [(h.item i _ hget).offset, h.sum_itemTotal (show i + 1 ≤ items.length from hi)]
    omega
  apart i hi := by
    rw [h.numItems_eq] at hi ⊢
    have hget : items[i]? = some items[i] := List.getElem?_eq_getElem hi
    obtain ⟨-, hlow, -⟩ := h.item_bounds hget
    rw [(h.item i _ hget).offset]
    simp only [blockHeaderSize, itemPointerSize]
    omega
  free := by
    have hsum := h.sum_itemTotal (le_refl _)
    rw [List.take_length] at hsum
    rw [h.numItems_eq, sum_add_distrib, sum_const, card_range, hsum, smul_eq_mul]
    have hfree := h.freeBytes_eq
    rw [Nat.mul_comm items.length]
    omega

end

/-! ## Additions -/

/-- What is true when an item is placed in block `b` of `s`, with `s'` as the result.  The last
three fields say what is written: the new pointer lies behind the others, the new body above it and
below the others, and nothing else but the header changes. -/
structure Placement (cfg : Config) (s : Store) (b : Nat) (data : List UInt8)
    (s' : Store) : Prop where
  block_lt : b < cfg.numBlocks
  /-- the three subtractions from `free_bytes` do not wrap -/
  room : itemHeaderSize + data.length + itemPointerSize ≤ freeBytes s.shmem (cfg.blockAddress b)
  free : freeBytes s'.shmem (cfg.blockAddress b) +
    (itemHeaderSize + data.length + itemPointerSize) = freeBytes s.shmem (cfg.blockAddress b)
  pointer : itemPointer (cfg.blockAddress b) (numItems s.shmem (cfg.blockAddress b)) +
    itemPointerSize ≤ nextItemAddress cfg s.shmem (cfg.blockAddress b)
      (itemHeaderSize + data.length)
  body : nextItemAddress cfg s.shmem (cfg.blockAddress b) (itemHeaderSize + data.length) +
    (itemHeaderSize + data.length) + ∑ j ∈ range (numItems s.shmem (cfg.blockAddress b)),
      itemTotal s.shmem (cfg.blockAddress b) j = cfg.blockAddress b + cfg.blockSize
  inside : ∀ a n, a + n ≤ cfg.blockAddress b ∨ cfg.blockAddress b + cfg.blockSize ≤ a →
    AgreeOn s.shmem s'.shmem a n

/-- A new item lies in free space. -/
theorem StoreRep.placement (h : StoreRep cfg s c) {b : Nat} {key : QueryHash} {data : List UInt8}
    {now expire : Int64} (n : Nat) (hroom : Room cfg c b (data.length + 48 + 24)) :
    Placement cfg s b data (s.withItem cfg b n key data now expire) := by
  have hps : itemPointerSize = 48 := rfl
  have hih : itemHeaderSize = 24 := rfl
  have hblk := h.block b hroom.1
  have hbytes := (h.room_iff hroom.1).1 hroom
  have hfree := hblk.freeBytes_add
  have hplaced : BlockRep cfg.blockSize
      (QueryCache.placeItem cfg s.shmem (cfg.blockAddress b) key data now expire)
      (cfg.blockAddress b) (c b ++ [⟨key, false, now, expire, data⟩]) := hblk.placeItem hbytes
  have hfree' := hplaced.freeBytes_add
  have hnext := hblk.nextItemAddress_eq (itemHeaderSize + data.length) (by omega)
  have hsum := hblk.sum_itemTotal (le_refl _)
  rw [List.take_length] at hsum
  refine ⟨hroom.1, by omega, ?_, ?_, ?_, fun a n hd => ?_⟩
  · simp only [List.length_append, List.length_singleton, bodySize_append, bodySize_singleton,
      Item.totalLength] at hfree'
    simp only [Store.withItem]
    omega
  · rw [hnext, hblk.numItems_eq]
    simp only [itemPointer, blockHeaderSize, itemPointerSize]
    omega
  · rw [hnext, hblk.numItems_eq, hsum]
    omega
  · exact hblk.agreeOn_placeItem hbytes (by omega) (by omega) (by omega)

/-! ## Runs -/

/-- **Every used block is laid out as it should be, in every state of every run.**  An addition to
such a state either changes nothing or recycles blocks, which leaves all used blocks laid out like
that, and places the item inside of a block that has room for it. -/
theorem block_layout (h0 : initialStore cfg = some s₀) (ops : List StoreOp) :
    ∃ t, run cfg ⟨s₀, fun _ => none⟩ ops = some t ∧
      (∀ b < cfg.numBlocks, blockFlags t.store.shmem (cfg.blockAddress b) &&& poolBlockUsed ≠ 0 →
        Layout cfg t.store.shmem (cfg.blockAddress b)) ∧
      ∀ key data expire now, poolHashSearch t.store.hash key = none →
        ∃ r s', poolAddItemShmemCache cfg t.store key data expire now = some (r, s') ∧
          (r = none → s' = t.store) ∧ ∀ id, r = some id → ∃ s₂, Recycles cfg t.store s₂ ∧
            (∀ b < cfg.numBlocks, Layout cfg s₂.shmem (cfg.blockAddress b)) ∧
            Placement cfg s₂ id.blockid data s' := by
  obtain ⟨t, hrun, c, hrep, -⟩ := run_inv h0 ops _ (inv_initial h0)
  refine ⟨t, hrun, fun b hb _ => (hrep.block b hb).layout, fun key data expire now hnew => ?_⟩
  rcases hrep.addItem_cases data expire now hnew with
    ⟨heq, -⟩ | ⟨b, s₂, c₂, heq, hrec, hrep₂, -, hroom, -⟩
  · exact ⟨none, t.store, heq, fun _ => rfl, nofun⟩
  · refine ⟨_, _, heq, nofun, fun id hid => ?_⟩
    obtain rfl := Option.some.inj hid
    exact ⟨s₂, hrec, fun b' hb' => (hrep₂.block b' hb').layout, hrep₂.placement _ hroom⟩

/-- Two items, of which the first one is deleted. -/
theorem block_layout_smallConfig : ∃ s₀, initialStore smallConfig = some s₀ ∧
      ∃ t, run smallConfig ⟨s₀, fun _ => none⟩
        [.add (constKey 48) [1, 2, 3] 0 0, .add (constKey 97) [4] 0 0, .delete ⟨0, 0⟩] = some t ∧
      (∀ b < smallConfig.numBlocks,
        blockFlags t.store.shmem (smallConfig.blockAddress b) &&& poolBlockUsed ≠ 0 →
          Layout smallConfig t.store.shmem (smallConfig.blockAddress b)) ∧
      ∀ key data expire now, poolHashSearch t.store.hash key = none →
        ∃ r s', poolAddItemShmemCache smallConfig t.store key data expire now = some (r, s') ∧
          (r = none → s' = t.store) ∧ ∀ id, r = some id → ∃ s₂, Recycles smallConfig t.store s₂ ∧
            (∀ b < smallConfig.numBlocks,
              Layout smallConfig s₂.shmem (smallConfig.blockAddress b)) ∧
            Placement smallConfig s₂ id.blockid data s' :=
  ⟨_, rfl, block_layout rfl _⟩

end PgBalancer.QueryCache
