import PgBalancer.QueryCache.StoreRun

/-!
# Space that is not reclaimed

When an item is deleted, its block is wiped if `num_items` is one, and the item is dropped if it is
the last one of the block; otherwise it is only marked.  Marked items below are not looked at then,
so that they stay for good: they still count as items, and the block is never wiped.

* `reclaimed_iff` — **the space of a block that has no live item any more is free exactly if the
  items were deleted from the last to the first**.
-/

namespace PgBalancer.QueryCache

open ByteMem List Function

variable {cfg : Config} {s s' s₀ : Store} {c : Contents} {t t' t₀ : Traced} {b p b' : Nat} {m : Mem}
  {items : List Item} {key : QueryHash} {data : List UInt8} {expire now : Int64}
  {ops : List StoreOp} {id' : CacheId}

/-! ## Deletions in one block -/

section Items

variable {items : List Item} {i j : Nat} {jt : Item} {order : List Nat}

theorem getElem?_deleteAt_of_ne (hj : items[j]? = some jt) (hij : i ≠ j) :
    (deleteAt items i)[j]? = some jt := by
  have hlt := (List.getElem?_eq_some_iff.1 hj).1
  unfold deleteAt
  cases hi : items[i]? with
  | none => exact hj
  | some it =>
    have hlt' := (List.getElem?_eq_some_iff.1 hi).1
    dsimp only
    split_ifs with hmarked hone hlast
    · exact hj
    · omega
    · rw [List.getElem?_dropLast, if_pos (by omega)]
      exact hj
    · rw [List.getElem?_set_ne hij]
      exact hj

theorem getElem?_foldl_of_notMem (hj : items[j]? = some jt) (horder : j ∉ order) :
    (order.foldl deleteAt items)[j]? = some jt := by
  induction order generalizing items with
  | nil => exact hj
  | cons i order ih =>
    rw [mem_cons, not_or] at horder
    exact ih (getElem?_deleteAt_of_ne hj (Ne.symm horder.1)) horder.2

section

variable (hall : ∀ it ∈ items, it.deleted = false) {order : List Nat}
include hall

theorem deleteAt_last (hi : i + 1 = items.length) : deleteAt items i = items.dropLast := by
  have hget : items[i]? = some items[i] := List.getElem?_eq_getElem (by omega)
  have hlive := hall _ (getElem_mem (by omega : i < items.length))
  simp only [deleteAt, hget, hlive, Bool.false_eq_true, if_false]
  split_ifs with hone
  · obtain ⟨it, rfl⟩ := length_eq_one_iff.1 hone
    rfl
  · rfl

theorem getElem?_deleteAt_self (hi : i + 1 < items.length) :
    ∃ it, (deleteAt items i)[i]? = some it ∧ it.deleted = true := by
  have hget : items[i]? = some items[i] := List.getElem?_eq_getElem (by omega)
  have hlive := hall _ (getElem_mem (by omega : i < items.length))
  refine ⟨{ items[i] with deleted := true }, ?_, rfl⟩
  simp only [deleteAt, hget, hlive, Bool.false_eq_true, if_false]
  rw [if_neg (by omega), if_neg (by omega), List.getElem?_set_self (by omega)]

/-- **Deleting all items of a block in some order leaves nothing behind exactly if the order is from
the last to the first.** -/
theorem foldl_deleteAt_eq_nil_iff (horder : order.Perm (List.range items.length)) :
    order.foldl deleteAt items = [] ↔ order = (List.range items.length).reverse := by
  -- along the number of items; the first deletion decides
  induction hn : items.length generalizing items order with
  | zero =>
    obtain rfl := length_eq_zero_iff.1 hn
    obtain rfl := horder.eq_nil
    exact iff_of_true rfl rfl
  | succ n ih =>
    rw [hn] at horder
    cases order with
    | nil =>
      have hlen := horder.length_eq
      simp at hlen
    | cons i order =>
      have hi : i < n + 1 := mem_range.1 (horder.mem_iff.1 mem_cons_self)
      have hnodup : (i :: order).Nodup := horder.nodup_iff.2 nodup_range
      rw [range_succ, reverse_append, reverse_singleton, singleton_append,
        foldl_cons]
      by_cases hlast : i = n
      · subst hlast
        have hperm : order.Perm (List.range i) := by
          have h := horder.trans (range_succ ▸ perm_append_singleton i (List.range i))
          exact h.cons_inv
        rw [deleteAt_last hall hn.symm, List.cons.injEq, eq_self_iff_true, true_and]
        have hlen : items.dropLast.length = i := by
          rw [length_dropLast, hn, Nat.add_sub_cancel]
        exact ih (fun it hit => hall it (mem_of_mem_dropLast hit)) (hlen.symm ▸ hperm) hlen
      · refine iff_of_false ?_ fun heq => hlast (List.cons.inj heq).1
        -- what is marked once stays, and the block is not wiped any more
        obtain ⟨it, hget, -⟩ := getElem?_deleteAt_self hall (show i + 1 < items.length by omega)
        intro hnil
        have hstays := getElem?_foldl_of_notMem hget (nodup_cons.1 hnodup).1
        rw [hnil] at hstays
        cases hstays

end

end Items

/-- `pool_delete_item_shmem_cache`, for these items of a block -/
def poolDeleteItems (cfg : Config) (b : Nat) (s : Store) (order : List Nat) : Store :=
  order.foldl (fun s i => (poolDeleteItemShmemCache cfg s ⟨b, i⟩).2) s

/-- The deletion of an item, in terms of the items. -/
theorem StoreRep.deleteAt (h : StoreRep cfg s c) (hb : b < cfg.numBlocks) (i : Nat) :
    StoreRep cfg (poolDeleteItemShmemCache cfg s ⟨b, i⟩).2
      (Function.update c b (QueryCache.deleteAt (c b) i)) := by
  by_cases hlive : ∃ it, Live cfg c ⟨b, i⟩ it
  · obtain ⟨it, hl⟩ := hlive
    exact (h.deleteLive hl).2.1
  · -- there is nothing to delete, neither in the block nor in its contents
    have hsame : QueryCache.deleteAt (c b) i = c b := by
      unfold QueryCache.deleteAt
      cases hi : (c b)[i]? with
      | none => rfl
      | some it =>
        have hd : it.deleted = true := by
          by_contra hd
          exact hlive ⟨it, hb, hi, eq_false_of_ne_true hd⟩
        simp only [hd, if_true]
    rw [hsame, update_eq_self]
    rcases h.deleteItem ⟨b, i⟩ with ⟨it, -, hl, -⟩ | ⟨-, heq⟩
    · exact absurd ⟨it, hl⟩ hlive
    · rw [heq]
      exact h

theorem StoreRep.deleteItems (h : StoreRep cfg s c) (hb : b < cfg.numBlocks) (order : List Nat) :
    StoreRep cfg (poolDeleteItems cfg b s order)
      (Function.update c b (order.foldl QueryCache.deleteAt (c b))) := by
  induction order generalizing s c with
  | nil =>
    rw [foldl_nil, update_eq_self]
    exact h
  | cons i order ih =>
    have hrest := ih (h.deleteAt hb i)
    rw [update_self, update_idem] at hrest
    exact hrest

theorem BlockRep.freeBytes_eq_max_iff (h : BlockRep cfg.blockSize m p items) :
    freeBytes m p = cfg.maxFreeSpace ↔ items = [] := by
  have hfree := h.freeBytes_add
  have hmax : cfg.maxFreeSpace = cfg.blockSize - 12 := rfl
  have hB := cfg.blockSize_ge
  constructor
  · intro heq
    refine length_eq_zero_iff.1 ?_
    omega
  · rintro rfl
    simp only [length_nil, bodySize_nil] at hfree
    omega

/-! ## Additions -/

/-- Nothing in the block is marked as deleted. -/
def AllLive (cfg : Config) (b : Nat) (s : Store) : Prop :=
  ∃ c, StoreRep cfg s c ∧ ∀ it ∈ c b, it.deleted = false

theorem Recycles.allLive (hrec : Recycles cfg s s') (h : AllLive cfg b s) : AllLive cfg b s' := by
  induction hrec with
  | refl => exact h
  | @reuse s₁ _ ih =>
    obtain ⟨c, hrep, hall⟩ := ih
    refine ⟨_, hrep.reuseBlock, fun it hit => ?_⟩
    rw [update_apply] at hit
    split_ifs at hit
    · cases hit
    · exact hall it hit
  | init _ hb ih =>
    obtain ⟨c, hrep, hall⟩ := ih
    exact ⟨c, hrep.initBlock hb, hall⟩

theorem AllLive.withItem (h : AllLive cfg b s) (hrep : StoreRep cfg s c)
    (hroom : Room cfg c b' (data.length + 48 + 24)) (hfree : isFreeHashElement s.hash = true)
    (hnew : poolHashSearch s.hash key = none) :
    AllLive cfg b (s.withItem cfg b' (c b').length key data now expire) := by
  obtain ⟨c', hrep', hall⟩ := h
  have hb' := hroom.1
  have hroom' := (hrep'.room_iff hb').2 ((hrep.room_iff hb').1 hroom)
  have hlen : (c b').length = (c' b').length :=
    (hrep.block b' hb').numItems_eq.symm.trans (hrep'.block b' hb').numItems_eq
  rw [hlen]
  refine ⟨_, hrep'.placeItem hroom' hfree hnew, fun it hit => ?_⟩
  rw [update_apply] at hit
  split_ifs at hit with hbb
  · rw [mem_append, mem_singleton, ← hbb] at hit
    rcases hit with hit | rfl
    · exact hall it hit
    · rfl
  · exact hall it hit

/-- The operations are additions. -/
def OnlyAdds (ops : List StoreOp) : Prop :=
  ∀ op ∈ ops, ∃ key data expire now, op = .add key data expire now

theorem allLive_add (hinv : Inv cfg t) (h : AllLive cfg b t.store)
    (hstep : step cfg t (.add key data expire now) = some t') : AllLive cfg b t'.store := by
  obtain ⟨c, hrep, -⟩ := hinv
  rcases step_add hrep hstep with heq | ⟨b', s₂, c₂, heq, hrec, hrep₂, -, hroom, hfree, hnew⟩
  · rwa [heq]
  · rw [heq]
    exact (hrec.allLive h).withItem hrep₂ hroom hfree hnew

theorem allLive_run (h0 : initialStore cfg = some s₀) (hadds : OnlyAdds ops) (hinv : Inv cfg t)
    (h : AllLive cfg b t.store) (hrun : run cfg t ops = some t') : AllLive cfg b t'.store := by
  refine (History.run_keeps (I := fun t => Inv cfg t ∧ AllLive cfg b t.store) ?_ ⟨hinv, h⟩ hrun).2
  rintro op hop t t' ⟨hinv, h⟩ hstep
  obtain ⟨key, data, expire, now, rfl⟩ := hadds op hop
  exact ⟨hinv.step h0 hstep, allLive_add hinv h hstep⟩

/-! ## Emptying a block -/

theorem StoreRep.itemLive_iff_lt (h : StoreRep cfg s c) (hb : b < cfg.numBlocks)
    (hall : ∀ it ∈ c b, it.deleted = false) (i : Nat) :
    ItemLive cfg s ⟨b, i⟩ ↔ i < (c b).length := by
  rw [h.itemLive_iff]
  constructor
  · rintro ⟨it, hl⟩
    exact (List.getElem?_eq_some_iff.1 hl.getElem).1
  · intro hi
    exact ⟨_, hb, List.getElem?_eq_getElem hi, hall _ (getElem_mem hi)⟩

theorem StoreRep.not_itemLive_delete (h : StoreRep cfg s c) (id : CacheId)
    (hid' : id' = id ∨ ¬ ItemLive cfg s id') :
    ¬ ItemLive cfg (poolDeleteItemShmemCache cfg s id).2 id' := by
  rcases h.deleteItem id with ⟨it, c', -, -, h', hc'⟩ | ⟨hnone, heq⟩
  · rw [h'.itemLive_iff]
    rintro ⟨it', hl⟩
    obtain ⟨hlive, hne⟩ := (hc' id' it').1 hl
    rcases hid' with rfl | hid'
    · exact hne rfl
    · exact hid' (h.itemLive_iff.2 ⟨it', hlive⟩)
  · rw [heq, h.itemLive_iff]
    rintro ⟨it', hl⟩
    rcases hid' with rfl | hid'
    · exact hnone it' hl
    · exact hid' (h.itemLive_iff.2 ⟨it', hl⟩)

theorem StoreRep.not_itemLive_deleteItems (h : StoreRep cfg s c) (hb : b < cfg.numBlocks)
    (order : List Nat) (i : Nat) (hi : i ∈ order ∨ ¬ ItemLive cfg s ⟨b, i⟩) :
    ¬ ItemLive cfg (poolDeleteItems cfg b s order) ⟨b, i⟩ := by
  induction order generalizing s c with
  | nil => exact hi.resolve_left not_mem_nil
  | cons j order ih =>
    refine ih (h.deleteAt hb j) ?_
    rcases hi with hi | hi
    · rcases mem_cons.1 hi with rfl | hi
      · exact .inr (h.not_itemLive_delete _ (.inl rfl))
      · exact .inl hi
    · exact .inr (h.not_itemLive_delete _ (.inr hi))

/-- The block has no live item, and all but its header is free. -/
def Reclaimed (cfg : Config) (b : Nat) (s : Store) : Prop :=
  (∀ i, ¬ ItemLive cfg s ⟨b, i⟩) ∧ freeBytes s.shmem (cfg.blockAddress b) = cfg.maxFreeSpace

/-- **The space of an emptied block is free exactly if its items were deleted from the last to the
first.**  The block is empty in some state of some run, items are added, and all live items of the
block are then deleted, each once. -/
theorem reclaimed_iff (h0 : initialStore cfg = some s₀) (hb : b < cfg.numBlocks)
    {ops adds : List StoreOp} (hrun₀ : run cfg ⟨s₀, fun _ => none⟩ ops = some t₀)
    (hempty : numItems t₀.store.shmem (cfg.blockAddress b) = 0) (hadds : OnlyAdds adds)
    (hrun : run cfg t₀ adds = some t) {order : List Nat} (hnodup : order.Nodup)
    (horder : ∀ i, i ∈ order ↔ ItemLive cfg t.store ⟨b, i⟩) :
    Reclaimed cfg b (poolDeleteItems cfg b t.store order) ↔
      order = (List.range (numItems t.store.shmem (cfg.blockAddress b))).reverse := by
  obtain ⟨t', hrun', hinv⟩ := run_inv h0 ops _ (inv_initial h0)
  obtain rfl := Option.some.inj (hrun₀.symm.trans hrun')
  have hstart : AllLive cfg b t₀.store := by
    obtain ⟨c, hrep, -⟩ := hinv
    refine ⟨c, hrep, fun it hit => ?_⟩
    rw [(hrep.block b hb).numItems_eq, length_eq_zero_iff] at hempty
    rw [hempty] at hit
    cases hit
  obtain ⟨c, hrep, hall⟩ := allLive_run h0 hadds hinv hstart hrun
  have hnum := (hrep.block b hb).numItems_eq
  have hperm : order.Perm (List.range (c b).length) := by
    rw [perm_ext_iff_of_nodup hnodup nodup_range]
    intro i
    rw [horder, hrep.itemLive_iff_lt hb hall, mem_range]
  have hblk := (hrep.deleteItems hb order).block b hb
  rw [update_self] at hblk
  rw [hnum, ← foldl_deleteAt_eq_nil_iff hall hperm, ← hblk.freeBytes_eq_max_iff]
  refine and_iff_right fun i => hrep.not_itemLive_deleteItems hb order i ?_
  by_cases hlive : ItemLive cfg t.store ⟨b, i⟩
  · exact .inl ((horder i).2 hlive)
  · exact .inr hlive

/-- A fresh store of two small blocks. -/
def smallStore : Store := (initialStore smallConfig).get (by decide +kernel)

/-- Two items are added to it. -/
def twoItems : Traced :=
  (run smallConfig ⟨smallStore, fun _ => none⟩
    [.add (constKey 48) [1, 2, 3] 0 0, .add (constKey 97) [4] 0 0]).get (by decide +kernel)

theorem itemLive_twoItems (i : Nat) : ItemLive smallConfig twoItems.store ⟨0, i⟩ ↔ i < 2 := by
  constructor
  · rintro ⟨-, -, hi, -⟩
    have hnum : numItems twoItems.store.shmem (smallConfig.blockAddress 0) = 2 := by decide +kernel
    dsimp only at hi
    omega
  · intro hi
    interval_cases i
    · decide +kernel
    · decide +kernel

/-- Two items, deleted from the last one on. -/
theorem reclaimed_twoItems :
    Reclaimed smallConfig 0 (poolDeleteItems smallConfig 0 twoItems.store [1, 0]) ↔
      [1, 0] =
        (List.range (numItems twoItems.store.shmem (smallConfig.blockAddress 0))).reverse := by
  refine reclaimed_iff (Option.some_get _).symm (by decide)
    (show run smallConfig ⟨smallStore, fun _ => none⟩ [] = some _ from rfl) (by decide +kernel) ?_
    (Option.some_get _).symm (by decide) ?_
  · intro op hop
    rcases mem_pair.1 hop with rfl | rfl
    · exact ⟨_, _, _, _, rfl⟩
    · exact ⟨_, _, _, _, rfl⟩
  · intro i
    change _ ↔ ItemLive smallConfig twoItems.store ⟨0, i⟩
    rw [itemLive_twoItems]
    simp only [mem_cons, not_mem_nil, or_false]
    omega

/-- The first of the two is deleted first.  The block has no live item then, but the 75 bytes of the
first item and its pointer are not free. -/
theorem first_item_not_reclaimed :
    (∀ i, ¬ ItemLive smallConfig (poolDeleteItems smallConfig 0 twoItems.store [0, 1]) ⟨0, i⟩) ∧
      freeBytes (poolDeleteItems smallConfig 0 twoItems.store [0, 1]).shmem
        (smallConfig.blockAddress 0) + 75 = smallConfig.maxFreeSpace ∧
      ¬ Reclaimed smallConfig 0 (poolDeleteItems smallConfig 0 twoItems.store [0, 1]) := by
  have hfree : freeBytes (poolDeleteItems smallConfig 0 twoItems.store [0, 1]).shmem
      (smallConfig.blockAddress 0) + 75 = smallConfig.maxFreeSpace := by decide +kernel
  refine ⟨fun i => ?_, hfree, fun h => ?_⟩
  · rintro ⟨-, -, hi, -, hd⟩
    have hnum : numItems (poolDeleteItems smallConfig 0 twoItems.store [0, 1]).shmem
        (smallConfig.blockAddress 0) = 1 := by decide +kernel
    obtain rfl : i = 0 := by
      dsimp only at hi
      omega
    revert hd
    decide +kernel
  · have heq := h.2
    omega

end PgBalancer.QueryCache
