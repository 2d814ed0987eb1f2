import PgBalancer.QueryCache.StoreRun

/-!
# The free-space map

The map has one byte per block.  It is to say how much of the block is free, in units of the 256th
part of a block, so that a block without room for an item need not be looked at.  The unit is
rounded down.  A block size that is not a multiple of 256 is then more than 256 units long, and the
number of units of an empty block may not fit into the byte.

* `fsmm_exposes_iff` — **exactly for these block sizes the map never hides free space**, and a block
  is recycled only if no block has room.
-/

namespace PgBalancer.QueryCache

open ByteMem

variable {cfg : Config} {s s' s₀ : Store} {c : Contents} {t t' : Traced} {m : Mem} {p b n : Nat}
  {items : List Item} {key : QueryHash} {data : List UInt8} {expire now : Int64}
  {r : Option CacheId} {id : CacheId} {op : StoreOp}

/-! ## The map after every operation -/

/-- Every byte of the map is that of the free space of its block. -/
def FsmmExact (cfg : Config) (s : Store) : Prop :=
  ∀ b < cfg.numBlocks,
    s.fsmm b = UInt8.ofNat (freeBytes s.shmem (cfg.blockAddress b) / cfg.fsmmRatio)

theorem BlockRep.freeBytes_le_max (h : BlockRep cfg.blockSize m p items) :
    freeBytes m p ≤ cfg.maxFreeSpace := by
  have hfree := h.freeBytes_add
  have hmax : cfg.maxFreeSpace = cfg.blockSize - 12 := rfl
  omega

theorem BlockRep.freeBytes_nil (h : BlockRep cfg.blockSize m p []) :
    freeBytes m p = cfg.maxFreeSpace := by
  have hfree := h.freeBytes_add
  have hmax : cfg.maxFreeSpace = cfg.blockSize - 12 := rfl
  simp only [List.length_nil, bodySize_nil] at hfree
  omega

theorem FsmmExact.update (h : FsmmExact cfg s) (hb : b < cfg.numBlocks)
    (hframe : ∀ a n, a + n ≤ cfg.blockAddress b ∨ cfg.blockAddress b + cfg.blockSize ≤ a →
      AgreeOn s.shmem s'.shmem a n)
    (hmax : freeBytes s'.shmem (cfg.blockAddress b) ≤ cfg.maxFreeSpace)
    (hfsmm : s'.fsmm = poolUpdateFsmm cfg s.fsmm b (freeBytes s'.shmem (cfg.blockAddress b))) :
    FsmmExact cfg s' := by
  intro b' hb'
  have hB := cfg.blockSize_ge
  rw [hfsmm, poolUpdateFsmm, if_neg (not_le.2 hb), if_neg (not_lt.2 hmax)]
  by_cases hbb : b' = b
  · subst hbb
    rw [Function.update_self]
  · have hd := blockAddress_disjoint cfg hbb
    have hfree : freeBytes s'.shmem (cfg.blockAddress b') =
        freeBytes s.shmem (cfg.blockAddress b') := (hframe _ _ (by omega)).getLe_eq
    rw [Function.update_of_ne hbb, hfree]
    exact h b' hb'

theorem FsmmExact.reuseBlock (h : FsmmExact cfg s) (hrep : StoreRep cfg s c) :
    FsmmExact cfg (poolReuseBlock cfg s).2 := by
  have hblk := hrep.reuseBlock.block s.clockHand hrep.hand_lt
  rw [Function.update_self] at hblk
  refine h.update hrep.hand_lt (fun a n hd => StoreRep.agreeOn_reuse hd) hblk.freeBytes_le_max ?_
  rw [hblk.freeBytes_nil]
  rfl

theorem FsmmExact.initBlock (h : FsmmExact cfg s) (hrep : StoreRep cfg s c)
    (hb : b < cfg.numBlocks) :
    FsmmExact cfg { s with shmem := poolInitCacheBlock cfg s.shmem b } := by
  intro b' hb'
  have hold := (hrep.block b' hb').freeBytes_add
  have hnew := ((hrep.initBlock hb).block b' hb').freeBytes_add
  have hfree : freeBytes (poolInitCacheBlock cfg s.shmem b) (cfg.blockAddress b') =
      freeBytes s.shmem (cfg.blockAddress b') := by
    dsimp only at hnew
    omega
  dsimp only
  rw [hfree]
  exact h b' hb'

theorem Recycles.fsmmExact (hrec : Recycles cfg s s') (hrep : StoreRep cfg s c)
    (h : FsmmExact cfg s) : (∃ c', StoreRep cfg s' c') ∧ FsmmExact cfg s' := by
  induction hrec with
  | refl => exact ⟨⟨c, hrep⟩, h⟩
  | reuse _ ih =>
    obtain ⟨⟨c', hrep'⟩, h'⟩ := ih
    exact ⟨⟨_, hrep'.reuseBlock⟩, h'.reuseBlock hrep'⟩
  | init _ hb ih =>
    obtain ⟨⟨c', hrep'⟩, h'⟩ := ih
    exact ⟨⟨c', hrep'.initBlock hb⟩, h'.initBlock hrep' hb⟩

theorem FsmmExact.withItem (h : FsmmExact cfg s) (hrep : StoreRep cfg s c)
    (hroom : Room cfg c b (data.length + 48 + 24)) :
    FsmmExact cfg (s.withItem cfg b n key data now expire) := by
  have hb := hroom.1
  have hblk := hrep.block b hb
  have hbytes := (hrep.room_iff hb).1 hroom
  have hfree := hblk.freeBytes_add
  refine h.update hb (fun a n hd => ?_) (hblk.placeItem hbytes).freeBytes_le_max rfl
  exact hblk.agreeOn_placeItem hbytes (by omega) (by omega) (by omega)

theorem poolDeleteItemShmemCache_ok (h : (poolDeleteItemShmemCache cfg s id).1 = 0) :
    (poolDeleteItemShmemCache cfg s id).2 = let p := cfg.blockAddress id.blockid
      let m := deleteItemBytes cfg s.shmem id
        (itemTotalLength s.shmem (itemHeader s.shmem p id.itemid) + itemPointerSize)
      { s with
        shmem := m
        hash := (poolHashDelete s.hash (itemQueryHash s.shmem (itemPointer p id.itemid))).2
        fsmm := poolUpdateFsmm cfg s.fsmm id.blockid (freeBytes m p) } := by
  have hne : ¬ (-1 : Int) = 0 := by decide
  unfold poolDeleteItemShmemCache at h ⊢
  dsimp only at h ⊢
  split_ifs at h ⊢
  · exact absurd h hne
  · exact absurd h hne
  · exact absurd h hne
  · exact absurd h hne
  · exact absurd h hne
  · rfl

theorem FsmmExact.deleteItem (h : FsmmExact cfg s) (hrep : StoreRep cfg s c) (id : CacheId) :
    FsmmExact cfg (poolDeleteItemShmemCache cfg s id).2 := by
  rcases hrep.deleteItem id with ⟨it, c', hlive, hrc, hrep', -⟩ | ⟨-, heq⟩
  · have hb := hlive.block_lt
    have hblk := hrep.block id.blockid hb
    obtain ⟨-, hlow, hlt⟩ := hblk.item_bounds hlive.getElem
    have hblk' := hrep'.block id.blockid hb
    rw [poolDeleteItemShmemCache_ok hrc] at hblk' ⊢
    exact h.update hb (fun a n hd => agreeOn_deleteItemBytes (by omega) hd)
      hblk'.freeBytes_le_max rfl
  · rw [heq]
    exact h

theorem FsmmExact.findItemExclusive (h : FsmmExact cfg s) (hrep : StoreRep cfg s c)
    (key : QueryHash) (now : Int64) :
    FsmmExact cfg (QueryCache.findItemExclusive cfg s key now).2 := by
  unfold QueryCache.findItemExclusive
  split
  · exact h
  · dsimp only
    split_ifs
    · exact h.deleteItem hrep _
    · exact h

theorem FsmmExact.findItem (h : FsmmExact cfg s) (hrep : StoreRep cfg s c) (key : QueryHash)
    (now now' : Int64) : FsmmExact cfg (poolFindItemOnShmemCache cfg s key now now').2 := by
  unfold poolFindItemOnShmemCache
  split
  · exact h
  · dsimp only
    split_ifs
    · exact h.findItemExclusive hrep key now'
    · exact h

theorem fsmmExact_empty (hrep : StoreRep cfg s fun _ => []) (hfsmm : s.fsmm = initialFsmm cfg) :
    FsmmExact cfg s := by
  intro b hb
  rw [(hrep.block b hb).freeBytes_nil, hfsmm]
  rfl

theorem fsmmExact_initial (h0 : initialStore cfg = some s₀) : FsmmExact cfg s₀ := by
  refine fsmmExact_empty (storeRep_initial h0) ?_
  obtain ⟨hash, -, rfl⟩ := Option.map_eq_some_iff.1 h0
  rfl

theorem fsmmExact_clear (h : poolClearMemoryCache cfg s = some s') : FsmmExact cfg s' := by
  refine fsmmExact_empty (storeRep_clear h) ?_
  obtain ⟨hash, -, rfl⟩ := Option.map_eq_some_iff.1 h
  rfl

/-- **Every operation that changes the free space of a block refreshes its byte.** -/
theorem fsmmExact_step (hinv : Inv cfg t) (h : FsmmExact cfg t.store)
    (hstep : step cfg t op = some t') : FsmmExact cfg t'.store := by
  obtain ⟨c, hrep, -⟩ := hinv
  cases op with
  | add key data expire now =>
    rcases step_add hrep hstep with heq | ⟨b, s₂, c₂, heq, hrec, hrep₂, -, hroom, -⟩
    · rwa [heq]
    · rw [heq]
      exact (hrec.fsmmExact hrep h).2.withItem hrep₂ hroom
  | delete id =>
    obtain rfl := Option.some.inj hstep
    exact h.deleteItem hrep id
  | get key now now' =>
    obtain rfl := Option.some.inj hstep
    exact h.findItem hrep key now now'
  | getExclusive key now =>
    obtain rfl := Option.some.inj hstep
    exact h.findItemExclusive hrep key now
  | reuse =>
    obtain rfl := Option.some.inj hstep
    exact h.reuseBlock hrep
  | clear =>
    obtain ⟨s', hclear, rfl⟩ := Option.map_eq_some_iff.1 hstep
    exact fsmmExact_clear hclear

theorem fsmmExact_run (h0 : initialStore cfg = some s₀) (ops : List StoreOp) (hinv : Inv cfg t)
    (h : FsmmExact cfg t.store) (hrun : run cfg t ops = some t') : FsmmExact cfg t'.store := by
  refine (History.run_keeps (I := fun t => Inv cfg t ∧ FsmmExact cfg t.store) ?_ ⟨hinv, h⟩ hrun).2
  rintro op - t t' ⟨hinv, h⟩ hstep
  exact ⟨hinv.step h0 hstep, fsmmExact_step hinv h hstep⟩

/-! ## Hidden space -/

/-- No request that fits into a block is hidden by the map, and none leads to a block being recycled
while one fits. -/
def FsmmExposes (cfg : Config) (s : Store) : Prop :=
  ∀ freeSpace b, b < cfg.numBlocks → freeSpace ≤ freeBytes s.shmem (cfg.blockAddress b) →
    freeSpace / cfg.fsmmRatio ≤ (s.fsmm b).toNat ∧ searchFsmm cfg s freeSpace ≠ none

/-- The encoded free space of an empty block fits into a byte exactly if the block size exceeds a
multiple of 256 by less than the size of the block header. -/
theorem encoded_lt_iff : cfg.maxFreeSpace / cfg.fsmmRatio < 256 ↔ cfg.blockSize % 256 < 12 := by
  have hB := cfg.blockSize_ge
  have hratio : 0 < cfg.fsmmRatio := Nat.div_pos (by omega) (by norm_num)
  rw [Nat.div_lt_iff_lt_mul hratio]
  simp only [Config.maxFreeSpace, Config.fsmmRatio, blockHeaderSize]
  omega

theorem FsmmExact.exposes (h : FsmmExact cfg s) (hrep : StoreRep cfg s c)
    (hsize : cfg.blockSize % 256 < 12) : FsmmExposes cfg s := by
  intro freeSpace b hb hfree
  have hle : freeBytes s.shmem (cfg.blockAddress b) / cfg.fsmmRatio < 256 :=
    lt_of_le_of_lt (Nat.div_le_div_right (hrep.block b hb).freeBytes_le_max)
      ((encoded_lt_iff).2 hsize)
  have hbyte : (s.fsmm b).toNat = freeBytes s.shmem (cfg.blockAddress b) / cfg.fsmmRatio := by
    rw [h b hb, UInt8.toNat_ofNat']
    exact Nat.mod_eq_of_lt hle
  have hseen : freeSpace / cfg.fsmmRatio ≤ (s.fsmm b).toNat := by
    rw [hbyte]
    exact Nat.div_le_div_right hfree
  refine ⟨hseen, fun hnone => ?_⟩
  have hskip := List.find?_eq_none.1 hnone b (List.mem_range.2 hb)
  simp [hseen, hfree] at hskip

/-- Where the free space of an empty block does not fit into the byte, a store that has just been
initialised hides it. -/
theorem not_exposes_initial (h0 : initialStore cfg = some s₀) (hsize : ¬ cfg.blockSize % 256 < 12) :
    ¬ FsmmExposes cfg s₀ := by
  intro h
  have hb := cfg.numBlocks_pos
  have hfree := ((storeRep_initial h0).block 0 hb).freeBytes_nil
  obtain ⟨hseen, -⟩ := h cfg.maxFreeSpace 0 hb hfree.ge
  rw [fsmmExact_initial h0 0 hb, hfree, UInt8.toNat_ofNat'] at hseen
  have hlarge : 256 ≤ cfg.maxFreeSpace / cfg.fsmmRatio :=
    not_lt.1 fun hlt => hsize ((encoded_lt_iff).1 hlt)
  omega

/-- **The map never hides free space, in any state of any run, exactly if the block size exceeds a
multiple of 256 by less than the twelve bytes of the block header.** -/
theorem fsmm_exposes_iff (h0 : initialStore cfg = some s₀) :
    (∀ ops t, run cfg ⟨s₀, fun _ => none⟩ ops = some t → FsmmExposes cfg t.store) ↔
      cfg.blockSize % 256 < 12 := by
  constructor
  · intro h
    by_contra hsize
    exact not_exposes_initial h0 hsize (h [] _ rfl)
  · intro hsize ops t hrun
    obtain ⟨t', hrun', c, hrep, -⟩ := run_inv h0 ops _ (inv_initial h0)
    obtain rfl := Option.some.inj (hrun.symm.trans hrun')
    exact (fsmmExact_run h0 ops (inv_initial h0) (fsmmExact_initial h0) hrun).exposes hrep hsize

/-- Blocks of 512 bytes. -/
theorem fsmm_exposes_smallConfig : ∃ s₀, initialStore smallConfig = some s₀ ∧
      ((∀ ops t, run smallConfig ⟨s₀, fun _ => none⟩ ops = some t →
        FsmmExposes smallConfig t.store) ↔ smallConfig.blockSize % 256 < 12) :=
  ⟨_, rfl, fsmm_exposes_iff rfl⟩

/-- One block of a thousand bytes. -/
def thousandConfig : Config where
  blockSize := 1000
  numBlocks := 1
  maxNumCache := 3
  blockSize_ge := by decide
  blockSize_lt := by decide
  numBlocks_pos := by decide
  maxNumCache_pos := smallConfig.maxNumCache_pos

/-- A block of a thousand bytes is empty and has 988 free bytes, which are 329 units; the byte for
it says 73.  A request for 600 bytes, 200 units, is not seen to fit, and the block is recycled. -/
theorem empty_block_hidden : ∃ s₀, initialStore thousandConfig = some s₀ ∧
      freeBytes s₀.shmem (thousandConfig.blockAddress 0) = 988 ∧ (s₀.fsmm 0).toNat = 73 ∧
      600 / thousandConfig.fsmmRatio = 200 ∧ searchFsmm thousandConfig s₀ 600 = none ∧
      ¬ ∀ ops t, run thousandConfig ⟨s₀, fun _ => none⟩ ops = some t →
        FsmmExposes thousandConfig t.store := by
  have h0 : initialStore thousandConfig = some ((initialStore thousandConfig).get rfl) := rfl
  refine ⟨_, h0, ?_, by decide, by decide, by decide, fun h => ?_⟩
  · exact ((storeRep_initial h0).block 0 (by decide)).freeBytes_nil
  · exact not_exposes_initial h0 (by decide) (h [] _ rfl)

end PgBalancer.QueryCache
