import PgBalancer.Lib.ByteMem
import PgBalancer.Lib.MachineInt

/-!
# Results of catalog queries in the shared query cache

With `enable_shared_relcache` the answer to a catalog query is kept in the query cache, for the
other processes.  `relation_cache_to_query_cache` writes it into one piece of memory: the two
dimensions, the null flags, and then the bytes of the values one after the other.  The flag of a
value is its length, and `-1` for SQL `NULL`; `query_cache_to_relation_cache` allocates a value
where the flag is positive and leaves the pointer `NULL` elsewhere, so that an empty value comes
back as `NULL`.

* `relcache_roundtrip_iff` — **a result comes back as it was, from exactly as many bytes as were
  announced, if and only if no value is empty, no pointer of a `NULL` is stray, and the
  encoding is smaller than the limit of an allocation**.
-/

namespace PgBalancer.Relcache

open List

open MachineInt (wrapInt wrapInt_of_small wrapInt_lt wrapInt_add_left)

/-! ## Memory -/

/-- `MaxAllocSize` -/
def maxAllocSize : ℤ := 0x3fffffff

/-- What a pointer of `data` points to. -/
inductive Pointer where
  | null
  | to (bytes : List UInt8)
  /-- a value that was never written -/
  | stray
  deriving DecidableEq

/-- An allocation that is refused, or an access outside of the buffer. -/
inductive Fault where
  | invalidAlloc
  | outOfBounds
  deriving DecidableEq

/-- `palloc`, `palloc0` and `repalloc` check the size; a negative one is huge as a `Size`. -/
def palloc (size : ℤ) : Except Fault Unit :=
  if 0 ≤ size ∧ size ≤ maxAllocSize then .ok () else .error .invalidAlloc

/-- `POOL_SELECT_RESULT` -/
structure SelectResult where
  /-- `rowdesc->num_attrs` -/
  numAttrs : ℤ
  numrows : ℤ
  nullflags : List ℤ
  data : List Pointer
  deriving DecidableEq

/-! ## `do_query` -/

/-- A value of a row; `none` is SQL `NULL`. -/
abbrev Cell := Option (List UInt8)

/-- What the backend answers: the number of fields of the row description, and rows of as
many values. -/
structure Answer where
  numFields : ℕ
  rows : List (List Cell)
  numFields_lt : numFields < 2 ^ 15
  width : ∀ row ∈ rows, row.length = numFields

/-- `DO_QUERY_ALLOC_NUM` -/
def allocNum : ℕ := 1024

/-- The null flag of a value. -/
def nullflag : Cell → ℤ
  | none => -1
  | some v => v.length

/-- What an entry of `data` holds after its value has been stored. -/
def slot (garbage : ℕ → Pointer) (i : ℕ) : Cell → Pointer
  | some v => .to v
  | none => if i < allocNum then .null else garbage i

/-- A value is stored, and the arrays are extended when they are full. -/
def storeCell (garbage : ℕ → Pointer) (res : SelectResult) (cell : Cell) :
    Except Fault SelectResult := do
  let i := res.nullflags.length
  palloc (nullflag cell + 1)
  let numData := i + 1
  if numData % allocNum = 0 then palloc (((numData / allocNum + 1) * allocNum * 8 : ℕ) : ℤ)
  return { res with
    nullflags := res.nullflags ++ [nullflag cell]
    data := res.data ++ [slot garbage i cell] }

/-- A data row; one without fields is not counted. -/
def storeRow (garbage : ℕ → Pointer) (res : SelectResult) (row : List Cell) :
    Except Fault SelectResult :=
  if row.length > 0 then
    row.foldlM (storeCell garbage) { res with numrows := res.numrows + 1 }
  else .ok res

/-- The part of `do_query` that builds the result. -/
def doQuery (garbage : ℕ → Pointer) (a : Answer) : Except Fault SelectResult :=
  a.rows.foldlM (storeRow garbage) ⟨a.numFields, 0, [], []⟩

/-! ## Encoding -/

/-- An `int` in memory. -/
def int32 (x : ℤ) : List UInt8 := ByteMem.leBytes 4 (x % 2 ^ 32).toNat

/-- `res->rowdesc->num_attrs * res->numrows` -/
def arraySize (numAttrs numrows : ℤ) : ℕ := (wrapInt (numAttrs * numrows)).toNat

/-- The loop that adds up the lengths of the values. -/
def addFlags (mysize : ℤ) (nullflags : List ℤ) : ℤ :=
  nullflags.foldl (fun s flag => if flag > 0 then wrapInt (s + flag) else s) mysize

/-- `mysize` -/
def encodedSize (res : SelectResult) : ℤ :=
  addFlags (wrapInt (8 + 4 * (res.numAttrs * res.numrows)))
    (res.nullflags.take (arraySize res.numAttrs res.numrows))

/-- The loop that copies the values. -/
def copyCells : List ℤ → List Pointer → Except Fault (List UInt8)
  | [], _ => .ok []
  | _ :: _, [] => .error .outOfBounds
  | flag :: nullflags, pointer :: data =>
    if flag > 0 then
      match pointer with
      | .to v =>
        if flag ≤ v.length then (v.take flag.toNat ++ ·) <$> copyCells nullflags data
        else .error .outOfBounds
      | .null | .stray => .error .outOfBounds
    else copyCells nullflags data

/-- `relation_cache_to_query_cache`: the bytes it writes, and `*size`. -/
def relationCacheToQueryCache (res : SelectResult) : Except Fault (List UInt8 × ℤ) := do
  let mysize := encodedSize res
  palloc (wrapInt (mysize + 1))
  let n := arraySize res.numAttrs res.numrows
  let values ← copyCells (res.nullflags.take n) (res.data.take n)
  let data := int32 res.numAttrs ++ int32 res.numrows ++
    ((res.nullflags.take n).flatMap int32 ++ values)
  if data.length ≤ mysize + 1 then .ok (data, mysize) else .error .outOfBounds

/-! ## Decoding -/

/-- `*((int *) p)`, and `p += sizeof(int)` -/
def readInt (p : List UInt8) : Except Fault (ℤ × List UInt8) :=
  if p.length < 4 then .error .outOfBounds
  else .ok (wrapInt (ByteMem.ofLe (p.take 4)), p.drop 4)

/-- The loop over the null flags. -/
def readInts : ℕ → List UInt8 → Except Fault (List ℤ × List UInt8)
  | 0, p => .ok ([], p)
  | n + 1, p => do
    let (flag, p) ← readInt p
    let (nullflags, p) ← readInts n p
    return (flag :: nullflags, p)

/-- The loop over the values; the array was allocated with zeros. -/
def readData : List ℤ → List UInt8 → Except Fault (List Pointer)
  | [], _ => .ok []
  | flag :: nullflags, p =>
    if flag > 0 then do
      palloc (flag + 1)
      if p.length < flag then .error .outOfBounds
      else (Pointer.to (p.take flag.toNat) :: ·) <$> readData nullflags (p.drop flag.toNat)
    else (Pointer.null :: ·) <$> readData nullflags p

/-- `query_cache_to_relation_cache` -/
def queryCacheToRelationCache (data : List UInt8) : Except Fault SelectResult := do
  let (numAttrs, p) ← readInt data
  let (numrows, p) ← readInt p
  let len := wrapInt (numAttrs * numrows)
  palloc (len * 4)
  palloc (len * 8)
  let (nullflags, p) ← readInts len.toNat p
  let data ← readData nullflags p
  return ⟨numAttrs, numrows, nullflags, data⟩

/-! ## What `do_query` has built -/

namespace Answer

variable (a : Answer)

/-- All values, row after row. -/
def cells : List Cell := a.rows.flatten

/-- The rows that are counted. -/
def numrows : ℕ := if a.numFields = 0 then 0 else a.rows.length

/-- The result of the query. -/
def result (garbage : ℕ → Pointer) : SelectResult where
  numAttrs := a.numFields
  numrows := a.numrows
  nullflags := a.cells.map nullflag
  data := a.cells.mapIdx (slot garbage)

/-- The bytes of a value. -/
def payload (cell : Cell) : List UInt8 := cell.getD []

/-- The size of the encoding. -/
def encodedLength : ℕ := 8 + 4 * a.cells.length + (a.cells.flatMap payload).length

theorem length_cells : a.cells.length = a.numFields * a.numrows := by
  have hsum : a.cells.length = a.rows.length * a.numFields := by
    rw [cells, length_flatten, eq_replicate_of_mem (l := a.rows.map List.length)
      (a := a.numFields)]
    · simp
    · intro n hn
      obtain ⟨row, hrow, rfl⟩ := mem_map.1 hn
      exact a.width row hrow
  rw [hsum, numrows]
  split
  · rename_i h
    rw [h, Nat.mul_zero, Nat.zero_mul]
  · exact Nat.mul_comm _ _

end Answer

section Build

variable {garbage : ℕ → Pointer}

theorem palloc_eq_ok {size : ℤ} : palloc size = .ok () ↔ 0 ≤ size ∧ size ≤ maxAllocSize := by
  unfold palloc
  split_ifs with h <;> simp [h]

/-- The arrays never take more than an allocation gives. -/
def Fits (n : ℕ) : Prop := (((n / allocNum + 1) * allocNum * 8 : ℕ) : ℤ) ≤ maxAllocSize

theorem bind_eq_ok {α β : Type} {x : Except Fault α} {f : α → Except Fault β} {b : β} :
    (x >>= f) = .ok b ↔ ∃ a, x = .ok a ∧ f a = .ok b := by
  cases x with
  | error e => simp [bind, Except.bind]
  | ok a => simp [bind, Except.bind]

theorem ok_bind {α β : Type} (a : α) (f : α → Except Fault β) : (.ok a >>= f) = f a := by
  simp only [bind, Except.bind]

theorem storeCell_eq_ok {res res' : SelectResult} {cell : Cell}
    (h : storeCell garbage res cell = .ok res') (hfits : Fits res.nullflags.length) :
    res' = { res with
      nullflags := res.nullflags ++ [nullflag cell]
      data := res.data ++ [slot garbage res.nullflags.length cell] } ∧
      nullflag cell + 1 ≤ maxAllocSize ∧ Fits (res.nullflags.length + 1) := by
  unfold storeCell at h
  obtain ⟨_, hcell, h⟩ := bind_eq_ok.1 h
  have hsize := (palloc_eq_ok.1 hcell).2
  dsimp only at h
  split_ifs at h with hfull
  · obtain ⟨_, hgrow, h⟩ := bind_eq_ok.1 h
    exact ⟨(Except.ok.inj h).symm, hsize, (palloc_eq_ok.1 hgrow).2⟩
  · refine ⟨(Except.ok.inj h).symm, hsize, ?_⟩
    have hdiv : (res.nullflags.length + 1) / allocNum = res.nullflags.length / allocNum := by
      unfold allocNum at hfull ⊢
      omega
    unfold Fits at hfits ⊢
    rw [hdiv]
    exact hfits

/-- The values stored so far. -/
structure Stored (garbage : ℕ → Pointer) (cells : List Cell) (res : SelectResult) : Prop where
  nullflags : res.nullflags = cells.map nullflag
  data : res.data = cells.mapIdx (slot garbage)
  sizes : ∀ cell ∈ cells, nullflag cell + 1 ≤ maxAllocSize
  fits : Fits cells.length

theorem Stored.cell {cells : List Cell} {res res' : SelectResult} {cell : Cell}
    (hs : Stored garbage cells res) (h : storeCell garbage res cell = .ok res') :
    Stored garbage (cells ++ [cell]) res' ∧ res'.numrows = res.numrows ∧
      res'.numAttrs = res.numAttrs := by
  have hlen : res.nullflags.length = cells.length := by simp [hs.nullflags]
  obtain ⟨rfl, hsize, hfits⟩ := storeCell_eq_ok h (hlen ▸ hs.fits)
  refine ⟨⟨?_, ?_, ?_, ?_⟩, rfl, rfl⟩
  · simp [hs.nullflags]
  · simp [hs.data, hlen, mapIdx_append]
  · intro c hc
    rcases mem_append.1 hc with hc | hc
    · exact hs.sizes c hc
    · rw [mem_singleton.1 hc]
      exact hsize
  · rw [length_append, length_singleton, ← hlen]
    exact hfits

theorem Stored.cells (row : List Cell) : ∀ {cells : List Cell} {res res' : SelectResult},
    Stored garbage cells res → row.foldlM (storeCell garbage) res = .ok res' →
      Stored garbage (cells ++ row) res' ∧ res'.numrows = res.numrows ∧
        res'.numAttrs = res.numAttrs := by
  induction row with
  | nil =>
    intro cells res res' hs h
    cases h
    exact ⟨by simpa using hs, rfl, rfl⟩
  | cons cell row ih =>
    intro cells res res' hs h
    rw [foldlM_cons] at h
    obtain ⟨res₁, hcell, h⟩ := bind_eq_ok.1 h
    obtain ⟨hs₁, hrows₁, hattrs₁⟩ := hs.cell hcell
    obtain ⟨hs', hrows', hattrs'⟩ := ih hs₁ h
    refine ⟨?_, hrows'.trans hrows₁, hattrs'.trans hattrs₁⟩
    rwa [append_assoc, singleton_append] at hs'

/-- The cells after some rows. -/
theorem Stored.rows (rows : List (List Cell)) : ∀ {cells : List Cell} {res res' : SelectResult},
    Stored garbage cells res → rows.foldlM (storeRow garbage) res = .ok res' →
      Stored garbage (cells ++ rows.flatten) res' ∧
        res'.numrows = res.numrows + (rows.filter fun row => decide (row.length > 0)).length ∧
        res'.numAttrs = res.numAttrs := by
  induction rows with
  | nil =>
    intro cells res res' hs h
    cases h
    exact ⟨by simpa using hs, by simp, rfl⟩
  | cons row rows ih =>
    intro cells res res' hs h
    rw [foldlM_cons] at h
    unfold storeRow at h
    by_cases hrow : row.length > 0
    · rw [if_pos hrow] at h
      obtain ⟨res₁, hstore, h⟩ := bind_eq_ok.1 h
      have hs₀ : Stored garbage cells { res with numrows := res.numrows + 1 } :=
        ⟨hs.nullflags, hs.data, hs.sizes, hs.fits⟩
      obtain ⟨hs₁, hrows₁, hattrs₁⟩ := hs₀.cells row hstore
      obtain ⟨hs', hrows', hattrs'⟩ := ih hs₁ h
      refine ⟨by simpa [append_assoc] using hs', ?_, hattrs'.trans hattrs₁⟩
      rw [hrows', hrows₁, filter_cons_of_pos (by simpa using hrow)]
      push_cast [length_cons]
      ring
    · rw [if_neg hrow] at h
      have hnil : row = [] := eq_nil_of_length_eq_zero (by omega)
      subst hnil
      exact ih hs h

/-- **The result that `do_query` returns, if all its allocations were possible.** -/
theorem doQuery_ok {a : Answer} {res : SelectResult} (h : doQuery garbage a = .ok res) :
    res = a.result garbage ∧ (∀ cell ∈ a.cells, nullflag cell + 1 ≤ maxAllocSize) ∧
      Fits a.cells.length := by
  have hs₀ : Stored garbage [] ⟨a.numFields, 0, [], []⟩ :=
    ⟨rfl, rfl, by simp, by norm_num [Fits, allocNum, maxAllocSize]⟩
  obtain ⟨hs, hrows, hattrs⟩ := hs₀.rows a.rows h
  rw [nil_append] at hs
  refine ⟨?_, hs.sizes, hs.fits⟩
  obtain ⟨numAttrs, numrows, nullflags, data⟩ := res
  have hcount : (a.rows.filter fun row => decide (row.length > 0)).length = a.numrows := by
    unfold Answer.numrows
    split
    · rename_i hzero
      rw [filter_eq_nil_iff.2]
      · rfl
      · intro row hrow
        simp [a.width row hrow, hzero]
    · rename_i hpos
      rw [filter_eq_self.2]
      intro row hrow
      simpa [a.width row hrow] using Nat.pos_of_ne_zero hpos
  simp only [zero_add] at hrows hattrs
  rw [hcount] at hrows
  have hflags := hs.nullflags
  have hdata := hs.data
  simp only at hflags hdata
  rw [Answer.result, hattrs, hrows, hflags, hdata]
  rfl

end Build

/-! ## The encoder on a result -/

section Encode

theorem nullflag_pos_iff {cell : Cell} : nullflag cell > 0 ↔ Answer.payload cell ≠ [] := by
  cases cell with
  | none => simp [nullflag, Answer.payload]
  | some v => simp [nullflag, Answer.payload, length_pos_iff]

theorem nullflag_of_pos {cell : Cell} (h : nullflag cell > 0) :
    cell = some (Answer.payload cell) ∧ nullflag cell = (Answer.payload cell).length := by
  cases cell with
  | none => exact absurd h (by decide)
  | some v => exact ⟨rfl, rfl⟩

theorem addFlags_eq (cells : List Cell) : ∀ s : ℤ, addFlags (wrapInt s) (cells.map nullflag) =
      wrapInt (s + (cells.flatMap Answer.payload).length) := by
  induction cells with
  | nil => simp [addFlags]
  | cons cell cells ih =>
    intro s
    have hstep : addFlags (wrapInt s) ((cell :: cells).map nullflag) =
        addFlags (if nullflag cell > 0 then wrapInt (wrapInt s + nullflag cell) else wrapInt s)
          (cells.map nullflag) := rfl
    rw [hstep, flatMap_cons, length_append]
    by_cases hpos : nullflag cell > 0
    · rw [if_pos hpos, wrapInt_add_left, ih, (nullflag_of_pos hpos).2]
      push_cast
      rw [add_assoc]
    · rw [if_neg hpos, ih]
      have hnil : Answer.payload cell = [] := by
        by_contra hne
        exact hpos (nullflag_pos_iff.2 hne)
      simp [hnil]

theorem copyCells_eq (cells : List Cell) : ∀ f : ℕ → Cell → Pointer, (∀ i v, f i (some v) = .to v) →
      copyCells (cells.map nullflag) (cells.mapIdx f) = .ok (cells.flatMap Answer.payload) := by
  induction cells with
  | nil => intro f _; rfl
  | cons cell cells ih =>
    intro f hf
    have ih := ih (fun i => f (i + 1)) fun i v => hf (i + 1) v
    rw [map_cons, mapIdx_cons, flatMap_cons]
    by_cases hpos : nullflag cell > 0
    · obtain ⟨hcell, hlen⟩ := nullflag_of_pos hpos
      have hptr : f 0 cell = .to (Answer.payload cell) := by
        conv_lhs => rw [hcell]
        exact hf 0 _
      simp only [copyCells, if_true, hptr, hlen, le_refl, ih]
      simp
    · have hnil : Answer.payload cell = [] := by
        by_contra hne
        exact hpos (nullflag_pos_iff.2 hne)
      simp only [copyCells, hpos, if_false, ih, hnil, nil_append]

theorem length_lt_of_fits {n : ℕ} (h : Fits n) : n * 8 ≤ 0x3fffffff := by
  unfold Fits allocNum maxAllocSize at h
  have hdiv := Nat.div_add_mod n 1024
  have hmod := Nat.mod_lt n (y := 1024) (by norm_num)
  omega

end Encode

namespace Answer

variable (a : Answer) {garbage : ℕ → Pointer}

/-- The bytes that are written. -/
def encoding : List UInt8 :=
  int32 a.numFields ++ int32 a.numrows ++
    ((a.cells.map nullflag).flatMap int32 ++ a.cells.flatMap payload)

theorem length_int32 (x : ℤ) : (int32 x).length = 4 := ByteMem.length_leBytes _ _

theorem length_flatMap_int32 (flags : List ℤ) :
    (flags.flatMap int32).length = 4 * flags.length := by
  induction flags with
  | nil => rfl
  | cons flag flags ih =>
    rw [flatMap_cons, length_append, length_int32, ih, length_cons]
    ring

theorem length_encoding : a.encoding.length = a.encodedLength := by
  unfold encoding encodedLength
  simp only [length_append, length_int32, length_flatMap_int32, length_map]
  ring

section

variable (h : Fits a.cells.length)
include h

theorem arraySize_eq : wrapInt ((a.numFields : ℤ) * a.numrows) = a.cells.length := by
  have hlen := length_lt_of_fits h
  have hprod : (a.numFields : ℤ) * a.numrows = (a.cells.length : ℤ) := by
    rw [a.length_cells]
    push_cast
    rfl
  rw [hprod, wrapInt_of_small (by omega) (by omega)]

theorem encodedSize_eq : encodedSize (a.result garbage) = wrapInt a.encodedLength := by
  have hsize := a.arraySize_eq h
  have hprod : (a.numFields : ℤ) * a.numrows = (a.cells.length : ℤ) := by
    rw [a.length_cells]
    push_cast
    rfl
  have htake : (a.cells.map nullflag).take (arraySize a.numFields a.numrows) =
      a.cells.map nullflag := by
    rw [arraySize, hsize]
    exact take_of_length_le (by simp)
  simp only [encodedSize, result, htake]
  rw [addFlags_eq, hprod, encodedLength]
  push_cast
  rfl

/-- **The encoder, on what `do_query` returned**: the size it announces is right as long as it
is no overflow. -/
theorem relationCacheToQueryCache_eq : relationCacheToQueryCache (a.result garbage) =
      (palloc (wrapInt (wrapInt a.encodedLength + 1)) >>= fun _ =>
        if a.encodedLength ≤ wrapInt a.encodedLength + 1 then
          .ok (a.encoding, wrapInt a.encodedLength) else .error .outOfBounds) := by
  have hsize := a.arraySize_eq h
  have hflags : (a.cells.map nullflag).take (arraySize a.numFields a.numrows) =
      a.cells.map nullflag := by
    rw [arraySize, hsize]
    exact take_of_length_le (by simp)
  have hdata : (a.cells.mapIdx (slot garbage)).take (arraySize a.numFields a.numrows) =
      a.cells.mapIdx (slot garbage) := by
    rw [arraySize, hsize]
    exact take_of_length_le (by simp)
  have hcopy := copyCells_eq a.cells (slot garbage) fun _ _ => rfl
  have hlen := a.length_encoding
  unfold encoding at hlen ⊢
  unfold relationCacheToQueryCache
  rw [a.encodedSize_eq h]
  simp only [result, hflags, hdata, hcopy, ok_bind, hlen]

theorem relationCacheToQueryCache_of_lt (hlt : (a.encodedLength : ℤ) < maxAllocSize) :
    relationCacheToQueryCache (a.result garbage) = .ok (a.encoding, a.encodedLength) := by
  unfold maxAllocSize at hlt
  have hsmall : wrapInt a.encodedLength = a.encodedLength :=
    wrapInt_of_small (by omega) (by omega)
  have hnext : wrapInt (a.encodedLength + 1) = a.encodedLength + 1 :=
    wrapInt_of_small (by omega) (by omega)
  have halloc : palloc (wrapInt (a.encodedLength + 1)) = .ok () := by
    rw [palloc_eq_ok, hnext, maxAllocSize]
    omega
  rw [a.relationCacheToQueryCache_eq h, hsmall, halloc, ok_bind, if_pos (by omega)]

/-- An encoding that is too large is announced with a wrong size, if it is not refused. -/
theorem lt_of_relationCacheToQueryCache {bytes : List UInt8}
    (hok : relationCacheToQueryCache (a.result garbage) = .ok (bytes, bytes.length)) :
    (a.encodedLength : ℤ) < maxAllocSize ∧ bytes = a.encoding := by
  rw [a.relationCacheToQueryCache_eq h] at hok
  obtain ⟨_, halloc, hok⟩ := bind_eq_ok.1 hok
  split_ifs at hok with hroom
  · obtain ⟨hbytes, hsize⟩ := Prod.mk.inj (Except.ok.inj hok)
    rw [← hbytes, a.length_encoding] at hsize
    rw [hsize] at halloc
    refine ⟨?_, hbytes.symm⟩
    have hlimit := palloc_eq_ok.1 halloc
    have hrange : (a.encodedLength : ℤ) < 2 ^ 31 := hsize ▸ wrapInt_lt a.encodedLength
    by_cases hlast : (a.encodedLength : ℤ) + 1 < 2 ^ 31
    · rw [wrapInt_of_small (by omega) hlast] at hlimit
      omega
    · have hmax : (a.encodedLength : ℤ) + 1 = 2 ^ 31 := by omega
      have hwrap : wrapInt (2 ^ 31) = -2 ^ 31 := by norm_num [wrapInt, Int.bmod_def]
      rw [hmax, hwrap] at hlimit
      omega

end

end Answer

/-! ## The decoder on an encoding -/

section Decode

theorem readInt_int32 {x : ℤ} (hle : -2 ^ 31 ≤ x) (hlt : x < 2 ^ 31) (p : List UInt8) :
    readInt (int32 x ++ p) = .ok (x, p) := by
  have hlen : (int32 x).length = 4 := ByteMem.length_leBytes _ _
  have hvalue : wrapInt (ByteMem.ofLe (int32 x)) = x := by
    rw [int32, ByteMem.ofLe_leBytes]
    have hmod : (x % 2 ^ 32).toNat % 256 ^ 4 = (x % 2 ^ 32).toNat := Nat.mod_eq_of_lt (by omega)
    rw [hmod, Int.toNat_of_nonneg (Int.emod_nonneg _ (by norm_num)), wrapInt]
    have hbmod : (x % 2 ^ 32).bmod (2 ^ 32) = x.bmod (2 ^ 32) := by
      have := Int.emod_bmod x (2 ^ 32)
      push_cast at this
      exact this
    rw [hbmod]
    exact wrapInt_of_small hle hlt
  rw [readInt, if_neg (by rw [length_append]; omega), ← hlen, take_left, drop_left,
    hvalue]

theorem readInts_flatMap (flags : List ℤ) (p : List UInt8)
    (h : ∀ flag ∈ flags, -2 ^ 31 ≤ flag ∧ flag < 2 ^ 31) :
    readInts flags.length (flags.flatMap int32 ++ p) = .ok (flags, p) := by
  induction flags with
  | nil => rfl
  | cons flag flags ih =>
    have hflag := h flag mem_cons_self
    have ih := ih fun f hf => h f (mem_cons_of_mem _ hf)
    rw [flatMap_cons, append_assoc, length_cons, readInts,
      readInt_int32 hflag.1 hflag.2]
    simp only [ok_bind, ih]
    rfl

/-- What the decoder makes of a value. -/
def decoded (cell : Cell) : Pointer :=
  if nullflag cell > 0 then .to (Answer.payload cell) else .null

/-- The values are read back. -/
theorem readData_flatMap (cells : List Cell)
    (h : ∀ cell ∈ cells, nullflag cell + 1 ≤ maxAllocSize) :
    readData (cells.map nullflag) (cells.flatMap Answer.payload) = .ok (cells.map decoded) := by
  induction cells with
  | nil => rfl
  | cons cell cells ih =>
    have hcell := h cell mem_cons_self
    have ih := ih fun c hc => h c (mem_cons_of_mem _ hc)
    rw [map_cons, map_cons, flatMap_cons, readData, decoded]
    by_cases hpos : nullflag cell > 0
    · have hlen := (nullflag_of_pos hpos).2
      have halloc : palloc (nullflag cell + 1) = .ok () := palloc_eq_ok.2 ⟨by omega, hcell⟩
      have hroom : ¬ ((Answer.payload cell ++ cells.flatMap Answer.payload).length : ℤ) <
          nullflag cell := by
        rw [hlen, length_append]
        omega
      rw [if_pos hpos, if_pos hpos, halloc, ok_bind, if_neg hroom, hlen, Int.toNat_natCast,
        take_left, drop_left, ih]
      rfl
    · have hnil : Answer.payload cell = [] := by
        by_contra hne
        exact hpos (nullflag_pos_iff.2 hne)
      rw [if_neg hpos, if_neg hpos, hnil, nil_append, ih]
      rfl

/-- **The decoder reads the dimensions and the flags back, and each value that is not empty.** -/
theorem queryCacheToRelationCache_eq (a : Answer) (hfits : Fits a.cells.length)
    (hsizes : ∀ cell ∈ a.cells, nullflag cell + 1 ≤ maxAllocSize) :
    queryCacheToRelationCache a.encoding =
      .ok ⟨a.numFields, a.numrows, a.cells.map nullflag, a.cells.map decoded⟩ := by
  have hlen := length_lt_of_fits hfits
  have hfields := a.numFields_lt
  have hrows : a.numrows * 8 ≤ 0x3fffffff := by
    rcases Nat.eq_zero_or_pos a.numFields with hzero | hpos
    · simp [Answer.numrows, hzero]
    · have hle : a.numrows ≤ a.cells.length := by
        rw [a.length_cells]
        exact Nat.le_mul_of_pos_left _ hpos
      omega
  have hflags : ∀ flag ∈ a.cells.map nullflag, -2 ^ 31 ≤ flag ∧ flag < 2 ^ 31 := by
    intro flag hflag
    obtain ⟨cell, hcell, rfl⟩ := mem_map.1 hflag
    have hsize := hsizes cell hcell
    unfold maxAllocSize at hsize
    have hge : -1 ≤ nullflag cell := by
      cases cell with
      | none => exact le_rfl
      | some v =>
        simp only [nullflag]
        omega
    constructor <;> omega
  have hread := readInts_flatMap (a.cells.map nullflag) (a.cells.flatMap Answer.payload) hflags
  rw [length_map] at hread
  have halloc4 : palloc ((a.cells.length : ℤ) * 4) = .ok () := by
    rw [palloc_eq_ok, maxAllocSize]
    omega
  have halloc8 : palloc ((a.cells.length : ℤ) * 8) = .ok () := by
    rw [palloc_eq_ok, maxAllocSize]
    omega
  have hread₁ := readInt_int32 (x := a.numFields) (by omega) (by omega)
  have hread₂ := readInt_int32 (x := a.numrows) (by omega) (by omega)
  rw [queryCacheToRelationCache, Answer.encoding, append_assoc, hread₁]
  simp only [ok_bind, hread₂, a.arraySize_eq hfits, Int.toNat_natCast, halloc4, halloc8, hread,
    readData_flatMap a.cells hsizes]
  rfl

end Decode

/-! ## The main statement -/

/-- The result is encoded in as many bytes as announced, and decoded to what it was. -/
def RoundTrips (res : SelectResult) : Prop :=
  ∃ bytes : List UInt8, relationCacheToQueryCache res = .ok (bytes, bytes.length) ∧
    queryCacheToRelationCache bytes = .ok res

/-- The condition on an answer and on the memory: no value is empty, an entry of the array of
pointers that stays unwritten is `NULL`, and the encoding can be allocated. -/
def Preserved (garbage : ℕ → Pointer) (a : Answer) : Prop :=
  (∀ v, some v ∈ a.cells → v ≠ []) ∧
    (∀ i, allocNum ≤ i → a.cells[i]? = some none → garbage i = .null) ∧
    (a.encodedLength : ℤ) < maxAllocSize

/-- Which values come back as they were. -/
theorem map_decoded_eq_iff (garbage : ℕ → Pointer) (cells : List Cell) :
    cells.map decoded = cells.mapIdx (slot garbage) ↔ (∀ v, some v ∈ cells → v ≠ []) ∧
        ∀ i, allocNum ≤ i → cells[i]? = some none → garbage i = .null := by
  constructor
  · intro h
    have hcell : ∀ i cell, cells[i]? = some cell → decoded cell = slot garbage i cell := by
      intro i cell hi
      have := congrArg (·[i]?) h
      simpa [hi] using this
    refine ⟨?_, fun i hle hi => ?_⟩
    · rintro v hv rfl
      obtain ⟨i, hi⟩ := mem_iff_getElem?.1 hv
      exact absurd (hcell i _ hi) (by simp [decoded, nullflag, slot])
    · have := hcell i none hi
      simpa [decoded, nullflag, slot, Nat.not_lt.2 hle] using this.symm
  · rintro ⟨hvalue, hnull⟩
    refine ext_getElem? fun i => ?_
    rw [List.getElem?_map, List.getElem?_mapIdx]
    cases hi : cells[i]? with
    | none => rfl
    | some cell =>
      cases cell with
      | none =>
        by_cases hlt : i < allocNum
        · simp [decoded, nullflag, slot, hlt]
        · simp [decoded, nullflag, slot, hlt, hnull i (Nat.not_lt.1 hlt) hi]
      | some v =>
        have hne := hvalue v (mem_of_getElem? hi)
        have hpos : nullflag (some v) > 0 := nullflag_pos_iff.2 hne
        simp [decoded, hpos, slot, Answer.payload]

/-- **What `do_query` has returned goes through the shared cache unchanged exactly if no value is
empty, no pointer of a `NULL` is stray, and the encoding can be allocated.** -/
theorem relcache_roundtrip_iff (garbage : ℕ → Pointer) (a : Answer) (res : SelectResult)
    (h : doQuery garbage a = .ok res) : RoundTrips res ↔ Preserved garbage a := by
  obtain ⟨rfl, hsizes, hfits⟩ := doQuery_ok h
  have hdecode := queryCacheToRelationCache_eq a hfits hsizes
  constructor
  · rintro ⟨bytes, hencode, hback⟩
    obtain ⟨hlt, rfl⟩ := a.lt_of_relationCacheToQueryCache hfits hencode
    have hresult := Except.ok.inj (hdecode.symm.trans hback)
    have hdata : a.cells.map decoded = a.cells.mapIdx (slot garbage) :=
      congrArg SelectResult.data hresult
    obtain ⟨hvalue, hnull⟩ := (map_decoded_eq_iff garbage a.cells).1 hdata
    exact ⟨hvalue, hnull, hlt⟩
  · rintro ⟨hvalue, hnull, hlt⟩
    refine ⟨a.encoding, ?_, ?_⟩
    · rw [a.relationCacheToQueryCache_of_lt hfits hlt, a.length_encoding]
    · rw [hdecode, (map_decoded_eq_iff garbage a.cells).2 ⟨hvalue, hnull⟩]
      rfl

/-- One row with one value. -/
def oneValue (cell : Cell) : Answer where
  numFields := 1
  rows := [[cell]]
  numFields_lt := by norm_num
  width := by simp

/-- An answer `t` goes through the cache unchanged. -/
theorem relcache_roundtrip_value :
    doQuery (fun _ => .stray) (oneValue (some [116])) = .ok ⟨1, 1, [1], [.to [116]]⟩ ∧
      RoundTrips ⟨1, 1, [1], [.to [116]]⟩ := by
  have hresult : doQuery (fun _ => .stray) (oneValue (some [116])) =
      .ok ⟨1, 1, [1], [.to [116]]⟩ := by
    decide +kernel
  have hcells : (oneValue (some [116])).cells = [some [116]] := rfl
  refine ⟨hresult, (relcache_roundtrip_iff _ _ _ hresult).2 ⟨?_, ?_, by decide +kernel⟩⟩
  · simp [hcells]
  · simp [hcells, getElem?_singleton]

/-- An empty value comes back as a `NULL` pointer, with its flag still 0. -/
theorem empty_value_lost :
    doQuery (fun _ => .null) (oneValue (some [])) = .ok ⟨1, 1, [0], [.to []]⟩ ∧
      relationCacheToQueryCache ⟨1, 1, [0], [.to []]⟩ =
        .ok ([1, 0, 0, 0, 1, 0, 0, 0, 0, 0, 0, 0], 12) ∧
      queryCacheToRelationCache [1, 0, 0, 0, 1, 0, 0, 0, 0, 0, 0, 0] =
        .ok ⟨1, 1, [0], [.null]⟩ ∧
      ¬ RoundTrips ⟨1, 1, [0], [.to []]⟩ := by
  have hencode : relationCacheToQueryCache ⟨1, 1, [0], [.to []]⟩ =
      .ok ([1, 0, 0, 0, 1, 0, 0, 0, 0, 0, 0, 0], 12) := by decide +kernel
  have hdecode : queryCacheToRelationCache [1, 0, 0, 0, 1, 0, 0, 0, 0, 0, 0, 0] =
      .ok ⟨1, 1, [0], [.null]⟩ := by decide +kernel
  refine ⟨by decide +kernel, hencode, hdecode, ?_⟩
  rintro ⟨bytes, hbytes, hback⟩
  have hpair := Except.ok.inj (hencode.symm.trans hbytes)
  have heq := congrArg Prod.fst hpair
  dsimp only at heq
  rw [← heq, hdecode] at hback
  exact absurd (Except.ok.inj hback) (by decide)

end PgBalancer.Relcache
