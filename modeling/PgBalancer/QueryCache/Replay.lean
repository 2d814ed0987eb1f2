import PgBalancer.Lib.NetworkOrder
import PgBalancer.Stream.ReadSide

/-!
# Collecting a result and replaying it

While a SELECT runs, its messages are collected in the buffer of a temporary cache, one after the
other: the kind, the length in network byte order, which counts itself, and the data.  When the
result is found in the cache later, the buffer is taken apart again.  There are two pieces of code
for that: `send_cached_messages` writes the messages to the frontend, and the loop of
`inject_cached_message` pushes them to the stack of a backend connection.

* `replay_same` — **of a result whose messages fit in `memqcache_maxcache` both loops end at the end
  of the buffer and emit the same messages**, and a message that is too much is the last one the
  cache looks at.
-/

namespace PgBalancer.QueryCache

open CBuffer NetworkOrder PgBalancer.Stream List

/-- A message of the backend. -/
structure BackendMessage where
  kind : UInt8
  data : List UInt8

/-- The message as it goes over the connection; the length counts itself. -/
def BackendMessage.bytes (m : BackendMessage) : List UInt8 :=
  m.kind :: (beBytes 4 (m.data.length + 4) ++ m.data)

open BackendMessage (bytes)

theorem length_bytes (m : BackendMessage) : m.bytes.length = m.data.length + 5 := by
  simp [bytes]
  omega

/-! ## Collecting -/

/-- `POOL_INTERNAL_BUFFER`; `bufsize` is the length of `buf`. -/
structure InternalBuffer where
  buf : List UInt8
  buflen : Nat

/-- `pool_create_buffer` -/
def poolCreateBuffer : InternalBuffer := ⟨[], 0⟩

/-- `POOL_ALLOCATE_UNIT` -/
def poolAllocateUnit : Nat := 8192

/-- `pool_add_buffer` -/
def poolAddBuffer (b : InternalBuffer) (data : List UInt8) : Except StreamError InternalBuffer :=
  if data.length = 0 then .ok b
  else do
    let allocateSize := ((b.buflen + data.length) / poolAllocateUnit + 1) * poolAllocateUnit
    let buf ← ensure b.buf (b.buflen + data.length : Nat) allocateSize
    let buf ← memmove buf b.buflen data
    return ⟨buf, b.buflen + data.length⟩

/-- `pool_get_buffer`; the null pointer comes with length 0. -/
def poolGetBuffer (b : InternalBuffer) : Except StreamError (List UInt8) :=
  if b.buf.length = 0 ∨ b.buflen = 0 then .ok []
  else do
    let p ← repalloc [] b.buflen
    let data ← memget b.buf 0 b.buflen
    memmove p 0 data

/-- `POOL_TEMP_QUERY_CACHE`, as far as messages are concerned. -/
structure ResultCache where
  buffer : InternalBuffer
  isExceeded : Bool

/-- The part of `pool_create_temp_query_cache` that is about messages. -/
def createResultCache : ResultCache := ⟨poolCreateBuffer, false⟩

/-- `T`, `D`, `C`, `1` and `2` are stored. -/
def isStored (kind : UInt8) : Bool :=
  kind = 84 ∨ kind = 68 ∨ kind = 67 ∨ kind = 49 ∨ kind = 50

/-- `pool_add_temp_query_cache` -/
def poolAddTempQueryCache (maxcache : Nat) (cache : ResultCache) (m : BackendMessage) :
    Except StreamError ResultCache :=
  if cache.isExceeded then .ok cache
  else if !isStored m.kind then .ok cache
  else if maxcache < cache.buffer.buflen + m.data.length + 4 + 1 then
    .ok { cache with isExceeded := true }
  else do
    let buffer ← poolAddBuffer cache.buffer [m.kind]
    let buffer ← poolAddBuffer buffer (beBytes 4 (m.data.length + 4))
    let buffer ← poolAddBuffer buffer m.data
    return { cache with buffer }

/-- The messages of a result, one after the other. -/
def addMessages (maxcache : Nat) (cache : ResultCache) (ms : List BackendMessage) :
    Except StreamError ResultCache :=
  ms.foldlM (poolAddTempQueryCache maxcache) cache

/-! ## Replaying -/

/-- The variables of both loops after the header of a message. -/
structure CachedHeader where
  tmpkind : UInt8
  /-- the length as it is stored -/
  tmplen : List UInt8
  len : Int
  /-- where the data is -/
  p : Int
  /-- `i` for the next turn -/
  next : Int

/-- The first lines of both loops.  The new `i` is computed as `size_t` and stored as `int`. -/
def readHeader (qcache : List UInt8) (i : Int) : Except StreamError CachedHeader := do
  let kind ← memget qcache i 1
  let tmplen ← memget qcache (i + 1) 4
  let len := int32 (ofBe tmplen)
  return ⟨kind.headD 0, tmplen, len, i + 5, int32 (i + 5 + (len - 4))⟩

/-- `send_message`: what is written to the frontend. -/
def sendMessage (qcache : List UInt8) (kind : UInt8) (len p : Int) :
    Except StreamError (List UInt8) := do
  let data ← memget qcache p (len - 4)
  return kind :: (beBytes 4 len.toNat ++ data)

/-- The loop of `send_cached_messages`: where it ends, the number of messages sent and what is
written to the frontend.  `none` when it takes more than `fuel` turns. -/
def sendLoop (qcache : List UInt8) (qcachelen : Int) :
    (fuel : Nat) → (i : Int) → (isPreparedStmt : Bool) → (msg : Nat) → (frontend : List UInt8) →
      Option (Except StreamError (Int × Nat × List UInt8))
  | 0, _, _, _, _ => none
  | fuel + 1, i, isPreparedStmt, msg, frontend =>
    if i < qcachelen then
      match readHeader qcache i with
      | .error e => some (.error e)
      | .ok h =>
        if h.tmpkind = 49 ∨ h.tmpkind = 50 then
          sendLoop qcache qcachelen fuel h.next true msg frontend
        else if isPreparedStmt ∧ h.tmpkind = 84 then
          sendLoop qcache qcachelen fuel h.next isPreparedStmt msg frontend
        else
          match sendMessage qcache h.tmpkind h.len h.p with
          | .error e => some (.error e)
          | .ok sent =>
            sendLoop qcache qcachelen fuel h.next isPreparedStmt (msg + 1) (frontend ++ sent)
    else some (.ok (i, msg, frontend))

/-- `send_cached_messages` -/
def sendCachedMessages (qcache : List UInt8) :
    Option (Except StreamError (Int × Nat × List UInt8)) :=
  sendLoop qcache qcache.length (qcache.length + 1) 0 false 0 []

/-- The end of the loop of `inject_cached_message`: a message is pushed to the stack. -/
def pushMessage (qcache : List UInt8) (h : CachedHeader) (backend : Connection) :
    Except StreamError Connection := do
  let backend ← poolPush backend [h.tmpkind]
  let backend ← poolPush backend h.tmplen
  if 0 < h.len then
    let data ← memget qcache h.p (h.len - 4)
    poolPush backend data
  else return backend

/-- The loop of `inject_cached_message`: where it ends, and the connection to the backend. -/
def injectLoop (qcache : List UInt8) (qcachelen : Int) :
    (fuel : Nat) → (i : Int) → (isPreparedStmt : Bool) → (backend : Connection) →
      Option (Except StreamError (Int × Connection))
  | 0, _, _, _ => none
  | fuel + 1, i, isPreparedStmt, backend =>
    if i < qcachelen then
      match readHeader qcache i with
      | .error e => some (.error e)
      | .ok h =>
        if h.tmpkind = 49 ∨ h.tmpkind = 50 then injectLoop qcache qcachelen fuel h.next true backend
        else if isPreparedStmt ∧ h.tmpkind = 84 then
          injectLoop qcache qcachelen fuel h.next isPreparedStmt backend
        else
          match pushMessage qcache h backend with
          | .error e => some (.error e)
          | .ok backend => injectLoop qcache qcachelen fuel h.next isPreparedStmt backend
    else some (.ok (i, backend))

/-- The last loop of `inject_cached_message`. -/
def injectCachedMessages (qcache : List UInt8) (backend : Connection) :
    Option (Except StreamError (Int × Connection)) :=
  injectLoop qcache qcache.length (qcache.length + 1) 0 false backend

/-! ## What is to be replayed -/

/-- The messages that come back: `T`, `D` and `C`, but no `T` once a `1` or a `2` was seen. -/
def replayed : Bool → List BackendMessage → List BackendMessage
  | _, [] => []
  | seen, m :: ms =>
    if m.kind = 49 ∨ m.kind = 50 then replayed true ms
    else if seen ∧ m.kind = 84 then replayed seen ms
    else if isStored m.kind then m :: replayed seen ms
    else replayed seen ms

theorem replayed_filter (seen : Bool) (ms : List BackendMessage) :
    replayed seen (ms.filter fun m => isStored m.kind) = replayed seen ms := by
  induction ms generalizing seen with
  | nil => rfl
  | cons m ms ih =>
    cases hstored : isStored m.kind with
    | true =>
      have hfilter : (m :: ms).filter (fun m => isStored m.kind) =
          m :: ms.filter fun m => isStored m.kind := filter_cons_of_pos hstored
      rw [hfilter, replayed, replayed, ih, ih]
    | false =>
      have hnot : ¬ (m.kind = 49 ∨ m.kind = 50) ∧ ¬ m.kind = 84 := by
        have hkind := of_decide_eq_false hstored
        tauto
      rw [filter_cons_of_neg (by simp [hstored]), ih, replayed, if_neg hnot.1,
        if_neg fun h => hnot.2 h.2, hstored, if_neg Bool.false_ne_true]

/-! ## The buffer -/

namespace InternalBuffer

/-- What the buffer holds. -/
def content (b : InternalBuffer) : List UInt8 := window b.buf 0 b.buflen

/-- The buffer has room for what it holds, and is no larger than can be allocated. -/
structure Wf (b : InternalBuffer) : Prop where
  fits : b.buflen ≤ b.buf.length
  size_le : b.buf.length ≤ maxAllocSize

theorem wf_create : poolCreateBuffer.Wf := ⟨le_rfl, by decide⟩

theorem Wf.length_content {b : InternalBuffer} (h : b.Wf) : b.content.length = b.buflen :=
  length_window (by simpa using h.fits)

theorem content_front (b : InternalBuffer) : b.content <+: b.buf := take_prefix _ _

end InternalBuffer

variable {b : InternalBuffer}

/-- **Data that is added comes after what the buffer holds**, unless the new size cannot be
allocated. -/
theorem poolAddBuffer_returns (h : b.Wf) (data : List UInt8) : Returns (poolAddBuffer b data)
      (fun b' => b'.Wf ∧ b'.buflen = b.buflen + data.length ∧ b'.content = b.content ++ data)
      (fun e => e = .badAlloc ∧ maxAllocSize < b.buflen + data.length + poolAllocateUnit) := by
  have hfits := h.fits
  unfold poolAddBuffer
  split
  case isTrue hempty =>
    rw [length_eq_zero_iff] at hempty
    subst hempty
    exact ⟨h, rfl, (append_nil _).symm⟩
  case isFalse =>
    have hge := Nat.lt_div_mul_add (a := b.buflen + data.length) (b := poolAllocateUnit) (by decide)
    have hle := Nat.div_mul_le_self (b.buflen + data.length) poolAllocateUnit
    rw [← Nat.succ_mul] at hge
    refine ((ensure_returns b.buf _ _ h.size_le ?_).mono (fun _ h => h) ?_).bind ?_
    · exact fun _ _ => Int.ofNat_le.2 hge.le
    · rintro e ⟨rfl, -, hbad⟩
      refine ⟨rfl, lt_of_not_ge fun hsmall => hbad ⟨by positivity, ?_⟩⟩
      rw [Nat.add_one_mul]
      omega
    · rintro buf ⟨hroom, hmax, hgrow⟩
      obtain ⟨buf', hmove, hfront, hlen⟩ := memmove_front (b.content_front.trans hgrow) data
        (by rw [h.length_content]; push_cast at hroom; omega)
      have htake := prefix_iff_eq_take.1 hfront
      rw [length_append, h.length_content] at htake
      rw [h.length_content] at hmove
      rw [hmove]
      refine ⟨⟨?_, ?_⟩, rfl, htake.symm⟩
      · rw [hlen]
        push_cast at hroom
        dsimp only
        omega
      · rw [hlen]
        exact hmax

theorem poolGetBuffer_eq (h : b.Wf) : poolGetBuffer b = .ok b.content := by
  have hfits := h.fits
  have hsize := h.size_le
  unfold poolGetBuffer
  split
  case isTrue hempty =>
    have hzero : b.buflen = 0 := by omega
    rw [InternalBuffer.content, hzero, window_zero]
  case isFalse =>
    have halloc : repalloc [] (b.buflen : Int) = .ok (resize [] b.buflen 0) := by
      rw [repalloc, if_pos ⟨by omega, by omega⟩, Int.toNat_natCast]
    have hget := memget_front b.content_front
    rw [h.length_content] at hget
    have hnil : ([] : List UInt8) <+: resize [] b.buflen 0 := nil_prefix
    obtain ⟨buf', hmove, hfront, hlen⟩ :=
      memmove_front hnil b.content
        (by rw [h.length_content, length_resize, length_nil, Nat.zero_add])
    have hwhole := hfront.eq_of_length (by rw [hlen, length_resize]; exact h.length_content)
    rw [halloc]
    change (memget b.buf 0 b.buflen >>= fun data => memmove (resize [] b.buflen 0) 0 data) = _
    rw [hget]
    exact hmove.trans (congrArg Except.ok hwhole.symm)

/-! ## The cache -/

/-- The bytes of the messages that are stored. -/
def storedBytes (ms : List BackendMessage) : List UInt8 :=
  (ms.filter fun m => isStored m.kind).flatMap bytes

theorem storedBytes_append (ms ms' : List BackendMessage) :
    storedBytes (ms ++ ms') = storedBytes ms ++ storedBytes ms' := by
  simp [storedBytes]

/-- The cache after the messages `ms`: it holds those that are stored, unless they are too much. -/
structure Collected (maxcache : Nat) (ms : List BackendMessage) (cache : ResultCache) : Prop where
  wf : cache.buffer.Wf
  content : cache.isExceeded = false →
    cache.buffer.content = storedBytes ms ∧ cache.buffer.buflen ≤ maxcache
  exceeded : cache.isExceeded = true → maxcache < (storedBytes ms).length

variable {maxcache : Nat} {ms : List BackendMessage} {cache : ResultCache}

/-- Memory can only run out for a limit near the largest allocation. -/
def OutOfMemory (maxcache : Nat) (e : StreamError) : Prop :=
  e = .badAlloc ∧ maxAllocSize < maxcache + poolAllocateUnit

/-- One more message is collected, or there is no memory for it. -/
theorem collected_add (h : Collected maxcache ms cache) (m : BackendMessage) :
    Returns (poolAddTempQueryCache maxcache cache m) (Collected maxcache (ms ++ [m]))
      (OutOfMemory maxcache) := by
  unfold poolAddTempQueryCache
  split
  case isTrue hexceeded =>
    refine ⟨h.wf, fun hnot => absurd hnot (by simp [hexceeded]), fun _ => ?_⟩
    rw [storedBytes_append, length_append]
    exact Nat.lt_add_right _ (h.exceeded hexceeded)
  case isFalse hexceeded =>
    obtain ⟨hcontent, hle⟩ := h.content (by simpa using hexceeded)
    have hlen := h.wf.length_content
    rw [hcontent] at hlen
    split
    case isTrue hother =>
      refine ⟨h.wf, fun _ => ⟨?_, hle⟩, fun hyes => absurd hyes hexceeded⟩
      rw [storedBytes_append, hcontent, storedBytes, storedBytes,
        filter_cons_of_neg (by simpa using hother)]
      simp
    case isFalse hstored =>
      have hbytes : storedBytes [m] = m.bytes := by
        rw [storedBytes, filter_cons_of_pos (by simpa using hstored)]
        simp
      split
      case isTrue hlarge =>
        refine ⟨h.wf, fun hnot => absurd hnot (by simp), fun _ => ?_⟩
        rw [storedBytes_append, hbytes, length_append, length_bytes]
        omega
      case isFalse hroom =>
        have hmemory : ∀ {n k : Nat} {e : StreamError}, n + k ≤ maxcache →
            e = .badAlloc ∧ maxAllocSize < n + k + poolAllocateUnit → OutOfMemory maxcache e :=
          fun hn he => ⟨he.1, by omega⟩
        have hbe := length_beBytes 4 (m.data.length + 4)
        refine ((poolAddBuffer_returns h.wf [m.kind]).mono (fun _ h => h) fun e => hmemory ?_).bind
          fun b₁ ⟨hwf₁, hlen₁, hcontent₁⟩ => ?_
        · rw [length_singleton]
          omega
        rw [length_singleton] at hlen₁
        refine ((poolAddBuffer_returns hwf₁ _).mono (fun _ h => h) fun e => hmemory ?_).bind
          fun b₂ ⟨hwf₂, hlen₂, hcontent₂⟩ => ?_
        · omega
        refine ((poolAddBuffer_returns hwf₂ _).mono (fun _ h => h) fun e => hmemory ?_).bind
          fun b₃ ⟨hwf₃, hlen₃, hcontent₃⟩ => ?_
        · omega
        refine ⟨hwf₃, fun _ => ⟨?_, ?_⟩, fun hyes => absurd hyes hexceeded⟩
        · rw [hcontent₃, hcontent₂, hcontent₁, hcontent, storedBytes_append, hbytes, bytes]
          simp only [append_assoc, cons_append, nil_append]
        · dsimp only
          omega

theorem addMessages_returns (ms : List BackendMessage) :
    ∀ {before : List BackendMessage} {cache : ResultCache}, Collected maxcache before cache →
      Returns (addMessages maxcache cache ms) (Collected maxcache (before ++ ms))
        (OutOfMemory maxcache) := by
  induction ms with
  | nil =>
    intro before cache h
    rw [append_nil]
    exact h
  | cons m ms ih =>
    intro before cache h
    rw [addMessages, foldlM_cons]
    refine (collected_add h m).bind fun cache₁ h₁ => ?_
    have hrest := ih h₁
    rw [append_assoc] at hrest
    exact hrest

theorem collected_create (maxcache : Nat) : Collected maxcache [] createResultCache where
  wf := InternalBuffer.wf_create
  content _ := ⟨rfl, Nat.zero_le _⟩
  exceeded := nofun

theorem addMessages_of_exceeded (h : cache.isExceeded = true) :
    addMessages maxcache cache ms = .ok cache := by
  induction ms with
  | nil => rfl
  | cons m ms ih =>
    have hstep : poolAddTempQueryCache maxcache cache m = .ok cache := by
      rw [poolAddTempQueryCache, if_pos h]
    rw [addMessages, foldlM_cons, hstep]
    exact ih

/-! ## The loops -/

section Loops

variable {qcache before after : List UInt8} {m : BackendMessage} {backend : Connection}

section

variable (hq : qcache = before ++ (m.bytes ++ after))
include hq

/-- The header of the message that begins here. -/
theorem readHeader_eq (hlen : (qcache.length : Int) < 2 ^ 31) : readHeader qcache before.length =
      .ok ⟨m.kind, beBytes 4 (m.data.length + 4), m.data.length + 4, before.length + 5,
        (before ++ m.bytes).length⟩ := by
  have hsize := congrArg List.length hq
  simp only [length_append, length_bytes] at hsize
  have hkind : memget qcache before.length 1 = .ok [m.kind] := by
    have hfield : qcache = before ++ ([m.kind] ++
        (beBytes 4 (m.data.length + 4) ++ m.data ++ after)) := by
      rw [hq, bytes, cons_append]
      rfl
    rw [memget, hfield, copyOut_middle rfl (by simp)]
  have htmplen : memget qcache (before.length + 1) 4 = .ok (beBytes 4 (m.data.length + 4)) := by
    have hfield : qcache = (before ++ [m.kind]) ++
        (beBytes 4 (m.data.length + 4) ++ (m.data ++ after)) := by
      rw [hq, bytes]
      simp only [append_assoc, cons_append, nil_append]
    rw [memget, hfield, copyOut_middle (by simp) (by simp)]
  have hword : ofBe (beBytes 4 (m.data.length + 4)) = m.data.length + 4 :=
    ofBe_beBytes_of_lt (by norm_num; omega)
  unfold readHeader
  rw [hkind]
  change (memget qcache (before.length + 1) 4 >>= _) = _
  rw [htmplen]
  change Except.ok _ = _
  rw [hword, int32_eq_self (by omega) (by push_cast; omega),
    int32_eq_self (by omega) (by push_cast; omega)]
  simp only [length_append, length_bytes, headD_cons]
  push_cast
  congr 2
  ring

theorem length_lt_of_message : (before.length : Int) < qcache.length := by
  rw [hq]
  simp only [length_append, length_bytes]
  push_cast
  omega

theorem memget_data : memget qcache (before.length + 5) (m.data.length + 4 - 4) = .ok m.data := by
  have hfield : qcache = (before ++ m.kind :: beBytes 4 (m.data.length + 4)) ++
      (m.data ++ after) := by
    rw [hq, bytes]
    simp only [append_assoc, cons_append]
  rw [memget, hfield, copyOut_middle]
  · simp only [length_append, length_cons, length_beBytes]
    push_cast
    ring
  · ring

theorem sendMessage_eq :
    sendMessage qcache m.kind (m.data.length + 4) (before.length + 5) = .ok m.bytes := by
  unfold sendMessage
  rw [memget_data hq]
  rfl

end

/-- **The loop that sends takes the rest of the buffer apart.** -/
theorem sendLoop_eq (hlen : (qcache.length : Int) < 2 ^ 31) :
    ∀ (ms : List BackendMessage) (before : List UInt8) (fuel : Nat) (seen : Bool) (msg : Nat)
      (frontend : List UInt8), (∀ m ∈ ms, isStored m.kind = true) →
      qcache = before ++ ms.flatMap bytes → ms.length < fuel →
      sendLoop qcache qcache.length fuel before.length seen msg frontend =
        some (.ok (qcache.length, msg + (replayed seen ms).length,
          frontend ++ (replayed seen ms).flatMap bytes)) := by
  intro ms
  induction ms with
  | nil =>
    intro before fuel seen msg frontend _ hq hfuel
    obtain ⟨fuel, rfl⟩ := Nat.exists_eq_succ_of_ne_zero (Nat.ne_zero_of_lt hfuel)
    rw [flatMap_nil, append_nil] at hq
    subst hq
    rw [sendLoop, if_neg (lt_irrefl _)]
    simp [replayed]
  | cons m ms ih =>
    intro before fuel seen msg frontend hstored hq hfuel
    obtain ⟨fuel, rfl⟩ := Nat.exists_eq_succ_of_ne_zero (Nat.ne_zero_of_lt hfuel)
    obtain ⟨hm, hms⟩ := forall_mem_cons.1 hstored
    rw [flatMap_cons] at hq
    have hrest : qcache = (before ++ m.bytes) ++ ms.flatMap bytes := by
      rw [hq, append_assoc]
    have hfuel' : ms.length < fuel := Nat.lt_of_succ_lt_succ hfuel
    rw [sendLoop, if_pos (length_lt_of_message hq), readHeader_eq hq hlen, replayed]
    dsimp only
    split_ifs with hprep hdesc
    · exact ih _ _ _ _ _ hms hrest hfuel'
    · exact ih _ _ _ _ _ hms hrest hfuel'
    · rw [sendMessage_eq hq]
      dsimp only
      rw [ih _ _ _ _ _ hms hrest hfuel', length_cons, flatMap_cons, append_assoc]
      congr 4
      omega

/-- One message is pushed as it was stored. -/
theorem pushMessage_returns (hq : qcache = before ++ (m.bytes ++ after))
    (hlen : (qcache.length : Int) < 2 ^ 31) (hinv : Stream.Inv backend) :
    Returns (pushMessage qcache ⟨m.kind, beBytes 4 (m.data.length + 4), m.data.length + 4,
        before.length + 5, (before ++ m.bytes).length⟩ backend)
      (fun backend' => backend' = { backend with buf3 := backend.buf3 ++ m.bytes } ∧
        Stream.Inv backend')
      (fun e => e = .badAlloc ∧ maxAllocSize < (backend.buf3.length + m.bytes.length : Int)) := by
  have hsize := congrArg List.length hq
  simp only [length_append, length_bytes] at hsize
  have hbytes := length_bytes m
  unfold pushMessage
  refine ((poolPush_returns hinv (by simp)).mono (fun _ h => h) ?_).bind ?_
  · rintro e ⟨rfl, he⟩
    rw [length_singleton] at he
    exact ⟨rfl, by omega⟩
  · rintro b₁ ⟨rfl, hinv₁⟩
    refine ((poolPush_returns hinv₁ (by simp)).mono (fun _ h => h) ?_).bind ?_
    · rintro e ⟨rfl, he⟩
      simp only [length_append, length_singleton, length_beBytes] at he
      exact ⟨rfl, by push_cast at he; omega⟩
    · rintro b₂ ⟨rfl, hinv₂⟩
      dsimp only
      rw [if_pos (by omega), memget_data hq]
      refine (poolPush_returns hinv₂ (by omega)).mono ?_ ?_
      · rintro b₃ ⟨rfl, hinv₃⟩
        refine ⟨?_, hinv₃⟩
        simp only [bytes, append_assoc, cons_append, nil_append]
      · rintro e ⟨rfl, he⟩
        simp only [length_append, length_singleton, length_beBytes] at he
        exact ⟨rfl, by push_cast at he; omega⟩

/-- **The loop that injects takes the rest of the buffer apart.**  It fails only if the stack
becomes larger than can be allocated. -/
theorem injectLoop_returns (hlen : (qcache.length : Int) < 2 ^ 31) :
    ∀ (ms : List BackendMessage) (before : List UInt8) (fuel : Nat) (seen : Bool)
      {backend : Connection}, Stream.Inv backend → (∀ m ∈ ms, isStored m.kind = true) →
      qcache = before ++ ms.flatMap bytes → ms.length < fuel →
      ∃ r, injectLoop qcache qcache.length fuel before.length seen backend = some r ∧ Returns r
          (fun x => x = ((qcache.length : Int), { backend with
            buf3 := backend.buf3 ++ (replayed seen ms).flatMap bytes }))
          (fun e => e = .badAlloc ∧ maxAllocSize <
            (backend.buf3.length + ((replayed seen ms).flatMap bytes).length : Int)) := by
  intro ms
  induction ms with
  | nil =>
    intro before fuel seen backend _ _ hq hfuel
    obtain ⟨fuel, rfl⟩ := Nat.exists_eq_succ_of_ne_zero (Nat.ne_zero_of_lt hfuel)
    rw [flatMap_nil, append_nil] at hq
    subst hq
    refine ⟨.ok (qcache.length, backend), ?_, ?_⟩
    · rw [injectLoop, if_neg (lt_irrefl _)]
    · simp [replayed]
  | cons m ms ih =>
    intro before fuel seen backend hinv hstored hq hfuel
    obtain ⟨fuel, rfl⟩ := Nat.exists_eq_succ_of_ne_zero (Nat.ne_zero_of_lt hfuel)
    obtain ⟨hm, hms⟩ := forall_mem_cons.1 hstored
    rw [flatMap_cons] at hq
    have hrest : qcache = (before ++ m.bytes) ++ ms.flatMap bytes := by
      rw [hq, append_assoc]
    have hfuel' : ms.length < fuel := Nat.lt_of_succ_lt_succ hfuel
    rw [injectLoop, if_pos (length_lt_of_message hq), readHeader_eq hq hlen, replayed]
    dsimp only
    split_ifs with hprep hdesc
    · exact ih _ _ _ hinv hms hrest hfuel'
    · exact ih _ _ _ hinv hms hrest hfuel'
    · have hpush := pushMessage_returns hq hlen hinv
      rw [flatMap_cons]
      cases hcase : pushMessage qcache ⟨m.kind, beBytes 4 (m.data.length + 4), m.data.length + 4,
          before.length + 5, (before ++ m.bytes).length⟩ backend with
      | error e =>
        rw [hcase] at hpush
        obtain ⟨rfl, he⟩ := hpush
        refine ⟨_, rfl, rfl, ?_⟩
        rw [length_append]
        push_cast
        omega
      | ok backend' =>
        rw [hcase] at hpush
        obtain ⟨rfl, hinv'⟩ := hpush
        obtain ⟨r, hr, hreturns⟩ := ih (before ++ m.bytes) fuel seen hinv' hms hrest hfuel'
        refine ⟨r, hr, hreturns.mono ?_ ?_⟩
        · rintro x rfl
          simp only [append_assoc]
        · rintro e ⟨rfl, he⟩
          refine ⟨rfl, ?_⟩
          simp only [length_append] at he ⊢
          push_cast at he ⊢
          omega

end Loops

/-! ## Both together -/

/-- The buffer is replayed as `ms`: both loops end at its end and emit the bytes of these
messages. -/
def ReplaysAs (qcache : List UInt8) (ms : List BackendMessage) : Prop :=
  sendCachedMessages qcache =
      some (.ok (qcache.length, ms.length, ms.flatMap BackendMessage.bytes)) ∧
    ∀ backend, Stream.Inv backend → ∃ r, injectCachedMessages qcache backend = some r ∧
      Returns r
        (fun x => x = ((qcache.length : Int), { backend with
          buf3 := backend.buf3 ++ ms.flatMap BackendMessage.bytes }))
        (fun e => e = .badAlloc ∧
          maxAllocSize < (backend.buf3.length + (ms.flatMap BackendMessage.bytes).length : Int))

/-- What was collected is replayed. -/
theorem Collected.replaysAs (h : Collected maxcache ms cache) (hmax : maxcache < 2 ^ 31)
    (hok : cache.isExceeded = false) : ReplaysAs cache.buffer.content (replayed false ms) := by
  obtain ⟨hcontent, hle⟩ := h.content hok
  have hlen : (cache.buffer.content.length : Int) < 2 ^ 31 := by
    rw [h.wf.length_content]
    omega
  have hstored : ∀ m ∈ ms.filter (fun m => isStored m.kind), isStored m.kind = true :=
    fun m hm => (mem_filter.1 hm).2
  have hfuel : (ms.filter fun m => isStored m.kind).length < cache.buffer.content.length + 1 := by
    rw [hcontent, storedBytes, Nat.lt_succ_iff, length_flatMap]
    refine le_trans ?_ (length_le_sum_of_one_le _ fun n hn => ?_)
    · rw [length_map]
    · obtain ⟨m, -, rfl⟩ := mem_map.1 hn
      rw [length_bytes]
      omega
  rw [← replayed_filter]
  constructor
  · have hsend := sendLoop_eq hlen _ [] _ false 0 [] hstored hcontent hfuel
    rw [Nat.zero_add, nil_append] at hsend
    exact hsend
  · intro backend hinv
    exact injectLoop_returns hlen _ [] _ false hinv hstored hcontent hfuel

/-- **What is collected is replayed by both loops alike.**  A result whose messages fit in
`memqcache_maxcache` is added to a fresh cache as a whole, and replayed as the messages that are to
come back; memory does not run out, unless the limit is near the largest allocation.  Once a message
would exceed the limit, nothing more is appended. -/
theorem replay_same {maxcache : Nat} (hmax : maxcache < 2 ^ 31) (ms : List BackendMessage) :
    ((storedBytes ms).length ≤ maxcache →
      (∃ cache, addMessages maxcache createResultCache ms = .ok cache ∧
        cache.isExceeded = false ∧ ∃ qcache, poolGetBuffer cache.buffer = .ok qcache ∧
          ReplaysAs qcache (replayed false ms)) ∨
      ∃ e, addMessages maxcache createResultCache ms = .error e ∧ OutOfMemory maxcache e) ∧
    ∀ cache m rest, addMessages maxcache createResultCache ms = .ok cache →
      isStored m.kind = true → maxcache < cache.buffer.buflen + m.bytes.length →
      addMessages maxcache cache (m :: rest) = .ok { cache with isExceeded := true } := by
  have hcollect := addMessages_returns ms (collected_create maxcache)
  rw [nil_append] at hcollect
  constructor
  · refine fun hsize => (hcollect.mono (fun cache h => ?_) fun _ h => h).ok_or_error
    have hok : cache.isExceeded = false :=
      Bool.eq_false_of_not_eq_true fun hexceeded => absurd (h.exceeded hexceeded) (by omega)
    exact ⟨hok, _, poolGetBuffer_eq h.wf, h.replaysAs hmax hok⟩
  · intro cache m rest _ hstored hlarge
    rw [length_bytes] at hlarge
    have hstep : poolAddTempQueryCache maxcache cache m =
        .ok { cache with isExceeded := true } := by
      unfold poolAddTempQueryCache
      by_cases hexceeded : cache.isExceeded = true
      · rw [if_pos hexceeded, ← hexceeded]
      · rw [if_neg hexceeded, if_neg (by simp [hstored]), if_pos (by omega)]
    rw [addMessages, foldlM_cons, hstep]
    exact addMessages_of_exceeded rfl

/-- A result of three messages that was prepared before. -/
def preparedResult : List BackendMessage :=
  [⟨49, []⟩, ⟨50, []⟩, ⟨84, [0, 1]⟩, ⟨68, [7]⟩, ⟨67, [65, 0]⟩]

/-- The parts that prepare are left out, the rest is replayed. -/
theorem replay_same_preparedResult :
    ∃ cache, addMessages 100 createResultCache preparedResult = .ok cache ∧
      cache.isExceeded = false ∧ ∃ qcache, poolGetBuffer cache.buffer = .ok qcache ∧
        ReplaysAs qcache [⟨68, [7]⟩, ⟨67, [65, 0]⟩] := by
  have hboth := replay_same (show 100 < 2 ^ 31 by norm_num) preparedResult
  refine (hboth.1 (by decide)).resolve_right ?_
  rintro ⟨e, -, -, hlarge⟩
  exact absurd hlarge (by norm_num [maxAllocSize, poolAllocateUnit])

end PgBalancer.QueryCache
