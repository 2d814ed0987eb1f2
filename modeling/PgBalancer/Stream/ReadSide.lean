import PgBalancer.Lib.Buffer

/-!
# The read side of a connection

A connection keeps data that it has read from its socket but that nobody has asked for
yet in a pending buffer, of which the bytes from `po` to `po + len` are in use.  The
functions of this file read from it and refill it, put data back in front of it
(`pool_unread`), and keep data on a side stack (`pool_push`, `pool_pop`).  What comes
from the socket comes in pieces of any size.

* `readSide_is_queue` — **the read side is a byte queue**, in every run and for every
  way in which the data comes in pieces.
-/

open CBuffer

namespace PgBalancer.Stream

open List

/-- Why a call can fail. -/
inductive StreamError where
  /-- the socket has no more data -/
  | eof
  /-- `palloc` or `repalloc` refuses the size -/
  | badAlloc
  /-- a copy would leave a buffer -/
  | overrun
  deriving DecidableEq

/-- `READBUFSZ` -/
def readBufSz : Int := 1024

/-- `MaxAllocSize` -/
def maxAllocSize : Int := 0x3fffffff

/-- What one `read(2)` returns: at least a byte. -/
structure Chunk where
  bytes : List UInt8
  ne_nil : bytes ≠ []

/-- The read side of `POOL_CONNECTION`.  A buffer is as long as its size field says. -/
structure Connection where
  /-- pending data, of size `bufsz` -/
  hp : List UInt8
  po : Int
  len : Int
  /-- buffer of `pool_read_string`, of size `sbufsz` -/
  sbuf : List UInt8
  /-- buffer of `pool_read2`, of size `bufsz2` -/
  buf2 : List UInt8
  /-- buffer of `pool_push` and `pool_pop`, of size `bufsz3` -/
  buf3 : List UInt8
  /-- the data still to come, in the pieces in which it comes -/
  socket : List Chunk

/-- `pool_open` -/
def poolOpen (socket : List Chunk) : Connection :=
  ⟨List.replicate readBufSz.toNat 0, 0, 0, [], [], [], socket⟩

/-- `palloc` and `repalloc`; the size is converted from `int` to `size_t`. -/
def repalloc (buf : List UInt8) (size : Int) : Except StreamError (List UInt8) :=
  if 0 ≤ size ∧ size ≤ maxAllocSize then .ok (resize buf size.toNat 0) else .error .badAlloc

/-- A buffer without room for `n` bytes is enlarged to `size`. -/
def ensure (buf : List UInt8) (n size : Int) : Except StreamError (List UInt8) :=
  if n > buf.length then repalloc buf size else .ok buf

/-- `memmove` into a buffer. -/
def memmove (buf : List UInt8) (off : Int) (data : List UInt8) :
    Except StreamError (List UInt8) :=
  match copyIn buf off data with
  | some buf' => .ok buf'
  | none => .error .overrun

/-- The bytes that `memmove` takes out of a buffer. -/
def memget (buf : List UInt8) (off n : Int) : Except StreamError (List UInt8) :=
  match copyOut buf off n with
  | some bytes => .ok bytes
  | none => .error .overrun

/-- All data that is still to come. -/
def Connection.incoming (cp : Connection) : List UInt8 := cp.socket.flatMap Chunk.bytes

/-- `read(2)` of at most `n` bytes. -/
def Connection.read (cp : Connection) (n : Int) : Except StreamError (Chunk × Connection) :=
  match cp.socket with
  | [] => .error .eof
  | c :: rest =>
    if hn : n ≤ 0 then .error .eof
    else if hc : c.bytes.length ≤ n.toNat then .ok (c, { cp with socket := rest })
    else
      have htake : c.bytes.take n.toNat ≠ [] := by
        rw [← length_pos_iff, length_take]
        omega
      have hdrop : c.bytes.drop n.toNat ≠ [] := by
        rw [← length_pos_iff, length_drop]
        omega
      .ok (⟨c.bytes.take n.toNat, htake⟩,
        { cp with socket := ⟨c.bytes.drop n.toNat, hdrop⟩ :: rest })

/-- A size rounded up to more than `n`, in units of `READBUFSZ`. -/
def roundUp (n : Int) : Int := int32 ((n.tdiv readBufSz + 1) * readBufSz)

/-- `save_pending_data` -/
def savePendingData (cp : Connection) (data : List UInt8) : Except StreamError Connection := do
  let po := if cp.len = 0 then 0 else cp.po
  let reqlen := int32 (po + cp.len + data.length)
  let hp ← ensure cp.hp reqlen (roundUp reqlen)
  let hp ← memmove hp (po + cp.len) data
  return { cp with hp := hp, po := po, len := cp.len + data.length }

/-- `consume_pending_data`: the consumed bytes. -/
def consumePendingData (cp : Connection) (len : Int) :
    Except StreamError (List UInt8 × Connection) := do
  if cp.len ≤ 0 then return ([], cp)
  let consumeSize := min len cp.len
  let bytes ← memget cp.hp cp.po consumeSize
  let len' := cp.len - consumeSize
  let po' := if len' ≤ 0 then 0 else cp.po + consumeSize
  return (bytes, { cp with po := po', len := len' })

variable {cp cp' : Connection} {n demand' : Int} {c : Chunk}

/-- What is read is what comes next, and nothing but the socket changes. -/
theorem read_eq_ok (h : cp.read n = .ok (c, cp')) : cp.incoming = c.bytes ++ cp'.incoming ∧
      ∃ rest, cp' = { cp with socket := rest } ∧ c.bytes.length ≤ n := by
  unfold Connection.read at h
  split at h
  · cases h
  · rename_i c' rest hsocket
    split at h
    · cases h
    · split at h
      · cases h
        exact ⟨by simp [Connection.incoming, hsocket], rest, rfl, by omega⟩
      · cases h
        refine ⟨by simp [Connection.incoming, hsocket, ← append_assoc], _, rfl, ?_⟩
        rw [length_take]
        omega

theorem length_incoming_lt (h : cp.read n = .ok (c, cp')) :
    cp'.incoming.length < cp.incoming.length := by
  have hpos := length_pos_iff.2 c.ne_nil
  rw [(read_eq_ok h).1, length_append]
  omega

/-- The loop of `pool_read`, with the bytes read so far. -/
def poolReadLoop (cp : Connection) (buf : List UInt8) (len : Int) :
    Except StreamError (List UInt8 × Connection) :=
  if len ≤ 0 then .ok (buf, cp)
  else
    match _hread : cp.read readBufSz with
    | .error e => .error e
    | .ok (readbuf, cp') =>
      if len < readbuf.bytes.length then do
        -- overrun: the rest becomes pending data
        let cp' ← savePendingData cp' (readbuf.bytes.drop len.toNat)
        return (buf ++ readbuf.bytes.take len.toNat, cp')
      else poolReadLoop cp' (buf ++ readbuf.bytes) (len - readbuf.bytes.length)
  termination_by cp.incoming.length
  decreasing_by
    have hlt := length_incoming_lt _hread
    exact hlt

/-- `pool_read` into a buffer of the caller, which has room for `len` bytes. -/
def poolRead (cp : Connection) (len : Int) : Except StreamError (List UInt8 × Connection) := do
  let (buf, cp) ← consumePendingData cp len
  poolReadLoop cp buf (len - buf.length)

/-- The loop of `pool_read2`, which reads into `buf2` at `pos`. -/
def poolRead2Loop (cp : Connection) (pos len : Int) : Except StreamError Connection :=
  if len ≤ 0 then .ok cp
  else
    match _hread : cp.read len with
    | .error e => .error e
    | .ok (readbuf, cp') => do
      let buf2 ← memmove cp'.buf2 pos readbuf.bytes
      poolRead2Loop { cp' with buf2 := buf2 } (pos + readbuf.bytes.length)
        (len - readbuf.bytes.length)
  termination_by cp.incoming.length
  decreasing_by
    have hlt := length_incoming_lt _hread
    exact hlt

/-- `pool_read2`: the first `len` bytes of the buffer it returns. -/
def poolRead2 (cp : Connection) (len : Int) : Except StreamError (List UInt8 × Connection) := do
  let reqSize := int32 (cp.len + len)
  let buf2 ← ensure cp.buf2 reqSize (roundUp (int32 (reqSize + 1)))
  let (bytes, cp) ← consumePendingData cp len
  let buf2 ← memmove buf2 0 bytes
  let cp ← poolRead2Loop { cp with buf2 := buf2 } bytes.length (len - bytes.length)
  let bytes ← memget cp.buf2 0 len
  return (bytes, cp)

/-- The length of the bytes up to and including the first one that stops, and whether
there is one. -/
def strlenUpTo (stop : UInt8 → Bool) : List UInt8 → Nat × Bool
  | [] => (0, false)
  | b :: bs =>
    if stop b then (1, true)
    else ((strlenUpTo stop bs).1 + 1, (strlenUpTo stop bs).2)

/-- `mystrlen` -/
def mystrlen (str : List UInt8) : Nat × Bool := strlenUpTo (fun b => b == 0) str

/-- `mystrlinelen` -/
def mystrlinelen (str : List UInt8) : Nat × Bool := strlenUpTo (fun b => b == 0 || b == 10) str

/-- The string length that `pool_read_string` uses. -/
def stringLen (line : Bool) (str : List UInt8) : Nat × Bool :=
  if line then mystrlinelen str else mystrlen str

/-- The loop of `pool_read_string`, which reads into `sbuf` at `readp`; the result is
the length of the string. -/
def poolReadStringLoop (line : Bool) (cp : Connection) (readp readsize len : Int) :
    Except StreamError (Int × Connection) :=
  match _hread : cp.read readsize with
  | .error e => .error e
  | .ok (chunk, cp') => do
    let sbuf ← memmove cp'.sbuf readp chunk.bytes
    let cp' := { cp' with sbuf := sbuf }
    let (strlength, flag) := stringLen line chunk.bytes
    if strlength < chunk.bytes.length then
      let cp' ← savePendingData cp' (chunk.bytes.drop strlength)
      return (len + strlength, cp')
    else
      let len := len + chunk.bytes.length
      if flag then return (len, cp')
      else
        let readp := readp + chunk.bytes.length
        let sbuf ← ensure cp'.sbuf (len + readBufSz) (int32 (cp'.sbuf.length + readBufSz))
        poolReadStringLoop line { cp' with sbuf := sbuf } readp readBufSz len
  termination_by cp.incoming.length
  decreasing_by
    have hlt := length_incoming_lt _hread
    exact hlt

/-- The string buffer is allocated with its first use. -/
def initSbuf (sbuf : List UInt8) : Except StreamError (List UInt8) :=
  if sbuf.length = 0 then repalloc [] readBufSz else .ok sbuf

/-- `pool_read_string`: the first `*len` bytes of the buffer it returns. -/
def poolReadString (cp : Connection) (line : Bool) :
    Except StreamError (List UInt8 × Connection) := do
  let sbuf ← initSbuf cp.sbuf
  let cp := { cp with sbuf := sbuf }
  if cp.len ≠ 0 then
    let pending ← memget cp.hp cp.po cp.len
    let (strlength, flag) := stringLen line pending
    let sbuf ← ensure cp.sbuf (strlength + 1) (roundUp (strlength + 1))
    let (bytes, cp) ← consumePendingData cp strlength
    let sbuf ← memmove sbuf 0 bytes
    let cp := { cp with sbuf := sbuf }
    if bytes.length = strlength ∧ flag = false then
      let (len, cp) ← poolReadStringLoop line cp strlength (cp.sbuf.length - strlength) strlength
      let bytes ← memget cp.sbuf 0 len
      return (bytes, cp)
    else
      let bytes ← memget cp.sbuf 0 strlength
      return (bytes, cp)
  else
    let (len, cp) ← poolReadStringLoop line cp 0 cp.sbuf.length 0
    let bytes ← memget cp.sbuf 0 len
    return (bytes, cp)

/-- The pending data moves to `off`, if there is any. -/
def shiftPending (hp : List UInt8) (po len off : Int) : Except StreamError (List UInt8) :=
  if len ≠ 0 then do
    let bytes ← memget hp po len
    memmove hp off bytes
  else .ok hp

/-- `pool_unread` -/
def poolUnread (cp : Connection) (data : List UInt8) : Except StreamError Connection := do
  let n := int32 (cp.len + data.length)
  if cp.po ≥ data.length then
    -- there is room in front of the pending data
    let hp ← memmove cp.hp (cp.po - data.length) data
    return { cp with hp := hp, po := cp.po - data.length, len := n }
  else
    let hp ← ensure cp.hp n (roundUp n)
    let hp ← shiftPending hp cp.po cp.len data.length
    let hp ← memmove hp 0 data
    return { cp with hp := hp, po := 0, len := n }

/-- Room for `n` more bytes on the stack. -/
def growStack (buf3 : List UInt8) (n : Int) : Except StreamError (List UInt8) :=
  if buf3.length = 0 then repalloc [] n else repalloc buf3 (int32 (buf3.length + n))

/-- `pool_push` -/
def poolPush (cp : Connection) (data : List UInt8) : Except StreamError Connection := do
  let buf3 ← growStack cp.buf3 data.length
  let buf3 ← memmove buf3 cp.buf3.length data
  return { cp with buf3 := buf3 }

/-- `pool_pop`: the length of what is popped. -/
def poolPop (cp : Connection) : Except StreamError (Nat × Connection) := do
  if cp.buf3.length = 0 then return (0, cp)
  let cp' ← poolUnread cp cp.buf3
  return (cp.buf3.length, { cp' with buf3 := [] })

/-! ## The queue -/

/-- What a connection is for: bytes to be read, and bytes on the stack. -/
structure ByteQueue where
  input : List UInt8
  stack : List UInt8

/-- The calls, with the lengths and data of the caller. -/
inductive StreamCall where
  | read (len : Nat)
  | read2 (len : Nat)
  | readString (line : Bool)
  | unread (data : List UInt8)
  | push (data : List UInt8)
  | pop

/-- What a call gives back to its caller. -/
inductive Output where
  | bytes (bytes : List UInt8)
  | popped (len : Nat)
  | done
  deriving DecidableEq

/-- The byte that ends a string, or also a line. -/
def stops (line : Bool) (b : UInt8) : Bool := b == 0 || (line && b == 10)

namespace ByteQueue

/-- The next `n` bytes. -/
def take (q : ByteQueue) (n : Nat) : Option (Output × ByteQueue) :=
  if n ≤ q.input.length then some (.bytes (q.input.take n), { q with input := q.input.drop n })
  else none

/-- What a call does to the queue; `none` if it asks for more than there is. -/
def call (q : ByteQueue) : StreamCall → Option (Output × ByteQueue)
  | .read len | .read2 len => q.take len
  | .readString line =>
    if q.input.any (stops line) then q.take (q.input.findIdx (stops line) + 1) else none
  | .unread data => some (.done, { q with input := data ++ q.input })
  | .push data => some (.done, { q with stack := q.stack ++ data })
  | .pop => some (.popped q.stack.length, ⟨q.stack ++ q.input, []⟩)

end ByteQueue

/-- A call on a connection. -/
def Connection.call (cp : Connection) : StreamCall → Except StreamError (Output × Connection)
  | .read len => do
    let (bytes, cp) ← poolRead cp len
    return (.bytes bytes, cp)
  | .read2 len => do
    let (bytes, cp) ← poolRead2 cp len
    return (.bytes bytes, cp)
  | .readString line => do
    let (bytes, cp) ← poolReadString cp line
    return (.bytes bytes, cp)
  | .unread data => do
    let cp ← poolUnread cp data
    return (.done, cp)
  | .push data => do
    let cp ← poolPush cp data
    return (.done, cp)
  | .pop => do
    let (len, cp) ← poolPop cp
    return (.popped len, cp)

/-- The pending data. -/
def Connection.pending (cp : Connection) : List UInt8 := window cp.hp cp.po.toNat cp.len.toNat

/-- The queue of a connection: its pending data and the data to come. -/
def Connection.queue (cp : Connection) : ByteQueue := ⟨cp.pending ++ cp.incoming, cp.buf3⟩

/-- The invariant of a connection: the part of the pending buffer that is in use lies
within it, starts at its front if it is empty, and no buffer is larger than what can be
allocated. -/
structure Inv (cp : Connection) : Prop where
  po_nonneg : 0 ≤ cp.po
  len_nonneg : 0 ≤ cp.len
  fits : cp.po + cp.len ≤ cp.hp.length
  po_of_empty : cp.len = 0 → cp.po = 0
  hp_le : cp.hp.length ≤ maxAllocSize
  sbuf_le : cp.sbuf.length ≤ maxAllocSize
  buf2_le : cp.buf2.length ≤ maxAllocSize
  buf3_le : cp.buf3.length ≤ maxAllocSize

/-- A failed call: for lack of data, if the queue has not enough either, or for lack of
memory, if the sizes add up to more than can be allocated.  No copy leaves a buffer. -/
def Refused (expected : Option β) (demand : Int) : StreamError → Prop
  | .eof => expected = none
  | .badAlloc => maxAllocSize < demand + 2048
  | .overrun => False

theorem Refused.mono {expected : Option β} {expected' : Option γ} {demand : Int} {e : StreamError}
    (h : Refused expected demand e) (hnone : expected = none → expected' = none)
    (hle : demand ≤ demand') : Refused expected' demand' e := by
  cases e with
  | eof => exact hnone h
  | badAlloc => exact lt_of_lt_of_le h (Int.add_le_add_right hle 2048)
  | overrun => exact h

/-- The call does to the connection what `expected` says about its queue. -/
def Serves (r : Except StreamError (Output × Connection)) (expected : Option (Output × ByteQueue))
    (demand : Int) : Prop :=
  Returns r (fun x => Inv x.2 ∧ expected = some (x.1, x.2.queue)) (Refused expected demand)

/-! ## The pieces -/

section Pieces

variable {cp cp' cp'' : Connection} {buf front data hp buf2 buf3 sbuf a b : List UInt8}
  {n off len po : Int} {c : Chunk} {e : StreamError}

theorem length_pending (h : Inv cp) : cp.pending.length = cp.len.toNat := by
  have := h.fits
  have := h.po_nonneg
  have := h.len_nonneg
  exact length_window (by omega)

theorem repalloc_returns (size : Int) : Returns (repalloc buf size)
      (fun buf' => 0 ≤ size ∧ size ≤ maxAllocSize ∧ buf' = resize buf size.toNat 0)
      (fun e => e = .badAlloc ∧ ¬ (0 ≤ size ∧ size ≤ maxAllocSize)) := by
  unfold repalloc
  split
  case isTrue h => exact ⟨h.1, h.2, rfl⟩
  case isFalse h => exact ⟨rfl, h⟩

theorem memmove_eq (buf : List UInt8) (off : Int) (data : List UInt8) (hoff : 0 ≤ off)
    (hfit : off + data.length ≤ buf.length) :
    ∃ buf', copyIn buf off data = some buf' ∧ memmove buf off data = .ok buf' := by
  have h : copyIn buf off data = some _ := if_pos ⟨hoff, hfit⟩
  exact ⟨_, h, by rw [memmove, h]⟩

theorem memmove_front (hfront : front <+: buf) (data : List UInt8)
    (hfit : front.length + data.length ≤ buf.length) :
    ∃ buf', memmove buf front.length data = .ok buf' ∧ front ++ data <+: buf' ∧
      buf'.length = buf.length := by
  obtain ⟨buf', hcopy, hmove⟩ := memmove_eq buf front.length data (by omega) (by omega)
  exact ⟨buf', hmove, front_copyIn hfront hcopy, length_copyIn hcopy⟩

theorem memget_front (hfront : front <+: buf) : memget buf 0 front.length = .ok front := by
  rw [memget, copyOut_front hfront]

theorem memget_eq (hoff : 0 ≤ off) (hn : 0 ≤ n) (hfit : off + n ≤ buf.length) :
    memget buf off n = .ok (window buf off.toNat n.toNat) := by
  have h : copyOut buf off n = some _ := if_pos ⟨hoff, hn, hfit⟩
  rw [memget, h]

theorem lt_roundUp (hn : 0 ≤ n) (hn' : n < 2 ^ 31) (hpos : 0 ≤ roundUp n) :
    n < roundUp n ∧ roundUp n ≤ n + readBufSz := by
  rw [roundUp, readBufSz, Int.tdiv_eq_ediv_of_nonneg hn] at *
  by_cases hfit : (n / 1024 + 1) * 1024 < 2 ^ 31
  · rw [int32_eq_self (by omega) hfit]
    omega
  · have htop : (n / 1024 + 1) * 1024 = 2 ^ 31 := by omega
    rw [htop] at hpos
    exact absurd hpos (by decide)

theorem roundUp_nonneg (hn : 0 ≤ n) (hn' : n < 2 ^ 31 - readBufSz) : 0 ≤ roundUp n := by
  rw [roundUp, readBufSz, Int.tdiv_eq_ediv_of_nonneg hn] at *
  rw [int32_eq_self (by omega) (by omega)]
  omega

/-- A size that suffices: the buffer has room for `n` bytes afterwards and keeps what
it holds. -/
theorem ensure_returns (buf : List UInt8) (n size : Int) (hbuf : buf.length ≤ maxAllocSize)
    (hsize : 0 ≤ size → size ≤ maxAllocSize → n ≤ size) : Returns (ensure buf n size)
      (fun buf' => n ≤ buf'.length ∧ buf'.length ≤ maxAllocSize ∧ buf <+: buf')
      (fun e => e = .badAlloc ∧ buf.length < n ∧ ¬ (0 ≤ size ∧ size ≤ maxAllocSize)) := by
  unfold ensure
  split
  case isFalse h => exact ⟨by omega, hbuf, prefix_refl buf⟩
  case isTrue h =>
    refine (repalloc_returns size).mono ?_ ?_
    · rintro buf' ⟨hpos, hmax, rfl⟩
      have hn := hsize hpos hmax
      rw [length_resize]
      exact ⟨by omega, by omega, front_resize (by omega) 0⟩
    · rintro e ⟨rfl, hbad⟩
      exact ⟨rfl, h, hbad⟩

theorem ensure_roundUp_returns (hbuf : buf.length ≤ maxAllocSize) (hn : 0 ≤ n) (hn' : n < 2 ^ 31) :
    Returns (ensure buf n (roundUp n))
      (fun buf' => n ≤ buf'.length ∧ buf'.length ≤ maxAllocSize ∧ buf <+: buf')
      (fun e => e = .badAlloc ∧ maxAllocSize < n + readBufSz) := by
  refine (ensure_returns buf _ _ hbuf fun hpos _ => (lt_roundUp hn hn' hpos).1.le).mono
    (fun _ h => h) ?_
  rintro e ⟨rfl, -, hbad⟩
  refine ⟨rfl, ?_⟩
  by_contra hle
  have hsmall : n < 2 ^ 31 - readBufSz := by
    rw [maxAllocSize, readBufSz] at *
    omega
  have hpos := roundUp_nonneg hn hsmall
  have := (lt_roundUp hn hn' hpos).2
  exact hbad ⟨hpos, by omega⟩

theorem Inv.setPending (h : Inv cp) (hpo : 0 ≤ po) (hlen : 0 ≤ len) (hfits : po + len ≤ hp.length)
    (hempty : len = 0 → po = 0) (hhp : hp.length ≤ maxAllocSize) :
    Inv { cp with hp := hp, po := po, len := len } :=
  ⟨hpo, hlen, hfits, hempty, hhp, h.sbuf_le, h.buf2_le, h.buf3_le⟩

theorem Inv.setBuffers (h : Inv cp) (hsbuf : sbuf.length ≤ maxAllocSize)
    (hbuf2 : buf2.length ≤ maxAllocSize) (hbuf3 : buf3.length ≤ maxAllocSize)
    (socket : List Chunk) :
    Inv ⟨cp.hp, cp.po, cp.len, sbuf, buf2, buf3, socket⟩ :=
  ⟨h.po_nonneg, h.len_nonneg, h.fits, h.po_of_empty, h.hp_le, hsbuf, hbuf2, hbuf3⟩

/-- `cp'` is left of `cp` when `bytes` have been taken from the front of its queue. -/
structure Takes (cp : Connection) (bytes : List UInt8) (cp' : Connection) : Prop where
  inv : Inv cp'
  queue : cp.queue = ⟨bytes ++ cp'.queue.input, cp'.queue.stack⟩

theorem Takes.refl (h : Inv cp) : Takes cp [] cp := ⟨h, rfl⟩

theorem Takes.setBuf2 (h : Takes cp data cp') (buf2 : List UInt8)
    (hbuf2 : buf2.length ≤ maxAllocSize) : Takes cp data { cp' with buf2 := buf2 } :=
  ⟨h.inv.setBuffers h.inv.sbuf_le hbuf2 h.inv.buf3_le _, h.queue⟩

theorem Takes.setSbuf (h : Takes cp data cp') (sbuf : List UInt8)
    (hsbuf : sbuf.length ≤ maxAllocSize) : Takes cp data { cp' with sbuf := sbuf } :=
  ⟨h.inv.setBuffers hsbuf h.inv.buf2_le h.inv.buf3_le _, h.queue⟩

theorem Takes.trans (h : Takes cp a cp') (h' : Takes cp' b cp'') : Takes cp (a ++ b) cp'' := by
  refine ⟨h'.inv, ?_⟩
  rw [h.queue, h'.queue, append_assoc]

theorem Takes.cut (h : Takes cp (a ++ b) cp') (h' : Takes cp'' b cp') (hinv : Inv cp'') :
    Takes cp a cp'' := by
  refine ⟨hinv, ?_⟩
  rw [h.queue, h'.queue, append_assoc]

theorem Takes.length (h : Takes cp data cp') :
    cp.queue.input.length = data.length + cp'.queue.input.length := by
  rw [h.queue, length_append]

theorem pending_eq_nil (hempty : cp.len = 0) : cp.pending = [] := by
  rw [Connection.pending, hempty, Int.toNat_zero, window_zero]

theorem queue_of_empty (hempty : cp.len = 0) : cp.queue = ⟨cp.incoming, cp.buf3⟩ := by
  rw [Connection.queue, pending_eq_nil hempty, nil_append]

theorem takes_of_pending (hinv : Inv { cp with hp := hp, po := po, len := len })
    (h : cp.pending = data ++ Connection.pending { cp with hp := hp, po := po, len := len }) :
    Takes cp data { cp with hp := hp, po := po, len := len } := by
  refine ⟨hinv, ?_⟩
  rw [Connection.queue, h, append_assoc]
  rfl

/-- Pending data is taken from its front. -/
theorem consumePendingData_takes (h : Inv cp) (len : Nat) : ∃ po' len', consumePendingData cp len =
        .ok (cp.pending.take len, { cp with po := po', len := len' }) ∧
      Takes cp (cp.pending.take len) { cp with po := po', len := len' } ∧
      (cp.pending.length ≤ len → len' = 0) := by
  have hpo := h.po_nonneg
  have hfits := h.fits
  have hlength := length_pending h
  unfold consumePendingData
  split
  case isTrue hle =>
    have hempty : cp.len = 0 := le_antisymm hle h.len_nonneg
    refine ⟨cp.po, cp.len, ?_, ?_, fun _ => hempty⟩ <;> rw [pending_eq_nil hempty, take_nil]
    · rfl
    · exact Takes.refl h
  case isFalse hpos =>
    have htake : window cp.hp cp.po.toNat (min (len : Int) cp.len).toNat = cp.pending.take len := by
      rw [Connection.pending, window, window, take_take]
      congr 1
      omega
    dsimp only
    rw [memget_eq hpo (by omega) (by omega), htake]
    refine ⟨_, _, rfl, takes_of_pending (h.setPending ?_ (by omega) ?_ ?_ h.hp_le) ?_, by omega⟩
    · split <;> omega
    · split <;> omega
    · intro hzero
      exact if_pos hzero.le
    · nth_rewrite 1 [← take_append_drop len cp.pending]
      congr 1
      simp only [Connection.pending, window]
      rw [drop_take, drop_drop]
      split
      case isTrue hzero =>
        have hall : cp.len.toNat - len = 0 := by omega
        rw [show (cp.len - min (len : Int) cp.len).toNat = 0 by omega, hall]
        simp
      case isFalse =>
        congr 1
        · omega
        · congr 1
          omega

theorem savePendingData_returns (h : Inv cp) (hempty : cp.len = 0)
    (hdata : data.length ≤ maxAllocSize) : Returns (savePendingData cp data)
      (fun cp' => Inv cp' ∧ Takes cp' data cp ∧ cp'.sbuf = cp.sbuf)
      (fun e => e = .badAlloc ∧ maxAllocSize < data.length + readBufSz) := by
  unfold savePendingData
  simp only [hempty, if_true, Int.add_zero, Int.zero_add]
  have hsmall : (data.length : Int) < 2 ^ 31 := by
    rw [maxAllocSize] at hdata
    omega
  rw [int32_eq_self (by omega) hsmall]
  refine (ensure_roundUp_returns h.hp_le (by omega) hsmall).bind ?_
  rintro hp ⟨hsize, hmax, -⟩
  obtain ⟨hp', hcopy, hmove⟩ := memmove_eq hp 0 data le_rfl (by omega)
  have hlength := length_copyIn hcopy
  rw [hmove]
  refine ⟨h.setPending le_rfl (by omega) (by omega) (fun _ => rfl) (by omega), ⟨h, ?_⟩, rfl⟩
  rw [queue_of_empty hempty, Connection.queue]
  exact congrArg (fun pending => ByteQueue.mk (pending ++ cp.incoming) cp.buf3)
    (window_copyIn_self (a := 0) hcopy)

theorem read_takes (h : Inv cp) (hempty : cp.len = 0) (hread : cp.read n = .ok (c, cp')) :
    ∃ rest, cp' = { cp with socket := rest } ∧ c.bytes.length ≤ n ∧ Takes cp c.bytes cp' := by
  obtain ⟨hincoming, rest, rfl, hc⟩ := read_eq_ok hread
  refine ⟨rest, rfl, hc, h.setBuffers h.sbuf_le h.buf2_le h.buf3_le rest, ?_⟩
  rw [queue_of_empty hempty, hincoming, Connection.queue]
  rw [show Connection.pending { cp with socket := rest } = [] from pending_eq_nil hempty]
  rfl

theorem read_error (hempty : cp.len = 0) (hn : 0 < n) (h : cp.read n = .error e) :
    e = .eof ∧ cp.queue.input = [] := by
  rw [queue_of_empty hempty]
  unfold Connection.read at h
  split at h
  case h_1 hsocket =>
    cases h
    exact ⟨rfl, by simp [Connection.incoming, hsocket]⟩
  case h_2 =>
    rw [dif_neg (by omega)] at h
    split at h <;> cases h

theorem savePendingData_cut (h : Takes cp data cp') (hempty : cp'.len = 0) (k : Nat)
    (hdata : data.length ≤ maxAllocSize) : Returns (savePendingData cp' (data.drop k))
      (fun cp'' => Takes cp (data.take k) cp'' ∧ cp''.sbuf = cp'.sbuf)
      (fun e => e = .badAlloc ∧ maxAllocSize < data.length + readBufSz) := by
  have hdrop : (data.drop k).length = data.length - k := length_drop
  refine (savePendingData_returns h.inv hempty (by omega)).mono ?_ ?_
  · rintro cp'' ⟨hinv, hback, hsbuf⟩
    rw [← take_append_drop k data] at h
    exact ⟨h.cut hback hinv, hsbuf⟩
  · rintro e ⟨rfl, hmax⟩
    exact ⟨rfl, by omega⟩

end Pieces

/-! ## `pool_read` -/

section Read

variable {cp : Connection} {r : Except StreamError (List UInt8 × Connection)} {n : Nat}

/-- The loop of `pool_read`, by induction on the pieces. -/
theorem poolReadLoop_returns (h : Inv cp) (buf : List UInt8) (len : Int) (hlen : 0 ≤ len)
    (hempty : 0 < len → cp.len = 0) : Returns (poolReadLoop cp buf len)
      (fun x => ∃ bytes, x.1 = buf ++ bytes ∧ bytes.length = len ∧ Takes cp bytes x.2)
      (fun e => e = .eof ∧ cp.queue.input.length < len) := by
  induction hk : cp.incoming.length using Nat.strong_induction_on generalizing cp buf len with
  | _ k ih =>
    rw [poolReadLoop]
    split
    case isTrue hle => exact ⟨[], by simp, le_antisymm hlen hle, Takes.refl h⟩
    case isFalse hpos =>
      have hempty := hempty (by omega)
      split
      case h_1 e hread =>
        obtain ⟨rfl, hnil⟩ := read_error hempty (by decide) hread
        exact ⟨rfl, by rw [hnil, length_nil]; omega⟩
      case h_2 c cp' hread =>
        obtain ⟨rest, rfl, hc, htakes⟩ := read_takes h hempty hread
        split
        case isTrue hover =>
          -- the chunk holds more than was asked for
          rw [readBufSz] at hc
          refine ((savePendingData_cut htakes hempty len.toNat
            (by rw [maxAllocSize]; omega)).mono (fun _ h => h) ?_).bind ?_
          · rintro e ⟨rfl, hmax⟩
            rw [maxAllocSize, readBufSz] at hmax
            omega
          · rintro cp' ⟨htakes', -⟩
            exact ⟨_, rfl, by rw [length_take]; omega, htakes'⟩
        case isFalse hmore =>
          have hlt := length_incoming_lt hread
          have hlength := htakes.length
          refine (ih _ (hk ▸ hlt) htakes.inv (buf ++ c.bytes) (len - c.bytes.length) (by omega)
            (fun _ => hempty) rfl).mono ?_ ?_
          · rintro ⟨out, cp'⟩ ⟨bytes, rfl, hbytes, htakes'⟩
            refine ⟨c.bytes ++ bytes, append_assoc .., ?_, htakes.trans htakes'⟩
            rw [length_append]
            omega
          · rintro e ⟨rfl, hshort⟩
            exact ⟨rfl, by omega⟩

theorem serves_take {demand : Int}
    (h : Returns r (fun x => x.1.length = n ∧ Takes cp x.1 x.2)
      (fun e => (e = .eof ∧ cp.queue.input.length < n) ∨
        (e = .badAlloc ∧ maxAllocSize < demand + 2048))) :
    Serves (do let (bytes, cp) ← r; return (.bytes bytes, cp)) (cp.queue.take n) demand := by
  refine (h.mono (fun _ h => h) ?_).bind ?_
  · rintro e (⟨rfl, hshort⟩ | ⟨rfl, hmax⟩)
    · exact if_neg (by omega)
    · exact hmax
  · rintro ⟨bytes, cp'⟩ ⟨rfl, htakes⟩
    refine ⟨htakes.inv, ?_⟩
    rw [ByteQueue.take, if_pos (by have := htakes.length; omega), htakes.queue, take_left,
      drop_left]

theorem poolRead_returns (h : Inv cp) (len : Nat) :
    Returns (poolRead cp len) (fun x => x.1.length = len ∧ Takes cp x.1 x.2)
      (fun e => e = .eof ∧ cp.queue.input.length < len) := by
  obtain ⟨po', len', hconsume, htakes, hused⟩ := consumePendingData_takes h len
  have htake : (cp.pending.take len).length = min len cp.pending.length := length_take
  have hlength := htakes.length
  rw [poolRead, hconsume]
  refine (poolReadLoop_returns htakes.inv _ _ (by omega) fun hpos => hused (by omega)).mono ?_ ?_
  · rintro ⟨out, cp'⟩ ⟨bytes, rfl, hbytes, htakes'⟩
    refine ⟨?_, htakes.trans htakes'⟩
    rw [length_append]
    omega
  · rintro e ⟨rfl, hshort⟩
    exact ⟨rfl, by omega⟩

end Read

/-! ## `pool_read2` -/

section Read2

variable {cp : Connection} {len : Nat}

/-- The loop of `pool_read2`, by induction on the pieces. -/
theorem poolRead2Loop_returns (h : Inv cp) (front : List UInt8) (len : Int) (hlen : 0 ≤ len)
    (hfront : front <+: cp.buf2) (hroom : front.length + len ≤ cp.buf2.length)
    (hempty : 0 < len → cp.len = 0) : Returns (poolRead2Loop cp front.length len)
      (fun cp' => ∃ bytes, front ++ bytes <+: cp'.buf2 ∧ bytes.length = len ∧ Takes cp bytes cp')
      (fun e => e = .eof ∧ cp.queue.input.length < len) := by
  induction hk : cp.incoming.length using Nat.strong_induction_on generalizing cp front len with
  | _ k ih =>
    rw [poolRead2Loop]
    split
    case isTrue hle =>
      exact ⟨[], by rwa [append_nil], le_antisymm hlen hle, Takes.refl h⟩
    case isFalse hpos =>
      have hempty := hempty (by omega)
      split
      case h_1 e hread =>
        obtain ⟨rfl, hnil⟩ := read_error hempty (by omega) hread
        exact ⟨rfl, by rw [hnil, length_nil]; omega⟩
      case h_2 c cp' hread =>
        obtain ⟨rest, rfl, hc, htakes⟩ := read_takes h hempty hread
        obtain ⟨buf2, hmove, hfront', hbuf2⟩ := memmove_front hfront c.bytes (by omega)
        have hlt := length_incoming_lt hread
        have htakes := htakes.setBuf2 buf2 (by have := h.buf2_le; omega)
        have hlength := htakes.length
        have happend : (front ++ c.bytes).length = front.length + c.bytes.length :=
          length_append
        rw [hmove]
        have hnext := ih _ (hk ▸ hlt) htakes.inv (front ++ c.bytes) (len - c.bytes.length)
          (by omega) hfront' (by rw [happend]; dsimp only; omega) (fun _ => hempty) rfl
        rw [happend, Nat.cast_add] at hnext
        refine hnext.mono ?_ ?_
        · rintro cp' ⟨bytes, hbytes, hlen', htakes'⟩
          refine ⟨c.bytes ++ bytes, by rwa [← append_assoc], ?_, htakes.trans htakes'⟩
          rw [length_append]
          omega
        · rintro e ⟨rfl, hshort⟩
          exact ⟨rfl, by omega⟩

/-- What the calls need room for: everything that is there, and what is asked for. -/
def Connection.demand (cp : Connection) (size : Nat) : Int :=
  cp.queue.input.length + cp.queue.stack.length + size

theorem len_le_demand (h : Inv cp) (size : Nat) : cp.len + size ≤ cp.demand size := by
  have hlen := length_pending h
  have hnonneg := h.len_nonneg
  have hinput : cp.queue.input.length = cp.pending.length + cp.incoming.length :=
    length_append
  rw [Connection.demand]
  omega

/-- The buffer of `pool_read2` has room for the pending data and for `len` bytes. -/
theorem ensure_buf2_returns (h : Inv cp) (hfit : cp.len + len < 2 ^ 31) :
    Returns (ensure cp.buf2 (int32 (cp.len + len)) (roundUp (int32 (int32 (cp.len + len) + 1))))
      (fun buf2 => len ≤ buf2.length ∧ buf2.length ≤ maxAllocSize)
      (fun e => e = .badAlloc ∧ maxAllocSize < cp.demand len + 2048) := by
  have hnonneg := h.len_nonneg
  rw [int32_eq_self (by omega) hfit]
  have hsize : ∀ size, size = roundUp (int32 (cp.len + len + 1)) → 0 ≤ size →
      cp.len + len + 1 < size ∧ size ≤ cp.len + len + 1 + readBufSz := by
    rintro size rfl hpos
    by_cases hlast : cp.len + len + 1 < 2 ^ 31
    · rw [int32_eq_self (by omega) hlast] at hpos ⊢
      exact lt_roundUp (by omega) hlast hpos
    · rw [show cp.len + len + 1 = 2 ^ 31 by omega] at hpos
      exact absurd hpos (by decide)
  refine (ensure_returns _ _ _ h.buf2_le fun hpos _ => ?_).mono ?_ ?_
  · have := (hsize _ rfl hpos).1
    omega
  · rintro buf2 ⟨hle, hmax, -⟩
    exact ⟨by omega, hmax⟩
  · rintro e ⟨rfl, -, hbad⟩
    refine ⟨rfl, ?_⟩
    by_contra hsmall
    have hdemand := len_le_demand h len
    have hlt : cp.len + len + 1 < 2 ^ 31 - readBufSz := by
      rw [maxAllocSize, readBufSz] at *
      omega
    have hint : int32 (cp.len + len + 1) = cp.len + len + 1 :=
      int32_eq_self (by omega) (by rw [readBufSz] at hlt; omega)
    have hpos : 0 ≤ roundUp (int32 (cp.len + len + 1)) := by
      rw [hint]
      exact roundUp_nonneg (by omega) hlt
    have := (hsize _ rfl hpos).2
    rw [readBufSz] at this
    exact hbad ⟨hpos, by omega⟩

/-- `pool_read2` takes as many bytes as it is asked for. -/
theorem poolRead2_returns (h : Inv cp) (hfit : cp.len + len < 2 ^ 31) :
    Returns (poolRead2 cp len) (fun x => x.1.length = len ∧ Takes cp x.1 x.2)
      (fun e => (e = .eof ∧ cp.queue.input.length < len) ∨
        (e = .badAlloc ∧ maxAllocSize < cp.demand len + 2048)) := by
  refine ((ensure_buf2_returns h hfit).mono (fun _ h => h) fun e he => .inr he).bind ?_
  rintro buf2 ⟨hroom, hmax⟩
  obtain ⟨po', len', hconsume, htakes, hused⟩ := consumePendingData_takes h len
  have htake : (cp.pending.take len).length = min len cp.pending.length := length_take
  have hnil : [] <+: buf2 := nil_prefix
  obtain ⟨buf2', hmove, hfront, hbuf2⟩ :=
    memmove_front hnil (cp.pending.take len) (by rw [length_nil]; omega)
  have htakes := htakes.setBuf2 buf2' (by omega)
  have hlength := htakes.length
  rw [hconsume]
  show Returns (memmove buf2 ([] : List UInt8).length (cp.pending.take len) >>= _) _ _
  rw [hmove]
  refine ((poolRead2Loop_returns htakes.inv (cp.pending.take len)
    (len - (cp.pending.take len).length) (by omega) hfront (by dsimp only; omega)
    fun hpos => hused (by omega)).mono (fun _ h => h) ?_).bind ?_
  · rintro e ⟨rfl, hshort⟩
    exact .inl ⟨rfl, by omega⟩
  · rintro cp' ⟨bytes, hbytes, hlen, htakes'⟩
    have hall : (cp.pending.take len ++ bytes).length = len := by
      rw [length_append]
      omega
    have hget := memget_front hbytes
    rw [hall] at hget
    rw [hget]
    exact ⟨hall, htakes.trans htakes'⟩

end Read2

/-! ## Putting data back -/

section Unread

variable {cp : Connection} {data hp buf3 : List UInt8} {len off po n : Nat}

theorem shiftPending_returns (hfits : po + len ≤ hp.length) (hroom : off + len ≤ hp.length)
    (error : StreamError → Prop) : Returns (shiftPending hp po len off)
      (fun hp' => hp'.length = hp.length ∧ window hp' off len = window hp po len) error := by
  unfold shiftPending
  split
  case isFalse hzero =>
    have hzero : len = 0 := by omega
    subst hzero
    simp
  case isTrue =>
    rw [memget_eq (by omega) (by omega) (by omega)]
    have hlen : (window hp po len).length = len := length_window hfits
    simp only [Int.toNat_natCast]
    obtain ⟨hp', hcopy, hmove⟩ := memmove_eq hp off (window hp po len)
      (by omega) (by omega)
    show Returns (memmove hp off (window hp po len)) _ _
    rw [hmove]
    refine ⟨length_copyIn hcopy, ?_⟩
    have hself := window_copyIn_self hcopy
    rwa [hlen] at hself

/-- What is put back comes before everything else. -/
theorem poolUnread_returns (h : Inv cp) (data : List UInt8) (hfit : cp.len + data.length < 2 ^ 31) :
    Returns (poolUnread cp data)
      (fun cp' => ∃ hp po len, cp' = { cp with hp := hp, po := po, len := len } ∧ Inv cp' ∧
        cp'.pending = data ++ cp.pending)
      (fun e => e = .badAlloc ∧ maxAllocSize < cp.len + data.length + readBufSz) := by
  obtain ⟨po, hpo⟩ := Int.eq_ofNat_of_zero_le h.po_nonneg
  obtain ⟨len, hlen⟩ := Int.eq_ofNat_of_zero_le h.len_nonneg
  have hfits := h.fits
  have hhp := h.hp_le
  have hempty := h.po_of_empty
  have hpending : cp.pending = window cp.hp po len := by simp [Connection.pending, hpo, hlen]
  have hsum : (cp.len + data.length).toNat = data.length + len := by omega
  unfold poolUnread
  rw [int32_eq_self (by omega) hfit]
  dsimp only
  split
  case isTrue hroom =>
    obtain ⟨hp, hcopy, hmove⟩ := memmove_eq cp.hp (cp.po - data.length) data (by omega) (by omega)
    have hsize := length_copyIn hcopy
    rw [hmove]
    refine ⟨hp, _, _, rfl, h.setPending (by omega) (by omega) (by omega) (by omega) (by omega), ?_⟩
    have hplace : cp.po - data.length = ((po - data.length : Nat) : Int) := by omega
    rw [hplace] at hcopy
    have hwindow := window_copyIn_before hcopy len
    rw [show po - data.length + data.length = po by omega] at hwindow
    rw [hpending, ← hwindow, Connection.pending, hsum, hplace, Int.toNat_natCast]
  case isFalse =>
    refine (ensure_roundUp_returns h.hp_le (by omega) hfit).bind ?_
    rintro hp ⟨hroom, hmax, hgrow⟩
    have hle := hgrow.length_le
    rw [hpo, hlen]
    refine (shiftPending_returns (by omega) (by omega) _).bind ?_
    rintro hp' ⟨hsize', hshift⟩
    obtain ⟨hp'', hcopy, hmove⟩ := memmove_eq hp' 0 data le_rfl (by omega)
    have hsize'' := length_copyIn hcopy
    rw [hmove]
    refine ⟨hp'', _, _, rfl, h.setPending le_rfl (by omega) (by omega) (fun _ => rfl) (by omega),
      ?_⟩
    have hwindow := window_copyIn_before (a := 0) hcopy len
    rw [Nat.zero_add, hshift, window_of_front hgrow (by omega), ← hpending] at hwindow
    rw [← hwindow, Connection.pending, ← hlen, hsum]
    rfl

theorem queue_of_pending {po len : Int}
    (hpending : Connection.pending { cp with hp := hp, po := po, len := len } = data ++
      cp.pending) :
    Connection.queue { cp with hp := hp, po := po, len := len } =
      ⟨data ++ cp.queue.input, cp.buf3⟩ := by
  rw [Connection.queue, hpending, append_assoc]
  rfl

theorem serves_unread (h : Inv cp) (hfit : cp.len + data.length < 2 ^ 31) :
    Serves (cp.call (.unread data)) (cp.queue.call (.unread data)) (cp.demand data.length) := by
  refine ((poolUnread_returns h _ hfit).mono (fun _ h => h) ?_).bind ?_
  · rintro e ⟨rfl, hmax⟩
    have hdemand := len_le_demand h data.length
    rw [readBufSz] at hmax
    show maxAllocSize < cp.demand data.length + 2048
    omega
  · rintro cp' ⟨hp, po, len, rfl, hinv, hpending⟩
    refine ⟨hinv, ?_⟩
    rw [queue_of_pending hpending]
    rfl

/-- The stack has room for more data.  A sum of lengths that wraps is negative, and no
size. -/
theorem growStack_returns (hbuf3 : buf3.length ≤ maxAllocSize) (hn : (n : Int) < 2 ^ 31) :
    Returns (growStack buf3 n)
      (fun buf => buf = resize buf3 (buf3.length + n) 0 ∧ (buf3.length + n : Int) ≤ maxAllocSize)
      (fun e => e = .badAlloc ∧ maxAllocSize < (buf3.length + n : Int)) := by
  unfold growStack
  split
  case isTrue hempty =>
    obtain rfl := length_eq_zero_iff.1 hempty
    refine (repalloc_returns n).mono ?_ ?_
    · rintro buf ⟨-, hle, rfl⟩
      simpa using hle
    · rintro e ⟨rfl, hbad⟩
      refine ⟨rfl, ?_⟩
      rw [length_nil]
      omega
  case isFalse =>
    have hcases : (buf3.length : Int) + n < 2 ^ 31 ∨ 2 ^ 31 ≤ (buf3.length : Int) + n := by omega
    cases hcases with
    | inl hfit =>
      have hsum : ((buf3.length : Int) + n).toNat = buf3.length + n := by omega
      rw [int32_eq_self (by omega) hfit]
      refine (repalloc_returns _).mono ?_ ?_
      · rintro buf ⟨-, hle, rfl⟩
        rw [hsum]
        exact ⟨rfl, hle⟩
      · rintro e ⟨rfl, hbad⟩
        exact ⟨rfl, by omega⟩
    | inr hwrap =>
      have hneg : int32 (buf3.length + n) < 0 := by
        rw [maxAllocSize] at hbuf3
        rw [int32_of_wrap hwrap (by omega)]
        omega
      refine (repalloc_returns _).mono ?_ ?_
      · rintro buf ⟨hpos, -⟩
        exact absurd hpos (not_le.2 hneg)
      · rintro e ⟨rfl, -⟩
        refine ⟨rfl, ?_⟩
        rw [maxAllocSize]
        omega

theorem poolPush_returns (h : Inv cp) (hdata : (data.length : Int) < 2 ^ 31) :
    Returns (poolPush cp data) (fun cp' => cp' = { cp with buf3 := cp.buf3 ++ data } ∧ Inv cp')
      (fun e => e = .badAlloc ∧ maxAllocSize < (cp.buf3.length + data.length : Int)) := by
  refine (growStack_returns h.buf3_le hdata).bind ?_
  rintro buf ⟨rfl, hle⟩
  have hsize := length_resize cp.buf3 (cp.buf3.length + data.length) 0
  obtain ⟨buf3, hmove, hfront, hbuf3⟩ := memmove_front
    (front_resize (Nat.le_add_right cp.buf3.length data.length) 0) data (by omega)
  have hwhole := hfront.eq_of_length (by rw [length_append]; omega)
  rw [hmove, ← hwhole]
  refine ⟨rfl, h.setBuffers h.sbuf_le h.buf2_le ?_ _⟩
  rw [length_append]
  omega

theorem serves_push (h : Inv cp) (hdata : (data.length : Int) < 2 ^ 31) :
    Serves (cp.call (.push data)) (cp.queue.call (.push data)) (cp.demand data.length) := by
  refine ((poolPush_returns h hdata).mono (fun _ h => h) ?_).bind ?_
  · rintro e ⟨rfl, hbad⟩
    have hstack : cp.queue.stack.length = cp.buf3.length := rfl
    show maxAllocSize < cp.demand data.length + 2048
    rw [Connection.demand]
    omega
  · rintro cp' ⟨rfl, hinv⟩
    exact ⟨hinv, rfl⟩

/-- What was pushed is in the queue again. -/
theorem poolPop_returns (h : Inv cp) : Returns (poolPop cp)
      (fun x => x.1 = cp.buf3.length ∧ Inv x.2 ∧ x.2.queue = ⟨cp.buf3 ++ cp.queue.input, []⟩)
      (fun e => e = .badAlloc ∧ maxAllocSize < cp.len + cp.buf3.length + readBufSz) := by
  unfold poolPop
  split
  case isTrue hempty =>
    have hnil := length_eq_zero_iff.1 hempty
    refine ⟨hempty.symm, h, ?_⟩
    simp [Connection.queue, hnil]
  case isFalse =>
    have hfit : cp.len + cp.buf3.length < 2 ^ 31 := by
      have := h.hp_le
      have := h.fits
      have := h.po_nonneg
      have := h.buf3_le
      rw [maxAllocSize] at *
      omega
    refine (poolUnread_returns h _ hfit).bind ?_
    rintro cp' ⟨hp, po, len, rfl, hinv, hpending⟩
    refine ⟨rfl, hinv.setBuffers hinv.sbuf_le hinv.buf2_le (by decide) _, ?_⟩
    have hqueue := queue_of_pending hpending
    exact congrArg (fun q : ByteQueue => ByteQueue.mk q.input []) hqueue

theorem serves_pop (h : Inv cp) : Serves (cp.call .pop) (cp.queue.call .pop) (cp.demand 0) := by
  refine ((poolPop_returns h).mono (fun _ h => h) ?_).bind ?_
  · rintro e ⟨rfl, hbad⟩
    have hdemand := len_le_demand h cp.buf3.length
    show maxAllocSize < cp.demand 0 + 2048
    rw [readBufSz] at hbad
    rw [Connection.demand] at hdemand ⊢
    have hstack : cp.queue.stack.length = cp.buf3.length := rfl
    have hlen := length_pending h
    have hinput : cp.queue.input.length = cp.pending.length + cp.incoming.length :=
      length_append
    omega
  · rintro ⟨n, cp'⟩ ⟨rfl, hinv, hqueue⟩
    refine ⟨hinv, ?_⟩
    rw [hqueue]
    rfl

end Unread

/-! ## `pool_read_string` -/

section ReadString

variable {cp cp' : Connection} {line : Bool} {a b input start sbuf : List UInt8} {e : StreamError}

/-- The bytes end where the string, or the line, ends. -/
def EndsString (line : Bool) (bytes : List UInt8) : Prop :=
  ∃ init stop, bytes = init ++ [stop] ∧ init.any (stops line) = false ∧ stops line stop = true

theorem EndsString.append (ha : a.any (stops line) = false) (hb : EndsString line b) :
    EndsString line (a ++ b) := by
  obtain ⟨init, stop, rfl, hinit, hstop⟩ := hb
  exact ⟨a ++ init, stop, (append_assoc ..).symm, by rw [any_append, ha, hinit]; rfl, hstop⟩

theorem EndsString.any (ha : EndsString line a) (b : List UInt8) :
    (a ++ b).any (stops line) = true := by
  obtain ⟨init, stop, rfl, -, hstop⟩ := ha
  simp [hstop]

theorem EndsString.findIdx (ha : EndsString line a) (b : List UInt8) :
    (a ++ b).findIdx (stops line) + 1 = a.length := by
  obtain ⟨init, stop, rfl, hinit, hstop⟩ := ha
  have hlt : ¬ init.findIdx (stops line) < init.length := by
    rw [findIdx_lt_length]
    simpa using hinit
  rw [append_assoc, findIdx_append, if_neg hlt]
  simp [findIdx_cons, hstop]

/-- The length of a string, or of the data without its end. -/
theorem stringLen_cases (str : List UInt8) :
    (∃ a b, str = a ++ b ∧ EndsString line a ∧ stringLen line str = (a.length, true)) ∨
      str.any (stops line) = false ∧ stringLen line str = (str.length, false) := by
  have hstop : stringLen line str = strlenUpTo (stops line) str := by
    cases line with
    | false =>
      exact congrArg (strlenUpTo · str) (funext fun b => by simp [stops])
    | true => exact congrArg (strlenUpTo · str) (funext fun b => by simp [stops])
  rw [hstop]
  clear hstop
  induction str with
  | nil => exact .inr ⟨rfl, rfl⟩
  | cons c str ih =>
    rw [strlenUpTo]
    split
    case isTrue hc => exact .inl ⟨[c], str, rfl, ⟨[], c, rfl, rfl, hc⟩, rfl⟩
    case isFalse hc =>
      have hc : [c].any (stops line) = false := by simpa using hc
      rcases ih with ⟨a, b, rfl, ha, hlen⟩ | ⟨hnone, hlen⟩
      · exact .inl ⟨c :: a, b, rfl, ha.append hc, by rw [hlen]; rfl⟩
      · refine .inr ⟨?_, by rw [hlen]; rfl⟩
        rw [← singleton_append, any_append, hc, hnone]
        rfl

/-- How `pool_read_string` fails when `start` has been read already. -/
def RefusesString (line : Bool) (start input : List UInt8) (e : StreamError) : Prop :=
  (e = .eof ∧ input.any (stops line) = false) ∨
    (e = .badAlloc ∧ maxAllocSize < (start.length : Int) + input.length + 2048)

theorem RefusesString.of_rest (ha : a.any (stops line) = false)
    (h : RefusesString line (start ++ a) input e) : RefusesString line start (a ++ input) e := by
  rcases h with ⟨rfl, hnone⟩ | ⟨rfl, hmax⟩
  · exact .inl ⟨rfl, by rw [any_append, ha, hnone]; rfl⟩
  · refine .inr ⟨rfl, ?_⟩
    rw [length_append] at hmax ⊢
    omega

/-- The loop goes on with `front` in the string buffer up to the first byte to come that
ends the string. -/
theorem poolReadStringLoop_returns (line : Bool) (h : Inv cp) (hempty : cp.len = 0)
    (front : List UInt8) (readsize : Int) (hpos : 0 < readsize) (hfront : front <+: cp.sbuf)
    (hroom : front.length + readsize ≤ cp.sbuf.length) :
    Returns (poolReadStringLoop line cp front.length readsize front.length)
      (fun x => ∃ bytes, EndsString line bytes ∧ x.1 = (front ++ bytes).length ∧
        front ++ bytes <+: x.2.sbuf ∧ Takes cp bytes x.2)
      (RefusesString line front cp.queue.input) := by
  induction hk : cp.incoming.length using Nat.strong_induction_on
    generalizing cp front readsize with
  | _ k ih =>
    rw [poolReadStringLoop]
    split
    case h_1 e hread =>
      obtain ⟨rfl, hnil⟩ := read_error hempty hpos hread
      exact .inl ⟨rfl, by rw [hnil]; rfl⟩
    case h_2 c cp' hread =>
      obtain ⟨rest, rfl, hc, htakes⟩ := read_takes h hempty hread
      have hlt := length_incoming_lt hread
      have hsbuf := h.sbuf_le
      obtain ⟨sbuf, hmove, hfront', hsize⟩ := memmove_front hfront c.bytes (by omega)
      have htakes := htakes.setSbuf sbuf (by omega)
      have hlength := htakes.length
      rw [hmove]
      rcases stringLen_cases c.bytes with ⟨a, b, hab, ha, hlen⟩ | ⟨hnone, hlen⟩
      · -- the chunk ends the string
        have hstring : front ++ a <+: sbuf := by
          rw [hab, ← append_assoc] at hfront'
          exact (prefix_append _ b).trans hfront'
        have hsum : ((front ++ a).length : Int) = front.length + a.length := by simp
        have hchunk : c.bytes.length = a.length + b.length := by rw [hab, length_append]
        rw [hlen]
        show Returns (if a.length < c.bytes.length then _ else _) _ _
        split
        case isTrue =>
          refine ((savePendingData_cut htakes hempty a.length (by omega)).mono
            (fun _ h => h) ?_).bind ?_
          · rintro e ⟨rfl, hmax⟩
            rw [readBufSz] at hmax
            exact .inr ⟨rfl, by omega⟩
          · rintro cp' ⟨htakes', hsbuf'⟩
            rw [hab, take_left] at htakes'
            exact ⟨a, ha, hsum.symm, by rw [hsbuf']; exact hstring, htakes'⟩
        case isFalse =>
          have hnil : b = [] := length_eq_zero_iff.1 (by omega)
          rw [hab, hnil, append_nil] at htakes
          refine ⟨a, ha, ?_, hstring, htakes⟩
          rw [hsum, hchunk, hnil, length_nil]
          rfl
      · -- the string goes on: a larger buffer, and the next chunk
        rw [hlen]
        show Returns (if c.bytes.length < c.bytes.length then _ else _) _ _
        rw [if_neg (lt_irrefl _)]
        generalize hunit : readBufSz = unit
        have hunit : unit = 1024 := hunit.symm
        show Returns (ensure sbuf (front.length + c.bytes.length + unit)
          (int32 (sbuf.length + unit)) >>= _) _ _
        rw [int32_eq_self (by omega) (by rw [maxAllocSize] at hsbuf; omega)]
        have hensure := ensure_returns sbuf (front.length + c.bytes.length + unit)
          (sbuf.length + unit) (by omega) fun _ _ => by omega
        have happend : ((front ++ c.bytes).length : Int) = front.length + c.bytes.length := by simp
        refine (hensure.mono (fun _ h => h) ?_).bind ?_
        · rintro e ⟨rfl, hsmall, hbad⟩
          exact .inr ⟨rfl, by omega⟩
        · rintro sbuf' ⟨hle, hmax, hgrow⟩
          have htakes := htakes.setSbuf sbuf' hmax
          have hnext := ih _ (hk ▸ hlt) htakes.inv hempty (front ++ c.bytes) unit (by omega)
            (hfront'.trans hgrow) (by rw [happend]; exact hle) rfl
          rw [happend] at hnext
          refine hnext.mono ?_ ?_
          · rintro ⟨len, cp'⟩ ⟨bytes, hends, hlen', hbytes, htakes'⟩
            rw [append_assoc] at hlen' hbytes
            exact ⟨c.bytes ++ bytes, hends.append hnone, hlen', hbytes, htakes.trans htakes'⟩
          · intro e he
            rw [htakes.queue]
            exact he.of_rest hnone

theorem initSbuf_returns (hsbuf : sbuf.length ≤ maxAllocSize) (error : StreamError → Prop) :
    Returns (initSbuf sbuf)
      (fun sbuf' => 0 < sbuf'.length ∧ sbuf'.length ≤ maxAllocSize) error := by
  unfold initSbuf
  split
  case isTrue =>
    refine (repalloc_returns readBufSz).mono ?_ ?_
    · rintro sbuf' ⟨-, -, rfl⟩
      rw [length_resize]
      decide
    · rintro e ⟨-, hbad⟩
      exact absurd (by decide) hbad
  case isFalse hne => exact ⟨Nat.pos_of_ne_zero hne, hsbuf⟩

/-- The loop, and the string in the buffer after it: `start`, which does not end it, is
the part that is there already. -/
theorem readStringLoop_returns (h : Takes cp start cp') (hempty : cp'.len = 0)
    (hstart : start.any (stops line) = false) (hroom : start.length < cp'.sbuf.length)
    (hfront : start <+: cp'.sbuf) : Returns (do
        let (len, cp) ← poolReadStringLoop line cp' start.length (cp'.sbuf.length - start.length)
          start.length let bytes ← memget cp.sbuf 0 len return (bytes, cp))
      (fun x => EndsString line x.1 ∧ Takes cp x.1 x.2) (RefusesString line [] cp.queue.input) := by
  refine ((poolReadStringLoop_returns line h.inv hempty start _ (by omega) hfront (by omega)).mono
    (fun _ h => h) ?_).bind ?_
  · intro e he
    rw [h.queue]
    exact he.of_rest hstart
  · rintro ⟨len, cp''⟩ ⟨bytes, hends, rfl, hbytes, htakes⟩
    show Returns (memget cp''.sbuf 0 (start ++ bytes).length >>= _) _ _
    rw [memget_front hbytes]
    exact ⟨hends.append hstart, h.trans htakes⟩

/-- A string is taken from the queue up to its end. -/
theorem poolReadString_returns (h : Inv cp) :
    Returns (poolReadString cp line) (fun x => EndsString line x.1 ∧ Takes cp x.1 x.2)
      (RefusesString line [] cp.queue.input) := by
  unfold poolReadString
  refine (initSbuf_returns h.sbuf_le _).bind ?_
  rintro sbuf ⟨hsbuf, hmax⟩
  have hself := (Takes.refl h).setSbuf sbuf hmax
  dsimp only
  split
  case isFalse hempty =>
    have hempty : cp.len = 0 := by simpa using hempty
    exact readStringLoop_returns hself hempty rfl hsbuf nil_prefix
  case isTrue =>
    have hget : memget cp.hp cp.po cp.len = .ok cp.pending :=
      memget_eq h.po_nonneg h.len_nonneg h.fits
    have hlength := length_pending h
    have hfits := h.fits
    have hpo := h.po_nonneg
    have hhp := h.hp_le
    have hinput : cp.queue.input = cp.pending ++ cp.incoming := rfl
    rw [maxAllocSize] at hhp
    obtain ⟨a, b, flag, hab, hlen, hflag⟩ : ∃ a b flag, cp.pending = a ++ b ∧
        stringLen line cp.pending = (a.length, flag) ∧
        (if flag then EndsString line a else a.any (stops line) = false ∧ b = []) := by
      rcases stringLen_cases cp.pending with ⟨a, b, hab, ha, hlen⟩ | ⟨hnone, hlen⟩
      · exact ⟨a, b, true, hab, hlen, ha⟩
      · exact ⟨cp.pending, [], false, (append_nil _).symm, hlen, hnone, rfl⟩
    have hlengths : cp.pending.length = a.length + b.length := by rw [hab, length_append]
    have htake : cp.pending.take a.length = a := by rw [hab, take_left]
    rw [hget, ok_bind, hlen]
    dsimp only
    refine ((ensure_roundUp_returns hmax (n := a.length + 1) (by omega) (by omega)).mono
      (fun _ h => h) ?_).bind ?_
    · rintro e ⟨rfl, hbad⟩
      refine .inr ⟨rfl, ?_⟩
      rw [readBufSz] at hbad
      rw [hinput, length_append, length_nil]
      omega
    · rintro sbuf' ⟨hroom, hmax', -⟩
      obtain ⟨po', len', hconsume, htakes, hused⟩ := consumePendingData_takes hself.inv a.length
      have hnil : [] <+: sbuf' := nil_prefix
      obtain ⟨sbuf'', hmove, hfront, hsize⟩ :=
        memmove_front hnil a (by rw [length_nil]; omega)
      have hpending : Connection.pending { cp with sbuf := sbuf } = cp.pending := rfl
      rw [hpending, htake] at hconsume htakes
      have htakes := hself.trans
        (htakes.setSbuf sbuf'' (by omega))
      rw [hconsume]
      show Returns (memmove sbuf' ([] : List UInt8).length a >>= _) _ _
      rw [hmove]
      show Returns (if a.length = a.length ∧ flag = false then _ else _) _ _
      cases flag with
      | false =>
        -- no end of the string in the pending data, which is used up
        obtain ⟨hnone, rfl⟩ := hflag
        rw [if_pos ⟨rfl, rfl⟩]
        refine readStringLoop_returns htakes (hused ?_) hnone (by dsimp only; omega) hfront
        rw [hpending, hlengths]
        exact le_rfl
      | true =>
        -- the string ends within the pending data
        rw [if_neg (by simp)]
        show Returns (memget sbuf'' 0 a.length >>= _) _ _
        rw [show memget sbuf'' 0 a.length = .ok a from memget_front hfront]
        exact ⟨hflag, htakes⟩

end ReadString

/-! ## Calls and runs -/

theorem serves_readString (h : Inv cp) (line : Bool) :
    Serves (cp.call (.readString line)) (cp.queue.call (.readString line)) (cp.demand 0) := by
  refine ((poolReadString_returns h).mono (fun _ h => h) ?_).bind ?_
  · rintro e (⟨rfl, hnone⟩ | ⟨rfl, hmax⟩)
    · show cp.queue.call (.readString line) = none
      rw [ByteQueue.call, hnone, if_neg Bool.false_ne_true]
    · show maxAllocSize < cp.demand 0 + 2048
      rw [length_nil] at hmax
      rw [Connection.demand]
      omega
  · rintro ⟨bytes, cp'⟩ ⟨hends, htakes⟩
    have hlength : cp.queue.input.length = bytes.length + _ := htakes.length
    have hany : cp.queue.input.any (stops line) = true := by
      rw [htakes.queue]
      exact hends.any _
    have hidx : cp.queue.input.findIdx (stops line) + 1 = bytes.length := by
      rw [htakes.queue]
      exact hends.findIdx _
    refine ⟨htakes.inv, ?_⟩
    rw [ByteQueue.call, if_pos hany, hidx, ByteQueue.take, if_pos (by omega), htakes.queue,
      take_left, drop_left]

/-- The lengths of a call are `int`s. -/
def StreamCall.IsInt : StreamCall → Prop
  | .read len | .read2 len => (len : Int) < 2 ^ 31
  | .unread data | .push data => (data.length : Int) < 2 ^ 31
  | .readString _ | .pop => True

/-- The number of bytes that a call brings or needs room for. -/
def StreamCall.size : StreamCall → Nat
  | .read2 len => len
  | .unread data | .push data => data.length
  | .read _ | .readString _ | .pop => 0

/-- The pending data and the length of the call do not add up to more than an `int`. -/
def Fits (cp : Connection) : StreamCall → Prop
  | .read2 len => cp.len + len < 2 ^ 31
  | .unread data => cp.len + data.length < 2 ^ 31
  | .read _ | .readString _ | .push _ | .pop => True

/-- **Every call is served as by a queue**, as long as no length wraps. -/
theorem serves_call (h : Inv cp) {c : StreamCall} (hint : c.IsInt) (hfits : Fits cp c) :
    Serves (cp.call c) (cp.queue.call c) (cp.demand c.size) := by
  cases c with
  | read len => exact serves_take ((poolRead_returns h len).mono (fun _ h => h) fun _ => .inl)
  | read2 len => exact serves_take (poolRead2_returns h hfits)
  | readString line => exact serves_readString h line
  | unread data => exact serves_unread h hfits
  | push data => exact serves_push h hint
  | pop => exact serves_pop h

/-- Calls one after the other, up to the first that fails. -/
def Connection.run (cp : Connection) :
    List StreamCall → Except StreamError (List Output × Connection)
  | [] => .ok ([], cp)
  | c :: cs => do
    let (o, cp) ← cp.call c
    let (os, cp) ← cp.run cs
    return (o :: os, cp)

/-- The same calls on a queue. -/
def ByteQueue.run (q : ByteQueue) : List StreamCall → Option (List Output × ByteQueue)
  | [] => some ([], q)
  | c :: cs => do
    let (o, q) ← q.call c
    let (os, q) ← q.run cs
    return (o :: os, q)

/-- No length wraps in a run. -/
def FitsRun (cp : Connection) : List StreamCall → Prop
  | [] => True
  | c :: cs => Fits cp c ∧ ∀ o cp', cp.call c = .ok (o, cp') → FitsRun cp' cs

variable {q q' : ByteQueue}

/-- A call adds no more data than its size. -/
theorem length_call {c : StreamCall} {o : Output} (h : q.call c = some (o, q')) :
    q'.input.length + q'.stack.length ≤ q.input.length + q.stack.length + c.size := by
  have htake : ∀ n, q.take n = some (o, q') →
      q'.input.length + q'.stack.length ≤ q.input.length + q.stack.length := by
    intro n hn
    unfold ByteQueue.take at hn
    split at hn
    · cases hn
      simp only [length_drop]
      omega
    · cases hn
  cases c with
  | read len =>
    have := htake len h
    omega
  | read2 len =>
    have := htake len h
    omega
  | readString line =>
    simp only [ByteQueue.call] at h
    split at h
    · have := htake _ h
      omega
    · cases h
  | unread data | push data | pop =>
    cases h
    simp only [length_append, length_nil, StreamCall.size]
    omega

/-- A run of calls, by induction on the calls. -/
theorem run_returns (h : Inv cp) (calls : List StreamCall) (hint : ∀ c ∈ calls, c.IsInt)
    (hfits : FitsRun cp calls) :
    Returns (cp.run calls) (fun x => Inv x.2 ∧ cp.queue.run calls = some (x.1, x.2.queue))
      (Refused (cp.queue.run calls) (cp.demand (calls.map StreamCall.size).sum)) := by
  induction calls generalizing cp with
  | nil => exact ⟨h, rfl⟩
  | cons c cs ih =>
    have hserves := serves_call h (hint c (by simp)) hfits.1
    simp only [Connection.run, ByteQueue.run, map_cons, sum_cons]
    cases hcall : cp.call c with
    | error e =>
      rw [hcall] at hserves
      refine Refused.mono hserves (fun hnone => by rw [hnone]; rfl) ?_
      rw [Connection.demand, Connection.demand]
      omega
    | ok x =>
      obtain ⟨o, cp'⟩ := x
      rw [hcall] at hserves
      obtain ⟨hinv, hqueue⟩ := hserves
      have hqueue : cp.queue.call c = some (o, cp'.queue) := hqueue
      have hlength := length_call hqueue
      have hrest := ih hinv (fun c hc => hint c (by simp [hc])) (hfits.2 o cp' hcall)
      rw [hqueue]
      refine (hrest.mono (fun _ h => h) ?_).bind ?_
      · intro e he
        refine he.mono (fun hnone => ?_) ?_
        · show (cp'.queue.run cs >>= _) = none
          rw [hnone]
          rfl
        · unfold Connection.demand
          push_cast
          omega
      · rintro ⟨os, cp''⟩ ⟨hinv', hrun⟩
        refine ⟨hinv', ?_⟩
        show (cp'.queue.run cs >>= _) = _
        rw [hrun]
        rfl

theorem inv_poolOpen (socket : List Chunk) : Inv (poolOpen socket) := by
  have hzero : ((0 : Nat) : Int) ≤ maxAllocSize := by decide
  have hsize : ((poolOpen socket).hp.length : Int) = readBufSz := by
    simp only [poolOpen, length_replicate]
    decide
  refine ⟨le_rfl, le_rfl, ?_, fun _ => rfl, ?_, hzero, hzero, hzero⟩
  · show (0 : Int) + 0 ≤ ((poolOpen socket).hp.length : Int)
    rw [hsize]
    decide
  · rw [hsize]
    decide

theorem queue_poolOpen (socket : List Chunk) :
    (poolOpen socket).queue = ⟨socket.flatMap Chunk.bytes, []⟩ :=
  queue_of_empty rfl

/-- **The read side of a connection is a byte queue.**  For every way in which the data
comes in pieces and every list of calls in which no length wraps: if all calls succeed,
they return what a queue of the incoming bytes returns, which does not depend on the
pieces, and the pending data lies within its buffer; if one fails, then the queue has not
enough data either, or the sizes add up to more than can be allocated.  No copy leaves
its buffer. -/
theorem readSide_is_queue (socket : List Chunk) (calls : List StreamCall)
    (hint : ∀ c ∈ calls, c.IsInt) (hfits : FitsRun (poolOpen socket) calls) :
    Returns ((poolOpen socket).run calls)
      (fun x => (0 ≤ x.2.po ∧ 0 ≤ x.2.len ∧ x.2.po + x.2.len ≤ x.2.hp.length) ∧
        ByteQueue.run ⟨socket.flatMap Chunk.bytes, []⟩ calls = some (x.1, x.2.queue))
      (Refused (ByteQueue.run ⟨socket.flatMap Chunk.bytes, []⟩ calls)
        ((socket.flatMap Chunk.bytes).length + (calls.map StreamCall.size).sum : Nat)) := by
  have hrun := run_returns (inv_poolOpen socket) calls hint hfits
  rw [Connection.demand, queue_poolOpen] at hrun
  refine hrun.mono ?_ ?_
  · rintro x ⟨hinv, hqueue⟩
    exact ⟨⟨hinv.po_nonneg, hinv.len_nonneg, hinv.fits⟩, hqueue⟩
  · intro e he
    refine he.mono id ?_
    dsimp only
    rw [length_nil]
    omega

/-- No length wraps in a run over little data. -/
theorem fitsRun_of_small (h : Inv cp) (calls : List StreamCall) (hint : ∀ c ∈ calls, c.IsInt)
    (hsmall : cp.demand (calls.map StreamCall.size).sum < 2 ^ 31) : FitsRun cp calls := by
  induction calls generalizing cp with
  | nil => trivial
  | cons c cs ih =>
    rw [map_cons, sum_cons] at hsmall
    have hlen := len_le_demand h c.size
    have hdemand : cp.demand c.size ≤ cp.demand (c.size + (cs.map StreamCall.size).sum) := by
      rw [Connection.demand, Connection.demand]
      omega
    have hfits : Fits cp c := by
      cases c with
      | read2 len | unread data => exact lt_of_le_of_lt (hlen.trans hdemand) hsmall
      | read len | readString line | push data | pop => trivial
    refine ⟨hfits, fun o cp' hcall => ?_⟩
    have hserves := serves_call h (hint c (by simp)) hfits
    rw [hcall] at hserves
    obtain ⟨hinv, hqueue⟩ := hserves
    have hqueue : cp.queue.call c = some (o, cp'.queue) := hqueue
    have hlength := length_call hqueue
    refine ih hinv (fun c hc => hint c (by simp [hc])) (lt_of_le_of_lt ?_ hsmall)
    rw [Connection.demand, Connection.demand]
    omega

/-- Four bytes that come in two pieces. -/
def twoChunks : List Chunk := [⟨[5, 6], by decide⟩, ⟨[0, 8], by decide⟩]

/-- A byte is read, another one pushed, a string read, the pushed byte popped, and the
rest read. -/
def fiveCalls : List StreamCall := [.read 1, .push [7], .readString false, .pop, .read2 2]

/-- Reads across the border of two chunks, and one from the stack. -/
theorem fiveCalls_on_twoChunks : ∃ cp, (poolOpen twoChunks).run fiveCalls =
      .ok ([.bytes [5], .done, .bytes [6, 0], .popped 1, .bytes [7, 8]], cp) := by
  have hint : ∀ c ∈ fiveCalls, c.IsInt := by simp [fiveCalls, StreamCall.IsInt]
  have hfits := fitsRun_of_small (inv_poolOpen twoChunks) fiveCalls hint (by
    rw [Connection.demand, queue_poolOpen]
    decide)
  have hqueue : ByteQueue.run ⟨twoChunks.flatMap Chunk.bytes, []⟩ fiveCalls =
      some ([.bytes [5], .done, .bytes [6, 0], .popped 1, .bytes [7, 8]], ⟨[], []⟩) := rfl
  have hrun := readSide_is_queue twoChunks fiveCalls hint hfits
  rw [hqueue] at hrun
  cases hresult : (poolOpen twoChunks).run fiveCalls with
  | ok x =>
    rw [hresult] at hrun
    obtain ⟨os, cp⟩ := x
    obtain ⟨-, houtputs⟩ := hrun
    simp only [Option.some.injEq, Prod.mk.injEq] at houtputs
    exact ⟨cp, by rw [houtputs.1]⟩
  | error e =>
    rw [hresult] at hrun
    cases e with
    | eof => exact absurd hrun (by simp [Refused])
    | badAlloc =>
      have hmax : maxAllocSize < (((twoChunks.flatMap Chunk.bytes).length +
        (fiveCalls.map StreamCall.size).sum : Nat) : Int) + 2048 := hrun
      exact absurd hmax (by decide)
    | overrun => exact hrun.elim

/-- If the pending data and the length add up to a negative number, then the buffer of
`pool_read2` is not enlarged, and pending data is copied past its end. -/
theorem poolRead2_of_wrap (h : Inv cp) {len : Nat} (hlen : (len : Int) < 2 ^ 31)
    (hwrap : 2 ^ 31 ≤ cp.len + len) (hroom : (cp.buf2.length : Int) < min (len : Int) cp.len) :
    poolRead2 cp len = .error .overrun := by
  have hfits := h.fits
  have hpo := h.po_nonneg
  have hhp := h.hp_le
  rw [maxAllocSize] at hhp
  have hensure : ensure cp.buf2 (int32 (cp.len + len))
      (roundUp (int32 (int32 (cp.len + len) + 1))) =
      .ok cp.buf2 := by
    rw [int32_of_wrap hwrap (by omega)]
    exact if_neg (by omega)
  obtain ⟨po', len', hconsume, -⟩ := consumePendingData_takes h len
  have hbytes : (cp.pending.take len).length = min len cp.len.toNat := by
    rw [length_take, length_pending h]
  have hmove : memmove cp.buf2 0 (cp.pending.take len) = .error .overrun := by
    have hcopy : copyIn cp.buf2 0 (cp.pending.take len) = none := if_neg (by omega)
    rw [memmove, hcopy]
  rw [poolRead2, hensure]
  show (consumePendingData cp len >>= _) = _
  rw [hconsume]
  show (memmove cp.buf2 0 (cp.pending.take len) >>= _) = _
  rw [hmove]
  rfl

/-- Data is put back, and then `2³¹ - 1` bytes are asked for. -/
def wrappingCalls : List StreamCall := [.unread [7], .read2 2147483647]

/-- A connection without pending data whose buffer of `pool_read2` is not in use yet. -/
theorem run_wrappingCalls (h : Inv cp) (hempty : cp.len = 0) (hbuf2 : cp.buf2 = []) :
    cp.run wrappingCalls = .error .overrun := by
  have hunread := poolUnread_returns h [7] (by rw [hempty]; decide)
  cases hresult : poolUnread cp [7] with
  | error e =>
    rw [hresult, hempty] at hunread
    exact absurd hunread.2 (by decide)
  | ok cp' =>
    rw [hresult] at hunread
    obtain ⟨hp, po, len, rfl, hinv, hpending⟩ := hunread
    have hlen : len.toNat = 1 := by
      have hlength := length_pending hinv
      rw [hpending, pending_eq_nil hempty] at hlength
      exact hlength.symm
    have hread2 : poolRead2 { cp with hp := hp, po := po, len := len } (2147483647 : Nat) =
        .error .overrun := by
      refine poolRead2_of_wrap hinv (by decide) ?_ ?_
      · show (2 : Int) ^ 31 ≤ len + (2147483647 : Nat)
        omega
      · show (cp.buf2.length : Int) < min ((2147483647 : Nat) : Int) len
        rw [hbuf2, length_nil]
        omega
    simp only [wrappingCalls, Connection.run, Connection.call, hresult]
    show (((poolRead2 _ (2147483647 : Nat) >>= _) >>= _) >>= _) = _
    rw [hread2]
    rfl

/-- The number of pending bytes and the length add up to a negative number, the buffer of
`pool_read2` is not enlarged, and the pending byte is copied past its end. -/
theorem read2_overruns : (poolOpen []).run wrappingCalls = .error .overrun :=
  run_wrappingCalls (inv_poolOpen []) rfl rfl

end PgBalancer.Stream
