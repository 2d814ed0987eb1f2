import PgBalancer.Lib.Buffer

/-!
# Transcribing a message

A message is often rewritten by copying it field by field into a fresh buffer, with one pointer
into the source and one into the target, both advanced by hand.  `Progress` says how far such a
program has come, and there is one rule for each kind of step.

* `put`, `fetch`, `skip`, `transfer` — write, read without advancing, advance, copy.
* `put_progress`, `skip_progress`, `transfer_progress` — **what is written only grows, and what is
  to be read only shrinks**; memory that has not been written is as it was.
* `putCopies_progress` — the same data several times.
-/

namespace Transcribe

open CBuffer List

variable {α : Type}

/-- Ways to go wrong. -/
inductive Fault where
  /-- the allocator refuses the size -/
  | badAlloc
  /-- a read would leave the source -/
  | overread
  /-- a write would leave the target -/
  | overwrite
  deriving DecidableEq

/-- The target and the two pointers. -/
structure Cursor (α : Type) where
  target : List α
  copyTo : Nat
  copyFrom : Nat

/-- `memcpy(copy_to, data, n); copy_to += n` -/
def put (c : Cursor α) (data : List α) : Except Fault (Cursor α) :=
  match copyIn c.target c.copyTo data with
  | some target => .ok { c with target, copyTo := c.copyTo + data.length }
  | none => .error .overwrite

/-- `memcpy(&tmp, copy_from + off, n)` -/
def fetch (source : List α) (c : Cursor α) (off n : Int) : Except Fault (List α) :=
  match copyOut source (c.copyFrom + off) n with
  | some data => .ok data
  | none => .error .overread

/-- `copy_from += n` -/
def skip (c : Cursor α) (n : Nat) : Cursor α := { c with copyFrom := c.copyFrom + n }

/-- `memcpy(copy_to, copy_from, n)`, and both pointers are advanced. -/
def transfer (source : List α) (c : Cursor α) (n : Int) : Except Fault (Cursor α) := do
  let data ← fetch source c 0 n
  let c ← put c data
  return skip c data.length

/-- The same data `n` times. -/
def putCopies : Nat → List α → Cursor α → Except Fault (Cursor α)
  | 0, _, c => .ok c
  | n + 1, data, c => do
    let c ← put c data
    putCopies n data c

/-- The program is still to read `rest` and has written `written` to a buffer that was `fresh`. -/
structure Progress (source fresh rest written : List α) (c : Cursor α) : Prop where
  from_le : c.copyFrom ≤ source.length
  rest_eq : source.drop c.copyFrom = rest
  to_eq : c.copyTo = written.length
  fits : written.length ≤ fresh.length
  target_eq : c.target = written ++ fresh.drop written.length

/-- No step goes wrong. -/
def NoFault (_ : Fault) : Prop := False

section Steps

variable {source fresh rest written field data before : List α} {c : Cursor α} {n : Nat}
  {m off : Int}

theorem progress_start (source fresh : List α) : Progress source fresh source [] ⟨fresh, 0, 0⟩ :=
  ⟨Nat.zero_le _, rfl, rfl, Nat.zero_le _, rfl⟩

/-- Data is written behind what stands there. -/
theorem put_progress (h : Progress source fresh rest written c)
    (hroom : written.length + data.length ≤ fresh.length) :
    Returns (put c data) (Progress source fresh rest (written ++ data)) NoFault := by
  have htarget : c.target.length = fresh.length := by
    rw [h.target_eq, length_append, length_drop]
    have := h.fits
    omega
  have hbefore : c.target.take c.copyTo = written := by
    rw [h.target_eq, h.to_eq, take_left]
  have hafter : c.target.drop (c.copyTo + data.length) =
      fresh.drop (written.length + data.length) := by
    rw [h.target_eq, h.to_eq, drop_append, drop_of_length_le (by omega), nil_append,
      drop_drop]
    congr 1
    omega
  have hcopy : copyIn c.target c.copyTo data =
      some (written ++ data ++ fresh.drop (written.length + data.length)) := by
    unfold copyIn
    rw [if_pos ⟨by omega, by rw [h.to_eq]; omega⟩, Int.toNat_natCast, hbefore, hafter]
  unfold put
  rw [hcopy]
  exact ⟨h.from_le, h.rest_eq, by simp [h.to_eq], by simpa using hroom, by simp⟩

/-- A field that is ahead by `off`. -/
theorem fetch_ahead (h : Progress source fresh (before ++ (field ++ rest)) written c)
    (hoff : off = before.length) (hm : m = field.length) : fetch source c off m = .ok field := by
  have hlen : source.length = c.copyFrom + (before.length + (field.length + rest.length)) := by
    have hdrop := congrArg List.length h.rest_eq
    simp only [length_drop, length_append] at hdrop
    have := h.from_le
    omega
  have hwindow : window source (c.copyFrom + before.length) field.length = field := by
    rw [window, ← drop_drop, h.rest_eq, drop_left, take_left]
  have hout : copyOut source (c.copyFrom + off) m = some field := by
    unfold copyOut
    have hstart : (c.copyFrom + (before.length : Int)).toNat = c.copyFrom + before.length := by
      omega
    rw [if_pos ⟨by omega, by omega, by omega⟩, hm, hoff, Int.toNat_natCast, hstart, hwindow]
  unfold fetch
  rw [hout]

/-- The next field. -/
theorem fetch_next (h : Progress source fresh (field ++ rest) written c) (hm : m = field.length) :
    fetch source c 0 m = .ok field :=
  fetch_ahead (show Progress source fresh ([] ++ (field ++ rest)) written c from h) rfl hm

theorem skip_progress (h : Progress source fresh (field ++ rest) written c)
    (hn : n = field.length) : Progress source fresh rest written (skip c n) := by
  have hlen : source.length - c.copyFrom = field.length + rest.length := by
    simpa using congrArg List.length h.rest_eq
  have := h.from_le
  refine ⟨?_, ?_, h.to_eq, h.fits, h.target_eq⟩
  · change c.copyFrom + n ≤ source.length
    omega
  · change source.drop (c.copyFrom + n) = rest
    rw [← drop_drop, h.rest_eq, hn, drop_left]

/-- **A field is copied.** -/
theorem transfer_progress (h : Progress source fresh (field ++ rest) written c)
    (hm : m = field.length) (hroom : written.length + field.length ≤ fresh.length) :
    Returns (transfer source c m) (Progress source fresh rest (written ++ field)) NoFault := by
  unfold transfer
  rw [fetch_next h hm]
  refine (put_progress h hroom).bind fun c' hc' => ?_
  exact skip_progress hc' rfl

theorem putCopies_progress (h : Progress source fresh rest written c)
    (hroom : written.length + n * data.length ≤ fresh.length) : Returns (putCopies n data c)
      (Progress source fresh rest (written ++ (List.replicate n data).flatten)) NoFault := by
  induction n generalizing written c with
  | zero => simpa [putCopies] using h
  | succ n ih =>
    rw [Nat.succ_mul] at hroom
    refine (put_progress h (by omega)).bind fun c' hc' => ?_
    have hrest := ih hc' (by rw [length_append]; omega)
    rwa [append_assoc, ← flatten_cons, ← replicate_succ] at hrest

end Steps

end Transcribe
