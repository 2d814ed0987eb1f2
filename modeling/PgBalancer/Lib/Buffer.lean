import Mathlib

/-!
# Buffers of a C program

A buffer is the list of the elements it has room for.  Copies in and out of it name an
offset and are refused if they would leave it; lengths are `int`s, whose sums wrap.

* `copyIn`, `copyOut`, `resize` — copies and `realloc`; `front_copyIn`, `copyOut_front`
  and `front_resize` say what they do to the elements at the front of a buffer.
* `window` — a run of elements of a buffer; `window_copyIn_before` and
  `window_of_front` say what the operations do to it.
* `int32` — the value an `int` takes: itself as long as it fits (`int32_eq_self`), and
  something negative right after that (`int32_of_wrap`).
* `Returns` — what a fallible computation may return; `Returns.bind` is the rule for a
  sequence of steps.
-/

namespace CBuffer

open List

/-! ## Computations that can fail -/

section Returns

variable {ε α β : Type}

/-- The computation returns a value with `P` or fails with an error with `E`. -/
def Returns (r : Except ε α) (P : α → Prop) (E : ε → Prop) : Prop :=
  match r with
  | .ok a => P a
  | .error e => E e

variable {r : Except ε α} {P Q : α → Prop} {E F : ε → Prop} {a : α} {e : ε} {f : α → Except ε β}
  {R : β → Prop}

@[simp] theorem returns_ok : Returns (.ok a : Except ε α) P E ↔ P a := Iff.rfl

@[simp] theorem returns_pure : Returns (pure a : Except ε α) P E ↔ P a := Iff.rfl

@[simp] theorem returns_error : Returns (.error e : Except ε α) P E ↔ E e := Iff.rfl

theorem Returns.mono (h : Returns r P E) (hP : ∀ a, P a → Q a) (hE : ∀ e, E e → F e) :
    Returns r Q F := by
  cases r with
  | ok a => exact hP a h
  | error e => exact hE e h

theorem Returns.bind (h : Returns r P E) (hf : ∀ a, P a → Returns (f a) R E) :
    Returns (r >>= f) R E := by
  cases r with
  | ok a => exact hf a h
  | error e => exact h

theorem Returns.ok_or_error (h : Returns r P E) :
    (∃ a, r = .ok a ∧ P a) ∨ ∃ e, r = .error e ∧ E e := by
  cases r with
  | ok a => exact .inl ⟨a, rfl, h⟩
  | error e => exact .inr ⟨e, rfl, h⟩

theorem ok_bind (a : α) (f : α → Except ε β) : (Except.ok a >>= f) = f a := rfl

end Returns

/-! ## Copies -/

section Copies

variable {α : Type} {buf buf' data front : List α} {off a n size : Nat}

/-- The `n` elements at `off`. -/
def window (buf : List α) (off n : Nat) : List α := (buf.drop off).take n

/-- `memmove` into a buffer at `off`. -/
def copyIn (buf : List α) (off : Int) (data : List α) : Option (List α) :=
  if 0 ≤ off ∧ off + data.length ≤ buf.length then
    some (buf.take off.toNat ++ data ++ buf.drop (off.toNat + data.length))
  else none

/-- `memmove` of `n` elements out of a buffer at `off`. -/
def copyOut (buf : List α) (off n : Int) : Option (List α) :=
  if 0 ≤ off ∧ 0 ≤ n ∧ off + n ≤ buf.length then some (window buf off.toNat n.toNat) else none

/-- `realloc`: the elements stay as far as there is room for them. -/
def resize (buf : List α) (size : Nat) (fill : α) : List α :=
  (buf ++ List.replicate (size - buf.length) fill).take size

@[simp] theorem length_resize (buf : List α) (size : Nat) (fill : α) :
    (resize buf size fill).length = size := by
  simp only [resize, length_take, length_append, length_replicate]
  omega

theorem length_window (h : off + n ≤ buf.length) : (window buf off n).length = n := by
  simp only [window, length_take, length_drop]
  omega

@[simp] theorem window_zero (buf : List α) (off : Nat) : window buf off 0 = [] := by simp [window]

theorem length_copyIn {off : Int} (h : copyIn buf off data = some buf') :
    buf'.length = buf.length := by
  unfold copyIn at h
  split at h
  · cases h
    simp only [length_append, length_take, length_drop]
    omega
  · cases h

/-- Data that is copied in right behind the front of a buffer makes the front longer. -/
theorem front_copyIn (hfront : front <+: buf) (h : copyIn buf front.length data = some buf') :
    front ++ data <+: buf' := by
  unfold copyIn at h
  split at h
  case isFalse => cases h
  case isTrue =>
    obtain ⟨rest, rfl⟩ := hfront
    rw [Int.toNat_natCast, take_left] at h
    cases h
    exact prefix_append _ _

theorem copyOut_front (hfront : front <+: buf) : copyOut buf 0 front.length = some front := by
  obtain ⟨rest, rfl⟩ := hfront
  rw [copyOut, if_pos ⟨le_rfl, by omega, by rw [length_append]; omega⟩, Int.toNat_natCast]
  exact congrArg some take_left

/-- Data that is copied in right before a window makes it longer at its front. -/
theorem window_copyIn_before (h : copyIn buf (a : Nat) data = some buf') (n : Nat) :
    window buf' a (data.length + n) = data ++ window buf (a + data.length) n := by
  unfold copyIn at h
  split at h
  case isFalse => cases h
  case isTrue hfit =>
    cases h
    have hlen : (buf.take a).length = a := by
      rw [length_take]
      omega
    rw [Int.toNat_natCast, window, append_assoc, drop_left' hlen, take_length_add_append]
    rfl

theorem window_copyIn_self (h : copyIn buf (a : Nat) data = some buf') :
    window buf' a data.length = data := by
  simpa using window_copyIn_before h 0

theorem front_resize (hsize : buf.length ≤ size) (fill : α) : buf <+: resize buf size fill := by
  rw [resize, take_of_length_le]
  · exact prefix_append _ _
  · rw [length_append, length_replicate]
    omega

/-- A buffer that is enlarged keeps its windows. -/
theorem window_of_front (h : buf <+: buf') (hfit : off + n ≤ buf.length) :
    window buf' off n = window buf off n := by
  obtain ⟨rest, rfl⟩ := h
  have hdrop : n ≤ (buf.drop off).length := by
    rw [length_drop]
    omega
  rw [window, window, drop_append_of_le_length (by omega),
    take_append_of_le_length hdrop]

end Copies

/-! ## Lengths -/

/-- The value of an `int` expression: two's complement in 32 bits. -/
def int32 (x : Int) : Int := x.bmod (2 ^ 32)

variable {x : Int}

theorem int32_eq_self (hlo : -2 ^ 31 ≤ x) (hhi : x < 2 ^ 31) : int32 x = x :=
  Int.bmod_eq_of_le (by omega) (by omega)

/-- A sum that is too large becomes negative. -/
theorem int32_of_wrap (hlo : 2 ^ 31 ≤ x) (hhi : x < 2 ^ 32) : int32 x = x - 2 ^ 32 := by
  have hmod : x % ((2 ^ 32 : Nat) : Int) = x := Int.emod_eq_of_lt (by omega) (by push_cast; omega)
  rw [int32, Int.bmod_def, hmod, if_neg (by push_cast; omega)]
  push_cast
  rfl

end CBuffer
