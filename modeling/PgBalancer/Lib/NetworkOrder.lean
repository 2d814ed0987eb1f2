import PgBalancer.Lib.ByteMem
import PgBalancer.Lib.Buffer

/-!
# Words in network byte order

A word of `k` bytes with its most significant byte first, as it goes over a connection, and the
windows of a buffer that such words and other fields occupy.

* `beBytes`, `ofBe` — a number as bytes, and back; `ofBe_beBytes` — **what fits is read back**.
* `window_middle`, `copyOut_middle` — a field that lies between other ones.
-/

namespace NetworkOrder

open CBuffer

/-- The `k` bytes of `n`, most significant first; what does not fit is cut off. -/
def beBytes (k n : Nat) : List UInt8 := (ByteMem.leBytes k n).reverse

/-- The number a run of bytes denotes, most significant byte first. -/
def ofBe (bytes : List UInt8) : Nat := ByteMem.ofLe bytes.reverse

@[simp] theorem length_beBytes (k n : Nat) : (beBytes k n).length = k := by
  simp [beBytes]

theorem ofBe_beBytes (k n : Nat) : ofBe (beBytes k n) = n % 256 ^ k := by
  rw [ofBe, beBytes, List.reverse_reverse, ByteMem.ofLe_leBytes]

/-- A number that fits is read back. -/
theorem ofBe_beBytes_of_lt {k n : Nat} (h : n < 256 ^ k) : ofBe (beBytes k n) = n := by
  rw [ofBe_beBytes, Nat.mod_eq_of_lt h]

theorem ofBe_lt (bytes : List UInt8) : ofBe bytes < 256 ^ bytes.length := by
  rw [ofBe, ← List.length_reverse]
  induction bytes.reverse with
  | nil => simp [ByteMem.ofLe]
  | cons b bs ih =>
    have hb := b.toNat_lt
    rw [ByteMem.ofLe, List.length_cons, Nat.pow_succ]
    omega

section Fields

variable {α : Type} {before field after buf : List α}

theorem window_middle : window (before ++ (field ++ after)) before.length field.length = field := by
  rw [window, List.drop_left, List.take_left]

theorem copyOut_middle {off n : Int} (hoff : off = before.length) (hn : n = field.length) :
    copyOut (before ++ (field ++ after)) off n = some field := by
  subst hoff hn
  unfold copyOut
  rw [if_pos, Int.toNat_natCast, Int.toNat_natCast, window_middle]
  simp only [List.length_append]
  omega

end Fields

end NetworkOrder
