import Mathlib

/-!
# Byte-addressed memory

A memory is a function from addresses to bytes.  This file is about the two
operations a C program performs on a flat region of it, copying a run of bytes
in (`write`, `fill`) and looking at a run of bytes (`read`), and about unsigned
little-endian words laid over such runs (`leBytes`, `getLe`).

* `read_write_self`, `read_write_disjoint` — a copy is read back unchanged, and
  everything outside the copied window is left as it was.
* `getLe_setLe` — a word that fits its width survives being stored.
* `AgreeOn` — two memories that hold the same bytes on a window.  Everything
  read from inside the window is the same (`AgreeOn.read_eq`, `AgreeOn.getLe_eq`),
  which is the frame rule the layouts built on top of this file use.
-/

namespace ByteMem

open List

/-- A flat memory: one byte at every address. -/
abbrev Mem := Nat → UInt8

/-- The `n` bytes starting at address `a`. -/
def read (m : Mem) (a n : Nat) : List UInt8 := (List.range n).map fun i => m (a + i)

/-- `memcpy`: the bytes `bs` are copied to address `a`. -/
def write (m : Mem) (a : Nat) (bs : List UInt8) : Mem :=
  fun x => if a ≤ x ∧ x < a + bs.length then bs.getD (x - a) 0 else m x

/-- `memset`: the `n` bytes starting at `a` are set to `v`. -/
def fill (m : Mem) (a n : Nat) (v : UInt8) : Mem :=
  fun x => if a ≤ x ∧ x < a + n then v else m x

variable {m m' m'' : Mem} {a b n k : Nat} {bs : List UInt8} {v : UInt8}

@[simp] theorem length_read (m : Mem) (a n : Nat) : (read m a n).length = n := by
  simp [read]

/-! ## Reading back -/

theorem write_of_disjoint (h : b < a ∨ a + bs.length ≤ b) : write m a bs b = m b := by
  unfold write
  rw [if_neg (by omega)]

theorem write_self (h : k < bs.length) : write m a bs (a + k) = bs[k] := by
  unfold write
  rw [if_pos (by omega), Nat.add_sub_cancel_left, getD_eq_getElem _ _ h]

theorem fill_of_disjoint (h : b < a ∨ a + n ≤ b) : fill m a n v b = m b := by
  unfold fill
  rw [if_neg (by omega)]

theorem fill_self (h : k < n) : fill m a n v (a + k) = v := by
  unfold fill
  rw [if_pos (by omega)]

@[simp] theorem write_byte_self (m : Mem) (a : Nat) (v : UInt8) : write m a [v] a = v := by
  simp [write]

/-- What was copied in is read back. -/
@[simp] theorem read_write_self (m : Mem) (a : Nat) (bs : List UInt8) :
    read (write m a bs) a bs.length = bs := by
  refine ext_getElem (by simp) ?_
  intro i _ h₂
  simp only [read, getElem_map, getElem_range]
  exact write_self h₂

theorem read_add (m : Mem) (a n k : Nat) : read m a (n + k) = read m a n ++ read m (a + n) k := by
  simp [read, range_add, map_map, Function.comp_def, Nat.add_assoc]

/-- A beginning of what was copied in is read back. -/
theorem read_write_take (h : n ≤ bs.length) : read (write m a bs) a n = bs.take n := by
  obtain ⟨k, hk⟩ := Nat.exists_eq_add_of_le h
  have hself := read_write_self m a bs
  rw [hk, read_add] at hself
  rw [← congrArg (List.take n) hself, take_left' (length_read ..)]

/-! ## Agreement on a window -/

/-- `m` and `m'` hold the same `n` bytes at `a`. -/
def AgreeOn (m m' : Mem) (a n : Nat) : Prop := ∀ x, a ≤ x → x < a + n → m' x = m x

theorem AgreeOn.refl (m : Mem) (a n : Nat) : AgreeOn m m a n := fun _ _ _ => rfl

theorem AgreeOn.trans (h₁ : AgreeOn m m' a n) (h₂ : AgreeOn m' m'' a n) : AgreeOn m m'' a n :=
  fun x hlo hhi => (h₂ x hlo hhi).trans (h₁ x hlo hhi)

/-- Agreement on a window gives agreement on every window inside it. -/
theorem AgreeOn.mono (h : AgreeOn m m' a n) (hlo : a ≤ b) (hhi : b + k ≤ a + n) :
    AgreeOn m m' b k :=
  fun x h₁ h₂ => h x (by omega) (by omega)

theorem AgreeOn.read_eq (h : AgreeOn m m' a n) : read m' a n = read m a n := by
  refine map_congr_left ?_
  intro i hi
  exact h (a + i) (by omega) (by have := mem_range.1 hi; omega)

theorem agreeOn_write (h : b + n ≤ a ∨ a + bs.length ≤ b) : AgreeOn m (write m a bs) b n :=
  fun _ _ _ => write_of_disjoint (by omega)

theorem agreeOn_fill (h : b + k ≤ a ∨ a + n ≤ b) : AgreeOn m (fill m a n v) b k :=
  fun _ _ _ => fill_of_disjoint (by omega)

/-! ## Little-endian words -/

/-- The `k` bytes of `n`, least significant first; what does not fit is cut off. -/
def leBytes : Nat → Nat → List UInt8
  | 0, _ => []
  | k + 1, n => UInt8.ofNat n :: leBytes k (n / 256)

/-- The number a run of bytes denotes, least significant byte first. -/
def ofLe : List UInt8 → Nat
  | [] => 0
  | c :: cs => c.toNat + 256 * ofLe cs

@[simp] theorem length_leBytes : ∀ k n : Nat, (leBytes k n).length = k
  | 0, _ => rfl
  | k + 1, n => by simp [leBytes, length_leBytes k]

theorem ofLe_leBytes : ∀ k n : Nat, ofLe (leBytes k n) = n % 256 ^ k
  | 0, n => by simp [ofLe, leBytes, Nat.mod_one]
  | k + 1, n => by
    have hbyte : (UInt8.ofNat n).toNat = n % 256 := by simp
    rw [leBytes, ofLe, ofLe_leBytes k, hbyte, pow_succ, Nat.mul_comm (256 ^ k) 256, Nat.mod_mul]

/-- The unsigned word of `k` bytes stored at `a`. -/
def getLe (m : Mem) (a k : Nat) : Nat := ofLe (read m a k)

/-- Store the low `k` bytes of `n` at `a`. -/
def setLe (m : Mem) (a k n : Nat) : Mem := write m a (leBytes k n)

theorem getLe_setLe (h : n < 256 ^ k) : getLe (setLe m a k n) a k = n := by
  have hread : read (write m a (leBytes k n)) a k = leBytes k n := by
    simpa using read_write_self m a (leBytes k n)
  rw [getLe, setLe, hread, ofLe_leBytes, Nat.mod_eq_of_lt h]

theorem AgreeOn.getLe_eq (h : AgreeOn m m' a k) : getLe m' a k = getLe m a k := by
  rw [getLe, getLe, h.read_eq]

theorem agreeOn_setLe (h : b + n ≤ a ∨ a + k ≤ b) {v : Nat} : AgreeOn m (setLe m a k v) b n :=
  agreeOn_write (by simpa using h)

theorem getLe_fill_zero (h : k ≤ n) : getLe (fill m a n 0) a k = 0 := by
  have hz : ∀ (l : List UInt8), (∀ c ∈ l, c = 0) → ofLe l = 0 := by
    intro l
    induction l with
    | nil => intro _; rfl
    | cons c cs ih =>
      intro hl
      rw [ofLe, hl c (by simp), ih fun c hc => hl c (mem_cons_of_mem _ hc)]
      rfl
  refine hz _ ?_
  intro c hc
  obtain ⟨i, hi, rfl⟩ := mem_map.1 hc
  exact fill_self (by have := mem_range.1 hi; omega)

end ByteMem
