import PgBalancer.Lib.Reader

/-!
# Decimal numerals as bytes

The text that `printf` writes for `%d`, and the value a reader finds that multiplies by ten and adds
the next digit.

* `decimal_of_le` — a numeral of several digits is a shorter one and a digit.
* `reads_decimal` — **a reader that handles one digit after another handles every numeral**.
-/

namespace Numeral

open Reader

/-- The character of a digit. -/
def digit (d : Nat) : UInt8 := UInt8.ofNat (48 + d)

/-- The digits of a number, the most significant one first. -/
def decimal (n : Nat) : List UInt8 := (Nat.toDigits 10 n).map fun c => UInt8.ofNat c.toNat

/-- `%d` -/
def formatInt (z : Int) : List UInt8 :=
  if z < 0 then 45 :: decimal z.natAbs else decimal z.natAbs

/-- Is the character a digit? -/
def isDigit (b : UInt8) : Bool := 48 ≤ b && b ≤ 57

/-- The digit that a character stands for. -/
def digitValue (b : UInt8) : Nat := b.toNat - 48

variable {d n bound : Nat}

theorem digitChar_byte (h : d < 10) : UInt8.ofNat (Nat.digitChar d).toNat = digit d := by
  interval_cases d <;> rfl

theorem decimal_of_lt (h : n < 10) : decimal n = [digit n] := by
  rw [decimal, Nat.toDigits_of_lt_base h, List.map_singleton, digitChar_byte h]

theorem decimal_of_le (h : 10 ≤ n) : decimal n = decimal (n / 10) ++ [digit (n % 10)] := by
  rw [decimal, Nat.toDigits_of_base_le (by decide) h, List.map_append, List.map_singleton,
    digitChar_byte (Nat.mod_lt n (by decide)), decimal]

theorem isDigit_digit (h : d < 10) : isDigit (digit d) = true := by
  interval_cases d <;> rfl

theorem digitValue_digit (h : d < 10) : digitValue (digit d) = d := by
  interval_cases d <;> rfl

theorem digit_eq_zero_iff (h : d < 10) : digit d = 48 ↔ d = 0 := by
  interval_cases d <;> decide

theorem formatInt_ne_nil (z : Int) : formatInt z ≠ [] := by
  have hdecimal : ∀ n, decimal n ≠ [] := by
    intro n
    by_cases h : n < 10
    · simp [decimal_of_lt h]
    · simp [decimal_of_le (not_lt.1 h)]
  unfold formatInt
  split_ifs
  · exact List.cons_ne_nil _ _
  · exact hdecimal _

/-- A number is the value of its digits. -/
theorem foldl_decimal (n : Nat) : (decimal n).foldl (fun v b => 10 * v + digitValue b) 0 = n := by
  induction n using Nat.strong_induction_on with
  | _ n ih =>
    by_cases h : n < 10
    · simp [decimal_of_lt h, digitValue_digit h]
    · have hmod : n % 10 < 10 := by omega
      rw [decimal_of_le (by omega), List.foldl_append, ih _ (by omega), List.foldl_cons,
        List.foldl_nil, digitValue_digit hmod, Nat.div_add_mod]

theorem isDigit_of_mem_decimal {b : UInt8} (hb : b ∈ decimal n) : isDigit b = true := by
  induction n using Nat.strong_induction_on with
  | _ n ih =>
    by_cases h : n < 10
    · rw [decimal_of_lt h, List.mem_singleton] at hb
      exact hb ▸ isDigit_digit h
    · rw [decimal_of_le (by omega), List.mem_append, List.mem_singleton] at hb
      obtain hb | rfl := hb
      · exact ih _ (by omega) hb
      · exact isDigit_digit (by omega)

theorem formatInt_injective : Function.Injective formatInt := by
  intro x y h
  have hdecimal := Function.LeftInverse.injective foldl_decimal
  have hsign : ∀ m k, 45 :: decimal m ≠ decimal k := fun m k hk => by
    have := isDigit_of_mem_decimal (hk ▸ List.mem_cons_self)
    contradiction
  unfold formatInt at h
  split_ifs at h
  · have := hdecimal (List.cons.inj h).2
    omega
  · exact absurd h (hsign _ _)
  · exact absurd h.symm (hsign _ _)
  · have := hdecimal h
    omega

theorem space_notMem_formatInt (z : Int) : 32 ∉ formatInt z := by
  have hdecimal : 32 ∉ decimal z.natAbs := fun h => absurd (isDigit_of_mem_decimal h) (by decide)
  unfold formatInt
  split_ifs <;> simp [hdecimal]

/-- The states `N k` in which the number `k` was read: one step for the first digit, one for a
further digit, whose value does not exceed the number to be read. -/
theorem reads_decimal {σ : Type} {step : σ → UInt8 → Option σ} {P : σ → Prop} {N : Nat → σ → Prop}
    (hfirst : ∀ d < 10, Reads step P [digit d] (N d))
    (hnext : ∀ k d, 0 < k → d < 10 → 10 * k + d ≤ bound →
      Reads step (N k) [digit d] (N (10 * k + d))) (n : Nat) (hn : n ≤ bound) :
    Reads step P (decimal n) (N n) := by
  induction n using Nat.strong_induction_on with
  | _ n ih =>
    by_cases h : n < 10
    · rw [decimal_of_lt h]
      exact hfirst n h
    · have hshorter := ih (n / 10) (by omega) (by omega)
      have hlast := hnext (n / 10) (n % 10) (by omega) (by omega) (by omega)
      rw [Nat.div_add_mod] at hlast
      rw [decimal_of_le (by omega)]
      exact hshorter.append hlast

end Numeral
