import Mathlib.Tactic
import Ormpp.Data.Decimal

/-!
# Digits

The decimal notation of a number, taken apart: in front, the notation of what is left when some of
the last digits are cut off, and behind it these digits, with zeros in front of them.
-/

namespace Ormpp

/-- The digit of a number below ten. -/
def digit (d : ℕ) : Byte := UInt8.ofNat (0x30 + d)

/-- The last digits of a number, as many as given. -/
def lastDigits : ℕ → ℕ → Bytes
  | 0, _ => []
  | k + 1, n => lastDigits k (n / 10) ++ [digit (n % 10)]

theorem ofNat_toNat_digitChar {n : ℕ} (h : n < 10) :
    UInt8.ofNat (Nat.digitChar n).toNat = digit n := by
  have hall : ∀ n < 10, UInt8.ofNat (Nat.digitChar n).toNat = digit n := by decide
  exact hall n h

theorem natText_of_lt {n : ℕ} (h : n < 10) : natText n = [digit n] := by
  rw [natText, Nat.toDigits_of_lt_base h, List.map_singleton, ofNat_toNat_digitChar h]

theorem natText_of_le {n : ℕ} (h : 10 ≤ n) :
    natText n = natText (n / 10) ++ [digit (n % 10)] := by
  rw [natText, Nat.toDigits_of_base_le (by norm_num) h, List.map_append, List.map_singleton,
    ofNat_toNat_digitChar (Nat.mod_lt n (by norm_num)), natText]

/-- Cutting off one more digit. -/
theorem div_ten_div_pow (n k : ℕ) : n / 10 / 10 ^ k = n / 10 ^ (k + 1) := by
  rw [Nat.div_div_eq_div_mul, pow_succ']

theorem lastDigits_mod_succ (n k : ℕ) : lastDigits (k + 1) (n % 10 ^ (k + 1))
    = lastDigits k (n / 10 % 10 ^ k) ++ [digit (n % 10)] := by
  rw [lastDigits, pow_succ', Nat.mod_mul_right_div_self,
    Nat.mod_mod_of_dvd n (Dvd.intro (10 ^ k) rfl)]

/-- What is in front of the last digits is the notation of a number if it is not zero. -/
theorem natText_eq_append (k : ℕ) {n : ℕ} (h : 0 < n / 10 ^ k) :
    natText n = natText (n / 10 ^ k) ++ lastDigits k (n % 10 ^ k) := by
  induction k generalizing n with
  | zero => simp [lastDigits]
  | succ k ih =>
    rw [← div_ten_div_pow] at h
    have hle : 10 ≤ n := by
      have htens : 0 < n / 10 := Nat.pos_of_ne_zero fun hzero ↦ by simp [hzero] at h
      omega
    rw [natText_of_le hle, ih h, div_ten_div_pow, lastDigits_mod_succ, List.append_assoc]

theorem lastDigits_add (j k n : ℕ) :
    lastDigits (j + k) n = lastDigits j (n / 10 ^ k) ++ lastDigits k (n % 10 ^ k) := by
  induction k generalizing n with
  | zero => simp [lastDigits]
  | succ k ih =>
    rw [← Nat.add_assoc, lastDigits, ih, div_ten_div_pow, lastDigits_mod_succ, List.append_assoc]

end Ormpp
