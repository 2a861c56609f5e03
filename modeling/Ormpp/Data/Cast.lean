import Mathlib.Tactic

/-!
# Conversions between integers of different widths

A conversion to an integer of a number of bits keeps the low bits, and reads them with a sign or
without one. It keeps the number that fits; a conversion by way of a wider one makes no difference,
and one by way of a narrower one keeps the numbers that are the extension of their low bits.
-/

namespace Ormpp

namespace Cast

/-- The low bits, read with a sign. -/
def toSigned (bits : ℕ) (n : ℤ) : ℤ := n.bmod (2 ^ bits)

/-- The low bits, read without a sign. -/
def toUnsigned (bits : ℕ) (n : ℤ) : ℤ := n % 2 ^ bits

def FitsSigned (bits : ℕ) (n : ℤ) : Prop := -2 ^ (bits - 1) ≤ n ∧ n < 2 ^ (bits - 1)

def FitsUnsigned (bits : ℕ) (n : ℤ) : Prop := 0 ≤ n ∧ n < 2 ^ bits

instance (bits : ℕ) (n : ℤ) : Decidable (FitsSigned bits n) :=
  inferInstanceAs (Decidable (_ ∧ _))

instance (bits : ℕ) (n : ℤ) : Decidable (FitsUnsigned bits n) :=
  inferInstanceAs (Decidable (_ ∧ _))

variable {k bits : ℕ} {n : ℤ}

theorem two_pow_eq (h : 0 < bits) : (2 : ℤ) ^ bits = 2 * 2 ^ (bits - 1) := by
  obtain ⟨b, rfl⟩ : ∃ b, bits = b + 1 := ⟨bits - 1, by omega⟩
  rw [pow_succ, Nat.add_sub_cancel, mul_comm]

theorem toSigned_eq_iff (h : 0 < bits) {m : ℤ} :
    toSigned bits n = m ↔ FitsSigned bits m ∧ (2 : ℤ) ^ bits ∣ m - n := by
  have hpow : ((2 ^ bits : ℕ) : ℤ) = 2 * 2 ^ (bits - 1) := by
    rw [Nat.cast_pow, Nat.cast_ofNat, two_pow_eq h]
  have hhalf : (2 * 2 ^ (bits - 1) : ℤ) / 2 = 2 ^ (bits - 1) := by omega
  have hceil : (2 * 2 ^ (bits - 1) + 1 : ℤ) / 2 = 2 ^ (bits - 1) := by omega
  rw [toSigned, Int.bmod_eq_iff (Nat.two_pow_pos bits), hpow, hhalf, hceil, two_pow_eq h,
    ← and_assoc]
  rfl

theorem fitsSigned_toSigned (h : 0 < bits) : FitsSigned bits (toSigned bits n) :=
  ((toSigned_eq_iff h).mp rfl).1

theorem toSigned_eq_self_iff (h : 0 < bits) : toSigned bits n = n ↔ FitsSigned bits n := by
  rw [toSigned_eq_iff h, sub_self]
  exact and_iff_left (dvd_zero _)

theorem fitsUnsigned_toUnsigned : FitsUnsigned bits (toUnsigned bits n) :=
  ⟨Int.emod_nonneg n (by positivity), Int.emod_lt_of_pos n (by positivity)⟩

theorem toUnsigned_eq_self_iff : toUnsigned bits n = n ↔ FitsUnsigned bits n := by
  constructor
  · intro h
    exact h ▸ fitsUnsigned_toUnsigned
  · rintro ⟨hlow, hhigh⟩
    exact Int.emod_eq_of_lt hlow hhigh

theorem FitsSigned.mono (hk : k ≤ bits) (h : FitsSigned k n) : FitsSigned bits n := by
  have hpow : (2 : ℤ) ^ (k - 1) ≤ 2 ^ (bits - 1) := pow_le_pow_right₀ (by norm_num) (by omega)
  exact ⟨by linarith [h.1], by linarith [h.2]⟩

theorem toSigned_toSigned (hk : k ≤ bits) : toSigned k (toSigned bits n) = toSigned k n :=
  Int.bmod_bmod_of_dvd (pow_dvd_pow 2 hk)

theorem toUnsigned_toSigned (hk : k ≤ bits) : toUnsigned k (toSigned bits n) = toUnsigned k n := by
  have hpow : (2 : ℤ) ^ bits = ((2 ^ bits : ℕ) : ℤ) := by rw [Nat.cast_pow, Nat.cast_ofNat]
  have hdvd : (2 : ℤ) ^ k ∣ ((2 ^ bits : ℕ) : ℤ) := hpow ▸ pow_dvd_pow 2 hk
  calc toSigned bits n % 2 ^ k
      = toSigned bits n % ((2 ^ bits : ℕ) : ℤ) % 2 ^ k := (Int.emod_emod_of_dvd _ hdvd).symm
    _ = n % ((2 ^ bits : ℕ) : ℤ) % 2 ^ k := by rw [toSigned, Int.bmod_emod]
    _ = n % 2 ^ k := Int.emod_emod_of_dvd _ hdvd

theorem toSigned_toUnsigned : toSigned bits (toUnsigned bits n) = toSigned bits n := by
  have hpow : (2 : ℤ) ^ bits = ((2 ^ bits : ℕ) : ℤ) := by rw [Nat.cast_pow, Nat.cast_ofNat]
  rw [toSigned, toUnsigned, hpow, Int.emod_bmod, toSigned]

/-- A number without a sign goes through fewer bits with one exactly when it is the extension of
them. -/
theorem toUnsigned_toSigned_eq_iff (h : 0 < k) (hk : k ≤ bits) (hn : FitsUnsigned bits n) :
    toUnsigned bits (toSigned k n) = n ↔ FitsSigned k (toSigned bits n) := by
  constructor
  · intro heq
    have hfits : FitsSigned k (toSigned k n) := fitsSigned_toSigned h
    have hwide : toSigned bits (toSigned k n) = toSigned k n :=
      (toSigned_eq_self_iff (by omega)).mpr (hfits.mono hk)
    rwa [← heq, toSigned_toUnsigned, hwide]
  · intro hfits
    have hnarrow : toSigned k n = toSigned bits n := by
      rw [← toSigned_toSigned hk, (toSigned_eq_self_iff h).mpr hfits]
    rw [hnarrow, toUnsigned_toSigned le_rfl, toUnsigned_eq_self_iff.mpr hn]

end Cast

end Ormpp
