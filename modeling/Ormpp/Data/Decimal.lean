import Ormpp.Data.Bytes

/-!
# Decimal text

`natText` and `intText` are the decimal notation that `std::to_string` gives an integer, and
`decimalValue` reads digits back.
-/

namespace Ormpp

/-- A decimal digit. -/
def isDigit (c : Byte) : Bool := 0x30 ≤ c && c ≤ 0x39

/-- `std::to_string` of an unsigned integer. -/
def natText (n : ℕ) : Bytes := (Nat.toDigits 10 n).map fun c ↦ UInt8.ofNat c.toNat

/-- `std::to_string` of a signed integer. -/
def intText : ℤ → Bytes
  | .ofNat n => natText n
  | .negSucc n => 0x2d :: natText (n + 1)

/-- The number that decimal digits denote. -/
def decimalValue (digits : Bytes) : ℕ := digits.foldl (fun n c ↦ 10 * n + (c.toNat - 0x30)) 0

theorem natText_ne_nil (n : ℕ) : natText n ≠ [] := by
  rw [natText, ne_eq, List.map_eq_nil_iff]
  exact Nat.toDigits_ne_nil

theorem toNat_byte_of_isDigit {c : Char} (h : c.isDigit = true) :
    (UInt8.ofNat c.toNat).toNat = c.toNat ∧ 48 ≤ c.toNat ∧ c.toNat ≤ 57 := by
  rw [Char.isDigit, Bool.and_eq_true, decide_eq_true_iff, decide_eq_true_iff] at h
  have hlow : 48 ≤ c.toNat := h.1
  have hhigh : c.toNat ≤ 57 := h.2
  refine ⟨?_, hlow, hhigh⟩
  rw [UInt8.toNat_ofNat']
  omega

theorem isDigit_of_mem_natText {n : ℕ} {b : Byte} (h : b ∈ natText n) : isDigit b = true := by
  rw [natText] at h
  obtain ⟨c, hc, rfl⟩ := List.mem_map.mp h
  obtain ⟨hbyte, hlow, hhigh⟩ :=
    toNat_byte_of_isDigit (Nat.isDigit_of_mem_toDigits (by decide) (by decide) hc)
  rw [isDigit, Bool.and_eq_true, decide_eq_true_iff, decide_eq_true_iff, UInt8.le_iff_toNat_le,
    UInt8.le_iff_toNat_le, hbyte]
  exact ⟨hlow, hhigh⟩

theorem length_natText_le_iff {n k : ℕ} (h : 0 < k) : (natText n).length ≤ k ↔ n < 10 ^ k := by
  rw [natText, List.length_map]
  exact Nat.length_toDigits_le_iff (by decide) h

/-- The sign takes one of the bytes. -/
theorem length_intText_le_iff {n : ℤ} {k : ℕ} (h : 0 < k) :
    (intText n).length ≤ k + 1 ↔ -10 ^ k < n ∧ n < 10 ^ (k + 1) := by
  have hcast (m j : ℕ) : (m : ℤ) < 10 ^ j ↔ m < 10 ^ j := by
    rw [← Nat.cast_ofNat, ← Nat.cast_pow, Nat.cast_lt]
  obtain n | n := n
  · have hsign : -10 ^ k < Int.ofNat n :=
      (neg_neg_of_pos (by positivity)).trans_le (Int.natCast_nonneg n)
    rw [intText, length_natText_le_iff (by omega), and_iff_right hsign, Int.ofNat_eq_natCast, hcast]
  · have hsign : Int.negSucc n < 10 ^ (k + 1) := (Int.negSucc_lt_zero n).trans (by positivity)
    rw [intText, List.length_cons, Nat.add_le_add_iff_right, length_natText_le_iff h,
      and_iff_left hsign, Int.negSucc_eq, neg_lt_neg_iff, ← Nat.cast_succ, hcast]

/-- The decimal notation is read back. -/
theorem decimalValue_natText (n : ℕ) : decimalValue (natText n) = n := by
  have hdigits (cs : List Char) (hcs : ∀ c ∈ cs, c.isDigit = true) (k : ℕ) :
      (cs.map fun c ↦ UInt8.ofNat c.toNat).foldl (fun n c ↦ 10 * n + (c.toNat - 0x30)) k
        = Nat.ofDigitChars 10 cs k := by
    induction cs generalizing k with
    | nil => rfl
    | cons c cs ih =>
      obtain ⟨hc, hcs⟩ := List.forall_mem_cons.mp hcs
      rw [List.map_cons, List.foldl_cons, ih hcs, (toNat_byte_of_isDigit hc).1]
      rfl
  rw [decimalValue, natText, hdigits _ fun c ↦ Nat.isDigit_of_mem_toDigits (by decide) (by decide)]
  exact Nat.ofDigitChars_ten_toDigits

end Ormpp
