import Mathlib.Data.List.TakeWhile
import Ormpp.Data.Decimal

/-!
# Numbers in texts

The number at the front of a text, as the C library reads it, and the number that a whole text is.
Both read the decimal notation of an integer back.
-/

namespace Ormpp

namespace Numeral

/-- A blank, as `isspace` has it in the C locale. -/
def isBlank (b : Byte) : Bool := b == 0x20 || (0x09 ≤ b && b ≤ 0x0d)

/-- What stands behind a sign, and whether that is a minus sign. -/
def unsign : Bytes → Bool × Bytes
  | [] => (false, [])
  | b :: text =>
    if b = 0x2d then (true, text)
    else if b = 0x2b then (false, text)
    else (false, b :: text)

def signed (negative : Bool) (n : ℕ) : ℤ := if negative then -n else n

/-- The number in front, behind blanks and a sign, and zero if there is none. -/
def leading (text : Bytes) : ℤ :=
  let (negative, rest) := unsign (text.dropWhile isBlank)
  signed negative (decimalValue (rest.takeWhile isDigit))

/-- The number that the text is, with its sign. -/
def whole (text : Bytes) : Option ℤ :=
  let (negative, digits) := unsign text
  if digits ≠ [] ∧ digits.all isDigit then some (signed negative (decimalValue digits)) else none

theorem not_isBlank_of_isDigit {b : Byte} (h : isDigit b = true) : isBlank b = false := by
  rw [isDigit, Bool.and_eq_true, decide_eq_true_iff, decide_eq_true_iff, UInt8.le_iff_toNat_le,
    UInt8.le_iff_toNat_le] at h
  have hlow : 48 ≤ b.toNat := h.1
  have hblank : b ≠ 0x20 := by
    rintro rfl
    exact absurd hlow (by decide)
  have hhigh : ¬b ≤ 0x0d := by
    rw [UInt8.le_iff_toNat_le]
    change ¬b.toNat ≤ 13
    omega
  simp [isBlank, hblank, hhigh]

theorem unsign_of_isDigit {b : Byte} (h : isDigit b = true) (text : Bytes) :
    unsign (b :: text) = (false, b :: text) := by
  have hminus : b ≠ 0x2d := by
    rintro rfl
    exact absurd h (by decide)
  have hplus : b ≠ 0x2b := by
    rintro rfl
    exact absurd h (by decide)
  rw [unsign, if_neg hminus, if_neg hplus]

theorem unsign_minus (text : Bytes) : unsign (0x2d :: text) = (true, text) := rfl

theorem exists_natText_cons (n : ℕ) : ∃ b text, natText n = b :: text ∧ isDigit b = true := by
  obtain ⟨b, text, h⟩ := List.exists_cons_of_ne_nil (natText_ne_nil n)
  exact ⟨b, text, h, isDigit_of_mem_natText (h ▸ List.mem_cons_self)⟩

theorem takeWhile_natText (n : ℕ) : (natText n).takeWhile isDigit = natText n :=
  List.takeWhile_eq_self_iff.mpr fun _ ↦ isDigit_of_mem_natText

theorem unsign_natText (n : ℕ) : unsign (natText n) = (false, natText n) := by
  obtain ⟨b, text, h, hb⟩ := exists_natText_cons n
  rw [h, unsign_of_isDigit hb]

/-- No digit and no sign is a blank. -/
theorem dropWhile_intText (n : ℤ) : (intText n).dropWhile isBlank = intText n := by
  obtain n | n := n
  · obtain ⟨b, text, h, hb⟩ := exists_natText_cons n
    rw [intText, h]
    exact List.dropWhile_cons_of_neg (by simp [not_isBlank_of_isDigit hb])
  · exact List.dropWhile_cons_of_neg (by decide)

theorem leading_intText (n : ℤ) : leading (intText n) = n := by
  rw [leading, dropWhile_intText]
  obtain n | n := n
  · simp only [intText, unsign_natText, takeWhile_natText, decimalValue_natText]
    rfl
  · simp only [intText, unsign_minus, takeWhile_natText, decimalValue_natText]
    rfl

theorem leading_singleton (b : Byte) :
    leading [b] = if isDigit b then ((b.toNat - 0x30 : ℕ) : ℤ) else 0 := by
  rw [leading]
  split_ifs with hdigit
  · rw [List.dropWhile_cons_of_neg (by simp [not_isBlank_of_isDigit hdigit])]
    simp [unsign_of_isDigit hdigit, hdigit, signed, decimalValue]
  · by_cases hblank : isBlank b = true
    · rw [List.dropWhile_cons_of_pos hblank]
      rfl
    · rw [List.dropWhile_cons_of_neg hblank, unsign]
      split_ifs
      · rfl
      · rfl
      · simp [hdigit, signed, decimalValue]

/-- A character is read as less than itself. -/
theorem leading_singleton_lt {b : Byte} (hb : b ≠ 0) : leading [b] < b.toNat := by
  have hpos : b.toNat ≠ 0 := fun h ↦ hb (UInt8.toNat_inj.mp h)
  rw [leading_singleton]
  split_ifs <;> omega

theorem leading_singleton_nonneg (b : Byte) : 0 ≤ leading [b] := by
  rw [leading_singleton]
  split_ifs <;> omega

theorem all_natText (n : ℕ) : (natText n).all isDigit = true :=
  List.all_eq_true.mpr fun _ ↦ isDigit_of_mem_natText

theorem whole_intText (n : ℤ) : whole (intText n) = some n := by
  rw [whole]
  obtain n | n := n
  · simp only [intText, unsign_natText, all_natText, decimalValue_natText]
    rw [if_pos ⟨natText_ne_nil n, trivial⟩]
    rfl
  · simp only [intText, unsign_minus, all_natText, decimalValue_natText]
    rw [if_pos ⟨natText_ne_nil (n + 1), trivial⟩]
    rfl

end Numeral

end Ormpp
