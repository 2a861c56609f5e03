import Ormpp.Data.Cast
import Ormpp.Field.Type

/-!
# The values of fields

The types of the fields that hold no floating-point numbers, and their values. A number is a value
of an integral type or of an enumeration, which has the values of its underlying type.
-/

namespace Ormpp

namespace IntegralType

/-- The conversion to the type. -/
def convert (t : IntegralType) (n : ℤ) : ℤ :=
  if t = bool then if n = 0 then 0 else 1
  else if t.signed then Cast.toSigned t.bits n
  else Cast.toUnsigned t.bits n

theorem bits_pos (t : IntegralType) : 0 < t.bits := by
  rcases t with _ | _ | _ | _ | _ | _ | _ | _ | _ | _ | _ | _ <;> decide

theorem bits_cases (t : IntegralType) : t.bits ≤ 8 ∨ t.bits = 16 ∨ t.bits = 32 ∨ t.bits = 64 := by
  rcases t with _ | _ | _ | _ | _ | _ | _ | _ | _ | _ | _ | _ <;> decide

theorem convert_of_signed {t : IntegralType} (h : t.signed = true) (n : ℤ) :
    t.convert n = Cast.toSigned t.bits n := by
  have hne : t ≠ bool := by
    rintro rfl
    exact absurd h (by decide)
  rw [convert, if_neg hne, if_pos h]

theorem convert_of_unsigned {t : IntegralType} (h : t.signed = false) (hne : t ≠ bool) (n : ℤ) :
    t.convert n = Cast.toUnsigned t.bits n := by
  rw [convert, if_neg hne, h, if_neg Bool.false_ne_true]

theorem holds_of_signed {t : IntegralType} (h : t.signed = true) {n : ℤ} :
    t.Holds n ↔ Cast.FitsSigned t.bits n := by
  rw [Holds, if_pos h]
  rfl

theorem holds_of_unsigned {t : IntegralType} (h : t.signed = false) {n : ℤ} :
    t.Holds n ↔ Cast.FitsUnsigned t.bits n := by
  rw [Holds, h, if_neg Bool.false_ne_true]
  rfl

/-- With one bit more there is room for a sign. -/
theorem Holds.fitsSigned {t : IntegralType} {n : ℤ} (h : t.Holds n) {k : ℕ} (hk : t.bits < k) :
    Cast.FitsSigned k n := by
  by_cases hsigned : t.signed = true
  · exact ((holds_of_signed hsigned).mp h).mono hk.le
  · obtain ⟨hlow, hhigh⟩ := (holds_of_unsigned ((Bool.not_eq_true _).mp hsigned)).mp h
    have hpow : (2 : ℤ) ^ t.bits ≤ 2 ^ (k - 1) := pow_le_pow_right₀ (by norm_num) (by omega)
    exact ⟨by linarith, by linarith⟩

theorem holds_bool {n : ℤ} : bool.Holds n ↔ n = 0 ∨ n = 1 := by
  rw [holds_of_unsigned rfl, Cast.FitsUnsigned]
  change 0 ≤ n ∧ n < 2 ↔ _
  omega

theorem holds_zero (t : IntegralType) : t.Holds 0 := by
  rcases t with _ | _ | _ | _ | _ | _ | _ | _ | _ | _ | _ | _ <;> decide

theorem holds_convert (t : IntegralType) (n : ℤ) : t.Holds (t.convert n) := by
  by_cases hbool : t = bool
  · subst hbool
    rw [holds_bool, convert, if_pos rfl]
    exact ite_eq_or_eq _ _ _
  · by_cases hsigned : t.signed = true
    · rw [convert_of_signed hsigned, holds_of_signed hsigned]
      exact Cast.fitsSigned_toSigned t.bits_pos
    · rw [Bool.not_eq_true] at hsigned
      rw [convert_of_unsigned hsigned hbool, holds_of_unsigned hsigned]
      exact Cast.fitsUnsigned_toUnsigned

/-- A value of the type is converted to itself. -/
theorem convert_of_holds {t : IntegralType} {n : ℤ} (hn : t.Holds n) : t.convert n = n := by
  by_cases hbool : t = bool
  · subst hbool
    obtain rfl | rfl := holds_bool.mp hn <;> rfl
  · by_cases hsigned : t.signed = true
    · rw [convert_of_signed hsigned]
      exact (Cast.toSigned_eq_self_iff t.bits_pos).mpr ((holds_of_signed hsigned).mp hn)
    · rw [Bool.not_eq_true] at hsigned
      rw [convert_of_unsigned hsigned hbool]
      exact Cast.toUnsigned_eq_self_iff.mpr ((holds_of_unsigned hsigned).mp hn)

/-- What is converted to a value differs from it by a multiple of the range. -/
theorem convert_eq_iff {t : IntegralType} (hne : t ≠ bool) {n m : ℤ} (hm : t.Holds m) :
    t.convert n = m ↔ (2 : ℤ) ^ t.bits ∣ m - n := by
  by_cases hsigned : t.signed = true
  · rw [convert_of_signed hsigned, Cast.toSigned_eq_iff t.bits_pos,
      and_iff_right ((holds_of_signed hsigned).mp hm)]
  · rw [Bool.not_eq_true] at hsigned
    have hself : m % 2 ^ t.bits = m :=
      Cast.toUnsigned_eq_self_iff.mpr ((holds_of_unsigned hsigned).mp hm)
    have hmod : Cast.toUnsigned t.bits n = m ↔ m % 2 ^ t.bits = n % 2 ^ t.bits := by
      rw [hself, eq_comm, Cast.toUnsigned]
    rw [convert_of_unsigned hsigned hne, hmod, Int.emod_eq_emod_iff_emod_sub_eq_zero,
      Int.dvd_iff_emod_eq_zero]

/-- A value goes through an integer with a sign that has at least its bits. -/
theorem convert_toSigned_of_le {t : IntegralType} {n : ℤ} (hn : t.Holds n) {k : ℕ}
    (hk : t.bits ≤ k) (hone : 1 < k) : t.convert (Cast.toSigned k n) = n := by
  by_cases hbool : t = bool
  · have hfits : Cast.FitsSigned k n := by
      subst hbool
      exact hn.fitsSigned hone
    rw [(Cast.toSigned_eq_self_iff (by omega)).mpr hfits, convert_of_holds hn]
  · by_cases hsigned : t.signed = true
    · rw [convert_of_signed hsigned, Cast.toSigned_toSigned hk, ← convert_of_signed hsigned,
        convert_of_holds hn]
    · rw [Bool.not_eq_true] at hsigned
      rw [convert_of_unsigned hsigned hbool, Cast.toUnsigned_toSigned hk,
        ← convert_of_unsigned hsigned hbool, convert_of_holds hn]

/-- It goes through one that has fewer bits if it is the extension of those. -/
theorem convert_toSigned_iff {t : IntegralType} {n : ℤ} (hn : t.Holds n) {k : ℕ} (hk : 0 < k)
    (hle : k ≤ t.bits) (hne : t ≠ bool) :
    t.convert (Cast.toSigned k n) = n ↔ Cast.FitsSigned k (Cast.toSigned t.bits n) := by
  by_cases hsigned : t.signed = true
  · have hfits : Cast.FitsSigned t.bits (Cast.toSigned k n) :=
      (Cast.fitsSigned_toSigned hk).mono hle
    have hself : Cast.toSigned t.bits n = n :=
      (Cast.toSigned_eq_self_iff t.bits_pos).mpr ((holds_of_signed hsigned).mp hn)
    rw [convert_of_signed hsigned, (Cast.toSigned_eq_self_iff t.bits_pos).mpr hfits, hself]
    exact Cast.toSigned_eq_self_iff hk
  · rw [Bool.not_eq_true] at hsigned
    rw [convert_of_unsigned hsigned hne]
    exact Cast.toUnsigned_toSigned_eq_iff hk hle ((holds_of_unsigned hsigned).mp hn)

end IntegralType

/-! ## Numbers -/

inductive NumberType
  | integral (t : IntegralType)
  | enum (underlying : IntegralType)
  deriving DecidableEq

namespace NumberType

/-- The type that has the values. -/
def underlying : NumberType → IntegralType
  | integral t => t
  | enum t => t

def valueType : NumberType → ValueType
  | integral t => .integral t
  | enum t => .enum t

end NumberType

theorem NumberType.holds_zero (t : NumberType) : t.underlying.Holds 0 := t.underlying.holds_zero

/-- A value of an integral type or of an enumeration. -/
structure Number (t : NumberType) where
  val : ℤ
  holds : t.underlying.Holds val

/-- A number that is converted to the type. -/
def Number.ofInt (t : NumberType) (n : ℤ) : Number t :=
  ⟨t.underlying.convert n, t.underlying.holds_convert n⟩

@[ext] theorem Number.ext {t : NumberType} {v w : Number t} (h : v.val = w.val) : v = w := by
  obtain ⟨n, hn⟩ := v
  obtain ⟨m, hm⟩ := w
  obtain rfl : n = m := h
  rfl

theorem Number.ofInt_val {t : NumberType} (v : Number t) : Number.ofInt t v.val = v :=
  Number.ext (IntegralType.convert_of_holds v.holds)

/-- A number that is converted to an integer with a sign, and then back to its type. -/
theorem Number.ofInt_toSigned_iff {t : NumberType} (v : Number t) {k : ℕ} (hk : 1 < k) :
    Number.ofInt t (Cast.toSigned k v.val) = v ↔ t.underlying.bits ≤ k ∨
      Cast.FitsSigned k (Cast.toSigned t.underlying.bits v.val) := by
  have hval : Number.ofInt t (Cast.toSigned k v.val) = v ↔
      t.underlying.convert (Cast.toSigned k v.val) = v.val :=
    ⟨congrArg Number.val, fun h ↦ Number.ext h⟩
  rw [hval]
  by_cases hle : t.underlying.bits ≤ k
  · exact iff_of_true (IntegralType.convert_toSigned_of_le v.holds hle hk) (.inl hle)
  · have hbool : t.underlying ≠ .bool := by
      intro h
      rw [h] at hle
      exact hle hk.le
    rw [or_iff_right hle]
    exact IntegralType.convert_toSigned_iff v.holds (by omega) (by omega) hbool

/-! ## Fields -/

theorem length_replicate_zero (N : ℕ) : (List.replicate N (0 : Byte)).length = N :=
  List.length_replicate

/-- The types of fields other than the floating-point ones. -/
inductive DiscreteType
  | number (t : NumberType)
  | string
  /-- `std::array<char, N>`. -/
  | charArray (N : ℕ)
  | blob

/-- The values of a type. -/
def DiscreteType.Value : DiscreteType → Type
  | number t => Number t
  | string => Bytes
  | charArray N => { text : Bytes // text.length = N }
  | blob => Bytes

/-- `U{}`. -/
def DiscreteType.zero : (t : DiscreteType) → t.Value
  | .number t => ⟨0, t.holds_zero⟩
  | .string => []
  | .charArray N => ⟨List.replicate N 0, length_replicate_zero N⟩
  | .blob => []

inductive DiscreteField
  | value (t : DiscreteType)
  | optional (t : DiscreteType)

/-- The values of a field, one more for an optional one. -/
def DiscreteField.Value : DiscreteField → Type
  | value t => t.Value
  | optional t => Option t.Value

end Ormpp
