import Ormpp.Bind.Escape
import Ormpp.Codec.Itoa
import Ormpp.Codec.Type
import Ormpp.Data.Numeral
import Ormpp.Query.Fidelity

/-!
# The PostgreSQL codec for numbers

The PostgreSQL backend sends a number as a text in a buffer of zeros, and reads the text of a column
with `atoi` or `atoll`. In between, the column takes what its type allows and gives it back: an
integer as its decimal notation, and a `char` as the one character that it is.
-/

namespace Ormpp

namespace Postgresql

/-! ## Columns -/

/-- The types of the columns for numbers; `char` is `character(1)`. -/
inductive ColumnType
  | smallint
  | integer
  | bigint
  | char
  deriving DecidableEq

def ColumnType.ofName (name : Bytes) : Option ColumnType :=
  if name = ascii "smallint" then some .smallint
  else if name = ascii "integer" then some .integer
  else if name = ascii "bigint" then some .bigint
  else if name = ascii "char" then some .char
  else none

/-- The fields that hold numbers. -/
inductive NumberField
  | value (t : NumberType)
  | optional (t : NumberType)

namespace NumberField

def fieldType : NumberField → FieldType
  | value t => .value t.valueType
  | optional t => .optional t.valueType

def Value : NumberField → Type
  | value t => Number t
  | optional t => Option (Number t)

end NumberField

/-- The type of the column for a field, if there is one. -/
def columnType (f : NumberField) : Option ColumnType :=
  (typeName .postgresql f.fieldType).bind ColumnType.ofName

/-- What a column holds that is not NULL. -/
inductive Stored
  | integer (n : ℤ)
  | character (c : Byte)
  deriving DecidableEq

/-- The input of an integer of a number of bits. -/
def integerInput (bits : ℕ) (text : Bytes) : Option Stored :=
  (Numeral.whole text).bind fun n ↦ if Cast.FitsSigned bits n then some (.integer n) else none

/-- The input of one character: no text is padded, blanks behind the character are cut off, and a
byte beyond ASCII is no character of its own. -/
def charInput : Bytes → Option Stored
  | [] => some (.character 0x20)
  | c :: rest => if c < 0x80 ∧ ∀ b ∈ rest, b = 0x20 then some (.character c) else none

/-- The value that the column takes from a text. -/
def ColumnType.input : ColumnType → Bytes → Option Stored
  | .smallint => integerInput 16
  | .integer => integerInput 32
  | .bigint => integerInput 64
  | .char => charInput

/-- What the column takes from a parameter, where a null pointer is NULL. -/
def ColumnType.take (col : ColumnType) : Option Bytes → Option (Option Stored)
  | none => some none
  | some text => (col.input text).map some

/-- The text that is returned for the value. -/
def Stored.output : Stored → Bytes
  | .integer n => intText n
  | .character c => [c]

/-! ## Sending -/

/-- `iguana::detail::to_chars`. An integer of one byte is converted to `int`. -/
def toChars (t : IntegralType) (n : ℤ) : Bytes :=
  if 64 ≤ t.bits then
    if t.signed then Itoa.xtoa n true else Itoa.xtoa (Cast.toSigned 64 n) false
  else if t.bits = 16 then
    if t.signed then Itoa.itoaSigned 0 n else Itoa.itoa 0 n.toNat
  else if t.bits = 32 then
    if t.signed then Itoa.itoaSigned 1 n else Itoa.itoa 1 n.toNat
  else Itoa.itoaSigned 1 n

/-- A vector of zeros with a text written to its front. -/
def buffer (size : ℕ) (text : Bytes) : Bytes := text ++ List.replicate (size - text.length) 0

/-- `set_param_values` for numbers. `is_int64_v` is false of every enumeration. -/
def numberBuffer : {t : NumberType} → Number t → Bytes
  | .enum _, v => buffer 20 (toChars .int (Cast.toSigned 32 v.val))
  | .integral t, v =>
    if t.isInt64 then buffer 65 (toChars t v.val)
    else if t = .char then buffer 20 [UInt8.ofNat (Cast.toUnsigned 8 v.val).toNat]
    else buffer 20 (toChars t v.val)

/-- The text that is sent, which is a C string. -/
def sentText {t : NumberType} (v : Number t) : Bytes := untilNul (numberBuffer v)

/-- `set_param_values`. The data of the vector that is new and empty is a null pointer. -/
def setParamValues : (f : NumberField) → f.Value → Option Bytes
  | .value _, v => some (sentText v)
  | .optional _, none => none
  | .optional _, some v => some (sentText v)

/-! ## Reading -/

/-- The functions of the C library that read numbers. For a number that does not fit the result
type the standard leaves the result open. -/
structure CLibrary where
  atoi : Bytes → ℤ
  atoll : Bytes → ℤ
  atoi_eq : ∀ text, Cast.FitsSigned 32 (Numeral.leading text) → atoi text = Numeral.leading text
  atoll_eq : ∀ text, Cast.FitsSigned 64 (Numeral.leading text) → atoll text = Numeral.leading text

/-- `assign` for numbers. -/
def readNumber (C : CLibrary) (text : Bytes) : (t : NumberType) → Number t
  | .enum t => .ofInt (.enum t) (C.atoi text)
  | .integral t => .ofInt (.integral t) (if t.isInt64 then C.atoll text else C.atoi text)

/-- `assign`. -/
def assign (C : CLibrary) : Option Bytes → (f : NumberField) → f.Value
  | none, .value t => ⟨0, t.holds_zero⟩
  | none, .optional _ => none
  | some text, .value t => readNumber C text t
  | some text, .optional t => some (readNumber C text t)

/-- The column takes what is sent for the value, and reading what it returns gives the value, with
every C library. -/
def RoundTrips (f : NumberField) (v : f.Value) : Prop :=
  ∀ col, columnType f = some col →
    ∃ cell, col.take (setParamValues f v) = some cell ∧
      ∀ C, assign C (cell.map Stored.output) f = v

/-! ## What is sent -/

theorem natText_toNat {n : ℤ} (h : 0 ≤ n) : natText n.toNat = intText n := by
  rw [Itoa.intText_eq, if_neg (Int.not_lt.mpr h), List.nil_append]
  congr 1
  omega

/-- **Numbers are written in decimal notation.** -/
theorem toChars_eq {t : IntegralType} {n : ℤ} (h : t.Holds n) : toChars t n = intText n := by
  have hbits := t.bits_cases
  by_cases hsigned : t.signed = true
  · have hfits : Cast.FitsSigned t.bits n := (IntegralType.holds_of_signed hsigned).mp h
    simp only [toChars, if_pos hsigned]
    split_ifs with h64 h16 h32
    · exact Itoa.xtoa_signed_eq (hfits.mono (by omega))
    · exact Itoa.itoaSigned_zero_eq (hfits.mono h16.le)
    · exact Itoa.itoaSigned_one_eq (hfits.mono h32.le)
    · exact Itoa.itoaSigned_one_eq (hfits.mono (by omega))
  · have hfits : Cast.FitsUnsigned t.bits n :=
      (IntegralType.holds_of_unsigned ((Bool.not_eq_true _).mp hsigned)).mp h
    obtain ⟨hlow, hhigh⟩ := hfits
    simp only [toChars, if_neg hsigned]
    split_ifs with h64 h16 h32
    · have heq : t.bits = 64 := by omega
      rw [heq] at hhigh
      exact Itoa.xtoa_unsigned_eq ⟨hlow, hhigh⟩
    · rw [h16] at hhigh
      rw [Itoa.itoa_zero_eq (by omega), natText_toNat hlow]
    · rw [h32] at hhigh
      rw [Itoa.itoa_one_eq (by omega), natText_toNat hlow]
    · have hpow : (2 : ℤ) ^ t.bits ≤ 2 ^ 8 := pow_le_pow_right₀ (by norm_num) (by omega)
      have hsmall : n < 2 ^ 8 := hhigh.trans_le hpow
      exact Itoa.itoaSigned_one_eq ⟨by omega, by omega⟩

theorem untilNul_buffer {text : Bytes} (h : NulFree text) (size : ℕ) :
    untilNul (buffer size text) = text := by
  have hwhole : ∀ b ∈ text, (b != 0) = true := by
    intro b hb
    refine bne_iff_ne.mpr ?_
    rintro rfl
    exact h hb
  rw [untilNul, buffer, List.takeWhile_append_of_pos hwhole, List.takeWhile_replicate,
    if_neg (by decide), List.append_nil]

/-- The number that is sent in decimal notation, for every type but `char`. -/
def sentNumber : {t : NumberType} → Number t → ℤ
  | .enum _, v => Cast.toSigned 32 v.val
  | .integral _, v => v.val

theorem sentText_eq {t : NumberType} (v : Number t) (h : t ≠ .integral .char) :
    sentText v = intText (sentNumber v) := by
  have hnul (n : ℤ) : NulFree (intText n) := (PlainValue.integer n).nulFree
  obtain t | t := t
  · have hchar : t ≠ .char := fun heq ↦ h (congrArg NumberType.integral heq)
    have hchars : toChars t v.val = intText v.val := toChars_eq v.holds
    rw [sentText, numberBuffer, if_neg hchar, hchars]
    split_ifs
    · exact untilNul_buffer (hnul v.val) 65
    · exact untilNul_buffer (hnul v.val) 20
  · have hchars : toChars .int (Cast.toSigned 32 v.val) = intText (Cast.toSigned 32 v.val) :=
      toChars_eq ((IntegralType.holds_of_signed rfl).mpr (Cast.fitsSigned_toSigned (by decide)))
    rw [sentText, numberBuffer, hchars]
    exact untilNul_buffer (hnul _) 20

/-- The byte of a `char`. -/
theorem toNat_charByte (n : ℤ) :
    ((UInt8.ofNat (Cast.toUnsigned 8 n).toNat).toNat : ℤ) = n % 256 := by
  obtain ⟨hlow, hhigh⟩ : Cast.FitsUnsigned 8 (Cast.toUnsigned 8 n) :=
    Cast.fitsUnsigned_toUnsigned
  rw [UInt8.toNat_ofNat', Nat.mod_eq_of_lt (by omega), Int.toNat_of_nonneg hlow]
  rfl

/-- A `char` is sent as itself, and a zero ends the text. -/
theorem sentText_char (v : Number (.integral .char)) :
    sentText v = if v.val = 0 then [] else [UInt8.ofNat (Cast.toUnsigned 8 v.val).toNat] := by
  have hbuffer : numberBuffer v = buffer 20 [UInt8.ofNat (Cast.toUnsigned 8 v.val).toNat] := rfl
  rw [sentText, hbuffer]
  split_ifs with hzero
  · rw [hzero]
    rfl
  · obtain ⟨hlow, hhigh⟩ : Cast.FitsSigned 8 v.val := (IntegralType.holds_of_signed rfl).mp v.holds
    refine untilNul_buffer (fun hmem ↦ hzero ?_) 20
    have hbyte := toNat_charByte v.val
    rw [← List.mem_singleton.mp hmem] at hbyte
    change 0 = v.val % 256 at hbyte
    omega

/-! ## What columns take -/

theorem integerInput_intText (bits : ℕ) (n : ℤ) :
    integerInput bits (intText n) = if Cast.FitsSigned bits n then some (.integer n) else none := by
  rw [integerInput, Numeral.whole_intText, Option.bind_some]

/-- A library that takes the nearest number that fits. -/
def CLibrary.saturating : CLibrary where
  atoi text := max (-2 ^ 31) (min (Numeral.leading text) (2 ^ 31 - 1))
  atoll text := max (-2 ^ 63) (min (Numeral.leading text) (2 ^ 63 - 1))
  atoi_eq := by
    rintro text ⟨hlow, hhigh⟩
    omega
  atoll_eq := by
    rintro text ⟨hlow, hhigh⟩
    omega

/-- One character of ASCII is taken as it is. -/
theorem charInput_singleton {c : Byte} (h : c < 0x80) : charInput [c] = some (.character c) :=
  if_pos ⟨h, List.forall_mem_nil _⟩

/-- A digit behind the first character is not cut off. -/
theorem charInput_of_isDigit {c d : Byte} {rest : Bytes} (hd : d ∈ rest) (h : isDigit d = true) :
    charInput (c :: rest) = none := by
  refine if_neg fun hblank ↦ ?_
  rw [hblank.2 d hd] at h
  exact absurd h (by decide)

theorem charInput_intText_of_lt {n : ℤ} (hlow : 0 ≤ n) (hhigh : n < 10) :
    ∃ s, charInput (intText n) = some s ∧ s.output = intText n := by
  obtain ⟨d, rfl⟩ := Int.eq_ofNat_of_zero_le hlow
  have hd : d < 10 := by omega
  have hdigit : intText d = [digit d] := natText_of_lt hd
  have hascii : digit d < 0x80 := by
    rw [digit, UInt8.lt_iff_toNat_lt, UInt8.toNat_ofNat']
    change (48 + d) % 256 < 128
    omega
  exact ⟨.character (digit d), by rw [hdigit, charInput_singleton hascii], hdigit.symm⟩

theorem charInput_intText_eq_none {n : ℤ} (h : n < 0 ∨ 10 ≤ n) : charInput (intText n) = none := by
  obtain n | n := n
  · have hten : 10 ≤ n := by
      rw [Int.ofNat_eq_natCast] at h
      omega
    obtain ⟨b, front, hfront, -⟩ := Numeral.exists_natText_cons (n / 10)
    have hlast : isDigit (digit (n % 10)) = true := by
      refine isDigit_of_mem_natText (n := n) ?_
      rw [natText_of_le hten]
      exact List.mem_append_right _ (List.mem_singleton_self _)
    rw [intText, natText_of_le hten, hfront]
    exact charInput_of_isDigit (List.mem_append_right front (List.mem_singleton_self _)) hlast
  · obtain ⟨b, text, htext, hb⟩ := Numeral.exists_natText_cons (n + 1)
    rw [intText, htext]
    exact charInput_of_isDigit List.mem_cons_self hb

section Integers

variable {t : NumberType} (v : Number t)

/-- The column takes the text of the number and returns one that is read as the number. -/
def Carries (col : ColumnType) : Prop :=
  ∃ s, col.input (sentText v) = some s ∧ ∀ C, readNumber C s.output t = v

/-- A column of integers takes the numbers that fit it. -/
theorem carries_iff_of_integerInput {col : ColumnType} {bits : ℕ}
    (hinput : col.input = integerInput bits) (hchar : t ≠ .integral .char) :
    Carries v col ↔ Cast.FitsSigned bits (sentNumber v) ∧
      ∀ C, readNumber C (intText (sentNumber v)) t = v := by
  rw [Carries, hinput, sentText_eq v hchar, integerInput_intText]
  split_ifs with hfits
  · rw [and_iff_right hfits]
    constructor
    · rintro ⟨s, hs, hread⟩
      obtain rfl := Option.some_inj.mp hs
      exact hread
    · intro hread
      exact ⟨_, rfl, hread⟩
  · refine iff_of_false ?_ fun h ↦ hfits h.1
    rintro ⟨s, hs, -⟩
    exact nomatch hs

end Integers

/-! ## What is read -/

theorem readNumber_intText (C : CLibrary) (t : NumberType) {n : ℤ} (h : Cast.FitsSigned 32 n) :
    readNumber C (intText n) t = .ofInt t n := by
  have hatoi : C.atoi (intText n) = n := by
    rw [C.atoi_eq _ (by rwa [Numeral.leading_intText]), Numeral.leading_intText]
  have hlong : Cast.FitsSigned 64 (Numeral.leading (intText n)) := by
    rw [Numeral.leading_intText]
    exact h.mono (by norm_num)
  have hatoll : C.atoll (intText n) = n := by rw [C.atoll_eq _ hlong, Numeral.leading_intText]
  obtain t | t := t
  · rw [readNumber, hatoi, hatoll, ite_self]
  · rw [readNumber, hatoi]

theorem readNumber_intText_of_isInt64 (C : CLibrary) {t : IntegralType} (ht : t.isInt64 = true)
    {n : ℤ} (h : Cast.FitsSigned 64 n) :
    readNumber C (intText n) (.integral t) = .ofInt (.integral t) n := by
  have hatoll : C.atoll (intText n) = n := by
    rw [C.atoll_eq _ (by rwa [Numeral.leading_intText]), Numeral.leading_intText]
  rw [readNumber, if_pos ht, hatoll]

theorem ofInt_val {t : NumberType} (v : Number t) : Number.ofInt t v.val = v :=
  Number.ext (IntegralType.convert_of_holds v.holds)

/-! ## Types and columns -/

theorem columnType_enum (t : IntegralType) : columnType (.value (.enum t)) = some .integer := rfl

theorem columnType_integral (t : IntegralType) : columnType (.value (.integral t)) = match t with
    | .bool | .int | .uint16 => some .integer
    | .short | .uint8 => some .smallint
    | .uint32 | .int64 | .uint64 => some .bigint
    | .char | .int8 => some .char
    | .longLong | .unsignedLongLong => none := by
  rcases t with _ | _ | _ | _ | _ | _ | _ | _ | _ | _ | _ | _ <;> rfl

/-! ## What comes back -/

/-- A number has no more bits than an `int`, or it is the extension of those; a `char` is zero, an
`int8_t` has one digit and no sign, and an unsigned number fits the same number of bits with a
sign. -/
def Kept : {t : NumberType} → Number t → Prop
  | .enum t, v => t.bits ≤ 32 ∨ Cast.FitsSigned 32 (Cast.toSigned t.bits v.val)
  | .integral .char, v => v.val = 0
  | .integral .int8, v => 0 ≤ v.val ∧ v.val < 10
  | .integral .uint32, v => v.val < 2 ^ 31
  | .integral .uint64, v => v.val < 2 ^ 63
  | .integral _, _ => True

/-- An enumeration has a column only in a field that is not optional. -/
def FieldKept : (f : NumberField) → f.Value → Prop
  | .value _, v => Kept v
  | .optional (.enum _), _ => True
  | .optional (.integral _), none => True
  | .optional (.integral _), some v => Kept v

/-! ## Numbers -/

/-- A number that fits both the column and an `int`. -/
theorem carries_of_fits {t : NumberType} (v : Number t) {col : ColumnType} {bits : ℕ}
    (hinput : col.input = integerInput bits) (hchar : t ≠ .integral .char)
    (hsent : sentNumber v = v.val) (hcolumn : Cast.FitsSigned bits v.val)
    (hread : Cast.FitsSigned 32 v.val) : Carries v col := by
  refine (carries_iff_of_integerInput v hinput hchar).mpr ⟨by rwa [hsent], fun C ↦ ?_⟩
  rw [hsent, readNumber_intText C t hread, ofInt_val]

/-- An enumerator goes through an `int`. -/
theorem carries_enum {t : IntegralType} (v : Number (.enum t)) :
    Carries v .integer ↔ Kept v := by
  have hfits : Cast.FitsSigned 32 (sentNumber v) := Cast.fitsSigned_toSigned (by norm_num)
  have hread (C : CLibrary) :
      readNumber C (intText (sentNumber v)) (.enum t) = .ofInt (.enum t) (sentNumber v) :=
    readNumber_intText C _ hfits
  rw [carries_iff_of_integerInput v rfl nofun, and_iff_right hfits]
  refine Iff.trans ?_ (Number.ofInt_toSigned_iff v (by norm_num))
  constructor
  · intro h
    exact (hread .saturating).symm.trans (h .saturating)
  · intro h C
    exact (hread C).trans h

theorem carries_int64 {t : IntegralType} (v : Number (.integral t)) (ht : t.isInt64 = true) :
    Carries v .bigint ↔ Cast.FitsSigned 64 v.val := by
  have hchar : t ≠ .char := by
    rintro rfl
    exact absurd ht (by decide)
  rw [carries_iff_of_integerInput v rfl fun h ↦ hchar (NumberType.integral.inj h)]
  refine and_iff_left_of_imp fun hfits C ↦ ?_
  exact (readNumber_intText_of_isInt64 C ht hfits).trans (ofInt_val v)

/-- What does not fit an `int` is read as another number by some library. -/
theorem carries_uint32 (v : Number (.integral .uint32)) : Carries v .bigint ↔ v.val < 2 ^ 31 := by
  have hunsigned : Cast.FitsUnsigned 32 v.val := (IntegralType.holds_of_unsigned rfl).mp v.holds
  obtain ⟨hlow, hhigh⟩ := hunsigned
  constructor
  · intro h
    by_contra hout
    have hread : readNumber .saturating (intText v.val) (.integral .uint32) = v :=
      ((carries_iff_of_integerInput v rfl nofun).mp h).2 .saturating
    have hatoi : CLibrary.saturating.atoi (intText v.val) = 2 ^ 31 - 1 := by
      change max (-2 ^ 31) (min (Numeral.leading (intText v.val)) (2 ^ 31 - 1)) = _
      rw [Numeral.leading_intText]
      omega
    have hval : IntegralType.uint32.convert (CLibrary.saturating.atoi (intText v.val)) = v.val :=
      congrArg Number.val hread
    rw [hatoi, IntegralType.convert_of_holds (by decide)] at hval
    omega
  · intro h
    have hread : Cast.FitsSigned 32 v.val := ⟨by omega, h⟩
    exact carries_of_fits v rfl nofun rfl (hread.mono (by norm_num)) hread

/-- One character takes one digit. -/
theorem carries_int8 (v : Number (.integral .int8)) :
    Carries v .char ↔ 0 ≤ v.val ∧ v.val < 10 := by
  have hsent : sentText v = intText v.val := sentText_eq v nofun
  rw [Carries, hsent]
  constructor
  · rintro ⟨s, hs, -⟩
    by_contra hout
    have hnone : charInput (intText v.val) = none := charInput_intText_eq_none (by omega)
    exact nomatch hnone.symm.trans hs
  · rintro ⟨hlow, hhigh⟩
    obtain ⟨s, hs, houtput⟩ := charInput_intText_of_lt hlow hhigh
    refine ⟨s, hs, fun C ↦ ?_⟩
    rw [houtput, readNumber_intText C _ (v.holds.fitsSigned (by decide)), ofInt_val]

/-- A character is read as a number, which it is not. -/
theorem carries_char (v : Number (.integral .char)) : Carries v .char ↔ v.val = 0 := by
  have hsigned : Cast.FitsSigned 8 v.val := (IntegralType.holds_of_signed rfl).mp v.holds
  obtain ⟨hlow, hhigh⟩ := hsigned
  rw [Carries, sentText_char]
  split_ifs with hzero
  · refine iff_of_true ⟨.character 0x20, rfl, fun C ↦ Number.ext ?_⟩ hzero
    have hblank : C.atoi [0x20] = 0 := C.atoi_eq [0x20] (by decide)
    change IntegralType.char.convert (C.atoi [0x20]) = v.val
    rw [hblank, hzero]
    rfl
  · refine iff_of_false ?_ hzero
    have hbyte := toNat_charByte v.val
    generalize UInt8.ofNat (Cast.toUnsigned 8 v.val).toNat = b at hbyte ⊢
    rintro ⟨s, hs, hread⟩
    by_cases hascii : b < 0x80
    · obtain rfl := Option.some_inj.mp ((charInput_singleton hascii).symm.trans hs)
      rw [UInt8.lt_iff_toNat_lt] at hascii
      change b.toNat < 128 at hascii
      have hb : b ≠ 0 := by
        rintro rfl
        change 0 = v.val % 256 at hbyte
        omega
      have hpos : 0 ≤ Numeral.leading [b] := Numeral.leading_singleton_nonneg b
      have hlt : Numeral.leading [b] < b.toNat := Numeral.leading_singleton_lt hb
      have hfits : Cast.FitsSigned 8 (Numeral.leading [b]) := ⟨by omega, by omega⟩
      have hatoi : CLibrary.saturating.atoi [b] = Numeral.leading [b] :=
        CLibrary.saturating.atoi_eq [b] (hfits.mono (by norm_num))
      have hval : IntegralType.char.convert (CLibrary.saturating.atoi [b]) = v.val :=
        congrArg Number.val (hread .saturating)
      have hholds : IntegralType.char.Holds (Numeral.leading [b]) :=
        (IntegralType.holds_of_signed rfl).mpr hfits
      rw [hatoi, IntegralType.convert_of_holds hholds] at hval
      omega
    · have hnone : charInput [b] = none := if_neg fun h ↦ hascii h.1
      exact nomatch hnone.symm.trans hs

/-- The column of a type carries the numbers that are kept. -/
theorem carries_iff {t : NumberType} (v : Number t) {col : ColumnType}
    (hcol : columnType (.value t) = some col) : Carries v col ↔ Kept v := by
  obtain t | t := t
  · rw [columnType_integral] at hcol
    cases t with
    | bool =>
      obtain rfl := Option.some_inj.mp hcol
      have hfits : Cast.FitsSigned 32 v.val := v.holds.fitsSigned (by decide)
      exact iff_of_true (carries_of_fits v rfl nofun rfl hfits hfits) trivial
    | char =>
      obtain rfl := Option.some_inj.mp hcol
      exact carries_char v
    | int8 =>
      obtain rfl := Option.some_inj.mp hcol
      exact carries_int8 v
    | uint8 =>
      obtain rfl := Option.some_inj.mp hcol
      have hfits : Cast.FitsSigned 16 v.val := v.holds.fitsSigned (by decide)
      exact iff_of_true (carries_of_fits v rfl nofun rfl hfits (hfits.mono (by norm_num))) trivial
    | short =>
      obtain rfl := Option.some_inj.mp hcol
      have hfits : Cast.FitsSigned 16 v.val := (IntegralType.holds_of_signed rfl).mp v.holds
      exact iff_of_true (carries_of_fits v rfl nofun rfl hfits (hfits.mono (by norm_num))) trivial
    | uint16 =>
      obtain rfl := Option.some_inj.mp hcol
      have hfits : Cast.FitsSigned 32 v.val := v.holds.fitsSigned (by decide)
      exact iff_of_true (carries_of_fits v rfl nofun rfl hfits hfits) trivial
    | int =>
      obtain rfl := Option.some_inj.mp hcol
      have hfits : Cast.FitsSigned 32 v.val := (IntegralType.holds_of_signed rfl).mp v.holds
      exact iff_of_true (carries_of_fits v rfl nofun rfl hfits hfits) trivial
    | uint32 =>
      obtain rfl := Option.some_inj.mp hcol
      exact carries_uint32 v
    | int64 =>
      obtain rfl := Option.some_inj.mp hcol
      have hfits : Cast.FitsSigned 64 v.val := (IntegralType.holds_of_signed rfl).mp v.holds
      exact iff_of_true ((carries_int64 v rfl).mpr hfits) trivial
    | uint64 =>
      obtain rfl := Option.some_inj.mp hcol
      have hfits : Cast.FitsUnsigned 64 v.val := (IntegralType.holds_of_unsigned rfl).mp v.holds
      exact (carries_int64 v rfl).trans (and_iff_right (le_trans (by norm_num) hfits.1))
    | longLong => exact nomatch hcol
    | unsignedLongLong => exact nomatch hcol
  · rw [columnType_enum] at hcol
    obtain rfl := Option.some_inj.mp hcol
    exact carries_enum v

theorem kept_of_columnType_eq_none {t : NumberType} (h : columnType (.value t) = none)
    (v : Number t) : Kept v := by
  obtain t | t := t
  · rw [columnType_integral] at h
    cases t with
    | longLong => trivial
    | unsignedLongLong => trivial
    | _ => exact nomatch h
  · exact nomatch (columnType_enum t).symm.trans h

/-! ## Fields -/

/-- What the column takes from a parameter that is not NULL. -/
theorem exists_take_iff {col : ColumnType} {text : Bytes} {P : Option Stored → Prop} :
    (∃ cell, col.take (some text) = some cell ∧ P cell) ↔
      ∃ s, col.input text = some s ∧ P (some s) := by
  constructor
  · rintro ⟨cell, hcell, hP⟩
    obtain ⟨s, hs, rfl⟩ := Option.map_eq_some_iff.mp hcell
    exact ⟨s, hs, hP⟩
  · rintro ⟨s, hs, hP⟩
    exact ⟨some s, Option.map_eq_some_iff.mpr ⟨s, hs, rfl⟩, hP⟩

theorem roundTrips_iff_of_column {f : NumberField} {v : f.Value} {col : ColumnType}
    (hcol : columnType f = some col) :
    RoundTrips f v ↔ ∃ cell, col.take (setParamValues f v) = some cell ∧
      ∀ C, assign C (cell.map Stored.output) f = v := by
  constructor
  · intro h
    exact h col hcol
  · intro h col' hcol'
    obtain rfl : col = col' := Option.some_inj.mp (hcol.symm.trans hcol')
    exact h

theorem roundTrips_of_columnType_eq_none {f : NumberField} (h : columnType f = none) (v : f.Value) :
    RoundTrips f v := by
  intro col hcol
  exact nomatch h.symm.trans hcol

theorem roundTrips_value_iff {t : NumberType} (v : Number t) :
    RoundTrips (.value t) v ↔ Kept v := by
  rcases hcol : columnType (.value t) with _ | col
  · exact iff_of_true (roundTrips_of_columnType_eq_none hcol v) (kept_of_columnType_eq_none hcol v)
  · exact (roundTrips_iff_of_column hcol).trans (exists_take_iff.trans (carries_iff v hcol))

theorem roundTrips_some_iff {t : IntegralType} (v : Number (.integral t)) :
    RoundTrips (.optional (.integral t)) (some v) ↔ Kept v := by
  have hvalue : columnType (.optional (.integral t)) = columnType (.value (.integral t)) := rfl
  rcases hcol : columnType (.value (.integral t)) with _ | col
  · exact iff_of_true (roundTrips_of_columnType_eq_none (hvalue.trans hcol) _)
      (kept_of_columnType_eq_none hcol v)
  · refine (roundTrips_iff_of_column (hvalue.trans hcol)).trans
      (exists_take_iff.trans (Iff.trans ?_ (carries_iff v hcol)))
    exact exists_congr fun s ↦ and_congr_right fun _ ↦ forall_congr' fun C ↦ Option.some_inj

theorem roundTrips_none (t : NumberType) : RoundTrips (.optional t) none := by
  intro col _
  exact ⟨none, rfl, fun _ ↦ rfl⟩

/-- **The PostgreSQL codec.** A number comes back exactly when it is kept. -/
theorem comesBack_iff (f : NumberField) (v : f.Value) : RoundTrips f v ↔ FieldKept f v := by
  obtain t | t := f
  · exact roundTrips_value_iff v
  · obtain _ | v := v
    · refine iff_of_true (roundTrips_none t) ?_
      obtain t | t := t <;> trivial
    · obtain t | t := t
      · exact roundTrips_some_iff v
      · exact iff_of_true (roundTrips_of_columnType_eq_none rfl _) trivial

/-- A letter is no number. -/
theorem not_comesBack : ¬ ∀ (f : NumberField) (v : f.Value), RoundTrips f v := by
  intro h
  obtain ⟨cell, hcell, hread⟩ := h (.value (.integral .char)) ⟨97, by decide⟩ .char (by decide)
  obtain rfl : some (.character 97) = cell := Option.some_inj.mp hcell
  exact absurd (congrArg Number.val (hread .saturating)) (by decide)

end Postgresql

end Ormpp
