import Ormpp.Codec.CString
import Ormpp.Codec.Postgresql

/-!
# Parameters of PostgreSQL

`PQexecPrepared` is given its parameters as texts without their lengths, so that each of them goes
up to its first NUL. `set_param_values` has a buffer of its own for every type: a number is written
to the front of a fixed number of zeros, a text is copied with the byte behind it, and an array of
C or a vector of bytes without that. A value is sent as a whole where the buffer has a NUL, and all
of the value is in front of it.
-/

namespace Ormpp

namespace Postgresql

/-- The types that `set_param_values` takes, other than the floating-point ones. -/
inductive ParamType
  | number (t : NumberType)
  | string
  | stringView
  /-- `std::array<char, N>`. -/
  | stdArray (N : ℕ)
  /-- `char[N]`. -/
  | cArray (N : ℕ)
  | blob

def ParamType.Value : ParamType → Type
  | number t => Number t
  | string | stringView | blob => Bytes
  | stdArray N | cArray N => { text : Bytes // text.length = N }

inductive ParamField
  | value (t : ParamType)
  | optional (t : ParamType)

def ParamField.Value : ParamField → Type
  | value t => t.Value
  | optional t => Option t.Value

/-! ## The buffers -/

/-- What is copied from `data()` to `data() + size() + 1`. -/
def copyWithNext (next : Byte) (text : Bytes) : Bytes := text ++ [next]

/-- The vector that `set_param_values` makes of a value. A string has its terminator behind it, but
behind a view or an array there is any byte. -/
def paramBuffer (behind : Byte) : (t : ParamType) → t.Value → Bytes
  | .number _, v => numberBuffer v
  | .string, text => copyWithNext 0 text
  | .stringView, text => copyWithNext behind text
  | .stdArray _, text => copyWithNext behind text.val
  | .cArray _, text => text.val
  | .blob, bytes => bytes

/-- `set_param_values`. -/
def paramValues (behind : Byte) : (f : ParamField) → f.Value → Bytes
  | .value t, v => paramBuffer behind t v
  | .optional _, none => []
  | .optional t, some v => paramBuffer behind t v

/-- `item.data()`, which is a null pointer for a vector without elements. -/
def dataPointer (item : Bytes) : Option Bytes := if item = [] then none else some item

/-! ## What is asked for -/

/-- The byte of a `char`. -/
def charByte (n : ℤ) : Byte := UInt8.ofNat (Cast.toUnsigned 8 n).toNat

/-- The text stands for all of the value. A `char` is a text of one byte, and zeros fill an
array. -/
def ParamType.Represents : (t : ParamType) → t.Value → Bytes → Prop
  | .number (.integral .char), v, text => PaddedTo [charByte v.val] text
  | .number _, v, text => text = intText v.val
  | .string, value, text | .stringView, value, text | .blob, value, text => text = value
  | .stdArray _, value, text | .cArray _, value, text => PaddedTo value.val text

/-- The buffer has a NUL, and what is in front of the first one stands for the value. -/
def ParamType.CarriedBy (t : ParamType) (v : t.Value) (buffer : Bytes) : Prop :=
  0 ∈ buffer ∧ t.Represents v (untilNul buffer)

/-- The pointer is null for the optional without a value alone, and otherwise points to a buffer
that carries the value. -/
def SentWhole (behind : Byte) : (f : ParamField) → f.Value → Prop
  | .value t, v => ∃ buffer, dataPointer (paramValues behind (.value t) v) = some buffer ∧
      t.CarriedBy v buffer
  | .optional t, none => dataPointer (paramValues behind (.optional t) none) = none
  | .optional t, some v => ∃ buffer, dataPointer (paramValues behind (.optional t) (some v))
      = some buffer ∧ t.CarriedBy v buffer

/-! ## When it holds -/

/-- An enumerator is an `int`, a `long long` has less than twenty bytes of text; a text has no NUL,
and that of an array has nothing behind it; behind a view, and behind an array that is full, there
is a NUL. A vector of bytes has no place for one. -/
def Sendable (behind : Byte) : (t : ParamType) → t.Value → Prop
  | .number (.enum _), v => Cast.FitsSigned 32 v.val
  | .number (.integral .longLong), v => -10 ^ 18 < v.val
  | .number (.integral .unsignedLongLong), v => v.val < 10 ^ 19
  | .number (.integral _), _ => True
  | .string, text => NulFree text
  | .stringView, text => NulFree text ∧ behind = 0
  | .stdArray _, text => ZerosBehind text.val ∧ (0 ∈ text.val ∨ behind = 0)
  | .cArray _, text => ZerosBehind text.val ∧ 0 ∈ text.val
  | .blob, _ => False

def FieldSendable (behind : Byte) : (f : ParamField) → f.Value → Prop
  | .value t, v => Sendable behind t v
  | .optional _, none => True
  | .optional t, some v => Sendable behind t v

/-! ## Texts -/

theorem dataPointer_of_ne_nil {item : Bytes} (h : item ≠ []) : dataPointer item = some item :=
  if_neg h

/-- Nothing is carried where there is no buffer. -/
theorem carried_iff {t : ParamType} {v : t.Value} {item : Bytes} :
    (∃ buffer, dataPointer item = some buffer ∧ t.CarriedBy v buffer) ↔ t.CarriedBy v item := by
  constructor
  · rintro ⟨buffer, hpointer, hcarried⟩
    rw [dataPointer] at hpointer
    split_ifs at hpointer
    rwa [Option.some_inj.mp hpointer]
  · intro h
    exact ⟨item, dataPointer_of_ne_nil (List.ne_nil_of_mem h.1), h⟩

/-! ## Numbers -/

theorem mem_buffer_iff {text : Bytes} (h : NulFree text) (size : ℕ) :
    0 ∈ buffer size text ↔ text.length < size := by
  rw [buffer, List.mem_append, or_iff_right h, List.mem_replicate, and_iff_left rfl, ne_eq,
    Nat.sub_eq_zero_iff_le, Nat.not_le]

theorem nulFree_intText (n : ℤ) : NulFree (intText n) := (PlainValue.integer n).nulFree

/-- The numbers that twenty bytes have room for with a NUL behind them. -/
theorem length_intText_lt_twenty {n : ℤ} :
    (intText n).length < 20 ↔ -10 ^ 18 < n ∧ n < 10 ^ 19 :=
  Nat.lt_succ_iff.trans (length_intText_le_iff (by decide))

theorem carriedBy_number {t : NumberType} (v : Number t) (h : t ≠ .integral .char) {size : ℕ}
    (hbuffer : numberBuffer v = buffer size (intText (sentNumber v))) :
    (ParamType.number t).CarriedBy v (numberBuffer v) ↔
      (intText (sentNumber v)).length < size ∧ sentNumber v = v.val := by
  have hrepresents : (ParamType.number t).Represents v (untilNul (numberBuffer v)) ↔
      intText (sentNumber v) = intText v.val := by
    have htext : untilNul (numberBuffer v) = intText (sentNumber v) := sentText_eq v h
    rw [htext]
    obtain t | t := t
    · rcases t with _ | _ | _ | _ | _ | _ | _ | _ | _ | _ | _ | _
      all_goals first | exact absurd rfl h | exact Iff.rfl
    · exact Iff.rfl
  have hinjective : intText (sentNumber v) = intText v.val ↔ sentNumber v = v.val := by
    refine ⟨fun heq ↦ ?_, congrArg intText⟩
    have hwhole := congrArg Numeral.whole heq
    rw [Numeral.whole_intText, Numeral.whole_intText] at hwhole
    exact Option.some_inj.mp hwhole
  have hmem : 0 ∈ numberBuffer v ↔ (intText (sentNumber v)).length < size := by
    rw [hbuffer, mem_buffer_iff (nulFree_intText (sentNumber v))]
  exact and_congr hmem (hrepresents.trans hinjective)

theorem carriedBy_enum {t : IntegralType} (v : Number (.enum t)) :
    (ParamType.number (.enum t)).CarriedBy v (numberBuffer v) ↔ Cast.FitsSigned 32 v.val := by
  have hfits : Cast.FitsSigned 32 (sentNumber v) := Cast.fitsSigned_toSigned (by norm_num)
  have hbuffer : numberBuffer v = buffer 20 (intText (sentNumber v)) :=
    congrArg (buffer 20) (toChars_eq ((IntegralType.holds_of_signed rfl).mpr hfits))
  have hlength : (intText (sentNumber v)).length < 20 := by
    obtain ⟨hlow, hhigh⟩ := hfits
    exact length_intText_lt_twenty.mpr ⟨by norm_num at hlow ⊢; omega, by norm_num at hhigh ⊢; omega⟩
  rw [carriedBy_number v nofun hbuffer, and_iff_right hlength]
  exact Cast.toSigned_eq_self_iff (by norm_num)

theorem carriedBy_integral {t : IntegralType} (v : Number (.integral t)) (h : t ≠ .char) :
    (ParamType.number (.integral t)).CarriedBy v (numberBuffer v) ↔
      (intText v.val).length < if t.isInt64 then 65 else 20 := by
  have hchar : NumberType.integral t ≠ .integral .char :=
    fun heq ↦ h (NumberType.integral.inj heq)
  have hbuffer : numberBuffer v = buffer (if t.isInt64 then 65 else 20) (intText v.val) := by
    have hchars : toChars t v.val = intText v.val := toChars_eq v.holds
    rw [numberBuffer, if_neg h, hchars]
    split_ifs <;> rfl
  rw [carriedBy_number v hchar hbuffer]
  exact and_iff_left rfl

/-- A number of 32 bits has room in twenty bytes. -/
theorem carriedBy_of_bits_le {t : IntegralType} (v : Number (.integral t)) (h : t ≠ .char)
    (hbits : t.bits ≤ 32) :
    (ParamType.number (.integral t)).CarriedBy v (numberBuffer v) := by
  have hholds : t.Holds v.val := v.holds
  obtain ⟨hlow, hhigh⟩ : Cast.FitsSigned 33 v.val := hholds.fitsSigned (by omega)
  norm_num at hlow hhigh
  have hlength : (intText v.val).length < 20 :=
    length_intText_lt_twenty.mpr ⟨by norm_num; omega, by norm_num; omega⟩
  rw [carriedBy_integral v h]
  split_ifs <;> omega

/-- The sixty-five bytes have room for every number of 64 bits. -/
theorem carriedBy_of_isInt64 {t : IntegralType} (v : Number (.integral t)) (h : t ≠ .char)
    (hint64 : t.isInt64 = true) :
    (ParamType.number (.integral t)).CarriedBy v (numberBuffer v) := by
  have hbits : t.bits < 65 := by
    obtain hbits | hbits | hbits | hbits := t.bits_cases <;> omega
  obtain ⟨hlow, hhigh⟩ : Cast.FitsSigned 65 v.val := v.holds.fitsSigned hbits
  norm_num at hlow hhigh
  have hlength : (intText v.val).length ≤ 20 + 1 :=
    (length_intText_le_iff (by decide)).mpr ⟨by norm_num; omega, by norm_num; omega⟩
  rw [carriedBy_integral v h, if_pos hint64]
  omega

theorem carriedBy_char (v : Number (.integral .char)) :
    (ParamType.number (.integral .char)).CarriedBy v (numberBuffer v) := by
  have hbuffer : numberBuffer v = [charByte v.val] ++ List.replicate 19 0 := rfl
  have htext : untilNul (numberBuffer v) = untilNul [charByte v.val] := by
    by_cases hzero : charByte v.val = 0
    · rw [hbuffer, hzero]
      rfl
    · have hfree : NulFree [charByte v.val] := fun hmem ↦ hzero (List.mem_singleton.mp hmem).symm
      rw [hbuffer, untilNul_eq_iff.mpr hfree]
      exact untilNul_append_nul hfree _
  refine ⟨hbuffer ▸ List.mem_append_right _ (by decide), ?_⟩
  change PaddedTo [charByte v.val] (untilNul (numberBuffer v))
  rw [htext, paddedTo_untilNul_iff]
  by_cases hzero : charByte v.val = 0
  · rw [hzero]
    exact ⟨[], List.not_mem_nil, 1, rfl⟩
  · exact zerosBehind_of_nulFree fun hmem ↦ hzero (List.mem_singleton.mp hmem).symm

theorem carriedBy_number_iff (behind : Byte) (t : NumberType) (v : Number t) :
    (ParamType.number t).CarriedBy v (numberBuffer v) ↔ Sendable behind (.number t) v := by
  obtain t | t := t
  · have hroom (h : t ≠ .char) (hbits : t.bits ≤ 32) :=
      iff_of_true (carriedBy_of_bits_le v h hbits) trivial
    have hwide (h : t ≠ .char) (hint64 : t.isInt64 = true) :=
      iff_of_true (carriedBy_of_isInt64 v h hint64) trivial
    rcases t with _ | _ | _ | _ | _ | _ | _ | _ | _ | _ | _ | _
    case char => exact iff_of_true (carriedBy_char v) trivial
    case int64 | uint64 => exact hwide nofun rfl
    case longLong =>
      obtain ⟨-, hhigh⟩ : Cast.FitsSigned 64 v.val := (IntegralType.holds_of_signed rfl).mp v.holds
      norm_num at hhigh
      rw [carriedBy_integral v nofun]
      exact length_intText_lt_twenty.trans (and_iff_left (by norm_num; omega))
    case unsignedLongLong =>
      obtain ⟨hlow, -⟩ : Cast.FitsUnsigned 64 v.val :=
        (IntegralType.holds_of_unsigned rfl).mp v.holds
      rw [carriedBy_integral v nofun]
      exact length_intText_lt_twenty.trans (and_iff_right (by norm_num; omega))
    all_goals exact hroom nofun (by decide)
  · exact carriedBy_enum v

/-! ## Texts and bytes -/

theorem carriedBy_string (text : Bytes) :
    ParamType.string.CarriedBy text (text ++ [0]) ↔ NulFree text := by
  have hmem : (0 : Byte) ∈ text ++ [0] := List.mem_append_right _ (List.mem_singleton_self _)
  change 0 ∈ text ++ [0] ∧ untilNul (text ++ [0]) = text ↔ _
  rw [and_iff_right hmem]
  constructor
  · intro h
    rw [← h]
    exact nulFree_untilNul _
  · intro h
    exact untilNul_append_nul h []

theorem carriedBy_stringView (behind : Byte) (text : Bytes) :
    ParamType.stringView.CarriedBy text (text ++ [behind]) ↔ NulFree text ∧ behind = 0 := by
  constructor
  · rintro ⟨hmem, htext⟩
    change untilNul (text ++ [behind]) = text at htext
    have hfree : NulFree text := htext ▸ nulFree_untilNul _
    obtain hmem | hmem := List.mem_append.mp hmem
    · exact absurd hmem hfree
    · exact ⟨hfree, (List.mem_singleton.mp hmem).symm⟩
  · rintro ⟨hfree, rfl⟩
    exact (carriedBy_string text).mpr hfree

/-- What is behind an array counts where the array has no zero. -/
theorem carriedBy_stdArray (behind : Byte) {N : ℕ} (text : { text : Bytes // text.length = N }) :
    (ParamType.stdArray N).CarriedBy text (text.val ++ [behind]) ↔
      ZerosBehind text.val ∧ (0 ∈ text.val ∨ behind = 0) := by
  have hmem : 0 ∈ text.val ++ [behind] ↔ 0 ∈ text.val ∨ behind = 0 := by
    rw [List.mem_append, List.mem_singleton, eq_comm (a := (0 : Byte))]
  change 0 ∈ text.val ++ [behind] ∧ PaddedTo text.val (untilNul (text.val ++ [behind])) ↔ _
  rw [hmem, and_comm]
  refine and_congr_left fun hzero ↦ ?_
  by_cases hfree : NulFree text.val
  · obtain rfl := hzero.resolve_left hfree
    rw [untilNul_append_nul hfree]
    exact iff_of_true (paddedTo_self text.val) (zerosBehind_of_nulFree hfree)
  · rw [untilNul_append_of_mem (not_not.mp hfree), paddedTo_untilNul_iff]

theorem carriedBy_cArray {N : ℕ} (text : { text : Bytes // text.length = N }) :
    (ParamType.cArray N).CarriedBy text text.val ↔ ZerosBehind text.val ∧ 0 ∈ text.val := by
  change 0 ∈ text.val ∧ PaddedTo text.val (untilNul text.val) ↔ _
  rw [paddedTo_untilNul_iff, and_comm]

/-- What is in front of a NUL is not all of the bytes. -/
theorem not_carriedBy_blob (bytes : Bytes) : ¬ ParamType.blob.CarriedBy bytes bytes := by
  rintro ⟨hmem, htext⟩
  exact untilNul_eq_iff.mp htext hmem

theorem carriedBy_iff (behind : Byte) (t : ParamType) (v : t.Value) :
    t.CarriedBy v (paramBuffer behind t v) ↔ Sendable behind t v := by
  rcases t with t | _ | _ | N | N | _
  · exact carriedBy_number_iff behind t v
  · exact carriedBy_string v
  · exact carriedBy_stringView behind v
  · exact carriedBy_stdArray behind v
  · exact carriedBy_cArray v
  · exact iff_of_false (not_carriedBy_blob v) id

/-- **Parameters of PostgreSQL.** A value is sent as a whole exactly where its buffer ends in a NUL
behind all of it; an optional without a value is always a null pointer. -/
theorem sentWhole_iff (behind : Byte) (f : ParamField) (v : f.Value) :
    SentWhole behind f v ↔ FieldSendable behind f v := by
  obtain t | t := f
  · exact carried_iff.trans (carriedBy_iff behind t v)
  · rcases v with _ | v
    · exact iff_of_true rfl trivial
    · exact carried_iff.trans (carriedBy_iff behind t v)

/-- A full array of one `a` in front of a `b` in memory has no NUL in its buffer, and no vector of
bytes has one; the empty one is NULL. -/
theorem not_sentWhole :
    paramValues 0x62 (.value (.stdArray 1)) ⟨ascii "a", rfl⟩ = ascii "ab" ∧
      paramValues 0 (.value .blob) (ascii "a") = ascii "a" ∧
      dataPointer (paramValues 0 (.value .blob) []) = none ∧
      ¬ ∀ (behind : Byte) (f : ParamField) (v : f.Value), SentWhole behind f v := by
  refine ⟨rfl, rfl, rfl, fun h ↦ ?_⟩
  obtain ⟨buffer, hpointer, -⟩ := h 0 (.value .blob) []
  cases hpointer

end Postgresql

end Ormpp
