import Ormpp.Codec.RoundTrip
import Ormpp.Query.Rendering

/-!
# The codec of the asynchronous client

The asynchronous client writes a value into the statement as a literal and reads a column from the
text in which MySQL returns it. A literal is returned as the value that it has, and the value is
read back from it.
-/

namespace Ormpp

open Sql

namespace MysqlAsync

/-- The types of arguments and fields. An optional value may itself be optional. -/
inductive TextType
  | number (t : NumberType)
  | string
  | charArray (N : ℕ)
  | optional (t : TextType)

namespace TextType

def Value : TextType → Type
  | number t => Number t
  | string => Bytes
  | charArray N => { text : Bytes // text.length = N }
  | optional t => Option t.Value

/-- `U{}`. -/
def zero : (t : TextType) → t.Value
  | number t => ⟨0, t.holds_zero⟩
  | string => []
  | charArray N => ⟨List.replicate N 0, length_replicate_zero N⟩
  | optional _ => none

end TextType

/-! ## Writing -/

/-- The branch of `to_query_arg_impl` that a value takes. -/
def argument : (t : TextType) → t.Value → QueryArg
  | .number t, v => if t.underlying = .bool then .bool (v.val ≠ 0) else .integer v.val
  | .string, text => .string text
  | .charArray _, buffer => .chars buffer.val
  | .optional _, none => .null
  | .optional t, some v => argument t v

/-- `to_query_arg_impl`. -/
def toQueryArgImpl (noBackslashEscapes : Bool) (t : TextType) (v : t.Value) : Bytes :=
  toQueryArg noBackslashEscapes (argument t v)

/-! ## What the server returns -/

/-- The bytes of lexemes that are nothing but bytes of the statement. -/
def codeBytes : List Lexeme → Option Bytes
  | [] => some []
  | .code b :: lexemes => (codeBytes lexemes).map (b :: ·)
  | _ :: _ => none

/-- The column that a literal is returned as, if it is one that MySQL has: the value of a string,
the decimal text of a number, and nothing for NULL. -/
def literalColumn (lexemes : List Lexeme) : Option (Option Bytes) :=
  match lexemes with
  | [.literal value] => some (some value)
  | lexemes => (codeBytes lexemes).bind fun text ↦
    if text = ascii "NULL" then some none
    else (Numeral.whole text).map fun n ↦ some (intText n)

/-- The column that is returned for a value. -/
def returned (noBackslashEscapes : Bool) (t : TextType) (v : t.Value) : Option (Option Bytes) :=
  literalColumn ((mysqlDialect noBackslashEscapes).lex (toQueryArgImpl noBackslashEscapes t v))

/-! ## Reading -/

/-- `std::from_chars`, where it takes the whole text. -/
def fromChars (t : IntegralType) (text : Bytes) : Option ℤ :=
  let negative := t.signed && text.head? = some dash
  let digits := if negative then text.tail else text
  let n := Numeral.signed negative (decimalValue digits)
  if digits ≠ [] ∧ digits.all isDigit ∧ t.Holds n then some n else none

/-- `assign_integral`, which throws an exception for a text that is no number of the type. -/
def assignIntegral : IntegralType → Bytes → Option ℤ
  | .bool, s => some (if s = ascii "0" ∨ s = ascii "false" ∨ s = ascii "FALSE" then 0 else 1)
  | .char, s => (fromChars .int s).map IntegralType.char.convert
  | t, s => fromChars t s

/-- `memset` and `memcpy` into an array. -/
def fillArray (N : ℕ) (text : Bytes) : { text : Bytes // text.length = N } :=
  ⟨text.take N ++ List.replicate (N - text.length) 0, by simp; omega⟩

/-- `assign_text_value` for a column that is not NULL. -/
def assignText : (t : TextType) → Bytes → Option t.Value
  | .number t, text => (assignIntegral t.underlying text).map (Number.ofInt t)
  | .string, text => some text
  | .charArray N, text => some (fillArray N text)
  | .optional t, text => (assignText t text).map some

/-- `assign_text_value`. -/
def assignTextValue (t : TextType) : Option Bytes → Option t.Value
  | none => some t.zero
  | some text => assignText t text

/-- The value that is read is the one that was written. -/
def ComesBack (noBackslashEscapes : Bool) (t : TextType) (v : t.Value) : Prop :=
  (returned noBackslashEscapes t v).bind (assignTextValue t) = some v

/-! ## Numbers -/

/-- No digit is a minus sign. -/
theorem head_natText_ne (n : ℕ) : (natText n).head? ≠ some dash := by
  obtain ⟨b, text, htext, hb⟩ := Numeral.exists_natText_cons n
  rw [htext]
  intro h
  obtain rfl : b = dash := Option.some.inj h
  exact absurd hb (by decide)

theorem fromChars_intText {t : IntegralType} {n : ℤ} (h : t.Holds n) :
    fromChars t (intText n) = some n := by
  obtain n | n := n
  · have hdigits : natText n ≠ [] ∧ (natText n).all isDigit = true ∧ t.Holds (Int.ofNat n) :=
      ⟨natText_ne_nil n, Numeral.all_natText n, h⟩
    have hsign : (t.signed && decide ((natText n).head? = some dash)) = false := by
      rw [decide_eq_false (head_natText_ne n), Bool.and_false]
    rw [fromChars, intText, hsign]
    simp only [Bool.false_eq_true, if_false, decimalValue_natText]
    exact if_pos hdigits
  · have hsigned : t.signed = true := by
      by_contra hunsigned
      rw [Bool.not_eq_true] at hunsigned
      exact absurd ((IntegralType.holds_of_unsigned hunsigned).mp h).1
        (Int.not_le.mpr (Int.negSucc_lt_zero n))
    have hdigits : natText (n + 1) ≠ [] ∧ (natText (n + 1)).all isDigit = true
        ∧ t.Holds (Int.negSucc n) := ⟨natText_ne_nil _, Numeral.all_natText _, h⟩
    have hsign : (t.signed && decide ((dash :: natText (n + 1)).head? = some dash)) = true := by
      rw [hsigned]
      rfl
    have htext : intText (Int.negSucc n) = dash :: natText (n + 1) := rfl
    rw [fromChars, htext, hsign]
    simp only [if_true, List.tail_cons, decimalValue_natText]
    exact if_pos hdigits

theorem assignIntegral_intText {t : IntegralType} (hbool : t ≠ .bool) {n : ℤ} (h : t.Holds n) :
    assignIntegral t (intText n) = some n := by
  rcases t with _ | _ | _ | _ | _ | _ | _ | _ | _ | _ | _ | _
  · exact absurd rfl hbool
  · have hint : IntegralType.int.Holds n :=
      (IntegralType.holds_of_signed rfl).mpr (h.fitsSigned (by decide))
    rw [assignIntegral, fromChars_intText hint, Option.map_some, IntegralType.convert_of_holds h]
  all_goals exact fromChars_intText h

/-! ## Literals -/

theorem codeBytes_map (text : Bytes) : codeBytes (text.map .code) = some text := by
  induction text with
  | nil => rfl
  | cons b text ih => rw [List.map_cons, codeBytes, ih, Option.map_some]

theorem literalColumn_code {text : Bytes} (hne : text ≠ []) :
    literalColumn (text.map .code) = if text = ascii "NULL" then some none
      else (Numeral.whole text).map fun n ↦ some (intText n) := by
  obtain ⟨b, rest, rfl⟩ := List.exists_cons_of_ne_nil hne
  have hbytes := codeBytes_map (b :: rest)
  rw [List.map_cons] at hbytes ⊢
  rw [literalColumn, hbytes, Option.bind_some]
  nofun

variable (noBackslashEscapes : Bool)

theorem literalColumn_intText (n : ℤ) :
    literalColumn ((mysqlDialect noBackslashEscapes).lex (intText n))
      = some (some (intText n)) := by
  have hnumber := Numeral.whole_intText n
  have hnull : intText n ≠ ascii "NULL" := by
    intro h
    rw [h] at hnumber
    exact absurd hnumber nofun
  have hne : intText n ≠ [] := by
    intro h
    rw [h] at hnumber
    exact absurd hnumber nofun
  rw [((isCode_intText n).codeText _).lex_eq, literalColumn_code hne, if_neg hnull, hnumber,
    Option.map_some]

theorem literalColumn_string (s : Bytes) :
    literalColumn ((mysqlDialect noBackslashEscapes).lex
      (escapeMysqlString s noBackslashEscapes)) = some (some s) := by
  have hlex := lex_escapeMysqlString s [] noBackslashEscapes nofun
  rw [List.append_nil] at hlex
  rw [hlex]
  rfl

theorem literalColumn_null :
    literalColumn ((mysqlDialect noBackslashEscapes).lex (ascii "NULL")) = some none := by
  rcases noBackslashEscapes with _ | _ <;> decide

/-- What is returned for a value that is there. -/
def columnText : (t : TextType) → t.Value → Bytes
  | .number _, v => intText v.val
  | .string, text => text
  | .charArray _, buffer => untilNul buffer.val
  | .optional _, none => []
  | .optional t, some v => columnText t v

theorem returned_number {t : NumberType} (v : Number t) :
    returned noBackslashEscapes (.number t) v = some (some (intText v.val)) := by
  change literalColumn ((mysqlDialect noBackslashEscapes).lex (toQueryArg noBackslashEscapes
    (if t.underlying = .bool then .bool (v.val ≠ 0) else .integer v.val))) = _
  split_ifs with hbool
  · have hval : v.val = 0 ∨ v.val = 1 := IntegralType.holds_bool.mp (hbool ▸ v.holds)
    have htext : toQueryArg noBackslashEscapes (.bool (v.val ≠ 0)) = intText v.val := by
      obtain h | h := hval <;> rw [h] <;> rfl
    rw [htext, literalColumn_intText]
  · exact literalColumn_intText noBackslashEscapes v.val

theorem returned_of_null {t : TextType} {v : t.Value} (h : argument t v = .null) :
    returned noBackslashEscapes t v = some none := by
  rw [returned, toQueryArgImpl, h]
  exact literalColumn_null noBackslashEscapes

/-- A literal that is not NULL is returned as a text. -/
theorem returned_of_ne_null {t : TextType} {v : t.Value} (h : argument t v ≠ .null) :
    returned noBackslashEscapes t v = some (some (columnText t v)) := by
  induction t with
  | number t => exact returned_number noBackslashEscapes v
  | string => exact literalColumn_string noBackslashEscapes v
  | charArray N => exact literalColumn_string noBackslashEscapes (untilNul v.val)
  | optional t ih =>
    obtain _ | v := v
    · exact absurd rfl h
    · exact ih h

/-! ## Values -/

theorem fillArray_val {N : ℕ} {text : Bytes} (h : text.length ≤ N) :
    (fillArray N text).val = text ++ List.replicate (N - text.length) 0 :=
  congrArg (· ++ _) (List.take_of_length_le h)

theorem fillArray_eq_iff {N : ℕ} (buffer : { text : Bytes // text.length = N }) :
    fillArray N (untilNul buffer.val) = buffer
      ↔ ∃ k, buffer.val = untilNul buffer.val ++ List.replicate k 0 := by
  obtain ⟨text, hlength⟩ := buffer
  have hle : (untilNul text).length ≤ N := hlength ▸ (List.takeWhile_prefix _).length_le
  refine Subtype.ext_iff.trans ?_
  change (fillArray N (untilNul text)).val = text ↔ ∃ k, text = untilNul text ++ _
  rw [fillArray_val hle]
  constructor
  · intro h
    exact ⟨_, h.symm⟩
  · rintro ⟨k, hk⟩
    have hsum : text.length = (untilNul text).length + k := by
      rw [congrArg List.length hk, List.length_append, List.length_replicate]
    have hcount : N - (untilNul text).length = k := by omega
    rw [hcount, ← hk]

/-- Behind the text of an array there are zeros. -/
def ZerosBehindText : (t : TextType) → t.Value → Prop
  | .number _, _ | .string, _ => True
  | .charArray _, buffer => ∃ k, buffer.val = untilNul buffer.val ++ List.replicate k 0
  | .optional _, none => True
  | .optional t, some v => ZerosBehindText t v

/-- An optional value that is there is not written as NULL. -/
def Flat : (t : TextType) → t.Value → Prop
  | .number _, _ | .string, _ | .charArray _, _ | .optional _, none => True
  | .optional t, some v => argument t v ≠ .null

theorem assignIntegral_number {t : NumberType} (v : Number t) :
    (assignIntegral t.underlying (intText v.val)).map (Number.ofInt t) = some v := by
  have hassign : assignIntegral t.underlying (intText v.val) = some v.val := by
    by_cases hbool : t.underlying = .bool
    · have hval : v.val = 0 ∨ v.val = 1 := IntegralType.holds_bool.mp (hbool ▸ v.holds)
      rw [hbool]
      obtain h | h := hval <;> rw [h] <;> decide
    · exact assignIntegral_intText hbool v.holds
  rw [hassign, Option.map_some, Number.ofInt_val]

theorem assignText_columnText {t : TextType} {v : t.Value} (hne : argument t v ≠ .null) :
    assignText t (columnText t v) = some v ↔ ZerosBehindText t v := by
  induction t with
  | number t => exact iff_of_true (assignIntegral_number v) trivial
  | string => exact iff_of_true rfl trivial
  | charArray N => exact Option.some_inj.trans (fillArray_eq_iff v)
  | optional t ih =>
    obtain _ | v := v
    · exact absurd rfl hne
    · refine Iff.trans ?_ (ih hne)
      change (assignText t (columnText t v)).map some = some (some v) ↔ _
      rw [Option.map_eq_some_iff]
      simp

theorem argument_number_ne_null {t : NumberType} (v : Number t) :
    argument (.number t) v ≠ .null := by
  change (if t.underlying = .bool then QueryArg.bool (v.val ≠ 0) else .integer v.val) ≠ .null
  split_ifs <;> exact nofun

theorem flat_of_ne_null {t : TextType} {v : t.Value} (h : argument t v ≠ .null) : Flat t v := by
  obtain t | _ | N | t := t
  · exact trivial
  · exact trivial
  · exact trivial
  · obtain _ | v := v
    · exact trivial
    · exact h

/-- Values that come back, at any depth of optional values. -/
theorem returns_iff (t : TextType) (v : t.Value) :
    ComesBack noBackslashEscapes t v ↔ Flat t v ∧ ZerosBehindText t v := by
  by_cases hnull : argument t v = .null
  · rw [ComesBack, returned_of_null noBackslashEscapes hnull]
    obtain t | _ | N | t := t
    · exact absurd hnull (argument_number_ne_null v)
    · exact absurd hnull nofun
    · exact absurd hnull nofun
    · obtain _ | v := v
      · exact iff_of_true rfl ⟨trivial, trivial⟩
      · refine iff_of_false ?_ fun h ↦ h.1 hnull
        intro (h : some (none : Option t.Value) = some (some v))
        exact absurd (Option.some.inj h) nofun
  · have hflat : Flat t v := flat_of_ne_null hnull
    rw [ComesBack, returned_of_ne_null noBackslashEscapes hnull]
    exact (assignText_columnText hnull).trans (and_iff_right hflat).symm

/-- The value of a type, or an optional one. -/
def Single : TextType → Prop
  | .optional (.optional _) => False
  | _ => True

theorem flat_of_single {t : TextType} (h : Single t) (v : t.Value) : Flat t v := by
  obtain t | _ | N | t := t
  · exact trivial
  · exact trivial
  · exact trivial
  · obtain _ | v := v
    · exact trivial
    · obtain t | _ | N | t := t
      · exact argument_number_ne_null v
      · exact nofun
      · exact nofun
      · exact h.elim

/-- **The codec of the asynchronous client.** A value, optional or not, comes back from the literal
that is written for it, in both modes of the server. -/
theorem comesBack {t : TextType} (ht : Single t) (v : t.Value) (hv : ZerosBehindText t v) :
    ComesBack noBackslashEscapes t v :=
  (returns_iff noBackslashEscapes t v).mpr ⟨flat_of_single ht v, hv⟩

/-- An optional array that is filled to its last byte. -/
theorem comesBack_full_array :
    ComesBack false (.optional (.charArray 2)) (some ⟨[quote, backslash], rfl⟩) :=
  comesBack false (t := .optional (.charArray 2)) trivial (some ⟨[quote, backslash], rfl⟩)
    ⟨0, by decide⟩

end MysqlAsync

end Ormpp
