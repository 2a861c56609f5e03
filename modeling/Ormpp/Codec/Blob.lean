import Ormpp.Bind.Escape
import Ormpp.Sql.BinaryLiteral

/-!
# Blobs in statements

The asynchronous client writes a blob as the digits of its bytes behind `0x`. A blob without bytes
has no digits, and what is left is a name and no literal.
-/

namespace Ormpp

open Sql

/-- What is written for the blob is one literal, and its value is that of the blob: whatever stands
behind it, as long as it does not go on with a word. -/
def DenotesBlob (noBackslashEscapes : Bool) (b : Bytes) : Prop :=
  ∀ rest, EndsWord rest →
    binaryInFront ((mysqlDialect noBackslashEscapes).lex (toQueryArg noBackslashEscapes (.blob b))
      ++ rest) = some (b, rest)

/-! ## Digits -/

theorem hexDigitValue_hexDigit {n : Byte} (h : n.toNat < 16) :
    hexDigitValue (hexDigit n) = some n.toNat :=
  forall_lt_sixteen (p := fun n ↦ hexDigitValue (hexDigit n) = some n.toNat) (by decide) h

theorem isPlain_hexDigit {n : Byte} (h : n.toNat < 16) :
    isWordByte (hexDigit n) = true ∧ isCodeByte (hexDigit n) = true :=
  forall_lt_sixteen (p := fun n ↦ isWordByte (hexDigit n) = true ∧ isCodeByte (hexDigit n) = true)
    (by decide) h

/-- The digits of a blob. -/
def blobDigits (b : Bytes) : Bytes :=
  b.flatMap fun c : Byte ↦ [hexDigit (c >>> (4 : Byte)), hexDigit (c &&& (15 : Byte))]

theorem blobToHex_eq (b : Bytes) : blobToHex b = ascii "0x" ++ blobDigits b := rfl

theorem blobDigits_cons (c : Byte) (b : Bytes) :
    blobDigits (c :: b)
      = hexDigit (c >>> (4 : Byte)) :: hexDigit (c &&& (15 : Byte)) :: blobDigits b := rfl

theorem length_blobDigits (b : Bytes) : (blobDigits b).length = 2 * b.length := by
  induction b with
  | nil => rfl
  | cons c b ih =>
    rw [blobDigits_cons, List.length_cons, List.length_cons, ih, List.length_cons]
    omega

theorem plain_blobDigits {b : Bytes} {digit : Byte} (h : digit ∈ blobDigits b) :
    isWordByte digit = true ∧ isCodeByte digit = true := by
  obtain ⟨c, -, hdigit⟩ := List.mem_flatMap.mp h
  obtain rfl | hdigit := List.mem_cons.mp hdigit
  · exact isPlain_hexDigit (high_lt c)
  · rw [List.mem_singleton.mp hdigit]
    exact isPlain_hexDigit (low_lt c)

/-- The digits of a blob stand for its bytes. -/
theorem hexPairs_blobDigits (b : Bytes) : hexPairs (blobDigits b) = some b := by
  induction b with
  | nil => rfl
  | cons c b ih =>
    have hbyte : UInt8.ofNat (16 * (c.toNat / 16) + c.toNat % 16) = c := by
      rw [Nat.div_add_mod, UInt8.ofNat_toNat]
    rw [blobDigits_cons, hexPairs, hexDigitValue_hexDigit (high_lt c),
      hexDigitValue_hexDigit (low_lt c), ih, toNat_high, toNat_low]
    exact congrArg (fun c ↦ some (c :: b)) hbyte

theorem hexNumber_blobDigits (b : Bytes) : hexNumber (blobDigits b) = some b := by
  have heven : ¬(blobDigits b).length % 2 = 1 := by
    rw [length_blobDigits]
    omega
  rw [hexNumber, if_neg heven, hexPairs_blobDigits]

theorem blobDigits_eq_nil {b : Bytes} : blobDigits b = [] ↔ b = [] := by
  rw [← List.length_eq_zero_iff, length_blobDigits, ← List.length_eq_zero_iff]
  omega

/-! ## The literal -/

theorem lex_blobToHex (noBackslashEscapes : Bool) (b : Bytes) :
    (mysqlDialect noBackslashEscapes).lex (blobToHex b) = (blobToHex b).map .code := by
  have hzero : ∀ b ∈ ascii "0x", isCodeByte b = true := by decide
  have hcode : ∀ c ∈ blobToHex b, isCodeByte c = true := by
    rw [blobToHex_eq]
    exact List.forall_mem_append.mpr ⟨hzero, fun c hc ↦ (plain_blobDigits hc).2⟩
  exact (Dialect.codeText_of_isCodeByte hcode).lex_eq

/-- What MySQL reads in the text of a blob. -/
theorem binaryInFront_blobToHex (noBackslashEscapes : Bool) (b : Bytes) {rest : List Lexeme}
    (hrest : EndsWord rest) :
    binaryInFront ((mysqlDialect noBackslashEscapes).lex (toQueryArg noBackslashEscapes (.blob b))
      ++ rest) = if b = [] then none else some (b, rest) := by
  have hdigits : ∀ c ∈ blobDigits b, isWordByte c = true := fun c hc ↦ (plain_blobDigits hc).1
  rw [toQueryArg, lex_blobToHex, blobToHex_eq, binaryInFront_word hdigits hrest, hexWord_zero_x,
    hexNumber_blobDigits]
  by_cases hnil : b = []
  · rw [if_pos hnil, if_pos (blobDigits_eq_nil.mpr hnil)]
    rfl
  · rw [if_neg hnil, if_neg (mt blobDigits_eq_nil.mp hnil)]
    rfl

/-- **Blobs.** In both modes of the server, the text of a blob is a literal with its bytes exactly
where it has any. -/
theorem denotesBlob_iff (noBackslashEscapes : Bool) (b : Bytes) :
    DenotesBlob noBackslashEscapes b ↔ b ≠ [] := by
  constructor
  · rintro h rfl
    have hend : EndsWord [] := fun b hb ↦ absurd hb nofun
    have hread := h [] hend
    rw [binaryInFront_blobToHex noBackslashEscapes [] hend] at hread
    exact absurd hread nofun
  · intro hne rest hrest
    rw [binaryInFront_blobToHex noBackslashEscapes b hrest, if_neg hne]

/-- `0x` is the name of a column that there is not. -/
theorem not_denotesBlob : ¬ ∀ (noBackslashEscapes : Bool) (b : Bytes),
    DenotesBlob noBackslashEscapes b := by
  intro h
  have hread := h false [] [] (fun b hb ↦ absurd hb nofun)
  have hlex : binaryInFront ((mysqlDialect false).lex (toQueryArg false (.blob [])) ++ []) = none :=
    rfl
  exact absurd (hlex.symm.trans hread) nofun

end Ormpp
