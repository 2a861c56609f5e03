import Ormpp.Sql.Token

/-!
# Binary literals

The literals of MySQL that stand for a byte string: a text between quotes, hexadecimal digits
between quotes behind an `x`, and a word that begins with `0x`. A word is read as far as it goes; it
is a literal if there is a digit behind `0x` and nothing but digits, and an identifier otherwise.
-/

namespace Ormpp

namespace Sql

/-- The value of a hexadecimal digit. -/
def hexDigitValue (b : Byte) : Option ℕ :=
  if isDigit b then some (b.toNat - 0x30)
  else if 0x41 ≤ b ∧ b ≤ 0x46 then some (b.toNat - 0x41 + 10)
  else if 0x61 ≤ b ∧ b ≤ 0x66 then some (b.toNat - 0x61 + 10)
  else none

/-- The bytes that the digits stand for, two of them for each. -/
def hexPairs : Bytes → Option Bytes
  | [] => some []
  | [_] => none
  | high :: low :: digits => do
    let h ← hexDigitValue high
    let l ← hexDigitValue low
    let value ← hexPairs digits
    some (UInt8.ofNat (16 * h + l) :: value)

/-- The bytes of the digits behind `0x`. An odd one out has a zero in front of it. -/
def hexNumber (digits : Bytes) : Option Bytes :=
  if digits.length % 2 = 1 then hexPairs (0x30 :: digits) else hexPairs digits

/-- The literal that a word is. -/
def hexWord (word : Bytes) : Option Bytes :=
  if word.take 2 = ascii "0x" ∧ word.drop 2 ≠ [] then hexNumber (word.drop 2) else none

/-- The word in front, with the lexemes behind it. -/
def wordInFront : List Lexeme → Bytes × List Lexeme
  | .code b :: lexemes =>
    if isWordByte b then (b :: (wordInFront lexemes).1, (wordInFront lexemes).2)
    else ([], .code b :: lexemes)
  | lexemes => ([], lexemes)

/-- The byte string that a literal in front stands for, with the lexemes behind it. -/
def binaryInFront : List Lexeme → Option (Bytes × List Lexeme)
  | .literal value :: lexemes => some (value, lexemes)
  | lexemes =>
    match hexWord (wordInFront lexemes).1, (wordInFront lexemes).2 with
    | some value, rest => some (value, rest)
    | none, .literal digits :: rest =>
      if (wordInFront lexemes).1 = ascii "x" ∨ (wordInFront lexemes).1 = ascii "X" then
        (hexPairs digits).map (·, rest)
      else none
    | none, _ => none

/-! ## Words -/

theorem wordInFront_of_endsWord {rest : List Lexeme} (h : EndsWord rest) :
    wordInFront rest = ([], rest) := by
  obtain _ | ⟨l, rest⟩ := rest
  · rfl
  · obtain b | value | name | ⟨q, value⟩ := l
    · rw [wordInFront, h b rfl]
      rfl
    · rfl
    · rfl
    · rfl

theorem wordInFront_append {word : Bytes} (hword : ∀ b ∈ word, isWordByte b = true)
    {rest : List Lexeme} (hrest : EndsWord rest) :
    wordInFront (word.map .code ++ rest) = (word, rest) := by
  induction word with
  | nil => exact wordInFront_of_endsWord hrest
  | cons b word ih =>
    obtain ⟨hb, hrests⟩ := List.forall_mem_cons.mp hword
    rw [List.map_cons, List.cons_append, wordInFront, if_pos hb, ih hrests]

/-- A word that begins like a number is a literal or nothing. -/
theorem binaryInFront_word {digits : Bytes} (hdigits : ∀ b ∈ digits, isWordByte b = true)
    {rest : List Lexeme} (hrest : EndsWord rest) :
    binaryInFront ((ascii "0x" ++ digits).map .code ++ rest)
      = (hexWord (ascii "0x" ++ digits)).map (·, rest) := by
  have hzero : ∀ b ∈ ascii "0x", isWordByte b = true := by decide
  have hfront : wordInFront ((ascii "0x" ++ digits).map .code ++ rest)
      = (ascii "0x" ++ digits, rest) :=
    wordInFront_append (List.forall_mem_append.mpr ⟨hzero, hdigits⟩) hrest
  have hx : ¬(ascii "0x" ++ digits = ascii "x" ∨ ascii "0x" ++ digits = ascii "X") := by
    rintro (h | h) <;> exact absurd (List.cons.inj h).1 (by decide)
  change binaryInFront (.code 0x30 :: ((ascii "x" ++ digits).map .code ++ rest)) = _
  change wordInFront (.code 0x30 :: ((ascii "x" ++ digits).map .code ++ rest)) = _ at hfront
  simp only [binaryInFront, hfront]
  rcases hexWord (ascii "0x" ++ digits) with _ | value
  · rcases rest with _ | ⟨_ | digits' | _ | _, rest⟩
    · rfl
    · rfl
    · exact if_neg hx
    · rfl
    · rfl
  · rfl

theorem hexWord_zero_x (digits : Bytes) :
    hexWord (ascii "0x" ++ digits) = if digits = [] then none else hexNumber digits := by
  have htake : (ascii "0x" ++ digits).take 2 = ascii "0x" := rfl
  have hdrop : (ascii "0x" ++ digits).drop 2 = digits := rfl
  rw [hexWord, htake, hdrop]
  split_ifs with h hnil hnil
  · exact absurd hnil h.2
  · rfl
  · rfl
  · exact absurd ⟨rfl, hnil⟩ h

end Sql

end Ormpp
