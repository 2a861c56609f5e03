import Ormpp.Data.Decimal
import Ormpp.Sql.Lexer

/-!
# Tokens

The lexemes of a statement put together to words, numbers and symbols. A word is a run of letters
and digits; it is a number, one of the words that the grammar reserves, or a name. A symbol is one
byte or two. Which words are reserved is taken from SQLite.
-/

namespace Ormpp

namespace Sql

inductive Keyword
  | and
  | or
  | not
  | between
  | inList
  | like
  | is
  | null
  /-- A word that has no place in an expression over columns and literals. -/
  | reserved
  deriving DecidableEq

inductive Comparison
  | eq
  | ne
  | lt
  | le
  | gt
  | ge
  deriving DecidableEq

inductive Symbol
  | openParen
  | closeParen
  | comma
  | dot
  | minus
  | compare (op : Comparison)
  | other (b : Byte)
  deriving DecidableEq

inductive Token
  | integer (n : ℕ)
  | text (value : Bytes)
  | name (word : Bytes)
  | keyword (k : Keyword)
  | symbol (s : Symbol)
  | illegal
  deriving DecidableEq

/-! ## Words -/

/-- A byte of a word: a letter, a digit, an underscore, a dollar sign, or part of a character beyond
ASCII. -/
def isWordByte (b : Byte) : Bool :=
  isDigit b || (0x41 ≤ b && b ≤ 0x5a) || (0x61 ≤ b && b ≤ 0x7a) || b = underscore || b = 0x24 ||
    0x80 ≤ b

def upperByte (b : Byte) : Byte := if 0x61 ≤ b ∧ b ≤ 0x7a then b - 0x20 else b

/-- The words that cannot name a column, but for those of `keyword?`. -/
def reservedWords : List Bytes :=
  ["ADD", "ALL", "ALTER", "AS", "AUTOINCREMENT", "CASE", "CAST", "CHECK", "COLLATE", "COMMIT",
    "CONSTRAINT", "CREATE", "CURRENT_DATE", "CURRENT_TIME", "CURRENT_TIMESTAMP", "DEFAULT",
    "DEFERRABLE", "DELETE", "DISTINCT", "DROP", "ELSE", "ESCAPE", "EXCEPT", "EXISTS", "FOREIGN",
    "FROM", "GLOB", "GROUP", "HAVING", "INDEX", "INSERT", "INTERSECT", "INTO", "ISNULL", "JOIN",
    "LIMIT", "MATCH", "NOTHING", "NOTNULL", "ON", "ORDER", "PRIMARY", "RAISE", "REFERENCES",
    "REGEXP", "RETURNING", "SELECT", "SET", "TABLE", "THEN", "TO", "TRANSACTION", "UNION", "UNIQUE",
    "UPDATE", "USING", "VALUES", "WHEN", "WHERE", "WITH"].map ascii

/-- The keyword that a word is, in whatever case it is written. -/
def keyword? (word : Bytes) : Option Keyword :=
  let upper := word.map upperByte
  if upper = ascii "AND" then some .and
  else if upper = ascii "OR" then some .or
  else if upper = ascii "NOT" then some .not
  else if upper = ascii "BETWEEN" then some .between
  else if upper = ascii "IN" then some .inList
  else if upper = ascii "LIKE" then some .like
  else if upper = ascii "IS" then some .is
  else if upper = ascii "NULL" then some .null
  else if upper ∈ reservedWords then some .reserved
  else none

/-- The token of a word. A word that begins with a digit has no other bytes than digits. -/
def wordToken (word : Bytes) : Token :=
  if word.all isDigit then .integer (decimalValue word)
  else if (word.head?.map isDigit).getD false then .illegal
  else match keyword? word with
    | some k => .keyword k
    | none => .name word

/-! ## Symbols -/

/-- The symbol of one byte. -/
def single (b : Byte) : Symbol :=
  if b = 0x28 then .openParen
  else if b = 0x29 then .closeParen
  else if b = 0x2c then .comma
  else if b = 0x2e then .dot
  else if b = dash then .minus
  else if b = 0x3d then .compare .eq
  else if b = 0x3c then .compare .lt
  else if b = 0x3e then .compare .gt
  else .other b

/-- The symbol of two bytes. -/
def double (b c : Byte) : Option Symbol :=
  if c = 0x3d then
    if b = 0x3d then some (.compare .eq)
    else if b = bang then some (.compare .ne)
    else if b = 0x3c then some (.compare .le)
    else if b = 0x3e then some (.compare .ge)
    else none
  else if b = 0x3c ∧ c = 0x3e then some (.compare .ne)
  else none

/-- The byte can begin a symbol of two. -/
def isHeld (b : Byte) : Bool := b = 0x3d || b = bang || b = 0x3c || b = 0x3e

def isBlank (b : Byte) : Bool := b = blank || b = 0x09 || b = newline || b = 0x0c || b = 0x0d

/-! ## The machine -/

namespace Tokenizer

inductive Mode
  | idle
  | word (bytes : Bytes)
  /-- Behind a byte that can begin a symbol of two. -/
  | held (b : Byte)

/-- A lexeme between tokens. -/
def enter : Lexeme → Mode × List Token
  | .code b =>
    if isWordByte b then (.word [b], [])
    else if isBlank b then (.idle, [])
    else if isHeld b then (.held b, [])
    else (.idle, [.symbol (single b)])
  | .literal value => (.idle, [.text value])
  | .quotedName name => (.idle, [.name name])
  | .unterminated _ _ => (.idle, [.illegal])

/-- A lexeme that ends a token. -/
def enterAfter (t : Token) (l : Lexeme) : Mode × List Token := ((enter l).1, t :: (enter l).2)

def step : Mode → Lexeme → Mode × List Token
  | .idle, l => enter l
  | .word bytes, .code b =>
    if isWordByte b then (.word (bytes ++ [b]), []) else enterAfter (wordToken bytes) (.code b)
  | .word bytes, l => enterAfter (wordToken bytes) l
  | .held b, .code c =>
    match double b c with
    | some s => (.idle, [.symbol s])
    | none => enterAfter (.symbol (single b)) (.code c)
  | .held b, l => enterAfter (.symbol (single b)) l

def finish : Mode → List Token
  | .idle => []
  | .word bytes => [wordToken bytes]
  | .held b => [.symbol (single b)]

end Tokenizer

/-- Puts tokens together. -/
def tokenizer : Transducer Tokenizer.Mode Lexeme Token := ⟨Tokenizer.step, Tokenizer.finish⟩

/-- The tokens of a list of lexemes. -/
def tokens (lexemes : List Lexeme) : List Token := tokenizer.output .idle lexemes

/-! ## Token by token -/

/-- What follows does not go on with a word. -/
def EndsWord (lexemes : List Lexeme) : Prop :=
  ∀ b, lexemes.head? = some (.code b) → isWordByte b = false

/-- What follows does not go on with a symbol. -/
def EndsSymbol (lexemes : List Lexeme) : Prop :=
  ∀ b, lexemes.head? = some (.code b) → b ≠ 0x3d ∧ b ≠ 0x3e

theorem endsWord_text {text : Bytes} (h : text.head?.map isWordByte = some false)
    {rest : List Lexeme} : EndsWord (text.map .code ++ rest) := by
  cases text with
  | nil => cases h
  | cons b text =>
    rintro c hc
    cases hc
    exact Option.some.inj h

theorem tokens_nil : tokens [] = [] := rfl

theorem tokens_literal (value : Bytes) (rest : List Lexeme) :
    tokens (.literal value :: rest) = .text value :: tokens rest := rfl

/-- A text that ends between tokens. -/
theorem tokens_append (text : Bytes) (ts : List Token) (rest : List Lexeme)
    (h : tokenizer.run .idle (text.map .code) = (.idle, ts)) :
    tokens (text.map .code ++ rest) = ts ++ tokens rest :=
  tokenizer.output_append_of_run h rest

theorem run_word {word : Bytes} (h : ∀ b ∈ word, isWordByte b = true) (bytes : Bytes) :
    tokenizer.run (.word bytes) (word.map .code) = (.word (bytes ++ word), []) :=
  tokenizer.run_collect Tokenizer.Mode.word Lexeme.code (fun _ _ hb ↦ if_pos hb) h bytes

/-- What is held back is a token of its own if the next lexeme does not go on with it. -/
theorem output_of_step {m : Tokenizer.Mode} {t : Token} {rest : List Lexeme}
    (hfinish : tokenizer.finish m = [t])
    (hstep : ∀ l, rest.head? = some l → tokenizer.step m l = Tokenizer.enterAfter t l) :
    tokenizer.output m rest = t :: tokens rest := by
  cases rest with
  | nil => rw [Transducer.output_nil, hfinish]; rfl
  | cons l rest =>
    rw [Transducer.output_cons, hstep l rfl, tokens, Transducer.output_cons]
    rfl

theorem tokens_word {word : Bytes} (hne : word ≠ []) (h : ∀ b ∈ word, isWordByte b = true)
    {rest : List Lexeme} (hrest : EndsWord rest) :
    tokens (word.map .code ++ rest) = wordToken word :: tokens rest := by
  obtain ⟨b, word, rfl⟩ := List.exists_cons_of_ne_nil hne
  obtain ⟨hb, hword⟩ := List.forall_mem_cons.mp h
  have henter : tokenizer.step .idle (.code b) = (.word [b], []) := if_pos hb
  have hrun : tokenizer.run .idle ((b :: word).map .code) = (.word (b :: word), []) := by
    rw [List.map_cons, Transducer.run, henter, run_word hword]
    rfl
  rw [tokens, tokenizer.output_append_of_run hrun, List.nil_append]
  apply output_of_step rfl
  intro l hl
  cases l with
  | code c => exact if_neg (by rw [hrest c hl]; decide)
  | literal | quotedName | unterminated => rfl

theorem tokens_held {b : Byte} (hb : isHeld b = true) (hword : isWordByte b = false)
    (hblank : isBlank b = false) {rest : List Lexeme} (hrest : EndsSymbol rest) :
    tokens (.code b :: rest) = .symbol (single b) :: tokens rest := by
  have henter : tokenizer.step .idle (.code b) = (.held b, []) := by
    change Tokenizer.enter (.code b) = _
    rw [Tokenizer.enter, if_neg (by rw [hword]; decide), if_neg (by rw [hblank]; decide), if_pos hb]
  rw [tokens, Transducer.output_cons, henter, List.nil_append]
  apply output_of_step rfl
  intro l hl
  cases l with
  | code c =>
    obtain ⟨heq, hgt⟩ := hrest c hl
    have hdouble : double b c = none := by
      rw [double, if_neg heq, if_neg fun h ↦ hgt h.2]
    change Tokenizer.step (.held b) (.code c) = _
    rw [Tokenizer.step, hdouble]
  | literal | quotedName | unterminated => rfl

/-! ## Numbers -/

theorem isWordByte_of_isDigit {b : Byte} (h : isDigit b = true) : isWordByte b = true := by
  rw [isWordByte, h]
  rfl

theorem isCodeByte_of_isWordByte {b : Byte} (h : isWordByte b = true) : isCodeByte b = true := by
  simp only [isCodeByte, Bool.and_eq_true, bne_iff_ne]
  refine ⟨⟨⟨⟨⟨?_, ?_⟩, ?_⟩, ?_⟩, ?_⟩, ?_⟩ <;>
  · rintro rfl
    exact absurd h (by decide)

theorem wordToken_natText (n : ℕ) : wordToken (natText n) = .integer n := by
  have hdigits : (natText n).all isDigit = true :=
    List.all_eq_true.mpr fun _ hb ↦ isDigit_of_mem_natText hb
  rw [wordToken, if_pos hdigits, decimalValue_natText]

/-- A number in decimal notation. -/
theorem tokens_natText (n : ℕ) {rest : List Lexeme} (hrest : EndsWord rest) :
    tokens ((natText n).map .code ++ rest) = .integer n :: tokens rest := by
  rw [tokens_word (natText_ne_nil n) (fun _ hb ↦ isWordByte_of_isDigit (isDigit_of_mem_natText hb))
    hrest, wordToken_natText]

/-- The tokens of an integer. -/
def integerTokens : ℤ → List Token
  | .ofNat n => [.integer n]
  | .negSucc n => [.symbol .minus, .integer (n + 1)]

theorem tokens_intText (n : ℤ) {rest : List Lexeme} (hrest : EndsWord rest) :
    tokens ((intText n).map .code ++ rest) = integerTokens n ++ tokens rest := by
  cases n with
  | ofNat n => exact tokens_natText n hrest
  | negSucc n =>
    have hminus : tokens (.code dash :: ((natText (n + 1)).map .code ++ rest))
        = .symbol .minus :: tokens ((natText (n + 1)).map .code ++ rest) := rfl
    exact hminus.trans (congrArg _ (tokens_natText (n + 1) hrest))

end Sql

end Ormpp
