import Ormpp.Data.Bytes
import Ormpp.Data.Transducer

/-!
# Lexing quoted text

How a database server tells the quoted parts of a statement from the rest. The lexer reads a byte at
a time and writes the bytes of the statement proper one by one, a string literal or a quoted name as
one lexeme, and a blank for a comment. Dialects differ in what a backslash means inside a string and
in what begins a comment.
-/

namespace Ormpp

namespace Sql

def quote : Byte := 0x27
def doubleQuote : Byte := 0x22
def backtick : Byte := 0x60
def backslash : Byte := 0x5c
def percent : Byte := 0x25
def underscore : Byte := 0x5f
def dash : Byte := 0x2d
def slash : Byte := 0x2f
def star : Byte := 0x2a
def hash : Byte := 0x23
def bang : Byte := 0x21
def newline : Byte := 0x0a
def blank : Byte := 0x20
def questionMark : Byte := 0x3f

inductive Lexeme
  | code (b : Byte)
  | literal (value : Bytes)
  | quotedName (name : Bytes)
  | unterminated (q : Byte) (value : Bytes)
  deriving DecidableEq

structure Dialect where
  /-- Inside a string, a backslash and the next byte stand for one character. -/
  backslashEscapes : Bool
  /-- A double quote delimits a string and not a name. -/
  doubleQuotedStrings : Bool
  /-- `#` begins a comment. -/
  hashComments : Bool
  /-- `--` begins a comment only before a blank or a control character. -/
  dashesNeedBlank : Bool
  /-- The content of a comment that begins with `/*!` is executed. -/
  executableComments : Bool

/-- MySQL with its default `sql_mode`. -/
def mysqlDefault : Dialect := ⟨true, true, true, true, true⟩

/-- The standard, which SQLite and PostgreSQL follow: a doubled quote is the only escape. -/
def standard : Dialect := ⟨false, false, false, false, false⟩

/-- A byte that a dialect never takes for the beginning of anything. -/
def isCodeByte (b : Byte) : Bool :=
  b != quote && b != doubleQuote && b != backtick && b != dash && b != slash && b != hash

/-- What a backslash and the given byte stand for in MySQL. The backslash stays before the two
wildcards of `LIKE`. -/
def unescape (b : Byte) : Bytes :=
  if b = 0x6e then [0x0a]       -- n
  else if b = 0x74 then [0x09]  -- t
  else if b = 0x72 then [0x0d]  -- r
  else if b = 0x62 then [0x08]  -- b
  else if b = 0x30 then [0x00]  -- 0
  else if b = 0x5a then [0x1a]  -- Z
  else if b = percent ∨ b = underscore then [backslash, b]
  else [b]

/-! ## The machine -/

inductive Mode
  | code
  | minus
  | minusMinus
  | slash
  | lineComment
  | blockOpen
  | block
  | blockStar
  | quoted (q : Byte) (value : Bytes)
  /-- Behind a backslash. -/
  | escape (q : Byte) (value : Bytes)
  /-- Behind a quote, which ends the text unless it is doubled. -/
  | closing (q : Byte) (value : Bytes)
  deriving DecidableEq

namespace Dialect

variable (d : Dialect)

/-- The lexeme of a text in the given quotes. -/
def quotedText (q : Byte) (value : Bytes) : Lexeme :=
  if q = quote ∨ (q = doubleQuote ∧ d.doubleQuotedStrings) then .literal value
  else .quotedName value

/-- A byte where the statement proper goes on. -/
def enter (b : Byte) : Mode × List Lexeme :=
  if b = quote ∨ b = doubleQuote ∨ b = backtick then (.quoted b [], [])
  else if b = dash then (.minus, [])
  else if b = Sql.slash then (.slash, [])
  else if b = hash ∧ d.hashComments then (.lineComment, [])
  else (.code, [.code b])

/-- A byte where the statement proper goes on, with lexemes that were held back before it. -/
def enterAfter (held : List Lexeme) (b : Byte) : Mode × List Lexeme :=
  ((d.enter b).1, held ++ (d.enter b).2)

def stepLine (b : Byte) : Mode × List Lexeme :=
  if b = newline then (.code, [.code b]) else (.lineComment, [])

def stepBlock (b : Byte) : Mode × List Lexeme :=
  if b = star then (.blockStar, []) else (.block, [])

def step : Mode → Byte → Mode × List Lexeme
  | .code, b => d.enter b
  | .minus, b =>
    if b = dash then (if d.dashesNeedBlank then .minusMinus else .lineComment, [])
    else d.enterAfter [.code dash] b
  | .minusMinus, b =>
    if b ≤ 0x20 ∨ b = 0x7f then stepLine b
    else if b = dash then (.minusMinus, [.code dash])
    else d.enterAfter [.code dash, .code dash] b
  | .slash, b => if b = star then (.blockOpen, []) else d.enterAfter [.code Sql.slash] b
  | .lineComment, b => stepLine b
  | .blockOpen, b => if b = bang ∧ d.executableComments then (.code, []) else stepBlock b
  | .block, b => stepBlock b
  | .blockStar, b => if b = Sql.slash then (.code, [.code blank]) else stepBlock b
  | .quoted q value, b =>
    if b = q then (.closing q value, [])
    else if b = backslash ∧ d.backslashEscapes ∧ q ≠ backtick then (.escape q value, [])
    else (.quoted q (value ++ [b]), [])
  | .escape q value, b => (.quoted q (value ++ unescape b), [])
  | .closing q value, b =>
    if b = q then (.quoted q (value ++ [b]), []) else d.enterAfter [d.quotedText q value] b

/-- What is written when the text ends. -/
def finish : Mode → List Lexeme
  | .minus => [.code dash]
  | .minusMinus => [.code dash, .code dash]
  | .slash => [.code Sql.slash]
  | .quoted q value | .escape q value => [.unterminated q value]
  | .closing q value => [d.quotedText q value]
  | .code | .lineComment | .blockOpen | .block | .blockStar => []

/-- The lexer of a dialect. -/
def lexer : Transducer Mode Byte Lexeme := ⟨d.step, d.finish⟩

/-- The lexemes of a text. -/
def lex (text : Bytes) : List Lexeme := d.lexer.output .code text

/-! ## Code -/

/-- A text that is lexed byte by byte wherever it stands in a statement. -/
def CodeText (text : Bytes) : Prop := d.lexer.run .code text = (.code, text.map .code)

variable {d}

theorem codeText_nil : d.CodeText [] := rfl

theorem CodeText.append {xs ys : Bytes} (hx : d.CodeText xs) (hy : d.CodeText ys) :
    d.CodeText (xs ++ ys) := by
  rw [CodeText, d.lexer.run_append_of_run hx, hy, List.map_append]

theorem CodeText.lex_eq {text : Bytes} (h : d.CodeText text) : d.lex text = text.map .code := by
  have hrun : d.lexer.run .code text = (.code, text.map .code) := h
  rw [lex, Transducer.output, hrun]
  exact List.append_nil _

theorem enter_of_isCodeByte {b : Byte} (h : isCodeByte b = true) :
    d.enter b = (.code, [.code b]) := by
  simp only [isCodeByte, Bool.and_eq_true, bne_iff_ne] at h
  obtain ⟨⟨⟨⟨⟨h1, h2⟩, h3⟩, h4⟩, h5⟩, h6⟩ := h
  simp [enter, h1, h2, h3, h4, h5, h6]

theorem codeText_of_isCodeByte {text : Bytes} (h : ∀ b ∈ text, isCodeByte b = true) :
    d.CodeText text := by
  induction text with
  | nil => exact codeText_nil
  | cons b text ih =>
    obtain ⟨hb, htext⟩ := List.forall_mem_cons.mp h
    have hstep : d.lexer.step .code b = (.code, [.code b]) := enter_of_isCodeByte hb
    have ih : d.lexer.run .code text = (.code, text.map .code) := ih htext
    rw [CodeText, Transducer.run, hstep, ih]
    rfl

/-- A dash is lexed as itself before a byte that is. -/
theorem codeText_dash {b : Byte} {text : Bytes} (h : ∀ c ∈ b :: text, isCodeByte c = true) :
    d.CodeText (dash :: b :: text) := by
  obtain ⟨hb, htext⟩ := List.forall_mem_cons.mp h
  have hdash : d.lexer.step .code dash = (.minus, []) := rfl
  have hminus : d.lexer.step .minus b = (.code, [.code dash, .code b]) := by
    have hne : b ≠ dash := by
      rintro rfl
      cases hb
    change d.step .minus b = _
    rw [step, if_neg hne, enterAfter, enter_of_isCodeByte hb]
    rfl
  have hrest : d.lexer.run .code text = (.code, text.map .code) := codeText_of_isCodeByte htext
  rw [CodeText, Transducer.run, hdash, Transducer.run, hminus, hrest]
  rfl

/-- Behind a literal, a text that does not begin with a quote is lexed as if from the start. -/
theorem output_closing (value text : Bytes) (h : text.head? ≠ some quote) :
    d.lexer.output (.closing quote value) text
      = .literal value :: d.lexer.output .code text := by
  cases text with
  | nil => rfl
  | cons b text =>
    have hb : b ≠ quote := by simpa using h
    have hclosing : d.lexer.step (.closing quote value) b = d.enterAfter [.literal value] b := by
      change d.step (.closing quote value) b = _
      rw [step, if_neg hb]
      rfl
    rw [Transducer.output_cons, hclosing, Transducer.output_cons]
    rfl

end Dialect

end Sql

end Ormpp
