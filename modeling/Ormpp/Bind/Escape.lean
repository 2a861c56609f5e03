import Ormpp.Query.Condition

/-!
# Arguments of the asynchronous client

The asynchronous client binds arguments by writing them into the statement. A string goes between
quotes, escaped as the server is going to read it: with backslashes, or with doubled quotes under
`NO_BACKSLASH_ESCAPES`.
-/

namespace Ormpp

open Sql

/-- MySQL, with or without `NO_BACKSLASH_ESCAPES` in its `sql_mode`. -/
def mysqlDialect (noBackslashEscapes : Bool) : Dialect :=
  { mysqlDefault with backslashEscapes := !noBackslashEscapes }

/-- What `escape_mysql_string` writes for a byte where backslashes are escapes. -/
def escapeMysqlByte (ch : Byte) : Bytes :=
  if ch = 0 then ascii "\\0"
  else if ch = 0x0a then ascii "\\n"
  else if ch = 0x0d then ascii "\\r"
  else if ch = backslash then ascii "\\\\"
  else if ch = quote then ascii "\\'"
  else if ch = doubleQuote then ascii "\\\""
  else if ch = 0x1a then ascii "\\Z"
  else [ch]

/-- `escape_mysql_string`. -/
def escapeMysqlString (input : Bytes) (noBackslashEscapes : Bool) : Bytes :=
  ascii "'" ++ (input.flatMap fun ch ↦
    if noBackslashEscapes then (if ch = quote then [quote, quote] else [ch])
    else escapeMysqlByte ch) ++ ascii "'"

/-- A hexadecimal digit. -/
def hexDigit (n : Byte) : Byte := if n < 10 then 0x30 + n else 0x41 + (n - 10)

/-- `blob_to_hex`. -/
def blobToHex (value : Bytes) : Bytes :=
  ascii "0x" ++ value.flatMap fun c : Byte ↦
    [hexDigit (c >>> (4 : Byte)), hexDigit (c &&& (15 : Byte))]

/-- The part of a buffer in front of its first NUL. -/
def untilNul (buffer : Bytes) : Bytes := buffer.takeWhile fun b ↦ b != 0

/-- An argument of a statement. -/
inductive QueryArg
  /-- An optional without a value. -/
  | null
  | bool (b : Bool)
  /-- An integer or an enumeration. -/
  | integer (n : ℤ)
  | real (v : RealText)
  | string (s : Bytes)
  /-- An array of characters. -/
  | chars (buffer : Bytes)
  /-- A pointer to characters, or a null pointer. -/
  | pointer (s : Option Bytes)
  | blob (value : Bytes)

/-- `to_query_arg_impl`. -/
def toQueryArg (noBackslashEscapes : Bool) : QueryArg → Bytes
  | .null => ascii "NULL"
  | .bool b => if b then ascii "1" else ascii "0"
  | .integer n => intText n
  | .real v => v.text
  | .string s => escapeMysqlString s noBackslashEscapes
  | .chars buffer => escapeMysqlString (untilNul buffer) noBackslashEscapes
  | .pointer s => escapeMysqlString (untilNul (s.getD [])) noBackslashEscapes
  | .blob value => blobToHex value

/-! ## Hexadecimal digits -/

/-- What is said of every number below 16 is said of every byte below 16. -/
theorem forall_lt_sixteen {p : Byte → Prop} (h : ∀ k : Fin 16, p (UInt8.ofNat k)) {n : Byte}
    (hn : n.toNat < 16) : p n := by
  have heq : n = UInt8.ofNat n.toNat := UInt8.ofNat_toNat.symm
  rw [heq]
  exact h ⟨n.toNat, hn⟩

theorem toNat_high (c : Byte) : (c >>> (4 : Byte)).toNat = c.toNat / 16 := by
  rw [UInt8.toNat_shiftRight, Nat.shiftRight_eq_div_pow]
  rfl

theorem toNat_low (c : Byte) : (c &&& (15 : Byte)).toNat = c.toNat % 16 := by
  rw [UInt8.toNat_and]
  exact Nat.and_two_pow_sub_one_eq_mod c.toNat 4

theorem high_lt (c : Byte) : (c >>> (4 : Byte)).toNat < 16 := by
  have hc : c.toNat < 256 := c.toNat_lt
  rw [toNat_high]
  omega

theorem low_lt (c : Byte) : (c &&& (15 : Byte)).toNat < 16 := by
  rw [toNat_low]
  exact Nat.mod_lt _ (by decide)

/-! ## Escaped strings are read back -/

/-- An escaped byte of a string is read back, where backslashes are escapes. -/
theorem output_escapeMysqlByte {d : Dialect} (hd : d.backslashEscapes = true) (ch : Byte)
    (acc text : Bytes) :
    d.lexer.output (.quoted quote acc) (escapeMysqlByte ch ++ text)
      = d.lexer.output (.quoted quote (acc ++ [ch])) text := by
  have hescape (b : Byte) : d.lexer.output (.quoted quote acc) (backslash :: b :: text)
      = d.lexer.output (.quoted quote (acc ++ unescape b)) text :=
    Dialect.output_quoted_escape hd acc (b :: text)
  rw [escapeMysqlByte]
  split_ifs with h1 h2 h3 h4 h5 h6 h7
  · subst h1
    exact hescape 0x30
  · subst h2
    exact hescape 0x6e
  · subst h3
    exact hescape 0x72
  · subst h4
    exact hescape backslash
  · subst h5
    exact hescape quote
  · subst h6
    exact hescape doubleQuote
  · subst h7
    exact hescape 0x5a
  · exact Dialect.output_quoted_cons h5 (fun _ ↦ h4) acc text

theorem output_escaped {d : Dialect} (hd : d.backslashEscapes = true) (s acc : Bytes) {text : Bytes}
    (htext : text.head? ≠ some quote) :
    d.lexer.output (.quoted quote acc) (s.flatMap escapeMysqlByte ++ quote :: text)
      = .literal (acc ++ s) :: d.lexer.output .code text := by
  induction s generalizing acc with
  | nil =>
    rw [List.append_nil]
    exact Dialect.output_quoted_end acc htext
  | cons ch s ih =>
    rw [List.flatMap_cons, List.append_assoc, output_escapeMysqlByte hd, ih, List.append_assoc]
    rfl

/-- **Escaped strings.** In both modes of the server, what the client writes for a string is read as
one literal with that value, and the statement goes on behind it. -/
theorem lex_escapeMysqlString (s rest : Bytes) (noBackslashEscapes : Bool)
    (hrest : rest.head? ≠ some quote) :
    (mysqlDialect noBackslashEscapes).lex (escapeMysqlString s noBackslashEscapes ++ rest)
      = .literal s :: (mysqlDialect noBackslashEscapes).lex rest := by
  cases noBackslashEscapes with
  | true =>
    have hkeeps : (mysqlDialect true).Keeps s := fun hescapes ↦ absurd hescapes (by decide)
    have htext : escapeMysqlString s true ++ rest = quote :: (doubled s ++ quote :: rest) := by
      have hclose : ascii "'" = [quote] := rfl
      rw [escapeMysqlString, hclose, List.append_assoc, List.append_assoc]
      rfl
    rw [htext]
    exact Dialect.output_doubled hkeeps [] hrest
  | false =>
    have htext : escapeMysqlString s false ++ rest
        = quote :: (s.flatMap escapeMysqlByte ++ quote :: rest) := by
      have hclose : ascii "'" = [quote] := rfl
      rw [escapeMysqlString, hclose, List.append_assoc, List.append_assoc]
      rfl
    rw [htext]
    exact output_escaped rfl s [] hrest

/-- A string with a quote, a backslash and a NUL, before a comma. -/
theorem lex_escapeMysqlString_comma :
    (mysqlDialect false).lex (escapeMysqlString [quote, backslash, 0] false ++ ascii ",b")
      = .literal [quote, backslash, 0] :: (mysqlDialect false).lex (ascii ",b") :=
  lex_escapeMysqlString [quote, backslash, 0] (ascii ",b") false (by decide)

end Ormpp
