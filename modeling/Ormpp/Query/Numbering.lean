import Ormpp.Query.Builder

/-!
# Numbering and the lexer of PostgreSQL

The pass that numbers placeholders and the server have to agree on what is quoted and what is a
comment. They do, but for block comments: in PostgreSQL these nest, and the pass takes the first end
of a comment for its end.
-/

namespace Ormpp

open Sql

/-! ## The lexer of PostgreSQL -/

/-- Where the lexer of PostgreSQL is: in the statement proper, in a comment, or in a standard string
or a quoted identifier. A block comment counts the comments inside it that are open. -/
inductive PostgresqlMode
  | code
  | minus
  | slash
  | line
  | block (depth : ℕ)
  | blockStar (depth : ℕ)
  | blockSlash (depth : ℕ)
  | quoted (q : Byte)
  | closing (q : Byte)
  deriving DecidableEq

namespace PostgresqlMode

def enter (b : Byte) : PostgresqlMode :=
  if b = quote ∨ b = doubleQuote then .quoted b
  else if b = dash then .minus
  else if b = Sql.slash then .slash
  else .code

/-- The end of a block comment. -/
def leave : ℕ → PostgresqlMode
  | 0 => .code
  | depth + 1 => .block depth

def step : PostgresqlMode → Byte → PostgresqlMode
  | .code, b => enter b
  | .minus, b => if b = dash then .line else enter b
  | .slash, b => if b = Sql.star then .block 0 else enter b
  | .line, b => if b = newline ∨ b = 0x0d then .code else .line
  | .block depth, b =>
    if b = Sql.star then .blockStar depth
    else if b = Sql.slash then .blockSlash depth
    else .block depth
  | .blockStar depth, b =>
    if b = Sql.slash then leave depth
    else if b = Sql.star then .blockStar depth
    else .block depth
  | .blockSlash depth, b =>
    if b = Sql.star then .block (depth + 1)
    else if b = Sql.slash then .blockSlash depth
    else .block depth
  | .quoted q, b => if b = q then .closing q else .quoted q
  | .closing q, b => if b = q then .quoted q else enter b

def outside : PostgresqlMode → Bool
  | .code | .minus | .slash => true
  | .closing q => q != questionMark
  | .line | .block _ | .blockStar _ | .blockSlash _ | .quoted _ => false

/-- The byte opens a comment inside a comment. -/
def nests : PostgresqlMode → Byte → Bool
  | .blockSlash _, b => b = Sql.star
  | _, _ => false

end PostgresqlMode

def postgresqlLexer : Regions PostgresqlMode := ⟨PostgresqlMode.step, PostgresqlMode.outside⟩

/-- No comment of the text contains another. -/
def FlatComments (text : Bytes) : Prop :=
  Run.Along postgresqlLexer.step (fun m b ↦ m.nests b = false) .code text

instance (text : Bytes) : Decidable (FlatComments text) := Run.decidableAlong _ _ _

/-- The text with the placeholders that PostgreSQL sees numbered from left to right. -/
def numberPlaceholders (text : Bytes) : Bytes :=
  substitute 0 (((postgresqlLexer.positions .code 0 text).zipIdx 1).map
    fun pj ↦ (pj.1, ascii "$" ++ natText pj.2)) text

/-! ## In step -/

/-- The modes of the pass and of the server in the same region, where no comment contains
another. -/
inductive InRegion : ScanMode → PostgresqlMode → Prop
  | code : InRegion .code .code
  | minus : InRegion .minus .minus
  | slash : InRegion .slash .slash
  | line : InRegion .line .line
  | block : InRegion .block (.block 0)
  | blockSlash : InRegion .block (.blockSlash 0)
  | blockStar : InRegion .blockStar (.blockStar 0)
  | quoted (q : Byte) : InRegion (.quoted q) (.quoted q)
  | closing (q : Byte) : InRegion (.closing q) (.closing q)

theorem inRegion_enter (b : Byte) :
    InRegion (postgresqlScanner.enter b) (PostgresqlMode.enter b) := by
  have hscanner : postgresqlScanner.enter b
      = if b = quote ∨ b = doubleQuote then .quoted b else if b = dash then .minus
        else if b = slash then .slash else .code := by
    simp [Scanner.enter, postgresqlScanner]
  rw [hscanner, PostgresqlMode.enter]
  split_ifs
  · exact .quoted b
  · exact .minus
  · exact .slash
  · exact .code

theorem inRegion_step {m : ScanMode} {m' : PostgresqlMode} {b : Byte} (h : InRegion m m')
    (hb : m'.nests b = false) : InRegion (postgresqlScanner.step m b) (m'.step b) := by
  have henter := inRegion_enter b
  cases h with
  | code => exact henter
  | minus =>
    rw [Scanner.step, PostgresqlMode.step]
    split_ifs
    · exact .line
    · exact henter
  | slash =>
    rw [Scanner.step, PostgresqlMode.step]
    split_ifs
    · exact .block
    · exact henter
  | line =>
    rw [Scanner.step, PostgresqlMode.step]
    split_ifs
    · exact .code
    · exact .line
  | block =>
    rw [Scanner.step, PostgresqlMode.step]
    split_ifs
    · exact .blockStar
    · exact .blockSlash
    · exact .block
  -- A star would open a comment inside the comment.
  | blockSlash =>
    have hstar : b ≠ Sql.star := by
      rintro rfl
      cases hb
    rw [Scanner.step, PostgresqlMode.step, if_neg hstar, if_neg hstar]
    split_ifs
    · exact .blockSlash
    · exact .block
  | blockStar =>
    rw [Scanner.step, PostgresqlMode.step]
    split_ifs
    · exact .code
    · exact .blockStar
    · exact .block
  | quoted q =>
    have hescape : ¬(postgresqlScanner.backslashEscapes = true ∧ q ≠ backtick ∧ b = backslash) := by
      rintro ⟨hescapes, -⟩
      cases hescapes
    rw [Scanner.step, if_neg hescape, PostgresqlMode.step]
    split_ifs
    · exact .closing q
    · exact .quoted q
  | closing q =>
    rw [Scanner.step, PostgresqlMode.step]
    split_ifs
    · exact .quoted q
    · exact henter

theorem inRegion_outside {m : ScanMode} {m' : PostgresqlMode} (h : InRegion m m') :
    m.readsCode = m'.outside := by
  cases h <;> rfl

/-- **Numbering.** In a text in which no comment contains another, the pass numbers exactly the
question marks that PostgreSQL places outside quoted text and comments, and leaves everything else
as it is. -/
theorem replacePostgresqlPlaceholders_eq (sql : Bytes) (h : FlatComments sql) :
    replacePostgresqlPlaceholders sql = numberPlaceholders sql := by
  have houtside (m : ScanMode) (m' : PostgresqlMode) (hsame : InRegion m m')
      (_ : m'.nests questionMark = false) :
      postgresqlScanner.regions.outside m = postgresqlLexer.outside m' :=
    inRegion_outside hsame
  have hstep (m : ScanMode) (m' : PostgresqlMode) (b : Byte) (hsame : InRegion m m')
      (hb : m'.nests b = false) :
      InRegion (postgresqlScanner.regions.step m b) (postgresqlLexer.step m' b) :=
    inRegion_step hsame hb
  have hpositions : postgresqlScanner.regions.positions .code 0 sql
      = postgresqlLexer.positions .code 0 sql :=
    Regions.positions_eq houtside hstep 0 .code h
  rw [replacePostgresqlPlaceholders, Scanner.replaceAll_eq_substitute _ 1 0, hpositions,
    numberPlaceholders]

/-- Two parameters, a quoted question mark and one in a comment. -/
theorem replacePostgresqlPlaceholders_select :
    FlatComments (ascii "select '?', ? /* ? */ where a=?") ∧
      replacePostgresqlPlaceholders (ascii "select '?', ? /* ? */ where a=?")
        = numberPlaceholders (ascii "select '?', ? /* ? */ where a=?") := by
  have hflat : FlatComments (ascii "select '?', ? /* ? */ where a=?") := by decide
  exact ⟨hflat, replacePostgresqlPlaceholders_eq _ hflat⟩

/-- The first end of a comment inside a comment is taken for the end of both: a question mark in the
rest of the comment is numbered, and the parameter behind it gets the next number. -/
theorem replacePostgresqlPlaceholders_nested :
    replacePostgresqlPlaceholders (ascii "select /* /* */ ? */ ?")
        = ascii "select /* /* */ $1 */ $2" ∧
      numberPlaceholders (ascii "select /* /* */ ? */ ?") = ascii "select /* /* */ ? */ $1" ∧
      replacePostgresqlPlaceholders (ascii "select /* /* */ ? */ ?")
        ≠ numberPlaceholders (ascii "select /* /* */ ? */ ?") := by
  rw [replacePostgresqlPlaceholders, Scanner.replaceAll_eq_substitute _ 1 0]
  decide

end Ormpp
