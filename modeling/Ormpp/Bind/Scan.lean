import Ormpp.Bind.Format

/-!
# The scanner and the lexer of MySQL

The search for placeholders and the server have to agree on what is quoted and what is a comment.
They do, mode by mode, but for line comments: the search begins one at every `--`, where the server
wants a blank behind it, and ends one at a carriage return, where the server goes on to the end of
the line.
-/

namespace Ormpp

open Sql

/-- A dialect as a machine that tells regions apart. -/
def Sql.Dialect.regions (d : Dialect) : Regions Mode where
  step m b := (d.step m b).1
  outside m := .code questionMark ∈ (d.step m questionMark).2

/-- MySQL. Whether the content of a comment that begins with `/*!` is executed is left open. -/
def mysqlLexer (noBackslashEscapes executableComments : Bool) : Dialect :=
  { mysqlDialect noBackslashEscapes with executableComments }

/-- The next byte is none at which the search and the server part: behind `--` it is a blank or a
control character, and in a line comment it is no carriage return. A comment that is executed does
not begin. -/
def inStep (d : Dialect) : Mode → Byte → Bool
  | .minusMinus, b => (b ≤ 0x20 || b = 0x7f) && b != 0x0d
  | .lineComment, b => b != 0x0d
  | .blockOpen, b => !(b = bang && d.executableComments)
  | _, _ => true

/-- The server finds nothing in the text at which the search parts from it. -/
def CleanComments (d : Dialect) (text : Bytes) : Prop :=
  Run.Along d.regions.step (fun m b ↦ inStep d m b = true) .code text

instance (d : Dialect) (text : Bytes) : Decidable (CleanComments d text) :=
  Run.decidableAlong _ _ _

def IsQuote (q : Byte) : Prop := q = quote ∨ q = doubleQuote ∨ q = backtick

theorem IsQuote.ne {q : Byte} (h : IsQuote q) : q ≠ questionMark ∧ q ≠ backslash := by
  obtain rfl | rfl | rfl := h <;> decide

/-- The modes of the search and of the server in the same region. -/
inductive SameRegion : ScanMode → Mode → Prop
  | code : SameRegion .code .code
  | minus : SameRegion .minus .minus
  | slash : SameRegion .slash .slash
  /-- The server has yet to see whether it is a comment. -/
  | minusMinus : SameRegion .line .minusMinus
  | line : SameRegion .line .lineComment
  | blockOpen : SameRegion .block .blockOpen
  | block : SameRegion .block .block
  | blockStar : SameRegion .blockStar .blockStar
  | quoted {q : Byte} (value : Bytes) (h : IsQuote q) : SameRegion (.quoted q) (.quoted q value)
  | escape {q : Byte} (value : Bytes) (h : IsQuote q) : SameRegion (.escape q) (.escape q value)
  | closing {q : Byte} (value : Bytes) (h : IsQuote q) :
    SameRegion (.closing q) (.closing q value)

section

variable {noBackslashEscapes executableComments : Bool}

theorem sameRegion_enter (b : Byte) :
    SameRegion ((mysqlScanner noBackslashEscapes).enter b)
      ((mysqlLexer noBackslashEscapes executableComments).enter b).1 := by
  by_cases hquoted : IsQuote b
  · obtain rfl | rfl | rfl := hquoted
    · exact .quoted [] (Or.inl rfl)
    · exact .quoted [] (Or.inr (Or.inl rfl))
    · exact .quoted [] (Or.inr (Or.inr rfl))
  · by_cases hdash : b = dash
    · subst hdash
      exact .minus
    · by_cases hslash : b = slash
      · subst hslash
        exact .slash
      · by_cases hhash : b = Sql.hash
        · subst hhash
          exact .line
        · obtain ⟨hquote, hdouble, hback⟩ : b ≠ quote ∧ b ≠ doubleQuote ∧ b ≠ backtick := by
            simpa only [IsQuote, not_or] using hquoted
          have hscanner : (mysqlScanner noBackslashEscapes).enter b = .code := by
            simp [Scanner.enter, hquote, hdouble, hback, hdash, hslash, hhash]
          have hlexer : ((mysqlLexer noBackslashEscapes executableComments).enter b).1 = .code := by
            simp [Dialect.enter, hquote, hdouble, hback, hdash, hslash, hhash]
          rw [hscanner, hlexer]
          exact .code

/-- As long as the two are in step, the next byte leaves them in the same region. -/
theorem sameRegion_step {m : ScanMode} {m' : Mode} {b : Byte} (h : SameRegion m m')
    (hb : inStep (mysqlLexer noBackslashEscapes executableComments) m' b = true) :
    SameRegion ((mysqlScanner noBackslashEscapes).step m b)
      ((mysqlLexer noBackslashEscapes executableComments).regions.step m' b) := by
  have henter : SameRegion ((mysqlScanner noBackslashEscapes).enter b)
      ((mysqlLexer noBackslashEscapes executableComments).enter b).1 := sameRegion_enter b
  change SameRegion _ ((mysqlLexer noBackslashEscapes executableComments).step m' b).1
  cases h with
  | code => exact henter
  | minus =>
    rw [Scanner.step, Dialect.step]
    by_cases hdash : b = dash
    · rw [if_pos hdash, if_pos hdash]
      exact .minusMinus
    · rw [if_neg hdash, if_neg hdash]
      exact henter
  | slash =>
    rw [Scanner.step, Dialect.step]
    by_cases hstar : b = Sql.star
    · rw [if_pos hstar, if_pos hstar]
      exact .blockOpen
    · rw [if_neg hstar, if_neg hstar]
      exact henter
  -- Behind `--` the search is in a comment already, and the server only now that a blank follows.
  | minusMinus =>
    obtain ⟨hblank, hreturn⟩ : (b ≤ 0x20 ∨ b = 0x7f) ∧ b ≠ 0x0d := by
      simpa only [inStep, Bool.and_eq_true, Bool.or_eq_true, decide_eq_true_eq, bne_iff_ne] using hb
    rw [Scanner.step, Dialect.step, if_pos hblank, Dialect.stepLine]
    by_cases hnewline : b = newline
    · rw [if_pos (Or.inl hnewline), if_pos hnewline]
      exact .code
    · rw [if_neg (not_or.mpr ⟨hnewline, hreturn⟩), if_neg hnewline]
      exact .line
  | line =>
    rw [Scanner.step, Dialect.step, Dialect.stepLine]
    by_cases hnewline : b = newline
    · rw [if_pos (Or.inl hnewline), if_pos hnewline]
      exact .code
    · rw [if_neg (not_or.mpr ⟨hnewline, bne_iff_ne.mp hb⟩), if_neg hnewline]
      exact .line
  | blockOpen =>
    have hplain : ¬(b = bang ∧
        (mysqlLexer noBackslashEscapes executableComments).executableComments = true) := by
      rintro ⟨hbang, hexecutable⟩
      simp [inStep, hbang, hexecutable] at hb
    rw [Scanner.step, Dialect.step, if_neg hplain, Dialect.stepBlock]
    by_cases hstar : b = Sql.star
    · rw [if_pos hstar, if_pos hstar]
      exact .blockStar
    · rw [if_neg hstar, if_neg hstar]
      exact .block
  | block =>
    rw [Scanner.step, Dialect.step, Dialect.stepBlock]
    by_cases hstar : b = Sql.star
    · rw [if_pos hstar, if_pos hstar]
      exact .blockStar
    · rw [if_neg hstar, if_neg hstar]
      exact .block
  | blockStar =>
    rw [Scanner.step, Dialect.step, Dialect.stepBlock]
    by_cases hslash : b = slash
    · rw [if_pos hslash, if_pos hslash]
      exact .code
    · rw [if_neg hslash, if_neg hslash]
      by_cases hstar : b = Sql.star
      · rw [if_pos hstar, if_pos hstar]
        exact .blockStar
      · rw [if_neg hstar, if_neg hstar]
        exact .block
  -- The search asks for a backslash before it asks for the quote, the server the other way round.
  | @quoted q value h =>
    have hescapes : (mysqlScanner noBackslashEscapes).backslashEscapes = true ∧ q ≠ backtick ∧
          b = backslash ↔
        b = backslash ∧
          (mysqlLexer noBackslashEscapes executableComments).backslashEscapes = true ∧
          q ≠ backtick := by
      change (!noBackslashEscapes) = true ∧ _ ∧ _ ↔ _ ∧ (!noBackslashEscapes) = true ∧ _
      tauto
    rw [Scanner.step, Dialect.step]
    by_cases hq : b = q
    · have hbackslash : b ≠ backslash := hq ▸ h.ne.2
      rw [if_neg fun hand ↦ hbackslash hand.2.2, if_pos hq, if_pos hq]
      exact .closing value h
    · rw [if_neg hq]
      by_cases hescape : (mysqlScanner noBackslashEscapes).backslashEscapes = true ∧ q ≠ backtick ∧
          b = backslash
      · rw [if_pos hescape, if_neg hq, if_pos (hescapes.mp hescape)]
        exact .escape value h
      · rw [if_neg hescape, if_neg hq, if_neg fun hand ↦ hescape (hescapes.mpr hand)]
        exact .quoted _ h
  | escape value h => exact .quoted _ h
  | @closing q value h =>
    rw [Scanner.step, Dialect.step]
    by_cases hq : b = q
    · rw [if_pos hq, if_pos hq]
      exact .quoted _ h
    · rw [if_neg hq, if_neg hq]
      exact henter

/-- In the same region, the two see a question mark alike. -/
theorem sameRegion_outside {m : ScanMode} {m' : Mode} (h : SameRegion m m')
    (hb : inStep (mysqlLexer noBackslashEscapes executableComments) m' questionMark = true) :
    (mysqlScanner noBackslashEscapes).regions.outside m
      = (mysqlLexer noBackslashEscapes executableComments).regions.outside m' := by
  cases h with
  | code | minus | slash | line | block | blockStar => rfl
  | minusMinus => cases hb
  | blockOpen => rfl
  | @quoted q value h =>
    have hstep : ((mysqlLexer noBackslashEscapes executableComments).step (.quoted q value)
        questionMark).2 = [] := by
      rw [Dialect.step, if_neg h.ne.1.symm]
      split_ifs <;> rfl
    change false = decide (_ ∈ ((mysqlLexer _ _).step _ _).2)
    rw [hstep]
    rfl
  | escape value h => rfl
  | @closing q value h =>
    have hstep : ((mysqlLexer noBackslashEscapes executableComments).step (.closing q value)
        questionMark).2
        = [(mysqlLexer noBackslashEscapes executableComments).quotedText q value,
          .code questionMark] := by
      rw [Dialect.step, if_neg h.ne.1.symm]
      rfl
    change (q != questionMark) = decide (_ ∈ ((mysqlLexer _ _).step _ _).2)
    rw [hstep, bne_iff_ne.mpr h.ne.1]
    exact (decide_eq_true (by simp)).symm

/-- **The search and the server.** In a text in which no line comment tells them apart, the search
finds exactly the question marks that the server's lexer places outside quoted text and comments. -/
theorem placeholders_eq_lexer (sql : Bytes) (noBackslashEscapes executableComments : Bool)
    (h : CleanComments (mysqlLexer noBackslashEscapes executableComments) sql) :
    placeholders sql noBackslashEscapes 0
      = (mysqlLexer noBackslashEscapes executableComments).regions.positions .code 0 sql := by
  rw [placeholders_eq]
  exact Regions.positions_eq (fun _ _ hsame hb ↦ sameRegion_outside hsame hb)
    (fun _ _ _ hsame hb ↦ sameRegion_step hsame hb) 0 .code h

/-- A query with a parameter, a quoted question mark and a comment. -/
theorem placeholders_select :
    CleanComments (mysqlLexer false true) (ascii "SELECT '?' -- ?\n, ?") ∧
      placeholders (ascii "SELECT '?' -- ?\n, ?") false 0
        = (mysqlLexer false true).regions.positions .code 0 (ascii "SELECT '?' -- ?\n, ?") := by
  have hclean : CleanComments (mysqlLexer false true) (ascii "SELECT '?' -- ?\n, ?") := by
    decide
  exact ⟨hclean, placeholders_eq_lexer _ false true hclean⟩

/-- In `5--?` the server sees a minus sign before a negative parameter and the search a comment; in
a comment that a carriage return does not end, the search finds a parameter that is none. -/
theorem placeholders_ne_lexer :
    placeholders (ascii "SELECT 5--?") false 0
        ≠ (mysqlLexer false true).regions.positions .code 0 (ascii "SELECT 5--?") ∧
      placeholders (ascii "SELECT 5 #\r?") false 0
        ≠ (mysqlLexer false true).regions.positions .code 0 (ascii "SELECT 5 #\r?") := by
  rw [placeholders_eq, placeholders_eq]
  decide

end

end Ormpp
