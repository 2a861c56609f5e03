import Ormpp.Sql.Lexer

/-!
# Literals written with doubled quotes

A string is written into a statement between quotes, with every quote in it doubled. Whether a
server reads the string back depends on the dialect: where a backslash is an escape character, the
string must not contain one, except before a wildcard of `LIKE`, where it is kept.

A statement is a list of pieces, each either text of the statement proper or a literal.
-/

namespace Ormpp

namespace Sql

/-- The string with its quotes doubled. -/
def doubled (value : Bytes) : Bytes :=
  value.flatMap fun b ↦ if b = quote then [quote, quote] else [b]

/-- Every backslash stands directly before a `%` or a `_`. -/
def backslashesKept : Bytes → Bool
  | [] => true
  | [b] => b != backslash
  | b :: c :: value =>
    if b = backslash then (c = percent || c = underscore) && backslashesKept value
    else backslashesKept (c :: value)

/-- The strings that a dialect reads back from between doubled quotes. -/
def Dialect.Keeps (d : Dialect) (value : Bytes) : Prop :=
  d.backslashEscapes = true → backslashesKept value = true

theorem doubled_cons (b : Byte) (value : Bytes) :
    doubled (b :: value) = (if b = quote then [quote, quote] else [b]) ++ doubled value := rfl

theorem doubled_cons_of_ne {b : Byte} (h : b ≠ quote) (value : Bytes) :
    doubled (b :: value) = b :: doubled value := by
  rw [doubled_cons, if_neg h, List.singleton_append]

namespace Dialect

variable {d : Dialect}

/-! ## Steps inside a literal -/

/-- A byte that is neither a quote nor an escape is taken as it is. -/
theorem output_quoted_cons {b : Byte} (hquote : b ≠ quote)
    (hescape : d.backslashEscapes = true → b ≠ backslash) (value text : Bytes) :
    d.lexer.output (.quoted quote value) (b :: text)
      = d.lexer.output (.quoted quote (value ++ [b])) text := by
  have hstep : d.lexer.step (.quoted quote value) b = (.quoted quote (value ++ [b]), []) := by
    change d.step (.quoted quote value) b = _
    rw [step, if_neg hquote, if_neg]
    rintro ⟨hb, hd, -⟩
    exact hescape hd hb
  rw [Transducer.output_cons, hstep, List.nil_append]

/-- A doubled quote is taken as one. -/
theorem output_quoted_quote (value text : Bytes) :
    d.lexer.output (.quoted quote value) (quote :: quote :: text)
      = d.lexer.output (.quoted quote (value ++ [quote])) text := rfl

theorem output_quoted_escape (h : d.backslashEscapes = true) (value text : Bytes) :
    d.lexer.output (.quoted quote value) (backslash :: text)
      = d.lexer.output (.escape quote value) text := by
  have hstep : d.lexer.step (.quoted quote value) backslash = (.escape quote value, []) := by
    change d.step (.quoted quote value) backslash = _
    rw [step, if_neg (by decide), if_pos ⟨rfl, h, by decide⟩]
  rw [Transducer.output_cons, hstep, List.nil_append]

/-- A quote that is not doubled ends the literal. -/
theorem output_quoted_end (value : Bytes) {text : Bytes} (h : text.head? ≠ some quote) :
    d.lexer.output (.quoted quote value) (quote :: text)
      = .literal value :: d.lexer.output .code text := by
  rw [← output_closing value text h]
  rfl

/-- A byte of a written string that is no escape is read back, doubled or not. -/
theorem output_doubled_cons {b : Byte} (h : d.backslashEscapes = true → b ≠ backslash)
    (acc value text : Bytes) :
    d.lexer.output (.quoted quote acc) (doubled (b :: value) ++ text)
      = d.lexer.output (.quoted quote (acc ++ [b])) (doubled value ++ text) := by
  by_cases hb : b = quote
  · subst hb
    exact output_quoted_quote acc _
  · rw [doubled_cons_of_ne hb]
    exact output_quoted_cons hb h acc _

/-- A backslash of a written string takes the byte behind it with it. -/
theorem output_doubled_backslash (h : d.backslashEscapes = true) {b : Byte} (hb : b ≠ quote)
    (acc value text : Bytes) :
    d.lexer.output (.quoted quote acc) (doubled (backslash :: b :: value) ++ text)
      = d.lexer.output (.quoted quote (acc ++ unescape b)) (doubled value ++ text) := by
  rw [doubled_cons_of_ne (by decide), doubled_cons_of_ne hb]
  exact output_quoted_escape h acc _

theorem unescape_of_wildcard {b : Byte} (h : b = percent ∨ b = underscore) :
    unescape b = [backslash, b] := by
  rcases h with rfl | rfl <;> rfl

/-- What a backslash and a byte stand for begins with a backslash only if the byte is one, or a
wildcard. -/
theorem head_unescape {b : Byte} (hb : b ≠ backslash) (hw : ¬(b = percent ∨ b = underscore)) :
    ∃ c, unescape b = [c] ∧ c ≠ backslash := by
  rw [unescape, if_neg hw]
  split_ifs
  case neg => exact ⟨b, rfl, hb⟩
  all_goals exact ⟨_, rfl, by decide⟩

/-! ## What is read back -/

theorem Keeps.tail {b : Byte} {value : Bytes} (h : d.Keeps (b :: value))
    (hb : d.backslashEscapes = true → b ≠ backslash) : d.Keeps value := by
  intro hd
  have hkept := h hd
  cases value with
  | nil => rfl
  | cons c value => rwa [backslashesKept, if_neg (hb hd)] at hkept

theorem Keeps.tail_backslash {c : Byte} {value : Bytes} (hd : d.backslashEscapes = true)
    (h : d.Keeps (backslash :: c :: value)) : (c = percent ∨ c = underscore) ∧ d.Keeps value := by
  have hkept := h hd
  rw [backslashesKept, if_pos rfl, Bool.and_eq_true, Bool.or_eq_true, decide_eq_true_iff,
    decide_eq_true_iff] at hkept
  exact ⟨hkept.1, fun _ ↦ hkept.2⟩

/-- A string that the dialect keeps is read back. -/
theorem output_doubled {value : Bytes} (h : d.Keeps value) (acc : Bytes) {text : Bytes}
    (htext : text.head? ≠ some quote) :
    d.lexer.output (.quoted quote acc) (doubled value ++ quote :: text)
      = .literal (acc ++ value) :: d.lexer.output .code text := by
  -- two bytes at a time, since a backslash takes the next byte with it
  induction value using List.twoStepInduction generalizing acc with
  | nil =>
    rw [List.append_nil]
    exact output_quoted_end acc htext
  | singleton b =>
    have hb : d.backslashEscapes = true → b ≠ backslash := fun hd ↦ by
      simpa [backslashesKept] using h hd
    rw [output_doubled_cons hb]
    exact output_quoted_end _ htext
  | cons_cons b c value ih₁ ih₂ =>
    by_cases hb : d.backslashEscapes = true ∧ b = backslash
    · obtain ⟨hd, rfl⟩ := hb
      obtain ⟨hc, hvalue⟩ := Keeps.tail_backslash hd h
      have hne : c ≠ quote := by
        rintro rfl
        exact absurd hc (by decide)
      rw [output_doubled_backslash hd hne, unescape_of_wildcard hc, ih₁ hvalue, List.append_assoc]
      rfl
    · have hb' : d.backslashEscapes = true → b ≠ backslash := fun hd heq ↦ hb ⟨hd, heq⟩
      rw [output_doubled_cons hb', ih₂ c (Keeps.tail h hb'), List.append_assoc]
      rfl

/-- The first lexeme is a literal, ended or not, whose value begins as given. -/
def BeginsLiteral (acc : Bytes) (lexemes : List Lexeme) : Prop :=
  ∃ (value : Bytes) (more : List Lexeme), lexemes = .literal (acc ++ value) :: more ∨
    lexemes = .unterminated quote (acc ++ value) :: more

theorem BeginsLiteral.of_append {acc xs : Bytes} {lexemes : List Lexeme}
    (h : BeginsLiteral (acc ++ xs) lexemes) : BeginsLiteral acc lexemes := by
  obtain ⟨value, more, h⟩ := h
  refine ⟨xs ++ value, more, ?_⟩
  rwa [← List.append_assoc]

theorem BeginsLiteral.isPrefix {acc xs value : Bytes} {more : List Lexeme}
    (h : BeginsLiteral (acc ++ xs) (.literal (acc ++ value) :: more)) : xs <+: value := by
  obtain ⟨ys, more', h | h⟩ := h
  · have hvalue : acc ++ value = acc ++ xs ++ ys := Lexeme.literal.inj (List.cons.inj h).1
    rw [List.append_assoc] at hvalue
    exact ⟨ys, (List.append_cancel_left hvalue).symm⟩
  · cases h

/-- Whatever follows, what has been read of a literal stays the beginning of its value. -/
theorem beginsLiteral_output (text acc : Bytes) :
    BeginsLiteral acc (d.lexer.output (.quoted quote acc) text) ∧
      BeginsLiteral acc (d.lexer.output (.escape quote acc) text) ∧
      BeginsLiteral acc (d.lexer.output (.closing quote acc) text) := by
  induction text generalizing acc with
  | nil =>
    refine ⟨⟨[], [], Or.inr ?_⟩, ⟨[], [], Or.inr ?_⟩, ⟨[], [], Or.inl ?_⟩⟩ <;>
      rw [List.append_nil] <;> rfl
  | cons b text ih =>
    refine ⟨?_, ?_, ?_⟩
    · by_cases hb : b = quote
      · subst hb
        exact (ih acc).2.2
      · by_cases hescape : d.backslashEscapes = true ∧ b = backslash
        · obtain ⟨hd, rfl⟩ := hescape
          rw [output_quoted_escape hd]
          exact (ih acc).2.1
        · rw [output_quoted_cons hb fun hd heq ↦ hescape ⟨hd, heq⟩]
          exact (ih (acc ++ [b])).1.of_append
    · exact (ih (acc ++ unescape b)).1.of_append
    · by_cases hb : b = quote
      · subst hb
        exact (ih (acc ++ [quote])).1.of_append
      · refine ⟨[], d.lexer.output .code (b :: text), Or.inl ?_⟩
        rw [List.append_nil]
        exact output_closing acc (b :: text) (by simpa using hb)

/-- What has been read of a literal is the beginning of the value it turns out to have. -/
theorem isPrefix_of_output {acc xs text value : Bytes} {more : List Lexeme}
    (h : d.lexer.output (.quoted quote (acc ++ xs)) text = .literal (acc ++ value) :: more) :
    xs <+: value := by
  have hbegins := (beginsLiteral_output (d := d) text (acc ++ xs)).1
  rw [h] at hbegins
  exact hbegins.isPrefix

/-- The value of a literal does not begin with a byte other than those read of it. -/
theorem eq_of_output {b c : Byte} {acc text value : Bytes} {more : List Lexeme}
    (h : d.lexer.output (.quoted quote (acc ++ [b])) text = .literal (acc ++ c :: value) :: more) :
    b = c :=
  (List.cons_prefix_cons.mp (isPrefix_of_output h)).1

/-- Once a backslash has come out that stands for no backslash of the string, the string is not read
back: there is always one backslash more to come than there is left. -/
theorem output_ne_of_backslashes (hd : d.backslashEscapes = true) (value : Bytes) (n : ℕ)
    (acc : Bytes) {text : Bytes} (htext : text.head? ≠ some quote) (more : List Lexeme) :
    d.lexer.output (.quoted quote acc) (doubled value ++ quote :: text)
      ≠ .literal (acc ++ (backslash :: (List.replicate n backslash ++ value))) :: more := by
  induction value using List.twoStepInduction generalizing acc n with
  | nil =>
    intro h
    have hend := (output_quoted_end (d := d) acc htext).symm.trans h
    have hvalue := Lexeme.literal.inj (List.cons.inj hend).1
    exact absurd (congrArg List.length hvalue) (by simp)
  | singleton b =>
    intro h
    by_cases hb : b = backslash
    · -- the backslash takes the closing quote with it
      subst hb
      rw [doubled_cons_of_ne (by decide)] at h
      exact absurd (eq_of_output ((output_quoted_escape hd acc _).symm.trans h)) (by decide)
    · rw [output_doubled_cons fun _ ↦ hb] at h
      exact hb (eq_of_output h)
  | cons_cons b c value ih₁ ih₂ =>
    intro h
    by_cases hb : b = backslash
    · subst hb
      by_cases hquote : c = quote
      · -- the backslash takes the first of the doubled quotes with it
        subst hquote
        rw [doubled_cons_of_ne (by decide)] at h
        exact absurd (eq_of_output ((output_quoted_escape hd acc _).symm.trans h)) (by decide)
      rw [output_doubled_backslash hd hquote] at h
      by_cases hw : c = percent ∨ c = underscore
      · rw [unescape_of_wildcard hw] at h
        have hc : c = backslash := by
          have hprefix := (List.cons_prefix_cons.mp (isPrefix_of_output h)).2
          cases n with
          | zero => exact (List.cons_prefix_cons.mp hprefix).1
          | succ n => exact (List.cons_prefix_cons.mp hprefix).1
        subst hc
        exact absurd hw (by decide)
      · by_cases hc : c = backslash
        -- Two backslashes come out as one, so one more of them is owed.
        · subst hc
          have hpush (xs : Bytes) : List.replicate n backslash ++ backslash :: xs
              = backslash :: (List.replicate n backslash ++ xs) := by
            rw [List.append_cons, ← List.replicate_succ', List.replicate_succ, List.cons_append]
          apply ih₁ (n + 1) (acc ++ [backslash])
          rw [List.replicate_succ, List.cons_append, ← hpush, ← hpush, List.append_assoc]
          exact h
        · obtain ⟨x, hx, hne⟩ := head_unescape hc hw
          rw [hx] at h
          exact hne (eq_of_output h)
    · rw [output_doubled_cons fun _ ↦ hb] at h
      exact hb (eq_of_output h)

/-- A string that the dialect does not keep is not read back. -/
theorem output_ne_of_not_keeps (value : Bytes) (h : ¬d.Keeps value) (acc : Bytes) {text : Bytes}
    (htext : text.head? ≠ some quote) (more : List Lexeme) :
    d.lexer.output (.quoted quote acc) (doubled value ++ quote :: text)
      ≠ .literal (acc ++ value) :: more := by
  obtain ⟨hd, hkept⟩ := Classical.not_imp.mp h
  induction value using List.twoStepInduction generalizing acc with
  | nil => exact absurd rfl hkept
  | singleton b =>
    have hb : b = backslash := by simpa [backslashesKept] using hkept
    subst hb
    rw [doubled_cons_of_ne (by decide)]
    intro heq
    exact absurd (eq_of_output ((output_quoted_escape hd acc _).symm.trans heq)) (by decide)
  | cons_cons b c value ih₁ ih₂ =>
    by_cases hb : b = backslash
    · subst hb
      rw [backslashesKept, if_pos rfl, Bool.and_eq_true, not_and, Bool.or_eq_true,
        decide_eq_true_iff, decide_eq_true_iff] at hkept
      by_cases hw : c = percent ∨ c = underscore
      · have hne : c ≠ quote := by
          rintro rfl
          exact absurd hw (by decide)
        have hvalue : ¬d.Keeps value := fun hk ↦ hkept hw (hk hd)
        have hnext := ih₁ hvalue (acc ++ [backslash, c]) fun hk ↦ hkept hw hk
        rw [List.append_assoc] at hnext
        rwa [output_doubled_backslash hd hne, unescape_of_wildcard hw]
      · intro heq
        by_cases hquote : c = quote
        · subst hquote
          rw [doubled_cons_of_ne (by decide)] at heq
          exact absurd (eq_of_output ((output_quoted_escape hd acc _).symm.trans heq)) (by decide)
        rw [output_doubled_backslash hd hquote] at heq
        by_cases hc : c = backslash
        -- The first backslash takes the second with it, and the value is one short from here on.
        · subst hc
          apply output_ne_of_backslashes hd value 0 (acc ++ [backslash]) htext more
          rw [List.append_assoc]
          exact heq
        · obtain ⟨x, hx, hne⟩ := head_unescape hc hw
          rw [hx] at heq
          exact hne (eq_of_output heq)
    · rw [backslashesKept, if_neg hb] at hkept
      have hnext := ih₂ c (fun hk ↦ hkept (hk hd)) (acc ++ [b]) hkept
      rw [List.append_assoc] at hnext
      rwa [output_doubled_cons fun _ ↦ hb]

end Dialect

/-! ## Statements in pieces -/

/-- A part of a statement. -/
inductive Piece
  | code (text : Bytes)
  | literal (value : Bytes)

namespace Piece

/-- The piece as it is written. -/
def text : Piece → Bytes
  | .code text => text
  | .literal value => quote :: (doubled value ++ [quote])

@[simp] theorem text_code (t : Bytes) : (code t).text = t := rfl

/-- The piece as it is to be read. -/
def lexemes : Piece → List Lexeme
  | .code text => text.map .code
  | .literal value => [.literal value]

/-- The strings among some pieces. -/
def values (pieces : List Piece) : List Bytes :=
  pieces.filterMap fun
    | .code _ => none
    | .literal value => some value

/-- Pieces that can stand side by side: the code is lexed byte by byte, and no literal is followed
by something that begins with a quote. -/
def Separated (d : Dialect) : List Piece → Prop
  | [] => True
  | .code text :: pieces => d.CodeText text ∧ Separated d pieces
  | .literal _ :: pieces => (pieces.flatMap text).head? ≠ some quote ∧ Separated d pieces

end Piece

/-- **Reading literals back.** A statement is read as its pieces exactly when the dialect keeps
every string in it. -/
theorem lex_pieces_iff {d : Dialect} {pieces : List Piece} (h : Piece.Separated d pieces) :
    d.lex (pieces.flatMap Piece.text) = pieces.flatMap Piece.lexemes ↔
      ∀ value ∈ Piece.values pieces, d.Keeps value := by
  rw [Dialect.lex]
  induction pieces with
  | nil => exact iff_of_true rfl (by simp [Piece.values])
  | cons p pieces ih =>
    rw [List.flatMap_cons, List.flatMap_cons]
    cases p with
    | code text =>
      obtain ⟨hcode, hpieces⟩ := h
      rw [Piece.text, d.lexer.output_append_of_run hcode, Piece.lexemes, List.append_cancel_left_eq,
        ih hpieces]
      rfl
    | literal value =>
      obtain ⟨hnext, hpieces⟩ := h
      have hbegin : d.lexer.output .code (Piece.text (.literal value) ++ pieces.flatMap Piece.text)
          = d.lexer.output (.quoted quote [])
            (doubled value ++ quote :: pieces.flatMap Piece.text) := by
        rw [Piece.text, List.cons_append, List.append_assoc]
        rfl
      rw [hbegin]
      by_cases hkeeps : d.Keeps value
      · rw [Dialect.output_doubled hkeeps [] hnext, List.nil_append, Piece.lexemes,
          List.singleton_append, List.cons.injEq, and_iff_right rfl, ih hpieces]
        simp [Piece.values, hkeeps]
      · apply iff_of_false (Dialect.output_ne_of_not_keeps value hkeeps [] hnext _)
        intro hall
        exact hkeeps (hall value (by simp [Piece.values]))

end Sql

end Ormpp
