import Ormpp.Sql.Token

/-!
# Parameters of a statement

Which column each parameter of a statement is assigned to or compared with. A parameter is a
question mark or a dollar sign with a number, and stands behind a column and an equals sign.
-/

namespace Ormpp

namespace Sql

/-- A column and the number of its parameter, if the statement gives one. -/
abbrev Parameter := Bytes × Option ℕ

def equalsSign : Byte := 0x3d
def dollar : Byte := 0x24

namespace Parameter

inductive Mode
  | idle
  | word (bytes : Bytes)
  | name (n : Bytes)
  | equals (n : Bytes)
  /-- Behind a question mark, or in the number of a parameter. -/
  | parameter (n : Bytes) (digits : Option Bytes)

def enter : Lexeme → Mode
  | .code b => if isWordByte b then .word [b] else .idle
  | .quotedName n => .name n
  | .literal _ | .unterminated _ _ => .idle

def step : Mode → Lexeme → Mode × List Parameter
  | .idle, l => (enter l, [])
  | .word bytes, .code b =>
    if isWordByte b then (.word (bytes ++ [b]), [])
    else if b = equalsSign then (.equals bytes, [])
    else (enter (.code b), [])
  | .word _, l => (enter l, [])
  | .name n, .code b => if b = equalsSign then (.equals n, []) else (enter (.code b), [])
  | .name _, l => (enter l, [])
  | .equals n, .code b =>
    if b = questionMark then (.parameter n none, [])
    else if b = dollar then (.parameter n (some []), [])
    else (enter (.code b), [])
  | .equals _, l => (enter l, [])
  | .parameter n (some digits), .code b =>
    if isDigit b then (.parameter n (some (digits ++ [b])), [])
    else (enter (.code b), [(n, some (decimalValue digits))])
  | .parameter n digits, l => (enter l, [(n, digits.map decimalValue)])

def finish : Mode → List Parameter
  | .parameter n digits => [(n, digits.map decimalValue)]
  | .idle | .word _ | .name _ | .equals _ => []

end Parameter

def parameterReader : Transducer Parameter.Mode Lexeme Parameter :=
  ⟨Parameter.step, Parameter.finish⟩

/-- The parameters of a statement, from left to right. -/
def parameters (d : Dialect) (text : Bytes) : List Parameter :=
  parameterReader.output .idle (d.lex text)

/-! ## Reading a text part by part -/

namespace Parameter

variable {d : Dialect}

/-- Between tokens, the text takes the reader from one mode to another. -/
def Reads (d : Dialect) (m : Mode) (text : Bytes) (m' : Mode) (ps : List Parameter) : Prop :=
  ∃ lexemes, d.lexer.run .code text = (.code, lexemes) ∧ parameterReader.run m lexemes = (m', ps)

theorem Reads.append {m₁ m₂ m₃ : Mode} {xs ys : Bytes} {ps qs : List Parameter}
    (hx : Reads d m₁ xs m₂ ps) (hy : Reads d m₂ ys m₃ qs) :
    Reads d m₁ (xs ++ ys) m₃ (ps ++ qs) := by
  obtain ⟨ls, hls, hps⟩ := hx
  obtain ⟨ks, hks, hqs⟩ := hy
  refine ⟨ls ++ ks, ?_, ?_⟩
  · rw [d.lexer.run_append_of_run hls, hks]
  · rw [parameterReader.run_append_of_run hps, hqs]

theorem reads_code {m m' : Mode} {text : Bytes} {ps : List Parameter} (h : d.CodeText text)
    (hrun : parameterReader.run m (text.map .code) = (m', ps)) : Reads d m text m' ps :=
  ⟨_, h, hrun⟩

theorem run_word {word : Bytes} (h : ∀ b ∈ word, isWordByte b = true) (bytes : Bytes) :
    parameterReader.run (.word bytes) (word.map .code) = (.word (bytes ++ word), []) :=
  parameterReader.run_collect Parameter.Mode.word Lexeme.code (fun _ _ hb ↦ if_pos hb) h bytes

/-- A word from the beginning. -/
theorem run_idle_word {word : Bytes} (hne : word ≠ []) (h : ∀ b ∈ word, isWordByte b = true) :
    parameterReader.run .idle (word.map .code) = (.word word, []) := by
  obtain ⟨b, word, rfl⟩ := List.exists_cons_of_ne_nil hne
  obtain ⟨hb, hword⟩ := List.forall_mem_cons.mp h
  have hstep : parameterReader.step .idle (.code b) = (.word [b], []) :=
    congrArg (·, []) (if_pos hb)
  rw [List.map_cons, Transducer.run, hstep, run_word hword]
  rfl

/-- A word that goes on to be read. -/
theorem reads_idle_word {word : Bytes} (hne : word ≠ []) (h : ∀ b ∈ word, isWordByte b = true) :
    Reads d .idle word (.word word) [] := by
  have hcode : ∀ b ∈ word, isCodeByte b = true := fun b hb ↦ isCodeByte_of_isWordByte (h b hb)
  exact reads_code (Dialect.codeText_of_isCodeByte hcode) (run_idle_word hne h)

theorem run_digits {digits : Bytes} (h : ∀ b ∈ digits, isDigit b = true) (n ds : Bytes) :
    parameterReader.run (.parameter n (some ds)) (digits.map .code)
      = (.parameter n (some (ds ++ digits)), []) := by
  induction digits generalizing ds with
  | nil => rw [List.append_nil]; rfl
  | cons b digits ih =>
    obtain ⟨hb, hdigits⟩ := List.forall_mem_cons.mp h
    have hstep : parameterReader.step (.parameter n (some ds)) (.code b)
        = (.parameter n (some (ds ++ [b])), []) := if_pos hb
    rw [List.map_cons, Transducer.run, hstep, ih hdigits, List.append_assoc]
    rfl

/-! ## Items and what separates them -/

/-- The parameters of the text are the given ones. It can end inside a word or behind a
parameter. -/
def Yields (d : Dialect) (text : Bytes) (ps : List Parameter) : Prop :=
  ∃ m out, Reads d .idle text m out ∧ ps = out ++ finish m

/-- A text that ends whatever it is behind. -/
def Separator (d : Dialect) (text : Bytes) : Prop := ∀ m, Reads d m text .idle (finish m)

theorem Yields.parameters {text : Bytes} {ps : List Parameter} (h : Yields d text ps) :
    parameters d text = ps := by
  obtain ⟨m, out, ⟨lexemes, hlex, hrun⟩, rfl⟩ := h
  have hfinish : d.lex text = lexemes := by
    rw [Dialect.lex, Transducer.output, hlex]
    exact List.append_nil _
  rw [Sql.parameters, hfinish, Transducer.output, hrun]
  rfl

theorem Yields.append {xs sep ys : Bytes} {ps qs : List Parameter} (hx : Yields d xs ps)
    (hsep : Separator d sep) (hy : Yields d ys qs) : Yields d (xs ++ sep ++ ys) (ps ++ qs) := by
  obtain ⟨m, out, hread, rfl⟩ := hx
  obtain ⟨m', out', hread', rfl⟩ := hy
  exact ⟨m', _, (hread.append (hsep m)).append hread', by simp⟩

theorem Yields.prepend {xs ys : Bytes} {ps : List Parameter} (hx : Reads d .idle xs .idle [])
    (hy : Yields d ys ps) : Yields d (xs ++ ys) ps := by
  obtain ⟨m, out, hread, rfl⟩ := hy
  exact ⟨m, out, hx.append hread, rfl⟩

theorem Separator.append {xs ys : Bytes} (hx : Separator d xs) (hy : Reads d .idle ys .idle []) :
    Separator d (xs ++ ys) := by
  intro m
  simpa using (hx m).append hy

/-- A byte that goes on with nothing. -/
theorem separator_byte {b : Byte} (hcode : isCodeByte b = true) (hword : isWordByte b = false)
    (hequals : b ≠ equalsSign) (hquestion : b ≠ questionMark) : Separator d [b] := by
  have hdollar : b ≠ dollar := by
    rintro rfl
    exact absurd hword (by decide)
  have hdigit : isDigit b = false := by
    cases hdigit : isDigit b with
    | false => rfl
    | true => exact hword.symm.trans (isWordByte_of_isDigit hdigit) |>.symm
  have henter : enter (.code b) = .idle := by
    rw [enter, hword]
    rfl
  -- Whatever is being read ends here, and a parameter with it.
  have hstep (m : Mode) : step m (.code b) = (.idle, finish m) := by
    cases m with
    | idle => rw [step, henter]; rfl
    | word | name => simp [step, finish, hword, hequals, henter]
    | equals => simp [step, finish, hquestion, hdollar, henter]
    | parameter n digits => cases digits <;> simp [step, finish, hdigit, henter]
  intro m
  apply reads_code (Dialect.codeText_of_isCodeByte (by simpa using hcode))
  change (((step m (.code b)).1), (step m (.code b)).2 ++ []) = _
  rw [hstep, List.append_nil]

theorem separator_blank : Separator d [blank] :=
  separator_byte (by decide) (by decide) (by decide) (by decide)

/-- Items with a separator between them. -/
theorem yields_intercalate {sep : Bytes} (hsep : Separator d sep)
    {items : List (Bytes × List Parameter)} (hne : items ≠ [])
    (h : ∀ p ∈ items, Yields d p.1 p.2) :
    Yields d (sep.intercalate (items.map Prod.fst)) (items.flatMap Prod.snd) := by
  induction items with
  | nil => exact absurd rfl hne
  | cons p items ih =>
    obtain ⟨hp, hitems⟩ := List.forall_mem_cons.mp h
    cases items with
    | nil => simpa using hp
    | cons q items =>
      rw [List.map_cons, List.map_cons, List.intercalate_cons_cons, List.flatMap_cons]
      exact hp.append hsep (ih (List.cons_ne_nil _ _) hitems)

/-! ## Columns with a parameter -/

/-- A column with a parameter that has no number. -/
theorem yields_questionMark {n text : Bytes} (h : Reads d .idle text (.equals n) []) :
    Yields d (text ++ [questionMark]) [(n, none)] :=
  ⟨.parameter n none, [], h.append (reads_code (Dialect.codeText_of_isCodeByte (by decide)) rfl),
    rfl⟩

/-- A column with a numbered parameter. -/
theorem yields_number {n text : Bytes} (h : Reads d .idle text (.equals n) []) (k : ℕ) :
    Yields d (text ++ dollar :: natText k) [(n, some k)] := by
  have hdigits : ∀ b ∈ natText k, isDigit b = true := fun b hb ↦ isDigit_of_mem_natText hb
  have hcode : ∀ b ∈ dollar :: natText k, isCodeByte b = true :=
    List.forall_mem_cons.mpr ⟨by decide, fun b hb ↦
      isCodeByte_of_isWordByte (isWordByte_of_isDigit (hdigits b hb))⟩
  have hrun : parameterReader.run (.equals n) ((dollar :: natText k).map .code)
      = (.parameter n (some (natText k)), []) := by
    have hstep : parameterReader.step (.equals n) (.code dollar) = (.parameter n (some []), []) :=
      rfl
    rw [List.map_cons, Transducer.run, hstep, run_digits hdigits]
    rfl
  refine ⟨.parameter n (some (natText k)), [], h.append (reads_code ?_ hrun), ?_⟩
  · exact Dialect.codeText_of_isCodeByte hcode
  · rw [finish, Option.map_some, decimalValue_natText]
    rfl

end Parameter

end Sql

end Ormpp
