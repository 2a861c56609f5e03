import Mathlib.Data.List.TakeWhile
import Ormpp.Sql.Grammar

/-!
# Tokens with their words

The tokens of a statement with its words as they are written, before it is looked up which of them
are keywords. What an expression is read from are the same tokens with their words looked up. A text
that ends between tokens is read the same way in front of every other text.
-/

namespace Ormpp

namespace Sql

inductive RawToken
  | word (text : Bytes)
  | text (value : Bytes)
  | quotedName (name : Bytes)
  | symbol (s : Symbol)
  | illegal
  deriving DecidableEq

/-- The token with its word looked up. -/
def RawToken.token : RawToken → Token
  | .word w => wordToken w
  | .text value => .text value
  | .quotedName name => .name name
  | .symbol s => .symbol s
  | .illegal => .illegal

/-! ## The machine -/

namespace RawTokenizer

/-- A lexeme between tokens. -/
def enter : Lexeme → Tokenizer.Mode × List RawToken
  | .code b =>
    if isWordByte b then (.word [b], [])
    else if isBlank b then (.idle, [])
    else if isHeld b then (.held b, [])
    else (.idle, [.symbol (single b)])
  | .literal value => (.idle, [.text value])
  | .quotedName name => (.idle, [.quotedName name])
  | .unterminated _ _ => (.idle, [.illegal])

/-- A lexeme that ends a token. -/
def enterAfter (t : RawToken) (l : Lexeme) : Tokenizer.Mode × List RawToken :=
  ((enter l).1, t :: (enter l).2)

def step : Tokenizer.Mode → Lexeme → Tokenizer.Mode × List RawToken
  | .idle, l => enter l
  | .word bytes, .code b =>
    if isWordByte b then (.word (bytes ++ [b]), []) else enterAfter (.word bytes) (.code b)
  | .word bytes, l => enterAfter (.word bytes) l
  | .held b, .code c =>
    match double b c with
    | some s => (.idle, [.symbol s])
    | none => enterAfter (.symbol (single b)) (.code c)
  | .held b, l => enterAfter (.symbol (single b)) l

def finish : Tokenizer.Mode → List RawToken
  | .idle => []
  | .word bytes => [.word bytes]
  | .held b => [.symbol (single b)]

end RawTokenizer

/-- Puts tokens together. -/
def rawTokenizer : Transducer Tokenizer.Mode Lexeme RawToken :=
  ⟨RawTokenizer.step, RawTokenizer.finish⟩

/-- The tokens of a list of lexemes. -/
def rawTokens (lexemes : List Lexeme) : List RawToken := rawTokenizer.output .idle lexemes

namespace RawTokenizer

theorem enter_map (l : Lexeme) :
    Tokenizer.enter l = ((enter l).1, (enter l).2.map RawToken.token) := by
  cases l with
  | code b =>
    simp only [enter, Tokenizer.enter]
    split_ifs <;> rfl
  | literal | quotedName | unterminated => rfl

theorem enterAfter_map (t : RawToken) (l : Lexeme) :
    Tokenizer.enterAfter t.token l
      = ((enterAfter t l).1, (enterAfter t l).2.map RawToken.token) := by
  rw [Tokenizer.enterAfter, enter_map]
  rfl

theorem step_map (m : Tokenizer.Mode) (l : Lexeme) :
    Tokenizer.step m l = ((step m l).1, (step m l).2.map RawToken.token) := by
  cases m with
  | idle => exact enter_map l
  | word bytes =>
    cases l with
    | code b =>
      simp only [step, Tokenizer.step]
      split_ifs
      · rfl
      · exact enterAfter_map (.word bytes) (.code b)
    | literal | quotedName | unterminated => exact enterAfter_map (.word bytes) _
  | held b =>
    cases l with
    | code c =>
      simp only [step, Tokenizer.step]
      cases double b c with
      | some s => rfl
      | none => exact enterAfter_map (.symbol (single b)) (.code c)
    | literal | quotedName | unterminated => exact enterAfter_map (.symbol (single b)) _

end RawTokenizer

/-- Looking up the words gives the tokens. -/
theorem tokens_eq_map (lexemes : List Lexeme) :
    tokens lexemes = (rawTokens lexemes).map RawToken.token :=
  rawTokenizer.output_map RawToken.token RawTokenizer.step_map
    (fun m ↦ by cases m <;> rfl) .idle lexemes

/-! ## The first statement -/

/-- The token that ends a statement. -/
def semicolon : RawToken := .symbol (.other 0x3b)

/-- The tokens of the first statement of a text. What is behind it is not read. -/
def statementTokens (text : Bytes) : List RawToken :=
  (rawTokens (standard.lex (cString text))).takeWhile fun t ↦ t ≠ semicolon

/-! ## A text that is read on its own -/

/-- The text has nothing in it but code, and ends between the tokens of a statement. -/
structure ReadsAs (text : Bytes) (ts : List RawToken) : Prop where
  code : ∀ b ∈ text, isCodeByte b = true
  run : rawTokenizer.run .idle (text.map .code) = (.idle, ts)
  nul : 0 ∉ text
  whole : semicolon ∉ ts

theorem readsAs_nil : ReadsAs [] [] where
  code _ h := absurd h List.not_mem_nil
  run := rfl
  nul := List.not_mem_nil
  whole := List.not_mem_nil

section

variable {text text' : Bytes} {ts ts' : List RawToken}

theorem ReadsAs.append (h : ReadsAs text ts) (h' : ReadsAs text' ts') :
    ReadsAs (text ++ text') (ts ++ ts') where
  code b hb := (List.mem_append.mp hb).elim (h.code b) (h'.code b)
  run := by rw [List.map_append, rawTokenizer.run_append_of_run h.run, h'.run]
  nul hb := (List.mem_append.mp hb).elim h.nul h'.nul
  whole ht := (List.mem_append.mp ht).elim h.whole h'.whole

/-- What is behind the text is read as if it stood at the beginning. -/
theorem ReadsAs.rawTokens_lex (h : ReadsAs text ts) (d : Dialect) (rest : Bytes) :
    rawTokens (d.lex (text ++ rest)) = ts ++ rawTokens (d.lex rest) := by
  have hcode : d.lexer.run .code text = (.code, text.map .code) :=
    Dialect.codeText_of_isCodeByte h.code
  rw [Dialect.lex, d.lexer.output_append_of_run hcode, rawTokens,
    rawTokenizer.output_append_of_run h.run]
  rfl

theorem ReadsAs.statementTokens_append (h : ReadsAs text ts) (rest : Bytes) :
    statementTokens (text ++ rest) = ts ++ statementTokens rest := by
  have hcString : cString (text ++ rest) = text ++ cString rest :=
    List.takeWhile_append_of_pos fun b hb ↦ bne_iff_ne.mpr fun h0 ↦ h.nul (h0 ▸ hb)
  rw [statementTokens, hcString, h.rawTokens_lex, List.takeWhile_append_of_pos]
  · rfl
  · exact fun t ht ↦ decide_eq_true fun heq ↦ h.whole (heq ▸ ht)

theorem ReadsAs.statementTokens_eq (h : ReadsAs text ts) : statementTokens text = ts := by
  have hnil : statementTokens [] = [] := rfl
  have htokens := h.statementTokens_append []
  rwa [List.append_nil, hnil, List.append_nil] at htokens

/-- A word in front of a byte that is not of a word. -/
theorem ReadsAs.word_append {b : Byte} (h : ReadsAs (b :: text) ts) (hb : isWordByte b = false)
    {word : Bytes} (hne : word ≠ []) (hword : ∀ b ∈ word, isWordByte b = true) :
    ReadsAs (word ++ b :: text) (.word word :: ts) where
  code c hc := (List.mem_append.mp hc).elim
    (fun hc ↦ isCodeByte_of_isWordByte (hword c hc)) (h.code c)
  run := by
    obtain ⟨c, word, rfl⟩ := List.exists_cons_of_ne_nil hne
    obtain ⟨hc, htail⟩ := List.forall_mem_cons.mp hword
    have henter : rawTokenizer.step .idle (.code c) = (.word [c], []) := if_pos hc
    have hcollect : rawTokenizer.run (.word [c]) (word.map .code) = (.word (c :: word), []) :=
      rawTokenizer.run_collect Tokenizer.Mode.word Lexeme.code (fun _ _ hb ↦ if_pos hb) htail [c]
    have hends : rawTokenizer.step (.word (c :: word)) (.code b)
        = ((rawTokenizer.step .idle (.code b)).1,
          .word (c :: word) :: (rawTokenizer.step .idle (.code b)).2) :=
      if_neg (by rw [hb]; exact Bool.false_ne_true)
    have hrest := h.run
    rw [List.map_cons, Transducer.run, Prod.mk.injEq] at hrest
    rw [List.map_append, List.map_cons, List.cons_append, Transducer.run, henter,
      rawTokenizer.run_append_of_run hcollect, List.map_cons, Transducer.run, hends]
    simp only [List.nil_append, List.cons_append, hrest]
  nul hmem := (List.mem_append.mp hmem).elim (fun hc ↦ absurd (hword 0 hc) (by decide)) h.nul
  whole hmem := by
    obtain hc | hc := List.mem_cons.mp hmem
    · cases hc
    · exact h.whole hc

end

/-- Items that are each read in front of what separates them and in front of what closes them. -/
theorem readsAs_intercalate {ι : Type} {text : ι → Bytes} {ts : ι → List RawToken}
    {between close : Bytes} {betweenTokens closeTokens : List RawToken} {items : List ι}
    (hne : items ≠ []) (hbetween : ∀ i ∈ items, ReadsAs (text i ++ between) (ts i ++ betweenTokens))
    (hclose : ∀ i ∈ items, ReadsAs (text i ++ close) (ts i ++ closeTokens)) :
    ReadsAs (between.intercalate (items.map text) ++ close)
      (betweenTokens.intercalate (items.map ts) ++ closeTokens) := by
  induction items with
  | nil => exact absurd rfl hne
  | cons i items ih =>
    obtain ⟨hfirst, hbetweens⟩ := List.forall_mem_cons.mp hbetween
    obtain ⟨hlast, hcloses⟩ := List.forall_mem_cons.mp hclose
    obtain _ | ⟨j, items⟩ := items
    · rw [List.map_singleton, List.map_singleton, List.intercalate_singleton,
        List.intercalate_singleton]
      exact hlast
    · have hrest := hfirst.append (ih (List.cons_ne_nil _ _) hbetweens hcloses)
      rw [List.map_cons, List.map_cons, List.map_cons, List.map_cons,
        List.intercalate_cons_cons, List.intercalate_cons_cons, List.append_assoc _ _ close,
        List.append_assoc _ _ closeTokens]
      exact hrest

/-! ## The end of a statement -/

/-- A blank behind what is held back. -/
theorem output_blank (m : Tokenizer.Mode) :
    rawTokenizer.output m [.code blank] = rawTokenizer.output m [] := by
  cases m with
  | idle | word => rfl
  | held b =>
    have hdouble : double b blank = none := by
      rw [double, if_neg (by decide), if_neg fun h ↦ absurd h.2 (by decide)]
    have hstep : rawTokenizer.step (.held b) (.code blank) = (.idle, [.symbol (single b)]) := by
      change RawTokenizer.step (.held b) (.code blank) = _
      rw [RawTokenizer.step, hdouble]
      rfl
    rw [Transducer.output_cons, hstep]
    rfl

theorem rawTokens_append_blank (lexemes : List Lexeme) :
    rawTokens (lexemes ++ [.code blank]) = rawTokens lexemes := by
  have hend := rawTokenizer.output_append .idle lexemes []
  rw [List.append_nil] at hend
  rw [rawTokens, rawTokenizer.output_append, output_blank, ← hend]
  rfl

/-- Whatever a text holds that is not closed, it is no token. -/
theorem rawTokens_append_unterminated (lexemes : List Lexeme) (q : Byte) (x y : Bytes) :
    rawTokens (lexemes ++ [.unterminated q x]) = rawTokens (lexemes ++ [.unterminated q y]) := by
  rw [rawTokens, rawTokens, rawTokenizer.output_append, rawTokenizer.output_append]
  cases (rawTokenizer.run .idle lexemes).1 <;> rfl

/-- A mode in which a blank ends nothing but what it is behind. -/
def Mode.EndsAtBlank : Mode → Prop
  | .minusMinus => False
  | .quoted q _ | .escape q _ | .closing q _ => q ≠ blank
  | _ => True

/-- Where two dashes begin a comment at once, every mode is one of these. -/
theorem Dialect.endsAtBlank_run {d : Dialect} (h : d.dashesNeedBlank = false) (text : Bytes)
    {m : Mode} (hm : m.EndsAtBlank) : (d.lexer.run m text).1.EndsAtBlank := by
  induction text generalizing m with
  | nil => exact hm
  | cons b text ih =>
    apply ih
    have henter (b : Byte) : (d.enter b).1.EndsAtBlank := by
      rw [Dialect.enter]
      split_ifs with hquote
      · change b ≠ blank
        obtain rfl | rfl | rfl := hquote <;> decide
      all_goals exact trivial
    have hblock (b : Byte) : (stepBlock b).1.EndsAtBlank := by
      rw [stepBlock]
      split_ifs <;> exact trivial
    change (d.step m b).1.EndsAtBlank
    cases m with
    | minusMinus => exact hm.elim
    | code => exact henter b
    | minus =>
      rw [Dialect.step, h, if_neg Bool.false_ne_true]
      split_ifs
      · exact trivial
      · exact henter b
    | slash =>
      rw [Dialect.step]
      split_ifs
      · exact trivial
      · exact henter b
    | lineComment =>
      rw [Dialect.step, stepLine]
      split_ifs <;> exact trivial
    | blockOpen =>
      rw [Dialect.step]
      split_ifs
      · exact trivial
      · exact hblock b
    | block => exact hblock b
    | blockStar =>
      rw [Dialect.step]
      split_ifs
      · exact trivial
      · exact hblock b
    | quoted q value =>
      rw [Dialect.step]
      split_ifs <;> exact hm
    | escape q value => exact hm
    | closing q value =>
      rw [Dialect.step]
      split_ifs
      · exact hm
      · exact henter b

/-- A blank at the end of a statement is in no token. A string that is not closed takes it, but
there is no token then in any case. -/
theorem rawTokens_lex_blank (text : Bytes) :
    rawTokens (standard.lex (text ++ [blank])) = rawTokens (standard.lex text) := by
  have hreached : (standard.lexer.run .code text).1.EndsAtBlank :=
    Dialect.endsAtBlank_run rfl text trivial
  have hend := standard.lexer.output_append .code text []
  rw [List.append_nil] at hend
  rw [Dialect.lex, Dialect.lex, standard.lexer.output_append, hend]
  generalize (standard.lexer.run .code text).2 = out
  generalize (standard.lexer.run .code text).1 = m at hreached ⊢
  have hafter (lexemes : List Lexeme) :
      rawTokens (out ++ (lexemes ++ [.code blank])) = rawTokens (out ++ lexemes) := by
    rw [← List.append_assoc, rawTokens_append_blank]
  cases m with
  | minusMinus => exact hreached.elim
  | code => exact hafter []
  | minus => exact hafter [.code dash]
  | slash => exact hafter [.code slash]
  | lineComment | blockOpen | block | blockStar => rfl
  | quoted q value =>
    have hstep : standard.lexer.step (.quoted q value) blank
        = (.quoted q (value ++ [blank]), []) := by
      change standard.step (.quoted q value) blank = _
      rw [Dialect.step, if_neg (Ne.symm hreached), if_neg fun h ↦ absurd h.1 (by decide)]
    rw [Transducer.output_cons, hstep]
    exact rawTokens_append_unterminated out q _ _
  | escape q value => exact rawTokens_append_unterminated out q _ _
  | closing q value =>
    have hstep : standard.lexer.step (.closing q value) blank
        = (.code, [standard.quotedText q value, .code blank]) := by
      change standard.step (.closing q value) blank = _
      rw [Dialect.step, if_neg (Ne.symm hreached)]
      rfl
    rw [Transducer.output_cons, hstep]
    exact hafter [standard.quotedText q value]

theorem statementTokens_blank (text : Bytes) :
    statementTokens (text ++ [blank]) = statementTokens text := by
  rw [statementTokens, statementTokens]
  by_cases h : ∀ b ∈ text, (b != 0) = true
  · have hcString : cString (text ++ [blank]) = text ++ [blank] :=
      List.takeWhile_append_of_pos h
    have hself : cString text = text := List.takeWhile_eq_self_iff.mpr h
    rw [hcString, hself, rawTokens_lex_blank]
  · have hcString : cString (text ++ [blank]) = cString text := by
      rw [cString, cString, List.takeWhile_append, if_neg]
      exact fun hlength ↦ h (List.takeWhile_eq_self_iff.mp
        ((List.takeWhile_prefix _).eq_of_length hlength))
    rw [hcString]

end Sql

end Ormpp
