import Mathlib.Data.List.DropRight
import Ormpp.Sql.Token

/-!
# Operators of PostgreSQL

PostgreSQL takes the longest run of operator characters for one operator, whatever it means. Only
signs at the end of the run may be left for what comes behind: they are, unless the run has one of
the characters that no operator of the standard has.
-/

namespace Ormpp

namespace Sql

inductive Fragment
  /-- A word, or a number with other bytes than digits. -/
  | word (text : Bytes)
  | integer (n : ℕ)
  | operator (text : Bytes)
  /-- A byte that is a token of its own. -/
  | symbol (b : Byte)
  | text (value : Bytes)
  | quotedName (name : Bytes)
  | illegal
  deriving DecidableEq

def isSign (b : Byte) : Bool := b ∈ ascii "+-"

/-- A character that no operator of the standard has. -/
def isExtensionByte (b : Byte) : Bool := b ∈ ascii "~!@#%^&|`?"

def isOperatorByte (b : Byte) : Bool := b ∈ ascii "+-*/<>=~!@#%^&|`?"

/-- The operators that a run of operator characters is. -/
def operators (run : Bytes) : List Fragment :=
  if run.any isExtensionByte then [.operator run]
  else
    let front := run.rdropWhile isSign
    (if front = [] then [] else [.operator front]) ++
      (run.drop front.length).map fun b ↦ .operator [b]

def wordFragment (word : Bytes) : Fragment :=
  if word.all isDigit then .integer (decimalValue word) else .word word

/-! ## The machine -/

namespace Fragmenter

inductive Mode
  | idle
  | word (bytes : Bytes)
  | operator (run : Bytes)

/-- A lexeme between fragments. -/
def enter : Lexeme → Mode × List Fragment
  | .code b =>
    if isWordByte b then (.word [b], [])
    else if isOperatorByte b then (.operator [b], [])
    else if isBlank b then (.idle, [])
    else (.idle, [.symbol b])
  | .literal value => (.idle, [.text value])
  | .quotedName name => (.idle, [.quotedName name])
  | .unterminated _ _ => (.idle, [.illegal])

def finish : Mode → List Fragment
  | .idle => []
  | .word bytes => [wordFragment bytes]
  | .operator run => operators run

/-- The lexeme goes on with what is being read. -/
def extend : Mode → Lexeme → Option Mode
  | .word bytes, .code b => if isWordByte b then some (.word (bytes ++ [b])) else none
  | .operator run, .code b => if isOperatorByte b then some (.operator (run ++ [b])) else none
  | _, _ => none

def step (m : Mode) (l : Lexeme) : Mode × List Fragment :=
  match extend m l with
  | some m' => (m', [])
  | none => ((enter l).1, finish m ++ (enter l).2)

end Fragmenter

/-- Puts fragments together. -/
def fragmenter : Transducer Fragmenter.Mode Lexeme Fragment :=
  ⟨Fragmenter.step, Fragmenter.finish⟩

/-- The fragments of a list of lexemes. -/
def fragments (lexemes : List Lexeme) : List Fragment := fragmenter.output .idle lexemes

/-! ## Fragment by fragment -/

/-- What follows begins a fragment of its own. -/
def Ends (m : Fragmenter.Mode) (lexemes : List Lexeme) : Prop :=
  ∀ l, lexemes.head? = some l → Fragmenter.extend m l = none

/-- A text that ends between fragments. -/
theorem fragments_append {text : Bytes} {fs : List Fragment}
    (h : fragmenter.run .idle (text.map .code) = (.idle, fs)) (rest : List Lexeme) :
    fragments (text.map .code ++ rest) = fs ++ fragments rest :=
  fragmenter.output_append_of_run h rest

theorem output_of_ends {m : Fragmenter.Mode} {rest : List Lexeme} (h : Ends m rest) :
    fragmenter.output m rest = Fragmenter.finish m ++ fragments rest := by
  obtain _ | ⟨l, rest⟩ := rest
  · rw [Transducer.output_nil, fragments, Transducer.output_nil]
    exact (List.append_nil _).symm
  · have hm : fragmenter.step m l
        = ((Fragmenter.enter l).1, Fragmenter.finish m ++ (Fragmenter.enter l).2) := by
      change Fragmenter.step m l = _
      rw [Fragmenter.step, h l rfl]
    have hidle : fragmenter.step .idle l = Fragmenter.enter l := rfl
    rw [fragments, Transducer.output_cons, Transducer.output_cons, hm, hidle, List.append_assoc]

theorem run_word_fragment {word : Bytes} (h : ∀ b ∈ word, isWordByte b = true) (bytes : Bytes) :
    fragmenter.run (.word bytes) (word.map .code) = (.word (bytes ++ word), []) := by
  refine fragmenter.run_collect Fragmenter.Mode.word Lexeme.code (fun bytes b hb ↦ ?_) h bytes
  change Fragmenter.step (.word bytes) (.code b) = _
  rw [Fragmenter.step, Fragmenter.extend, if_pos hb]

theorem run_operator {run : Bytes} (h : ∀ b ∈ run, isOperatorByte b = true) (bytes : Bytes) :
    fragmenter.run (.operator bytes) (run.map .code) = (.operator (bytes ++ run), []) := by
  refine fragmenter.run_collect Fragmenter.Mode.operator Lexeme.code (fun bytes b hb ↦ ?_) h bytes
  change Fragmenter.step (.operator bytes) (.code b) = _
  rw [Fragmenter.step, Fragmenter.extend, if_pos hb]

theorem not_isWordByte_of_isOperatorByte {b : Byte} (h : isOperatorByte b = true) :
    isWordByte b = false := by
  have hall : ∀ b ∈ ascii "+-*/<>=~!@#%^&|`?", isWordByte b = false := by decide
  exact hall b (of_decide_eq_true h)

theorem fragments_word {word : Bytes} (hne : word ≠ []) (h : ∀ b ∈ word, isWordByte b = true)
    {rest : List Lexeme} (hrest : EndsWord rest) :
    fragments (word.map .code ++ rest) = wordFragment word :: fragments rest := by
  obtain ⟨b, word, rfl⟩ := List.exists_cons_of_ne_nil hne
  obtain ⟨hb, hword⟩ := List.forall_mem_cons.mp h
  have henter : fragmenter.step .idle (.code b) = (.word [b], []) := if_pos hb
  have hrun : fragmenter.run .idle ((b :: word).map .code) = (.word (b :: word), []) := by
    rw [List.map_cons, Transducer.run, henter, run_word_fragment hword]
    rfl
  rw [fragments, fragmenter.output_append_of_run hrun, List.nil_append]
  refine output_of_ends fun l hl ↦ ?_
  obtain c | _ | _ | _ := l
  · exact if_neg (by rw [hrest c hl]; exact Bool.false_ne_true)
  · rfl
  · rfl
  · rfl

/-- What follows does not go on with an operator. -/
def EndsOperator (lexemes : List Lexeme) : Prop :=
  ∀ b, lexemes.head? = some (.code b) → isOperatorByte b = false

theorem fragments_operator {run : Bytes} (hne : run ≠ []) (h : ∀ b ∈ run, isOperatorByte b = true)
    {rest : List Lexeme} (hrest : EndsOperator rest) :
    fragments (run.map .code ++ rest) = operators run ++ fragments rest := by
  obtain ⟨b, run, rfl⟩ := List.exists_cons_of_ne_nil hne
  obtain ⟨hb, htail⟩ := List.forall_mem_cons.mp h
  have henter : fragmenter.step .idle (.code b) = (.operator [b], []) := by
    change Fragmenter.enter (.code b) = _
    rw [Fragmenter.enter, if_neg (by rw [not_isWordByte_of_isOperatorByte hb]; decide), if_pos hb]
  have hrun : fragmenter.run .idle ((b :: run).map .code) = (.operator (b :: run), []) := by
    rw [List.map_cons, Transducer.run, henter, run_operator htail]
    rfl
  rw [fragments, fragmenter.output_append_of_run hrun, List.nil_append]
  refine output_of_ends fun l hl ↦ ?_
  obtain c | _ | _ | _ := l
  · exact if_neg (by rw [hrest c hl]; exact Bool.false_ne_true)
  · rfl
  · rfl
  · rfl

end Sql

end Ormpp
