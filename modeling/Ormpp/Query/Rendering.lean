import Ormpp.Query.Condition
import Ormpp.Sql.Token

/-!
# The pieces of a rendering

What the builder renders, seen as a list of pieces: code between literals. Columns and tables are
C++ identifiers, so their names are code wherever they stand, and so is the notation of numbers.
-/

namespace Ormpp

open Sql

/-! ## Names -/

/-- A byte of an identifier: a letter, a digit, an underscore, or part of a character beyond
ASCII. -/
def isNameByte (b : Byte) : Bool :=
  isDigit b || (0x41 ≤ b && b ≤ 0x5a) || (0x61 ≤ b && b ≤ 0x7a) || b = 0x5f || 0x80 ≤ b

/-- An identifier. -/
structure Name where
  text : Bytes
  text_ne_nil : text ≠ []
  plain : ∀ b ∈ text, isNameByte b = true

def isNameText (text : Bytes) : Bool := !text.isEmpty && text.all isNameByte

/-- An identifier that is written out. -/
def Name.lit (text : Bytes) (h : isNameText text = true := by exact Eq.refl true) : Name where
  text := text
  text_ne_nil := by
    rintro rfl
    cases h
  plain b hb := by
    rw [isNameText, Bool.and_eq_true] at h
    exact List.all_eq_true.mp h.2 b hb

/-- A column, of a reflected class or without one. -/
structure Column where
  owner : Option Name
  field : Name

def Column.className (c : Column) : Bytes := (c.owner.map Name.text).getD []

/-- The column as the builder holds it. -/
def Column.info (c : Column) : ColInfo := { name := c.field.text, className := c.className }

/-- The column as it is written. -/
def Column.text (c : Column) : Bytes := qualifiedFieldName c.className c.field.text

theorem Column.qualifiedName_info (c : Column) : c.info.qualifiedName = c.text := rfl

/-! ## Code -/

/-- The byte is code in every dialect, and no placeholder. -/
def isPlainByte (b : Byte) : Bool := isCodeByte b && b != questionMark

/-- A text that is lexed byte by byte in every dialect and contains no placeholder. -/
def Plain (text : Bytes) : Prop := ∀ b ∈ text, isPlainByte b = true

instance (text : Bytes) : Decidable (Plain text) := inferInstanceAs (Decidable (∀ b ∈ text, _))

theorem plain_append {xs ys : Bytes} : Plain (xs ++ ys) ↔ Plain xs ∧ Plain ys :=
  List.forall_mem_append

theorem Plain.append {xs ys : Bytes} (hx : Plain xs) (hy : Plain ys) : Plain (xs ++ ys) :=
  plain_append.mpr ⟨hx, hy⟩

theorem Plain.isCodeByte {text : Bytes} (h : Plain text) : ∀ b ∈ text, isCodeByte b = true :=
  fun b hb ↦ ((Bool.and_eq_true _ _).mp (h b hb)).1

theorem Plain.codeText {text : Bytes} (h : Plain text) (d : Dialect) : d.CodeText text :=
  Dialect.codeText_of_isCodeByte h.isCodeByte

theorem Plain.notMem_questionMark {text : Bytes} (h : Plain text) : questionMark ∉ text := by
  intro hmem
  exact absurd (h _ hmem) (by decide)

/-- An identifier and a number are made of bytes that are code: one comparison of the byte with each
of the seven others. -/
theorem isPlainByte_of_ne {b : Byte} (h1 : b ≠ 0x22) (h2 : b ≠ 0x23) (h3 : b ≠ 0x27)
    (h4 : b ≠ 0x2d) (h5 : b ≠ 0x2f) (h6 : b ≠ 0x3f) (h7 : b ≠ 0x60) : isPlainByte b = true := by
  simp [isPlainByte, isCodeByte, quote, doubleQuote, backtick, dash, slash, Sql.hash, questionMark,
    h1, h2, h3, h4, h5, h6, h7]

theorem isPlainByte_of_isNameByte {b : Byte} (h : isNameByte b = true) : isPlainByte b = true := by
  apply isPlainByte_of_ne <;>
  · rintro rfl
    exact absurd h (by decide)

theorem isWordByte_of_isNameByte {b : Byte} (h : isNameByte b = true) : isWordByte b = true := by
  simp only [isNameByte, isWordByte, Bool.or_eq_true, decide_eq_true_eq] at h ⊢
  obtain (((h | h) | h) | h) | h := h <;> simp [h, underscore]

theorem isPlainByte_of_isDigit {b : Byte} (h : isDigit b = true) : isPlainByte b = true :=
  isPlainByte_of_isNameByte (by rw [isNameByte, h]; rfl)

theorem Name.isPlain (n : Name) : Plain n.text :=
  fun b hb ↦ isPlainByte_of_isNameByte (n.plain b hb)

theorem Column.isPlain_className (c : Column) : Plain c.className := by
  rw [className]
  cases c.owner with
  | none => exact fun b hb ↦ absurd hb List.not_mem_nil
  | some n => exact n.isPlain

theorem Column.isPlain (c : Column) : Plain c.text := by
  rw [text, qualifiedFieldName]
  split_ifs
  · exact (c.isPlain_className.append (by decide)).append c.field.isPlain
  · exact c.field.isPlain

/-! ## Numbers -/

/-- Plain text, or plain text behind a sign. -/
def IsCode (text : Bytes) : Prop :=
  Plain text ∨ ∃ body, text = dash :: body ∧ body ≠ [] ∧ Plain body

theorem Plain.isCode {text : Bytes} (h : Plain text) : IsCode text := Or.inl h

theorem IsCode.codeText {text : Bytes} (h : IsCode text) (d : Dialect) : d.CodeText text := by
  obtain h | ⟨body, rfl, hne, hbody⟩ := h
  · exact h.codeText d
  · obtain ⟨b, bs, rfl⟩ := List.exists_cons_of_ne_nil hne
    exact Dialect.codeText_dash hbody.isCodeByte

theorem IsCode.notMem_questionMark {text : Bytes} (h : IsCode text) : questionMark ∉ text := by
  obtain h | ⟨body, rfl, -, hbody⟩ := h
  · exact h.notMem_questionMark
  · rw [List.mem_cons, not_or]
    exact ⟨by decide, hbody.notMem_questionMark⟩

theorem plain_natText (n : ℕ) : Plain (natText n) :=
  fun _ hb ↦ isPlainByte_of_isDigit (isDigit_of_mem_natText hb)

theorem isCode_intText (n : ℤ) : IsCode (intText n) := by
  cases n with
  | ofNat k => exact (plain_natText k).isCode
  | negSucc k => exact Or.inr ⟨natText (k + 1), rfl, natText_ne_nil _, plain_natText _⟩

theorem RealText.isCode (v : RealText) : IsCode v.text := by
  have hbody : Plain v.body := by
    intro b hb
    obtain hdigit | rfl | ⟨hlow, hhigh⟩ := v.body_plain b hb
    · exact isPlainByte_of_isDigit hdigit
    · decide
    · apply isPlainByte_of_isNameByte
      simp [isNameByte, hlow, hhigh]
  rw [text]
  split_ifs
  · exact Or.inr ⟨v.body, rfl, v.body_ne_nil, hbody⟩
  · exact hbody.isCode

theorem CompareOp.isPlain (op : CompareOp) : Plain op.text := by
  cases op <;> decide

/-! ## Literals and values -/

@[simp] theorem text_literal (s : Bytes) : (Piece.literal s).text = formatString s := rfl

/-- A value as a piece. -/
def Value.piece : Value → Piece
  | .integer n => .code (intText n)
  | .real v => .code v.text
  | .string s => .literal s

theorem Value.text_piece (v : Value) : v.piece.text = v.toText := by
  cases v <;> rfl

/-- A list of values, the commas between them. -/
def valuePieces (v : Value) (vs : List Value) : List Piece :=
  v.piece :: vs.flatMap fun v ↦ [.code (ascii ","), v.piece]

/-- Dropping the last comma leaves the commas between the values. -/
theorem text_valuePieces (v : Value) (vs : List Value) :
    (((v :: vs).flatMap fun arg ↦ arg.toText ++ ascii ",").dropLast)
      = (valuePieces v vs).flatMap Piece.text := by
  have hcommas (v : Value) : ((v :: vs).flatMap fun arg ↦ arg.toText ++ ascii ",")
      = (valuePieces v vs).flatMap Piece.text ++ ascii "," := by
    induction vs generalizing v with
    | nil => simp [valuePieces, Value.text_piece]
    | cons w ws ih =>
      rw [List.flatMap_cons, ih w]
      simp [valuePieces, Value.text_piece]
  rw [hcommas]
  exact List.dropLast_concat

/-- A list that is not empty is rendered between the parentheses of `in`. -/
theorem inImpl_cons (c : ColInfo) (s : Bytes) (v : Value) (vs : List Value) :
    c.inImpl s (v :: vs) = c.makeInCondition s ((valuePieces v vs).flatMap Piece.text) := by
  have hne : ((v :: vs).flatMap fun arg ↦ arg.toText ++ ascii ",") ≠ [] := by
    rw [List.flatMap_cons]
    simp [ascii]
  rw [ColInfo.inImpl, if_neg hne, text_valuePieces]

end Ormpp
