import Ormpp.Query.Tree

/-!
# Lexing items

A statement is read item by item, as each item was written. It is read as it was meant unless a
string that something is compared with happens to be the builder's own text for a parameter: that
string is written without quotes.
-/

namespace Ormpp

open Sql

namespace Item

/-- Items that can stand side by side. -/
def Spaced : List Item → Prop
  | [] => True
  | .code t :: is => IsCode t ∧ Spaced is
  | .slot :: is => Spaced is
  | .string _ :: is | .compared _ :: is => (is.flatMap text).head? ≠ some quote ∧ Spaced is

theorem Spaced.code {t : Bytes} {is : List Item} (h : Spaced is) (ht : IsCode t) :
    Spaced (.code t :: is) := ⟨ht, h⟩

/-- The item is written as it is meant. -/
def Faithful (i : Item) : Prop := i ≠ .compared placeholderText

theorem flatMap_text (is : List Item) : is.flatMap text = (is.map written).flatMap Piece.text := by
  rw [List.flatMap_map]
  rfl

theorem Spaced.separated {is : List Item} (h : Spaced is) (d : Dialect) :
    Piece.Separated d (is.map written) := by
  have hplaceholder : Plain (ascii "  ") := by decide
  have hslot : d.CodeText placeholderText :=
    Dialect.codeText_of_isCodeByte (by decide)
  induction is with
  | nil => trivial
  | cons i is ih =>
    cases i with
    | code t => exact ⟨h.1.codeText d, ih h.2⟩
    | slot => exact ⟨hslot, ih h⟩
    | string v => exact ⟨by rw [← flatMap_text]; exact h.1, ih h.2⟩
    | compared v =>
      rw [List.map_cons, written]
      split_ifs
      · exact ⟨hslot, ih h.2⟩
      · exact ⟨by rw [← flatMap_text]; exact h.1, ih h.2⟩

/-- What is written for the item, lexed. -/
def lexemes (i : Item) : List Lexeme := i.written.lexemes

/-- Where a quote is the only escape, every item is read as it was written. -/
theorem lex_standard {is : List Item} (h : Spaced is) :
    standard.lex (is.flatMap text) = is.flatMap lexemes := by
  rw [flatMap_text, (lex_pieces_iff (h.separated standard)).mpr, List.flatMap_map]
  · rfl
  intro v _ hescapes
  cases hescapes

theorem written_eq_meant {i : Item} (h : i.Faithful) : i.written = i.meant := by
  cases i with
  | code | string | slot => rfl
  | compared v =>
    rw [written, if_neg, meant]
    rintro rfl
    exact h rfl

/-- Written as meant, item by item: what is written for an unfaithful item begins with a lexeme that
it was not meant to begin with. -/
theorem flatMap_written_iff (is : List Item) :
    is.flatMap lexemes = (is.flatMap fun i ↦ i.meant.lexemes) ↔
      ∀ i ∈ is, i.Faithful := by
  induction is with
  | nil => exact iff_of_true rfl (by simp)
  | cons i is ih =>
    rw [List.flatMap_cons, List.flatMap_cons, List.forall_mem_cons]
    by_cases hi : i.Faithful
    · rw [lexemes, written_eq_meant hi, List.append_cancel_left_eq, ih, and_iff_right hi]
    · have hcompared : i = .compared placeholderText := not_not.mp hi
      refine iff_of_false (fun heq ↦ ?_) fun h ↦ hi h.1
      subst hcompared
      exact absurd (List.cons.inj heq).1 (by simp)

end Item

/-! ## The items of a condition can stand side by side -/

namespace ConditionTree

theorem isPlain_buildAggregateField {pre : Bytes} (hpre : Plain pre) (c : Column) :
    Plain (buildAggregateField pre c).name :=
  (((hpre.append c.isPlain_className).append (by decide)).append c.field.isPlain).append (by decide)

theorem isPlain_aggregate (a : Aggregate) : Plain a.info.name ∧ a.info.className = [] := by
  cases a with
  | countAll => exact ⟨by decide, rfl⟩
  | count c | countDistinct c | sum c | avg c | min c | max c =>
    exact ⟨isPlain_buildAggregateField (by decide) c, rfl⟩

theorem isPlain_operand (f : Operand) : Plain f.info.qualifiedName := by
  cases f with
  | column c => exact c.isPlain
  | aggregate a =>
    obtain ⟨hname, hclass⟩ := isPlain_aggregate a
    rw [Operand.info, ColInfo.qualifiedName, qualifiedFieldName, hclass]
    exact hname

/-- A value in front of something that does not begin with a quote. -/
theorem spaced_value {v : Value} {is : List Item} (h : Item.Spaced is)
    (hhead : (is.flatMap Item.text).head? ≠ some quote) :
    Item.Spaced (v.item :: is) ∧ Item.Spaced (v.comparedItem :: is) := by
  cases v with
  | integer n => exact ⟨⟨isCode_intText n, h⟩, ⟨isCode_intText n, h⟩⟩
  | real v => exact ⟨⟨v.isCode, h⟩, ⟨v.isCode, h⟩⟩
  | string s => exact ⟨⟨hhead, h⟩, ⟨hhead, h⟩⟩

theorem spaced_valueItems (v : Value) (vs : List Value) {is : List Item} (h : Item.Spaced is)
    (hhead : (is.flatMap Item.text).head? ≠ some quote) : Item.Spaced (valueItems v vs ++ is) := by
  have hcomma : Plain (ascii ",") := by decide
  induction vs generalizing v with
  | nil => exact (spaced_value h hhead).1
  | cons w ws ih =>
    exact (spaced_value ((ih w).code hcomma.isCode) (by simp [ascii, quote])).1

theorem spaced_listItems (c : Column) {word constant : Bytes} (hword : Plain word)
    (hconstant : Plain constant) (vs : List Value) {is : List Item} (h : Item.Spaced is) :
    Item.Spaced (listItems c word constant vs ++ is) := by
  have hclose : Plain (ascii "))") := by decide
  cases vs with
  | nil => exact ⟨hconstant.isCode, h⟩
  | cons v vs =>
    have hlist := spaced_valueItems v vs (h.code hclose.isCode) (by simp [ascii, quote])
    have hleft : Plain (ascii "(" ++ c.text ++ word) :=
      (Plain.append (by decide) c.isPlain).append hword
    have hitems : listItems c word constant (v :: vs) ++ is
        = .code (ascii "(" ++ c.text ++ word) :: (valueItems v vs ++ .code (ascii "))") :: is) := by
      rw [listItems, List.cons_append, ← List.append_cons]
    rw [hitems]
    exact hlist.code hleft.isCode

theorem spaced_items (t : ConditionTree) {is : List Item} (h : Item.Spaced is) :
    Item.Spaced (t.items ++ is) := by
  have hopen : IsCode (ascii "(") := Or.inl (by decide)
  have hclose : IsCode (ascii ")") := Or.inl (by decide)
  have hor : IsCode (ascii " OR ") := Or.inl (by decide)
  have hand : IsCode (ascii " AND ") := Or.inl (by decide)
  have hafter (word : Bytes) (hword : Plain word) (c : Column) :
      IsCode (ascii "(" ++ c.text ++ word) :=
    ((Plain.append (by decide) c.isPlain).append hword).isCode
  -- From right to left: what an item must not be followed by is known of the items behind it.
  induction t generalizing is with
  | param c =>
    have hname : Plain (c.className ++ ascii "." ++ c.field.text) :=
      (c.isPlain_className.append (by decide)).append c.field.isPlain
    exact ⟨((Plain.append (by decide) hname).append (by decide)).isCode, hclose, h⟩
  | compare f op v =>
    refine ⟨((Plain.append (by decide) (isPlain_operand f)).append op.isPlain).isCode, ?_⟩
    exact (spaced_value (h.code hclose) (by simp [ascii, quote])).2
  | isIn c vs => exact spaced_listItems c (by decide) (by decide) vs h
  | notIn c vs => exact spaced_listItems c (by decide) (by decide) vs h
  | null c => exact ⟨hafter _ (by decide) c, h⟩
  | notNull c => exact ⟨hafter _ (by decide) c, h⟩
  | between c lo hi =>
    have hbetween : IsCode (ascii " and ") := Or.inl (by decide)
    have hhi := (spaced_value (v := hi) (h.code hclose) (by simp [ascii, quote])).1
    have hlo := (spaced_value (v := lo) (hhi.code hbetween) (by simp [ascii, quote])).1
    exact hlo.code (hafter _ (by decide) c)
  | like c s => exact ⟨hafter _ (by decide) c, by simp [ascii, quote], hclose, h⟩
  | or lhs rhs ihl ihr =>
    rw [items, List.cons_append, List.append_assoc, List.cons_append, List.append_assoc]
    exact ⟨hopen, ihl ⟨hor, ihr ⟨hclose, h⟩⟩⟩
  | and lhs rhs ihl ihr =>
    rw [items, List.cons_append, List.append_assoc, List.cons_append, List.append_assoc]
    exact ⟨hopen, ihl ⟨hand, ihr ⟨hclose, h⟩⟩⟩

end ConditionTree

end Ormpp
