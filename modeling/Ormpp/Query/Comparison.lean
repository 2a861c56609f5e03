import Ormpp.Data.Numeral
import Ormpp.Query.Items
import Ormpp.Sql.Operator

/-!
# Comparisons with numbers on PostgreSQL

The builder writes an operator and a number one behind the other, so that the sign of the number is
in the same run of operator characters. PostgreSQL leaves it to the number for every operator but
`!=`, which has a character that keeps the run together.
-/

namespace Ormpp

open Sql

/-! ## What is meant -/

/-- A column, with its class where it has one. -/
def Column.fragments (c : Column) : List Fragment :=
  match c.owner with
  | none => [wordFragment c.field.text]
  | some n => [wordFragment n.text, .symbol 0x2e, wordFragment c.field.text]

/-- A column in an aggregate, where the dot is always written. -/
def Column.memberFragments (c : Column) : List Fragment :=
  (c.owner.toList.map fun n ↦ wordFragment n.text) ++ [.symbol 0x2e, wordFragment c.field.text]

/-- A function and its argument. -/
def callFragments (function : List Fragment) (argument : List Fragment) : List Fragment :=
  function ++ argument ++ [.symbol 0x29]

def Aggregate.fragments : Aggregate → List Fragment
  | .countAll => [.word (ascii "COUNT"), .symbol 0x28, .operator (ascii "*"), .symbol 0x29]
  | .count c => callFragments [.word (ascii "COUNT"), .symbol 0x28] c.memberFragments
  | .countDistinct c =>
    callFragments [.word (ascii "COUNT"), .symbol 0x28, .word (ascii "DISTINCT")] c.memberFragments
  | .sum c => callFragments [.word (ascii "SUM"), .symbol 0x28] c.memberFragments
  | .avg c => callFragments [.word (ascii "AVG"), .symbol 0x28] c.memberFragments
  | .min c => callFragments [.word (ascii "MIN"), .symbol 0x28] c.memberFragments
  | .max c => callFragments [.word (ascii "MAX"), .symbol 0x28] c.memberFragments

def Operand.fragments : Operand → List Fragment
  | .column c => c.fragments
  | .aggregate a => a.fragments

/-- The fragments of a number with its sign. -/
def numberFragments : ℤ → List Fragment
  | .ofNat n => [.integer n]
  | .negSucc n => [.operator (ascii "-"), .integer (n + 1)]

/-- The comparison is lexed as what it is compared with, the operator and the number. -/
def LexedAs (f : Operand) (op : CompareOp) (n : ℤ) : Prop :=
  fragments (standard.lex (buildWhere f.info (.integer n) op.text).toSql)
    = .symbol 0x28 :: (f.fragments ++ .operator op.text :: (numberFragments n ++ [.symbol 0x29]))

/-! ## What is read -/

theorem wordFragment_natText (n : ℕ) : wordFragment (natText n) = .integer n := by
  have hdigits : (natText n).all isDigit = true :=
    List.all_eq_true.mpr fun _ hb ↦ isDigit_of_mem_natText hb
  rw [wordFragment, if_pos hdigits, decimalValue_natText]

theorem fragments_natText (n : ℕ) {rest : List Lexeme} (hrest : EndsWord rest) :
    fragments ((natText n).map .code ++ rest) = .integer n :: fragments rest := by
  rw [fragments_word (natText_ne_nil n)
    (fun _ hb ↦ isWordByte_of_isDigit (isDigit_of_mem_natText hb)) hrest, wordFragment_natText]

theorem Name.fragments_text (n : Name) {rest : List Lexeme} (hrest : EndsWord rest) :
    Sql.fragments (n.text.map .code ++ rest) = wordFragment n.text :: Sql.fragments rest :=
  fragments_word n.text_ne_nil (fun b hb ↦ isWordByte_of_isNameByte (n.plain b hb)) hrest

theorem fragments_dot (rest : List Lexeme) :
    fragments ((ascii ".").map .code ++ rest) = .symbol 0x2e :: fragments rest := rfl

theorem Column.fragments_text (c : Column) {rest : List Lexeme} (hrest : EndsWord rest) :
    Sql.fragments (c.text.map .code ++ rest) = c.fragments ++ Sql.fragments rest := by
  obtain ⟨owner, field⟩ := c
  obtain _ | n := owner
  · exact field.fragments_text hrest
  · have htext : Column.text ⟨some n, field⟩ = n.text ++ ascii "." ++ field.text := by
      rw [Column.text, qualifiedFieldName, if_pos]
      · rfl
      · exact n.text_ne_nil
    rw [htext, List.map_append, List.map_append, List.append_assoc, List.append_assoc,
      n.fragments_text (endsWord_text rfl), fragments_dot, field.fragments_text hrest]
    rfl

theorem Column.fragments_member (c : Column) {rest : List Lexeme} (hrest : EndsWord rest) :
    Sql.fragments ((c.className ++ ascii "." ++ c.field.text).map .code ++ rest)
      = c.memberFragments ++ Sql.fragments rest := by
  obtain ⟨owner, field⟩ := c
  obtain _ | n := owner
  · change Sql.fragments (((ascii ".") ++ field.text).map .code ++ rest) = _
    rw [List.map_append, List.append_assoc, fragments_dot, field.fragments_text hrest]
    rfl
  · change Sql.fragments ((n.text ++ ascii "." ++ field.text).map .code ++ rest) = _
    rw [List.map_append, List.map_append, List.append_assoc, List.append_assoc,
      n.fragments_text (endsWord_text rfl), fragments_dot, field.fragments_text hrest]
    rfl

theorem Aggregate.fragments_info (a : Aggregate) (rest : List Lexeme) :
    Sql.fragments (a.info.qualifiedName.map .code ++ rest) = a.fragments ++ Sql.fragments rest := by
  have hcall (pre : Bytes) {function : List Fragment}
      (hpre : fragmenter.run .idle (pre.map .code) = (.idle, function)) (c : Column) :
      Sql.fragments ((buildAggregateField pre c).qualifiedName.map .code ++ rest)
        = callFragments function c.memberFragments ++ Sql.fragments rest := by
    have htext : (buildAggregateField pre c).qualifiedName.map Lexeme.code ++ rest
        = pre.map .code ++ ((c.className ++ ascii "." ++ c.field.text).map .code
          ++ ((ascii ")").map .code ++ rest)) := by
      simp [buildAggregateField, ColInfo.qualifiedName, qualifiedFieldName]
    have hclose : Sql.fragments ((ascii ")").map .code ++ rest)
        = .symbol 0x29 :: Sql.fragments rest := rfl
    rw [htext, fragments_append hpre, c.fragments_member (endsWord_text rfl), hclose, callFragments]
    simp
  obtain _ | c | c | c | c | c | c := a
  · exact fragments_append rfl rest
  · exact hcall _ rfl c
  · exact hcall _ rfl c
  · exact hcall _ rfl c
  · exact hcall _ rfl c
  · exact hcall _ rfl c
  · exact hcall _ rfl c

theorem Operand.fragments_info (f : Operand) {rest : List Lexeme} (hrest : EndsWord rest) :
    Sql.fragments (f.info.qualifiedName.map .code ++ rest) = f.fragments ++ Sql.fragments rest := by
  obtain c | a := f
  · exact c.fragments_text hrest
  · exact a.fragments_info rest

/-! ## The operator -/

/-- The operator and the sign of the number. -/
def signed (op : CompareOp) : ℤ → Bytes
  | .ofNat _ => op.text
  | .negSucc _ => op.text ++ ascii "-"

theorem signed_append (op : CompareOp) (n : ℤ) :
    signed op n ++ natText n.natAbs = op.text ++ intText n := by
  obtain n | n := n
  · rfl
  · exact List.append_assoc _ _ _

theorem signed_ne_nil (op : CompareOp) (n : ℤ) : signed op n ≠ [] := by
  obtain n | n := n
  · rcases op with _ | _ | _ | _ | _ | _ <;> exact List.cons_ne_nil _ _
  · exact List.append_ne_nil_of_right_ne_nil _ (List.cons_ne_nil _ _)

theorem isOperatorByte_of_mem_signed {op : CompareOp} {n : ℤ} {b : Byte} (h : b ∈ signed op n) :
    isOperatorByte b = true := by
  have hop : ∀ b ∈ op.text ++ ascii "-", isOperatorByte b = true := by
    rcases op with _ | _ | _ | _ | _ | _ <;> decide
  obtain n | n := n
  · exact hop b (List.mem_append_left _ h)
  · exact hop b h

theorem endsOperator_natText (n : ℕ) (rest : List Lexeme) :
    EndsOperator ((natText n).map .code ++ rest) := by
  obtain ⟨d, text, htext, hd⟩ := Numeral.exists_natText_cons n
  intro b hb
  rw [htext] at hb
  obtain rfl : d = b := Lexeme.code.inj (Option.some.inj hb)
  by_contra hop
  rw [Bool.not_eq_false] at hop
  have hword : isWordByte d = false := not_isWordByte_of_isOperatorByte hop
  exact Bool.false_ne_true (hword.symm.trans (isWordByte_of_isDigit hd))

theorem operators_text (op : CompareOp) : operators op.text = [.operator op.text] := by
  rcases op with _ | _ | _ | _ | _ | _ <;> decide

/-- The sign is left for the number by every operator but one. -/
theorem operators_sign (op : CompareOp) :
    operators (op.text ++ ascii "-") = if op = .ne then [.operator (ascii "!=-")]
      else [.operator op.text, .operator (ascii "-")] := by
  rcases op with _ | _ | _ | _ | _ | _ <;> decide

/-- The fragments that are read. -/
theorem fragments_compare (f : Operand) (op : CompareOp) (n : ℤ) :
    fragments (standard.lex (buildWhere f.info (.integer n) op.text).toSql)
      = .symbol 0x28 :: (f.fragments ++ operators (signed op n) ++
          [.integer n.natAbs, .symbol 0x29]) := by
  have htext : (buildWhere f.info (.integer n) op.text).toSql
      = ascii "(" ++ f.info.qualifiedName ++ signed op n ++ natText n.natAbs ++ ascii ")" := by
    rw [ConditionTree.toSql_buildWhere, List.append_assoc _ (signed op n), signed_append,
      ← List.append_assoc]
    rfl
  have hcode : standard.CodeText (buildWhere f.info (.integer n) op.text).toSql := by
    rw [ConditionTree.toSql_buildWhere]
    have hfront : Plain (ascii "(" ++ f.info.qualifiedName ++ op.text) :=
      (Plain.append (by decide) (ConditionTree.isPlain_operand f)).append op.isPlain
    have hclose : Plain (ascii ")") := by decide
    exact ((hfront.codeText standard).append ((isCode_intText n).codeText standard)).append
      (hclose.codeText standard)
  have hopen (rest : List Lexeme) :
      fragments ((ascii "(").map .code ++ rest) = .symbol 0x28 :: fragments rest := rfl
  have hclose : fragments ((ascii ")").map .code) = [.symbol 0x29] := rfl
  have hends : EndsWord ((ascii ")").map Lexeme.code ++ []) := endsWord_text rfl
  rw [List.append_nil] at hends
  have hnumber : fragments ((natText n.natAbs).map .code ++ (ascii ")").map .code)
      = [.integer n.natAbs, .symbol 0x29] := by
    rw [fragments_natText _ hends, hclose]
  obtain ⟨b, run, hrun⟩ := List.exists_cons_of_ne_nil (signed_ne_nil op n)
  have hword : EndsWord ((signed op n).map Lexeme.code
      ++ ((natText n.natAbs).map .code ++ (ascii ")").map .code)) := by
    refine endsWord_text ?_
    have hb : isOperatorByte b = true := isOperatorByte_of_mem_signed (hrun ▸ List.mem_cons_self)
    rw [hrun]
    exact congrArg some (not_isWordByte_of_isOperatorByte hb)
  rw [hcode.lex_eq, htext]
  simp only [List.map_append, List.append_assoc]
  rw [hopen, f.fragments_info hword,
    fragments_operator (signed_ne_nil op n) (fun _ ↦ isOperatorByte_of_mem_signed)
      (endsOperator_natText _ _),
    hnumber]

/-- **Comparisons with numbers.** PostgreSQL reads the operator and the number, unless a negative
number stands behind `!=`. -/
theorem lexedAs_iff (f : Operand) (op : CompareOp) (n : ℤ) :
    LexedAs f op n ↔ ¬(op = .ne ∧ n < 0) := by
  rw [LexedAs, fragments_compare]
  obtain n | n := n
  · have hsigned : ¬Int.ofNat n < 0 := Int.not_lt.mpr (Int.natCast_nonneg n)
    refine iff_of_true ?_ fun h ↦ hsigned h.2
    rw [signed, operators_text]
    simp [numberFragments]
  · rw [signed, operators_sign]
    have hneg : Int.negSucc n < 0 := Int.negSucc_lt_zero n
    by_cases hop : op = .ne
    · subst hop
      refine iff_of_false ?_ fun h ↦ h ⟨rfl, hneg⟩
      intro h
      rw [if_pos rfl, List.append_assoc] at h
      have hrest := List.append_cancel_left (List.cons.inj h).2
      exact absurd (List.cons.inj hrest).1 (by decide)
    · refine iff_of_true ?_ fun h ↦ hop h.1
      rw [if_neg hop]
      simp [numberFragments]

theorem not_lexedAs : ¬ ∀ (f : Operand) (op : CompareOp) (n : ℤ), LexedAs f op n := by
  intro h
  have hread := h (.column ⟨none, ⟨ascii "id", by decide, by decide⟩⟩) .ne (-1)
  have hne : fragments (standard.lex (ascii "(id!=-1)"))
      ≠ [.symbol 0x28, .word (ascii "id"), .operator (ascii "!="), .operator (ascii "-"),
        .integer 1, .symbol 0x29] := by
    decide
  exact hne hread

end Ormpp
