import Ormpp.Data.Numeral

/-!
# Texts that begin with `select`

The calls that take a condition also take a whole statement, and `contains_select` tells them apart.
Its loop over the keyword ends where the text does, so that a text which stops inside the keyword is
taken for a statement as well.
-/

namespace Ormpp

open Numeral (isBlank)

/-- `std::tolower`, in the C locale. -/
def lowerByte (c : Byte) : Byte := if 0x41 ≤ c ∧ c ≤ 0x5a then c + 0x20 else c

/-- The loop over the keyword, and the test behind it. -/
def selectLoop : Bytes → Bytes → Bool
  | _, [] => true
  | [], c :: _ => isBlank c
  | k :: keyword, c :: text => if lowerByte c ≠ k then false else selectLoop keyword text

/-- `contains_select`. -/
def containsSelect (sql : Bytes) : Bool :=
  if sql = [] then false
  else
    let text := sql.dropWhile isBlank
    if text = [] then false else selectLoop (ascii "select") text

/-! ## What it stands for -/

/-- Behind blanks, the text begins with the letters of the keyword, and goes on with a blank or not
at all. -/
def IsSelect (sql : Bytes) : Prop :=
  ((sql.dropWhile isBlank).take 6).map lowerByte = ascii "select" ∧
    ((sql.dropWhile isBlank).drop 6).head?.all isBlank = true

instance (sql : Bytes) : Decidable (IsSelect sql) := inferInstanceAs (Decidable (_ ∧ _))

/-- Behind blanks, the text ends inside the keyword. -/
def IsTruncated (sql : Bytes) : Prop :=
  sql.dropWhile isBlank ≠ [] ∧ (sql.dropWhile isBlank).length < 6 ∧
    (sql.dropWhile isBlank).map lowerByte <+: ascii "select"

instance (sql : Bytes) : Decidable (IsTruncated sql) :=
  inferInstanceAs (Decidable (_ ∧ _ ∧ _))

theorem selectLoop_iff (keyword text : Bytes) :
    selectLoop keyword text = true ↔
      (text.take keyword.length).map lowerByte = keyword ∧
          (text.drop keyword.length).head?.all isBlank = true ∨
        text.length < keyword.length ∧ text.map lowerByte <+: keyword := by
  induction keyword generalizing text with
  | nil => rcases text with _ | ⟨c, text⟩ <;> simp [selectLoop]
  | cons k keyword ih =>
    rcases text with _ | ⟨c, text⟩
    · simp [selectLoop]
    · rw [selectLoop, ite_not]
      split_ifs with hc
      · rw [ih, List.length_cons, List.length_cons, List.take_succ_cons, List.drop_succ_cons,
          List.map_cons, List.map_cons, hc, List.cons_prefix_cons, List.cons.injEq,
          Nat.add_lt_add_iff_right]
        simp only [true_and]
      · simp [List.cons_prefix_cons, hc]

theorem containsSelect_iff (sql : Bytes) :
    containsSelect sql = true ↔ IsSelect sql ∨ IsTruncated sql := by
  have hlength : (ascii "select").length = 6 := rfl
  by_cases htext : sql.dropWhile isBlank = []
  · have hnot : containsSelect sql = false := by
      rw [containsSelect, if_pos htext, ite_self]
    rw [hnot, IsSelect, IsTruncated, htext]
    decide
  · have hsql : sql ≠ [] := by
      rintro rfl
      exact htext rfl
    rw [containsSelect, if_neg hsql, if_neg htext, selectLoop_iff, hlength, IsSelect, IsTruncated,
      and_iff_right htext]

theorem IsTruncated.not_isSelect {sql : Bytes} (h : IsTruncated sql) : ¬IsSelect sql := by
  intro hselect
  have hletters := congrArg List.length hselect.1
  rw [List.length_map, List.length_take] at hletters
  have hlength : (ascii "select").length = 6 := rfl
  have hshort := h.2.1
  omega

end Ormpp
