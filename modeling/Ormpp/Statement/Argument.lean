import Ormpp.Data.Substitution
import Ormpp.Query.Builder

/-!
# Arguments put into a statement

The form of `query` for tuples puts its arguments into the text of the statement. `get_sql` looks
for a question mark from the beginning again for each of them, and so finds those of the arguments
before it. Each client counts its placeholders first, PostgreSQL by another character than the one
that is replaced.
-/

namespace Ormpp

open Sql Substitution

/-- `to_str`. -/
def toStr : Value → Bytes
  | .integer n => intText n
  | .real v => v.text
  | .string s => ascii "'" ++ escapeSqlString s ++ ascii "'"

/-- `get_str`: `replace` puts a blank in the place of the question mark, and `insert` the text in
front of it. There is nothing to replace at `npos`, and `replace` throws. -/
def getStr (sql s : Bytes) : Option Bytes := replaceFirst questionMark (s ++ [blank]) sql

/-- `get_sql`, or `none` where it throws `std::out_of_range`. -/
def getSql (o : Bytes) (args : List Value) : Option Bytes :=
  args.foldlM (fun sql arg ↦ getStr sql (toStr arg)) o

/-! ## The callers -/

/-- The character that the client counts. -/
def DBType.countedMark : DBType → Byte
  | .mysql | .sqlite => 0x3f
  | .postgresql => 0x24

inductive TupleQuery
  /-- The guard returns no rows. -/
  | rejected
  /-- `std::out_of_range`. -/
  | throws
  | executes (sql : Bytes)
  deriving DecidableEq

/-- What `query` for tuples does with the text and the arguments. -/
def tupleQuery (db : DBType) (s : Bytes) (args : List Value) : TupleQuery :=
  if args.length ≠ 0 then
    if args.length ≠ s.count db.countedMark then .rejected
    else
      match getSql s args with
      | none => .throws
      | some sql => .executes sql
  else .executes s

/-! ## The law -/

/-- What takes the place of a placeholder: the literal, with a blank behind it. -/
def literalText (arg : Value) : Bytes := toStr arg ++ [blank]

/-- Every placeholder is replaced by the literal of its argument and nothing else is, where there
are as many; and no client throws. -/
structure Substitutes (text : Bytes) (args : List Value) : Prop where
  filled : text.count questionMark = args.length →
    getSql text args = some (fill questionMark (args.map literalText) text)
  completes : ∀ db, tupleQuery db text args ≠ .throws

/-- The question marks of an argument. -/
def Value.marks : Value → ℕ
  | .integer _ | .real _ => 0
  | .string s => s.count questionMark

/-- Only the last argument has a question mark, where they are to be filled in; and where as many
dollar signs are counted, there is a question mark for each argument, in the text or in those
before. -/
structure Fillable (text : Bytes) (args : List Value) : Prop where
  plain : text.count questionMark = args.length → ∀ arg ∈ args.dropLast, arg.marks = 0
  enough : text.count 0x24 = args.length → ∀ k < args.length,
    k < text.count questionMark + ((args.take k).map Value.marks).sum

/-! ## Literals -/

theorem getSql_eq (text : Bytes) (args : List Value) :
    getSql text args = replaceEach questionMark text (args.map literalText) := by
  induction args generalizing text with
  | nil => rfl
  | cons arg args ih =>
    rw [getSql, List.foldlM_cons, List.map_cons, replaceEach]
    exact Option.bind_congr fun text _ ↦ ih text

theorem count_escapeSqlString (s : Bytes) :
    (escapeSqlString s).count questionMark = s.count questionMark := by
  induction s with
  | nil => rfl
  | cons c s ih =>
    have hcons : escapeSqlString (c :: s)
        = (if c = 0x27 then [0x27, 0x27] else [c]) ++ escapeSqlString s := rfl
    rw [hcons, List.count_append, ih]
    split_ifs with hc
    · rw [hc]
      simp [questionMark]
    · rw [← List.count_append, List.singleton_append]

theorem count_toStr (arg : Value) : (toStr arg).count questionMark = arg.marks := by
  rcases arg with n | v | s
  · exact List.count_eq_zero.mpr (isCode_intText n).notMem_questionMark
  · exact List.count_eq_zero.mpr v.isCode.notMem_questionMark
  · have hquote : (ascii "'").count questionMark = 0 := by decide
    rw [toStr, List.count_append, List.count_append, hquote, count_escapeSqlString, Nat.zero_add,
      Nat.add_zero]
    rfl

theorem count_literalText (arg : Value) : (literalText arg).count questionMark = arg.marks := by
  have hblank : [blank].count questionMark = 0 := by decide
  rw [literalText, List.count_append, hblank, count_toStr, Nat.add_zero]

/-- A text without question marks does not begin with one. -/
theorem begins_of_notMem {text : Bytes} (h : questionMark ∉ text) :
    ∃ b word, text ++ [blank] = b :: word ∧ b ≠ questionMark := by
  rcases text with _ | ⟨b, word⟩
  · exact ⟨blank, [], rfl, by decide⟩
  · exact ⟨b, word ++ [blank], rfl, (List.ne_of_not_mem_cons h).symm⟩

/-- No literal begins with a question mark: a string begins with its quote. -/
theorem literalText_begins (arg : Value) :
    ∃ b word, literalText arg = b :: word ∧ b ≠ questionMark := by
  rcases arg with n | v | s
  · exact begins_of_notMem (isCode_intText n).notMem_questionMark
  · exact begins_of_notMem v.isCode.notMem_questionMark
  · exact ⟨0x27, escapeSqlString s ++ ascii "'" ++ [blank], rfl, by decide⟩

/-! ## Where the arguments are filled in -/

theorem isSome_getSql_iff (text : Bytes) (args : List Value) :
    (getSql text args).isSome ↔
      ∀ k < args.length, k < text.count questionMark + ((args.take k).map Value.marks).sum := by
  rw [getSql_eq, isSome_replaceEach_iff, List.length_map]
  simp only [← List.map_take, List.map_map, Function.comp_def, count_literalText]

theorem getSql_eq_fill_iff {text : Bytes} {args : List Value}
    (h : text.count questionMark = args.length) :
    getSql text args = some (fill questionMark (args.map literalText) text) ↔
      ∀ arg ∈ args.dropLast, arg.marks = 0 := by
  have hbegin : ∀ new ∈ args.map literalText, ∃ b word, new = b :: word ∧ b ≠ questionMark :=
    List.forall_mem_map.mpr fun arg _ ↦ literalText_begins arg
  rw [getSql_eq, replaceEach_eq_fill_iff (h.trans (List.length_map _).symm) hbegin,
    ← List.map_dropLast, List.forall_mem_map]
  simp only [← List.count_eq_zero, count_literalText]

/-- A client that counts question marks has one for each argument. -/
theorem isSome_getSql_of_count {text : Bytes} {args : List Value}
    (h : text.count questionMark = args.length) : (getSql text args).isSome := by
  rw [isSome_getSql_iff]
  intro k hk
  omega

theorem tupleQuery_ne_throws_iff (db : DBType) (text : Bytes) (args : List Value) :
    tupleQuery db text args ≠ .throws ↔
      (text.count db.countedMark = args.length → (getSql text args).isSome) := by
  rw [tupleQuery]
  split_ifs with hargs hcount
  · exact iff_of_true (by simp) fun h ↦ absurd h.symm hcount
  · rw [not_not] at hcount
    rcases getSql text args with _ | sql
    · exact iff_of_false (by simp) fun h ↦ Bool.false_ne_true (h hcount.symm)
    · exact iff_of_true (by simp) fun _ ↦ rfl
  · rw [not_not, List.length_eq_zero_iff] at hargs
    rw [hargs]
    exact iff_of_true (by simp) fun _ ↦ rfl

end Ormpp
