import Ormpp.Query.Rendering

/-!
# Strings in statements for MySQL

Every way in which the builder puts a string into a statement goes through `escape_sql_string`,
which doubles quotes and leaves backslashes alone. Under the default `sql_mode` of MySQL a backslash
is an escape character, so the statement is read as it was meant exactly when every backslash of
every string stands before a wildcard of `LIKE`, the one place where MySQL keeps it.
-/

namespace Ormpp

open Sql

/-! ## The renderings of a string -/

/-- A place in which the builder renders strings. -/
inductive StringSite
  /-- A condition that quotes its right side. -/
  | compare (column : Column) (op : CompareOp) (v : Bytes)
  | like (column : Column) (v : Bytes)
  | isIn (column : Column) (v : Bytes) (vs : List Bytes)
  | notIn (column : Column) (v : Bytes) (vs : List Bytes)
  | between (column : Column) (lo hi : Bytes)
  | update (table : Name) (first : Name × Bytes) (more : List (Name × Bytes))

namespace StringSite

/-- The strings that are rendered. -/
def values : StringSite → List Bytes
  | .compare _ _ v | .like _ v => [v]
  | .isIn _ v vs | .notIn _ v vs => v :: vs
  | .between _ lo hi => [lo, hi]
  | .update _ first more => first.2 :: more.map Prod.snd

/-- The assignment of a string to a member. -/
def assignment (a : Name × Bytes) : ColInfo × Option SetValue :=
  ({ name := a.1.text }, some (.value (.string a.2)))

/-- The text that the builder makes. -/
def text : StringSite → Bytes
  | .compare column op v =>
    WhereCondition.toSql
      { left := column.info.qualifiedName, op := op.text, right := v, needQuote := true }
  | .like column v => (column.info.like v).toSql
  | .isIn column v vs => (column.info.isIn ((v :: vs).map Value.string)).toSql
  | .notIn column v vs => (column.info.notIn ((v :: vs).map Value.string)).toSql
  | .between column lo hi => (column.info.between (.string lo) (.string hi)).toSql
  | .update table first more =>
    buildUpdateSql table.text (setClause (assignment first) (more.map assignment)) []

/-- The pieces that the text is meant to have. -/
def pieces : StringSite → List Piece
  | .compare column op v =>
    [.code (ascii "(" ++ column.text ++ op.text), .literal v, .code (ascii ")")]
  | .like column v =>
    [.code (ascii "(" ++ column.text ++ ascii " like "), .literal v, .code (ascii ")")]
  | .isIn column v vs =>
    .code (ascii "(" ++ column.text ++ ascii " in(") ::
      (.literal v :: vs.flatMap fun v ↦ [.code (ascii ","), .literal v]) ++ [.code (ascii "))")]
  | .notIn column v vs =>
    .code (ascii "(" ++ column.text ++ ascii " not in(") ::
      (.literal v :: vs.flatMap fun v ↦ [.code (ascii ","), .literal v]) ++ [.code (ascii "))")]
  | .between column lo hi =>
    [.code (ascii "(" ++ column.text ++ ascii " between "), .literal lo, .code (ascii " and "),
      .literal hi, .code (ascii ")")]
  | .update table first more =>
    .code (ascii "UPDATE " ++ table.text ++ ascii " SET " ++ first.1.text ++ ascii "=") ::
      (.literal first.2 ::
        more.flatMap fun a ↦ [.code (ascii "," ++ a.1.text ++ ascii "="), .literal a.2])

/-! ## Text and pieces -/

theorem valuePieces_string (v : Bytes) (vs : List Bytes) :
    valuePieces (.string v) (vs.map Value.string)
      = .literal v :: vs.flatMap fun v ↦ [.code (ascii ","), .literal v] := by
  rw [valuePieces, List.flatMap_map]
  rfl

/-- What the further assignments of an update append. -/
theorem text_assignments (more : List (Name × Bytes)) (sql : Bytes) :
    more.foldl (fun sql a ↦ appendAssignment (sql ++ ascii ",") (assignment a)) sql
      = sql ++ (more.flatMap fun a ↦
          [.code (ascii "," ++ a.1.text ++ ascii "="), .literal a.2] : List Piece).flatMap
            Piece.text := by
  induction more generalizing sql with
  | nil => simp
  | cons a more ih =>
    rw [List.foldl_cons, ih]
    simp [appendAssignment, assignment, appendSet, formatString]

theorem text_pieces (site : StringSite) : site.text = site.pieces.flatMap Piece.text := by
  have hclose : ascii "))" = ascii ")" ++ ascii ")" := rfl
  cases site with
  | compare column op v =>
    simp [text, pieces, WhereCondition.toSql, column.qualifiedName_info, formatString]
  | like column v =>
    simp [text, pieces, WhereCondition.toSql, ColInfo.like, column.qualifiedName_info]
  | isIn column v vs =>
    rw [text, ColInfo.isIn, List.map_cons, inImpl_cons, valuePieces_string]
    simp [pieces, WhereCondition.toSql, ColInfo.makeInCondition, column.qualifiedName_info, hclose]
  | notIn column v vs =>
    have hnot : ascii " not in(" = (if ascii "not" ≠ [] then ascii " " ++ ascii "not" else []) ++
        ascii " in(" := rfl
    rw [text, ColInfo.notIn, List.map_cons, inImpl_cons, valuePieces_string, pieces, hnot]
    simp [WhereCondition.toSql, ColInfo.makeInCondition, column.qualifiedName_info, hclose]
  | between column lo hi =>
    simp [text, pieces, WhereCondition.toSql, ColInfo.between, column.qualifiedName_info,
      Value.toText]
  | update table first more =>
    rw [text, buildUpdateSql, setClause, List.foldl_map, text_assignments]
    simp [pieces, appendAssignment, assignment, appendSet, formatString]

/-! ## The pieces are separated -/

/-- Literals with code in front of each but the first, and something behind the last that does not
begin with a quote. -/
theorem separated_literals {β : Type} (d : Dialect) (code : β → Bytes) (value : β → Bytes)
    (hcode : ∀ x, Plain (code x) ∧ code x ≠ []) (v : Bytes) (xs : List β) {tail : List Piece}
    (htail : Piece.Separated d tail) (hhead : (tail.flatMap Piece.text).head? ≠ some quote) :
    Piece.Separated d
      (.literal v :: (xs.flatMap fun x ↦ [.code (code x), .literal (value x)]) ++ tail) := by
  have hrest : Piece.Separated d
        ((xs.flatMap fun x ↦ [Piece.code (code x), .literal (value x)]) ++ tail) ∧
      (((xs.flatMap fun x ↦ [Piece.code (code x), .literal (value x)]) ++ tail).flatMap
        Piece.text).head? ≠ some quote := by
    induction xs with
    | nil => exact ⟨htail, hhead⟩
    | cons x xs ih =>
      obtain ⟨hplain, hne⟩ := hcode x
      obtain ⟨b, bs, hcons⟩ := List.exists_cons_of_ne_nil hne
      refine ⟨⟨hplain.codeText d, ih.2, ih.1⟩, ?_⟩
      rw [List.flatMap_cons, List.cons_append, List.cons_append, List.flatMap_cons, Piece.text_code,
        hcons, List.cons_append, List.head?_cons]
      intro heq
      have hb := hplain.isCodeByte b (by rw [hcons]; exact List.mem_cons_self)
      rw [Option.some.inj heq] at hb
      exact absurd hb (by decide)
  exact ⟨hrest.2, hrest.1⟩

theorem separated_pieces (d : Dialect) (site : StringSite) : Piece.Separated d site.pieces := by
  have hclose : Piece.Separated d [.code (ascii ")")] := ⟨Plain.codeText (by decide) d, trivial⟩
  have hcloses : Piece.Separated d [.code (ascii "))")] := ⟨Plain.codeText (by decide) d, trivial⟩
  have hcomma : Plain (ascii ",") ∧ ascii "," ≠ [] := by decide
  -- Everything around the literals is an identifier or a word of the builder.
  cases site with
  | compare column op v =>
    have hcode : Plain (ascii "(" ++ column.text ++ op.text) :=
      (Plain.append (by decide) column.isPlain).append op.isPlain
    exact ⟨hcode.codeText d, by decide, hclose⟩
  | like column v =>
    have hcode : Plain (ascii "(" ++ column.text ++ ascii " like ") :=
      (Plain.append (by decide) column.isPlain).append (by decide)
    exact ⟨hcode.codeText d, by decide, hclose⟩
  | isIn column v vs =>
    have hcode : Plain (ascii "(" ++ column.text ++ ascii " in(") :=
      (Plain.append (by decide) column.isPlain).append (by decide)
    exact ⟨hcode.codeText d,
      separated_literals d (fun _ ↦ ascii ",") id (fun _ ↦ hcomma) v vs hcloses (by decide)⟩
  | notIn column v vs =>
    have hcode : Plain (ascii "(" ++ column.text ++ ascii " not in(") :=
      (Plain.append (by decide) column.isPlain).append (by decide)
    exact ⟨hcode.codeText d,
      separated_literals d (fun _ ↦ ascii ",") id (fun _ ↦ hcomma) v vs hcloses (by decide)⟩
  | between column lo hi =>
    have hcode : Plain (ascii "(" ++ column.text ++ ascii " between ") :=
      (Plain.append (by decide) column.isPlain).append (by decide)
    have hand : Plain (ascii " and ") := by decide
    exact ⟨hcode.codeText d, by simp [ascii, quote], hand.codeText d, by decide, hclose⟩
  | update table first more =>
    have hcode :
        Plain (ascii "UPDATE " ++ table.text ++ ascii " SET " ++ first.1.text ++ ascii "=") :=
      ((((Plain.append (by decide) table.isPlain).append (by decide)).append
        first.1.isPlain).append (by decide))
    have hmore (a : Name × Bytes) :
        Plain (ascii "," ++ a.1.text ++ ascii "=") ∧ ascii "," ++ a.1.text ++ ascii "=" ≠ [] :=
      ⟨(Plain.append (by decide) a.1.isPlain).append (by decide), by simp [ascii]⟩
    have hend : Piece.Separated d [] := trivial
    have hlist := separated_literals d (fun a : Name × Bytes ↦ ascii "," ++ a.1.text ++ ascii "=")
      Prod.snd hmore first.2 more hend (by decide)
    rw [List.append_nil] at hlist
    exact ⟨hcode.codeText d, hlist⟩

theorem values_pieces (site : StringSite) : Piece.values site.pieces = site.values := by
  have hlist {β : Type} (code value : β → Bytes) (xs : List β) :
      Piece.values (xs.flatMap fun x ↦ [.code (code x), .literal (value x)]) = xs.map value := by
    induction xs with
    | nil => rfl
    | cons x xs ih => exact congrArg (value x :: ·) ih
  have hclosed (v : Bytes) (vs : List Bytes) (close : Bytes) :
      Piece.values (.literal v :: (vs.flatMap fun v ↦ [.code (ascii ","), .literal v]) ++
        [.code close]) = v :: vs := by
    rw [Piece.values, List.cons_append, List.filterMap_cons, List.filterMap_append]
    exact congrArg (v :: ·) ((List.append_nil _).trans
      ((hlist (fun _ ↦ ascii ",") id vs).trans (List.map_id vs)))
  cases site with
  | compare | like | between => rfl
  | isIn column v vs => exact hclosed v vs _
  | notIn column v vs => exact hclosed v vs _
  | update table first more =>
    exact congrArg (first.2 :: ·) (hlist (fun a : Name × Bytes ↦ ascii "," ++ a.1.text ++ ascii "=")
      Prod.snd more)

/-- A column `a` of a class `t`. -/
def columnTA : Column where
  owner := some (.lit (ascii "t"))
  field := .lit (ascii "a")

end StringSite

end Ormpp
