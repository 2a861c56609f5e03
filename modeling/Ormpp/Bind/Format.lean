import Ormpp.Bind.Escape
import Ormpp.Sql.Placeholder

/-!
# Binding on the client

The asynchronous client puts the arguments of a statement in the places of its placeholders, one
after the other, in a text that grows as it goes. The search for the next placeholder begins behind
the argument that was written last, so what the arguments contain is never looked at.
-/

namespace Ormpp

open Sql

/-- What `find_next_placeholder` takes for quoted text and comments. Where its loop looks one byte
ahead (`--`, `/*`, a doubled quote), the scanner remembers one byte. -/
def mysqlScanner (noBackslashEscapes : Bool) : Scanner where
  backslashEscapes := !noBackslashEscapes
  backtickNames := true
  hashComments := true

/-- `find_next_placeholder`. -/
def findNextPlaceholder (sql : Bytes) (start : ℕ) (noBackslashEscapes : Bool) : Option ℕ :=
  ((mysqlScanner noBackslashEscapes).split .code (sql.drop start)).map
    fun parts ↦ start + parts.1.length

def countMismatch : String := "mysql_async: placeholder count mismatch"

/-- `replace_next_placeholder`: the text and the position behind the value that was put in. -/
def replaceNextPlaceholder (noBackslashEscapes : Bool) (p : Bytes × ℕ) (value : Bytes) :
    Except String (Bytes × ℕ) :=
  match findNextPlaceholder p.1 p.2 noBackslashEscapes with
  | none => .error countMismatch
  | some pos => .ok (p.1.take pos ++ value ++ p.1.drop (pos + 1), pos + value.length)

/-- The loop of `format_query_args` and `format_struct_sql`, with the check that follows it, from a
text and a position. -/
def formatFrom (noBackslashEscapes : Bool) (p : Bytes × ℕ) (values : List Bytes) :
    Except String Bytes := do
  let p ← values.foldlM (replaceNextPlaceholder noBackslashEscapes) p
  match findNextPlaceholder p.1 p.2 noBackslashEscapes with
  | none => .ok p.1
  | some _ => .error countMismatch

def formatValues (sql : Bytes) (noBackslashEscapes : Bool) (values : List Bytes) :
    Except String Bytes := formatFrom noBackslashEscapes (sql, 0) values

/-- `format_query_args`. -/
def formatQueryArgs (sql : Bytes) (noBackslashEscapes : Bool) (args : List QueryArg) :
    Except String Bytes :=
  formatValues sql noBackslashEscapes (args.map (toQueryArg noBackslashEscapes))

theorem findNextPlaceholder_bounds {sql : Bytes} {start pos : ℕ} {noBackslashEscapes : Bool}
    (h : findNextPlaceholder sql start noBackslashEscapes = some pos) :
    start ≤ pos ∧ pos < sql.length := by
  obtain ⟨⟨before, behind⟩, hsplit, rfl⟩ := Option.map_eq_some_iff.mp h
  obtain ⟨htext, -⟩ := Scanner.positions_of_some hsplit start
  have hlength := congrArg List.length htext
  rw [List.length_drop, List.length_append, List.length_cons] at hlength
  constructor
  · exact Nat.le_add_right start before.length
  · change start + before.length < sql.length
    omega

/-- The positions that `find_next_placeholder` finds one after the other, from `start` on. -/
def placeholders (sql : Bytes) (noBackslashEscapes : Bool) (start : ℕ) : List ℕ :=
  match _h : findNextPlaceholder sql start noBackslashEscapes with
  | none => []
  | some pos => pos :: placeholders sql noBackslashEscapes (pos + 1)
termination_by sql.length - start
decreasing_by
  obtain ⟨hlow, hhigh⟩ := findNextPlaceholder_bounds _h
  omega

/-! ## Positions -/

section

variable {noBackslashEscapes : Bool}

theorem placeholders_of_none {sql : Bytes} {start : ℕ}
    (h : findNextPlaceholder sql start noBackslashEscapes = none) :
    placeholders sql noBackslashEscapes start = [] := by
  rw [placeholders]
  split
  · rfl
  · rename_i hsome
    cases h.symm.trans hsome

theorem placeholders_of_some {sql : Bytes} {start pos : ℕ}
    (h : findNextPlaceholder sql start noBackslashEscapes = some pos) :
    placeholders sql noBackslashEscapes start
      = pos :: placeholders sql noBackslashEscapes (pos + 1) := by
  rw [placeholders]
  split
  · rename_i hnone
    cases h.symm.trans hnone
  · rename_i hsome
    cases h.symm.trans hsome
    rfl

/-- The search finds what the scanner finds in one pass. -/
theorem placeholders_eq (sql : Bytes) (start : ℕ) :
    placeholders sql noBackslashEscapes start
      = (mysqlScanner noBackslashEscapes).regions.positions .code start (sql.drop start) := by
  induction hn : sql.length - start using Nat.strong_induction_on generalizing start with
  | h n ih =>
    cases hsplit : (mysqlScanner noBackslashEscapes).split .code (sql.drop start) with
    | none =>
      have hnext : findNextPlaceholder sql start noBackslashEscapes = none := by
        rw [findNextPlaceholder, hsplit, Option.map_none]
      rw [placeholders_of_none hnext, Scanner.positions_of_none hsplit]
    | some parts =>
      obtain ⟨before, behind⟩ := parts
      have hnext : findNextPlaceholder sql start noBackslashEscapes
          = some (start + before.length) := by
        rw [findNextPlaceholder, hsplit, Option.map_some]
      obtain ⟨htext, hpositions⟩ := Scanner.positions_of_some hsplit start
      obtain ⟨-, hbound⟩ := findNextPlaceholder_bounds hnext
      have hbehind : sql.drop (start + before.length + 1) = behind := by
        rw [Nat.add_assoc, ← List.drop_drop, htext, ← List.drop_drop, List.drop_left]
        rfl
      rw [placeholders_of_some hnext, hpositions, ih _ (by omega) _ rfl, hbehind]

/-! ## The loop -/

/-- The search from the position behind the text that is done. -/
theorem findNextPlaceholder_append (noBackslashEscapes : Bool) (done rest : Bytes) :
    findNextPlaceholder (done ++ rest) done.length noBackslashEscapes
      = ((mysqlScanner noBackslashEscapes).split .code rest).map
          fun parts ↦ done.length + parts.1.length := by
  rw [findNextPlaceholder, List.drop_left]

/-- One turn of the loop: what is in front of the placeholder is done, and so is the value. -/
theorem replaceNextPlaceholder_append (noBackslashEscapes : Bool) (done rest value : Bytes) :
    replaceNextPlaceholder noBackslashEscapes (done ++ rest, done.length) value
      = match (mysqlScanner noBackslashEscapes).split .code rest with
        | none => .error countMismatch
        | some (before, behind) =>
          .ok ((done ++ before ++ value) ++ behind, (done ++ before ++ value).length) := by
  rw [replaceNextPlaceholder, findNextPlaceholder_append]
  cases hsplit : (mysqlScanner noBackslashEscapes).split .code rest with
  | none => rfl
  | some parts =>
    obtain ⟨before, behind⟩ := parts
    obtain ⟨rfl, -⟩ := Scanner.positions_of_some hsplit 0
    have htake : (done ++ (before ++ questionMark :: behind)).take (done.length + before.length)
        = done ++ before := by
      rw [← List.append_assoc, ← List.length_append, List.take_left]
    have hdrop : (done ++ (before ++ questionMark :: behind)).drop (done.length + before.length + 1)
        = behind := by
      rw [← List.append_assoc, ← List.length_append, ← List.drop_drop, List.drop_left]
      rfl
    simp only [Option.map_some, htake, hdrop, List.length_append]

/-- The loop from the middle: the text in front of the position is done, and the placeholders are
those of the text behind it. -/
theorem formatFrom_append (noBackslashEscapes : Bool) (done rest : Bytes) (i : ℕ)
    (values : List Bytes) :
    formatFrom noBackslashEscapes (done ++ rest, done.length) values
      = if ((mysqlScanner noBackslashEscapes).regions.positions .code i rest).length = values.length
        then .ok (done ++ substitute i
          (((mysqlScanner noBackslashEscapes).regions.positions .code i rest).zip values) rest)
        else .error countMismatch := by
  induction values generalizing done rest i with
  -- Without values left, the check that follows the loop must find no placeholder.
  | nil =>
    have hcheck : formatFrom noBackslashEscapes (done ++ rest, done.length) []
        = match findNextPlaceholder (done ++ rest) done.length noBackslashEscapes with
          | none => .ok (done ++ rest)
          | some _ => .error countMismatch := rfl
    rw [hcheck, findNextPlaceholder_append]
    cases hsplit : (mysqlScanner noBackslashEscapes).split .code rest with
    | none =>
      rw [Scanner.positions_of_none hsplit]
      simp [substitute_nil]
    | some parts =>
      obtain ⟨-, hpositions⟩ := Scanner.positions_of_some hsplit i
      rw [hpositions]
      simp
  -- One turn puts the value in, and what was written is done: the search does not come back to it.
  | cons value values ih =>
    have hturn : formatFrom noBackslashEscapes (done ++ rest, done.length) (value :: values)
        = replaceNextPlaceholder noBackslashEscapes (done ++ rest, done.length) value >>=
            fun p ↦ formatFrom noBackslashEscapes p values := by
      rw [formatFrom, List.foldlM_cons, bind_assoc]
      rfl
    rw [hturn, replaceNextPlaceholder_append]
    cases hsplit : (mysqlScanner noBackslashEscapes).split .code rest with
    | none =>
      rw [Scanner.positions_of_none hsplit]
      rfl
    | some parts =>
      obtain ⟨before, behind⟩ := parts
      obtain ⟨rfl, hpositions⟩ := Scanner.positions_of_some hsplit i
      have hrest := ih (done ++ before ++ value) behind (i + before.length + 1)
      change formatFrom noBackslashEscapes (_, _) values = _
      rw [hrest, hpositions, List.zip_cons_cons, substitute_cons, List.length_cons,
        List.length_cons]
      simp only [Nat.add_right_cancel_iff, List.append_assoc]

theorem formatValues_eq (sql : Bytes) (noBackslashEscapes : Bool) (values : List Bytes) :
    formatValues sql noBackslashEscapes values
      = if (placeholders sql noBackslashEscapes 0).length = values.length
        then .ok (substitute 0 ((placeholders sql noBackslashEscapes 0).zip values) sql)
        else .error countMismatch := by
  rw [placeholders_eq]
  exact formatFrom_append noBackslashEscapes [] sql 0 values

/-- A text that is filled with the values is what comes out. -/
theorem formatValues_of_fills {sql result : Bytes} {noBackslashEscapes : Bool} {values : List Bytes}
    (h : (mysqlScanner noBackslashEscapes).Fills sql values result) :
    formatValues sql noBackslashEscapes values = .ok result := by
  rw [formatValues_eq, placeholders_eq, List.drop_zero, if_pos (h.length 0), h.substitute]

/-- The loop goes on behind a text that is filled with the first values. -/
theorem formatValues_append_of_fills {xs ys result : Bytes} {vs ws : List Bytes}
    (h : (mysqlScanner noBackslashEscapes).Fills xs vs result) :
    formatValues (xs ++ ys) noBackslashEscapes (vs ++ ws)
      = (formatValues ys noBackslashEscapes ws).map (result ++ ·) := by
  have hmode : xs.foldl (mysqlScanner noBackslashEscapes).regions.step .code = .code := h.mode
  -- The positions behind the filled text.
  let ps := (mysqlScanner noBackslashEscapes).regions.positions .code xs.length ys
  have hlater : ∀ p ∈ ps.zip ws, 0 + xs.length ≤ p.1 := by
    intro p hp
    rw [Nat.zero_add]
    exact (Regions.positions_bounds (List.of_mem_zip hp).1).1
  have hbehind : formatValues ys noBackslashEscapes ws
      = if ps.length = ws.length then .ok (substitute xs.length (ps.zip ws) ys)
        else .error countMismatch :=
    formatFrom_append noBackslashEscapes [] ys xs.length ws
  have hpositions : (mysqlScanner noBackslashEscapes).regions.positions .code 0 (xs ++ ys)
      = (mysqlScanner noBackslashEscapes).regions.positions .code 0 xs ++ ps := by
    rw [Regions.positions_append, hmode, Nat.zero_add]
  have hcount : (vs.length + ps.length = vs.length + ws.length) = (ps.length = ws.length) :=
    propext Nat.add_left_cancel_iff
  rw [hbehind, formatValues_eq, placeholders_eq, List.drop_zero, hpositions,
    List.zip_append (h.length 0), Regions.substitute_append (h.length 0) hlater, h.substitute 0,
    Nat.zero_add]
  simp only [List.length_append, h.length 0, hcount]
  split_ifs <;> rfl

/-- A single value takes the place of the only placeholder. -/
theorem formatValues_singleton {sql value text : Bytes}
    (h : formatValues sql noBackslashEscapes [value] = .ok text) :
    ∃ before behind, sql = before ++ questionMark :: behind ∧ text = before ++ value ++ behind := by
  have hturn : formatValues sql noBackslashEscapes [value]
      = replaceNextPlaceholder noBackslashEscapes (sql, 0) value >>=
          fun p ↦ formatFrom noBackslashEscapes p [] := by
    rw [formatValues, formatFrom, List.foldlM_cons, bind_assoc]
    rfl
  have hfirst := replaceNextPlaceholder_append noBackslashEscapes [] sql value
  change replaceNextPlaceholder noBackslashEscapes (sql, 0) value = _ at hfirst
  rw [hturn, hfirst] at h
  cases hsplit : (mysqlScanner noBackslashEscapes).split .code sql with
  | none =>
    rw [hsplit] at h
    cases h
  | some parts =>
    obtain ⟨before, behind⟩ := parts
    obtain ⟨htext, -⟩ := Scanner.positions_of_some hsplit 0
    rw [hsplit] at h
    have hlast := formatFrom_append noBackslashEscapes (before ++ value) behind 0 []
    change formatFrom noBackslashEscapes (_, _) [] = _ at h
    rw [List.nil_append, hlast] at h
    split_ifs at h
    refine ⟨before, behind, htext, ?_⟩
    rw [← Except.ok.inj h, List.zip_nil_right, substitute_nil]

end

/-- **Binding on the client.** The arguments are put in exactly when there are as many as
placeholders in the text as it was given, each in the place of its placeholder, and nothing else
changes. -/
theorem formatQueryArgs_eq (sql : Bytes) (noBackslashEscapes : Bool) (args : List QueryArg) :
    formatQueryArgs sql noBackslashEscapes args
      = if (placeholders sql noBackslashEscapes 0).length = args.length
        then .ok (substitute 0
          ((placeholders sql noBackslashEscapes 0).zip (args.map (toQueryArg noBackslashEscapes)))
          sql)
        else .error countMismatch := by
  rw [formatQueryArgs, formatValues_eq, List.length_map]

end Ormpp
