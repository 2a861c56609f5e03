import Ormpp.Sql.RawToken

/-!
# Statements

The statements of SQLite that store rows and find them again, and how they are read. A statement is
cut at its reserved words, none of which has a place in an expression, and each clause is read by
itself. A parameter is read as a column of a table that no text can name, its number the name of the
column.
-/

namespace Ormpp

namespace Sql

/-! ## Reserved words -/

/-- The reserved words that begin a clause or a constraint. -/
inductive Reserved
  | insert
  | into
  | values
  | select
  | from
  | where
  | delete
  | update
  | set
  | order
  | limit
  | commit
  | create
  | table
  | exists
  | primary
  | autoincrement
  | unique
  | other
  deriving DecidableEq

/-- Looks up a word that is written in capitals. -/
def reserved (upper : Bytes) : Reserved :=
  if upper = ascii "INSERT" then .insert
  else if upper = ascii "INTO" then .into
  else if upper = ascii "VALUES" then .values
  else if upper = ascii "SELECT" then .select
  else if upper = ascii "FROM" then .from
  else if upper = ascii "WHERE" then .where
  else if upper = ascii "DELETE" then .delete
  else if upper = ascii "UPDATE" then .update
  else if upper = ascii "SET" then .set
  else if upper = ascii "ORDER" then .order
  else if upper = ascii "LIMIT" then .limit
  else if upper = ascii "COMMIT" then .commit
  else if upper = ascii "CREATE" then .create
  else if upper = ascii "TABLE" then .table
  else if upper = ascii "EXISTS" then .exists
  else if upper = ascii "PRIMARY" then .primary
  else if upper = ascii "AUTOINCREMENT" then .autoincrement
  else if upper = ascii "UNIQUE" then .unique
  else .other

/-- A word that the grammar knows in its place and takes for a name elsewhere. -/
def isSoft (word : String) (name : Bytes) : Bool := name.map upperByte = ascii word

/-! ## The parts of a statement -/

/-- A reserved word, or a token of an expression. -/
inductive Part
  | reserved (w : Reserved)
  | token (t : Token)
  deriving DecidableEq

def RawToken.part : RawToken → Part
  | .word w =>
    if wordToken w = .keyword .reserved then .reserved (Sql.reserved (w.map upperByte))
    else .token (wordToken w)
  | t => .token t.token

/-- The table whose columns the parameters are. A text is read up to its first NUL, so that none has
its name. -/
def parameterTable : Bytes := [0]

def parameterTokens (k : ℕ) : List Token :=
  [.name parameterTable, .symbol .dot, .name (natText k)]

/-- The expression of a parameter. -/
def parameter (k : ℕ) : Expr := .column (some parameterTable) (natText k)

/-- The token of a parameter. -/
def placeholder : RawToken := .symbol (.other questionMark)

/-- The parts of a statement, its parameters numbered from `k` on. -/
def parts : ℕ → List RawToken → List Part
  | _, [] => []
  | k, t :: ts =>
    if t = placeholder then
      (parameterTokens k).map .token ++ parts (k + 1) ts
    else t.part :: parts k ts

/-- The number of the parameters of a statement. -/
def parameterCount (text : Bytes) : ℕ := (statementTokens text).count placeholder

/-- A reserved word with the tokens up to the next one. -/
abbrev Clause := Reserved × List Token

/-- The tokens in front of the first reserved word, and the clauses. -/
def clauses : List Part → List Token × List Clause
  | [] => ([], [])
  | .token t :: ps => (t :: (clauses ps).1, (clauses ps).2)
  | .reserved w :: ps => ([], (w, (clauses ps).1) :: (clauses ps).2)

theorem parts_of_notMem {ts : List RawToken} (h : placeholder ∉ ts) (k : ℕ) :
    parts k ts = ts.map RawToken.part := by
  induction ts with
  | nil => rfl
  | cons t ts ih =>
    obtain ⟨ht, hts⟩ := not_or.mp (mt List.mem_cons.mpr h)
    rw [parts, if_neg (Ne.symm ht), ih hts, List.map_cons]

theorem parts_append (k : ℕ) (ts ts' : List RawToken) :
    parts k (ts ++ ts') = parts k ts ++ parts (k + ts.count placeholder) ts' := by
  induction ts generalizing k with
  | nil => rfl
  | cons t ts ih =>
    rw [List.cons_append, parts, parts]
    split_ifs with h
    · rw [ih, h, List.count_cons_self, Nat.add_assoc, Nat.add_comm 1, List.append_assoc]
    · rw [ih, List.count_cons_of_ne h, List.cons_append]

/-- In front of a list without parameters nothing is numbered. -/
theorem parts_append_of_notMem {ts : List RawToken} (h : placeholder ∉ ts) (k : ℕ)
    (ts' : List RawToken) : parts k (ts ++ ts') = ts.map RawToken.part ++ parts k ts' := by
  rw [parts_append, parts_of_notMem h, List.count_eq_zero_of_not_mem h, Nat.add_zero]

/-- Items that end in a parameter each. -/
theorem parts_intercalate {ι : Type} (front : ι → List RawToken) (between : List RawToken)
    (items : List ι) (hfront : ∀ i ∈ items, placeholder ∉ front i)
    (hbetween : placeholder ∉ between) (k : ℕ) :
    parts k (between.intercalate (items.map fun i ↦ front i ++ [placeholder]))
      = (between.map RawToken.part).intercalate ((items.zipIdx k).map fun p ↦
          (front p.1).map RawToken.part ++ (parameterTokens p.2).map .token) := by
  have hparameter (k : ℕ) : parts k [placeholder] = (parameterTokens k).map .token := by
    rw [parts, if_pos rfl, parts, List.append_nil]
  induction items generalizing k with
  | nil => rfl
  | cons i items ih =>
    obtain ⟨hi, hitems⟩ := List.forall_mem_cons.mp hfront
    have hfirst : parts k (front i ++ [placeholder])
        = (front i).map RawToken.part ++ (parameterTokens k).map .token := by
      rw [parts_append_of_notMem hi, hparameter]
    obtain _ | ⟨j, items⟩ := items
    · rw [List.map_singleton, List.intercalate_singleton, hfirst, List.zipIdx_singleton,
        List.map_singleton, List.intercalate_singleton]
    · have hcount : (front i ++ [placeholder]).count placeholder = 1 := by
        rw [List.count_append, List.count_eq_zero_of_not_mem hi, List.count_singleton_self]
      have hrest := ih hitems (k + 1)
      rw [List.map_cons, List.zipIdx_cons, List.map_cons] at hrest
      rw [List.map_cons, List.map_cons, List.intercalate_cons_cons, List.append_assoc,
        parts_append, hfirst, hcount, parts_append_of_notMem hbetween, hrest, List.zipIdx_cons,
        List.zipIdx_cons, List.map_cons, List.map_cons, List.intercalate_cons_cons,
        List.append_assoc _ _ (List.intercalate _ _)]

theorem count_intercalate {ι : Type} (front : ι → List RawToken) (between : List RawToken)
    (items : List ι) (hfront : ∀ i ∈ items, placeholder ∉ front i)
    (hbetween : placeholder ∉ between) :
    (between.intercalate (items.map fun i ↦ front i ++ [placeholder])).count placeholder
      = items.length := by
  induction items with
  | nil => rfl
  | cons i items ih =>
    obtain ⟨hi, hitems⟩ := List.forall_mem_cons.mp hfront
    have hfirst : (front i ++ [placeholder]).count placeholder = 1 := by
      rw [List.count_append, List.count_eq_zero_of_not_mem hi, List.count_singleton_self]
    obtain _ | ⟨j, items⟩ := items
    · rw [List.map_singleton, List.intercalate_singleton, hfirst]
      rfl
    · have hrest := ih hitems
      rw [List.map_cons] at hrest
      rw [List.map_cons, List.map_cons, List.intercalate_cons_cons, List.count_append,
        List.count_append, hfirst, List.count_eq_zero_of_not_mem hbetween, hrest]
      simp only [List.length_cons]
      omega

/-! ### Cutting at the reserved words -/

theorem clauses_append (ts : List Token) (ps : List Part) :
    clauses (ts.map .token ++ ps) = (ts ++ (clauses ps).1, (clauses ps).2) := by
  induction ts with
  | nil => rfl
  | cons t ts ih => rw [List.map_cons, List.cons_append, clauses, ih, List.cons_append]

theorem clauses_map (ts : List Token) : clauses (ts.map .token) = (ts, []) := by
  have h := clauses_append ts []
  rwa [List.append_nil, clauses, List.append_nil] at h

/-- Without a reserved word there are nothing but tokens. -/
theorem eq_map_of_clauses {ps : List Part} (h : (clauses ps).2 = []) :
    ps = (clauses ps).1.map .token := by
  induction ps with
  | nil => rfl
  | cons p ps ih =>
    cases p with
    | reserved w => cases h
    | token t => rw [clauses, List.map_cons, ← ih h]

/-! ## Statements -/

/-- A column, by the name of its table if that is given. -/
abbrev ColumnName := Option Bytes × Bytes

structure ColumnDefinition where
  name : Bytes
  typeName : Bytes
  /-- `PRIMARY KEY AUTOINCREMENT`. -/
  autoIncrement : Bool
  notNull : Bool
  deriving DecidableEq

inductive TableElement
  | column (c : ColumnDefinition)
  | primaryKey (names : List Bytes)
  | unique (names : List Bytes)
  deriving DecidableEq

structure Selection where
  columns : List ColumnName
  table : Bytes
  condition : Option Expr
  /-- The columns that the rows are sorted by, and whether downwards. -/
  order : List (ColumnName × Bool)
  limit : Option Expr
  offset : Option Expr

inductive Statement
  | create (table : Bytes) (elements : List TableElement)
  | insert (replace : Bool) (table : Bytes) (columns : List Bytes) (values : List Expr)
  | update (table : Bytes) (assignments : List (Bytes × Expr)) (condition : Option Expr)
  | delete (table : Bytes) (condition : Option Expr)
  | select (s : Selection)
  | begin
  | commit
  | rollback

/-! ## Reading lists -/

/-- A list that begins with its first item. -/
theorem exists_intercalate_cons {α : Type} (between item : List α) (items : List (List α)) :
    ∃ rest, between.intercalate (item :: items) = item ++ rest := by
  obtain _ | ⟨item', items⟩ := items
  · exact ⟨[], by rw [List.intercalate_singleton, List.append_nil]⟩
  · exact ⟨_, by rw [List.intercalate_cons_cons, List.append_assoc]⟩

theorem length_le_intercalate {α : Type} (between : List α) (items : List (List α))
    (h : ∀ item ∈ items, item ≠ []) : items.length ≤ (between.intercalate items).length := by
  induction items with
  | nil => exact Nat.zero_le _
  | cons item items ih =>
    obtain ⟨hitem, hitems⟩ := List.forall_mem_cons.mp h
    have hpos := List.length_pos_of_ne_nil hitem
    obtain _ | ⟨item', items⟩ := items
    · rw [List.intercalate_singleton]
      exact hpos
    · have hrest := ih hitems
      simp only [List.length_cons, List.intercalate_cons_cons, List.length_append] at hrest ⊢
      omega

theorem map_intercalate {α β : Type} (f : α → β) (between : List α) (items : List (List α)) :
    (between.intercalate items).map f
      = (between.map f).intercalate (items.map fun item ↦ item.map f) := by
  induction items with
  | nil => rfl
  | cons item items ih =>
    obtain _ | ⟨item', items⟩ := items
    · simp only [List.map_cons, List.map_nil, List.intercalate_singleton]
    · rw [List.map_cons] at ih
      rw [List.intercalate_cons_cons, List.map_append, List.map_append, ih, List.map_cons,
        List.map_cons, List.intercalate_cons_cons]

theorem notMem_intercalate {α : Type} {x : α} {between : List α} {items : List (List α)}
    (hbetween : x ∉ between) (h : ∀ item ∈ items, x ∉ item) : x ∉ between.intercalate items := by
  induction items with
  | nil => exact List.not_mem_nil
  | cons item items ih =>
    obtain ⟨hitem, hitems⟩ := List.forall_mem_cons.mp h
    obtain _ | ⟨item', items⟩ := items
    · rwa [List.intercalate_singleton]
    · rw [List.intercalate_cons_cons, List.mem_append, List.mem_append, not_or, not_or]
      exact ⟨⟨hitem, hbetween⟩, ih hitems⟩

section

variable {τ α : Type} [DecidableEq τ] (comma : τ) (item : List τ → Option (α × List τ))

/-- Items with commas between them. The number bounds their number. -/
def commaList : ℕ → List τ → Option (List α × List τ)
  | 0, _ => none
  | n + 1, ts => do
    let (x, ts) ← item ts
    match ts with
    | [] => some ([x], [])
    | t :: ts =>
      if t = comma then do
        let (xs, ts) ← commaList n ts
        some (x :: xs, ts)
      else some ([x], t :: ts)

variable {comma item}

/-- Every item is read in front of a comma, and in front of what stands behind the list. -/
theorem commaList_intercalate {ι : Type} {ts : ι → List τ} {x : ι → α} {behind : List τ}
    (hbehind : behind.head? ≠ some comma) {is : List ι} (hne : is ≠ [])
    (hcomma : ∀ i ∈ is, ∀ rest, item (ts i ++ comma :: rest) = some (x i, comma :: rest))
    (hlast : ∀ i ∈ is, item (ts i ++ behind) = some (x i, behind)) {n : ℕ} (hn : is.length ≤ n) :
    commaList comma item n ([comma].intercalate (is.map ts) ++ behind)
      = some (is.map x, behind) := by
  induction is generalizing n with
  | nil => exact absurd rfl hne
  | cons i is ih =>
    obtain ⟨hfirst, hcommas⟩ := List.forall_mem_cons.mp hcomma
    obtain ⟨hend, hlasts⟩ := List.forall_mem_cons.mp hlast
    obtain ⟨n, rfl⟩ : ∃ k, n = k + 1 := ⟨n - 1, by rw [List.length_cons] at hn; omega⟩
    rw [List.length_cons, Nat.add_le_add_iff_right] at hn
    obtain _ | ⟨j, is⟩ := is
    · rw [List.map_singleton, List.intercalate_singleton, commaList, hend]
      obtain _ | ⟨t, behind⟩ := behind
      · rfl
      · have ht : t ≠ comma := fun h ↦ hbehind (congrArg some h)
        simp only [Option.bind_eq_bind, Option.bind_some, if_neg ht, List.map_cons, List.map_nil]
    · have htokens : [comma].intercalate ((i :: j :: is).map ts) ++ behind
          = ts i ++ comma :: ([comma].intercalate ((j :: is).map ts) ++ behind) := by
        rw [List.map_cons, List.map_cons, List.intercalate_cons_cons]
        simp only [List.append_assoc, List.cons_append, List.nil_append]
      rw [htokens, commaList, hfirst]
      simp only [Option.bind_eq_bind, Option.bind_some, if_true,
        ih (List.cons_ne_nil _ _) hcommas hlasts hn]
      rfl

end

/-! ## Reading clauses -/

namespace Statement

def name : List Token → Option (Bytes × List Token)
  | .name n :: ts => some (n, ts)
  | _ => none

def columnName : List Token → Option (ColumnName × List Token)
  | .name table :: .symbol .dot :: .name column :: ts => some ((some table, column), ts)
  | .name column :: ts => some ((none, column), ts)
  | _ => none

/-- `column = expression`. -/
def assignment : List Token → Option ((Bytes × Expr) × List Token)
  | .name column :: .symbol (.compare .eq) :: ts => do
    let (e, ts) ← Parser.expr (ts.length + 1) 0 ts
    some ((column, e), ts)
  | _ => none

/-- A column to sort by, with its direction. -/
def sortKey (ts : List Token) : Option ((ColumnName × Bool) × List Token) := do
  let (column, ts) ← columnName ts
  match ts with
  | .name w :: ts =>
    if isSoft "DESC" w then some ((column, true), ts)
    else if isSoft "ASC" w then some ((column, false), ts)
    else none
  | ts => some ((column, false), ts)

/-- A list that takes up a whole clause. -/
def whole {α : Type} (item : List Token → Option (α × List Token)) (ts : List Token) :
    Option (List α) :=
  match commaList (.symbol .comma) item ts.length ts with
  | some (xs, []) => some xs
  | _ => none

/-- The table and the columns behind `INTO`. -/
def target : List Token → Option (Bytes × List Bytes)
  | .name table :: .symbol .openParen :: ts =>
    match commaList (.symbol .comma) name ts.length ts with
    | some (columns, [.symbol .closeParen]) => some (table, columns)
    | _ => none
  | _ => none

/-- The expressions behind `VALUES`. -/
def values (ts : List Token) : Option (List Expr) :=
  match Parser.parenthesized (Parser.expr (ts.length + 1)) ts with
  | some (es, []) => some es
  | _ => none

def readInsert (replace : Bool) (into vals : List Token) : Option Statement := do
  let (table, columns) ← target into
  let es ← values vals
  some (.insert replace table columns es)

/-- The condition of a statement, if there is one, and the clauses behind it. -/
def whereClause : List Clause → Option (Option Expr × List Clause)
  | (.where, ts) :: cs => do
    let e ← parseTokens ts
    some (some e, cs)
  | cs => some (none, cs)

def orderClause : List Clause → Option (List (ColumnName × Bool) × List Clause)
  | (.order, .name w :: ts) :: cs =>
    if isSoft "BY" w then do
      let keys ← whole sortKey ts
      some (keys, cs)
    else none
  | (.order, _) :: _ => none
  | cs => some ([], cs)

/-- The limit, and the offset if there is one. -/
def limitClause : List Clause → Option (Option Expr × Option Expr × List Clause)
  | (.limit, ts) :: cs => do
    let (n, ts) ← Parser.expr (ts.length + 1) 0 ts
    match ts with
    | [] => some (some n, none, cs)
    | .name w :: ts =>
      if isSoft "OFFSET" w then do
        let m ← parseTokens ts
        some (some n, some m, cs)
      else none
    | _ => none
  | cs => some (none, none, cs)

/-- The end of a statement. -/
def atEnd {α : Type} (x : α) : List Clause → Option α
  | [] => some x
  | _ => none

def readSelect (items : List Token) (table : Bytes) (cs : List Clause) : Option Statement := do
  let columns ← whole columnName items
  let (condition, cs) ← whereClause cs
  let (order, cs) ← orderClause cs
  let (limit, offset, cs) ← limitClause cs
  atEnd (.select ⟨columns, table, condition, order, limit, offset⟩) cs

def readUpdate (table : Bytes) (sets : List Token) (cs : List Clause) : Option Statement := do
  let assignments ← whole assignment sets
  let (condition, cs) ← whereClause cs
  atEnd (.update table assignments condition) cs

def readDelete (table : Bytes) (cs : List Clause) : Option Statement := do
  let (condition, cs) ← whereClause cs
  atEnd (.delete table condition) cs

def readClauses : List Token × List Clause → Option Statement
  | ([], [(.insert, []), (.into, into), (.values, vals)]) => readInsert false into vals
  | ([.name w], [(.into, into), (.values, vals)]) =>
    if isSoft "REPLACE" w then readInsert true into vals else none
  | ([], (.select, items) :: (.from, [.name table]) :: cs) => readSelect items table cs
  | ([], (.delete, []) :: (.from, [.name table]) :: cs) => readDelete table cs
  | ([], (.update, [.name table]) :: (.set, sets) :: cs) => readUpdate table sets cs
  | ([], [(.commit, [])]) => some .commit
  | ([.name w], []) =>
    if isSoft "BEGIN" w then some .begin
    else if isSoft "ROLLBACK" w then some .rollback
    else none
  | _ => none

/-! ## Reading the definition of a table -/

def partName : List Part → Option (Bytes × List Part)
  | .token (.name n) :: ps => some (n, ps)
  | _ => none

/-- Names between parentheses. -/
def parenthesizedNames : List Part → Option (List Bytes × List Part)
  | .token (.symbol .openParen) :: ps => do
    let (names, ps) ← commaList (.token (.symbol .comma)) partName ps.length ps
    match ps with
    | .token (.symbol .closeParen) :: ps => some (names, ps)
    | _ => none
  | _ => none

/-- The length that may stand behind a type. -/
def typeLength : List Part → List Part
  | .token (.symbol .openParen) :: .token (.integer _) :: .token (.symbol .closeParen) :: ps => ps
  | ps => ps

/-- What is said of a column behind its type. -/
def columnOption : List Part → Option ((Bool × Bool) × List Part)
  | .reserved .primary :: .token (.name key) :: .reserved .autoincrement :: ps =>
    if isSoft "KEY" key then some ((true, false), ps) else none
  | .token (.keyword .not) :: .token (.keyword .null) :: ps => some ((false, true), ps)
  | ps => some ((false, false), ps)

def tableElement : List Part → Option (TableElement × List Part)
  | .reserved .primary :: .token (.name key) :: ps =>
    if isSoft "KEY" key then do
      let (names, ps) ← parenthesizedNames ps
      some (.primaryKey names, ps)
    else none
  | .reserved .unique :: ps => do
    let (names, ps) ← parenthesizedNames ps
    some (.unique names, ps)
  | .token (.name column) :: .token (.name typeName) :: ps => do
    let (option, ps) ← columnOption (typeLength ps)
    some (.column ⟨column, typeName, option.1, option.2⟩, ps)
  | _ => none

def readCreate : List Part → Option Statement
  | .reserved .create :: .reserved .table :: .token (.name w) :: .token (.keyword .not) ::
      .reserved .exists :: .token (.name table) :: .token (.symbol .openParen) :: ps =>
    if isSoft "IF" w then
      match commaList (.token (.symbol .comma)) tableElement ps.length ps with
      | some (elements, [.token (.symbol .closeParen)]) => some (.create table elements)
      | _ => none
    else none
  | _ => none

end Statement

/-- The statement that some parts make up. -/
def readParts (ps : List Part) : Option Statement :=
  match ps with
  | .reserved .create :: _ => Statement.readCreate ps
  | ps => Statement.readClauses (clauses ps)

theorem readParts_reserved {w : Reserved} (h : w ≠ .create) (ps : List Part) :
    readParts (.reserved w :: ps) = Statement.readClauses (clauses (.reserved w :: ps)) := by
  rw [readParts]
  rintro tail ⟨⟩
  exact h rfl

/-- The statement that SQLite reads in a text. -/
def readStatement (text : Bytes) : Option Statement := readParts (parts 0 (statementTokens text))

/-- The condition that SQLite reads in a text, with its parameters. -/
def readCondition (text : Bytes) : Option Expr :=
  match clauses (parts 0 (statementTokens text)) with
  | (ts, []) => parseTokens ts
  | _ => none

end Sql

end Ormpp
