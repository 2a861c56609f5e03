import Ormpp.Data.Growth
import Ormpp.Query.Builder

/-!
# Join chains

A query starts with the table of its class, and every join should bring in one more. Each clause is
made of its two fields alone: `join_impl` joins the class of the first field, or that of the second
one where the first belongs to the class of the query. The clauses are read back from the text, and
compared with the tables that the calls add.
-/

namespace Ormpp

open Sql

/-! ## Chains of calls -/

/-- A column as `col` makes it, with its class. -/
structure Member where
  owner : Name
  field : Name

def Member.column (m : Member) : Column := ⟨some m.owner, m.field⟩

/-- The arguments of `inner_join`. -/
structure JoinCall where
  field1 : Member
  field2 : Member

/-- The tables that a call names. -/
def JoinCall.link (c : JoinCall) : Link Bytes := ⟨c.field1.owner.text, c.field2.owner.text⟩

/-- A class and a chain of joins, each of which names a table of the query and one that is new. -/
structure JoinChain where
  table : Table
  calls : List JoinCall
  grows : Chain.Along (fun seen l ↦ l.Grows seen) [table.name.text] (calls.map JoinCall.link)

/-- `inner_join`, and the same behind another join. -/
def innerJoins : List JoinCall → List Call
  | [] => []
  | c :: calls => .join .inner c.field1.column c.field2.column
      :: calls.map fun c ↦ .joinNext c.field1.column c.field2.column

/-- The clauses that name the tables. -/
def fromJoinClause (T : Table) (calls : List JoinCall) : Bytes :=
  let ctx := (innerJoins calls).foldl (Call.run T) (selectFrom [] T)
  ctx.fromClause ++ ctx.joinClause

/-! ## Reading the clauses -/

/-- The words between blanks. -/
def blankWords (text : Bytes) : List Bytes := (text.splitOn blank).filter fun word ↦ word ≠ []

/-- A table and its column. -/
def readMember (word : Bytes) : Option (Bytes × Bytes) :=
  match word.splitOn 0x2e with
  | [table, name] => some (table, name)
  | _ => none

/-- A clause that joins a table on the equality of two columns. -/
structure JoinClause where
  table : Bytes
  left : Bytes × Bytes
  right : Bytes × Bytes

def readEquality (table word : Bytes) : Option JoinClause :=
  match word.splitOn 0x3d with
  | [left, right] => do
    let left ← readMember left
    let right ← readMember right
    some ⟨table, left, right⟩
  | _ => none

def readJoins : List Bytes → Option (List JoinClause)
  | [] => some []
  | inner :: join :: table :: on :: condition :: rest =>
    if inner = ascii "inner" ∧ join = ascii "join" ∧ on = ascii "ON" then do
      let clause ← readEquality table condition
      let clauses ← readJoins rest
      some (clause :: clauses)
    else none
  | _ => none

/-- The table behind `from`, and the joins behind it. -/
def readFrom (text : Bytes) : Option (Bytes × List JoinClause) :=
  match blankWords text with
  | front :: table :: rest =>
    if front = ascii "from" then (readJoins rest).map fun clauses ↦ (table, clauses) else none
  | _ => none

/-- What the chain is read as: the joins bring in the tables that are new, so that every table is
there once, and a condition refers to tables that are there. -/
structure JoinChain.Introduces (chain : JoinChain) (clauses : List JoinClause) : Prop where
  read : readFrom (fromJoinClause chain.table chain.calls) = some (chain.table.name.text, clauses)
  tables : clauses.map JoinClause.table
    = Chain.added [chain.table.name.text] (chain.calls.map JoinCall.link)
  once : (chain.table.name.text :: clauses.map JoinClause.table).Nodup
  refers (front back : List JoinClause) (clause : JoinClause)
    (h : clauses = front ++ clause :: back) :
    clause.left.1 ∈ chain.table.name.text :: (front ++ [clause]).map JoinClause.table ∧
      clause.right.1 ∈ chain.table.name.text :: (front ++ [clause]).map JoinClause.table

/-- The first field of every call belongs to the class of the query or to the table that is new. -/
def JoinChain.FirstFieldsSettle (chain : JoinChain) : Prop :=
  Chain.Along (fun seen l ↦ l.left = chain.table.name.text ∨ l.left ∉ seen)
    [chain.table.name.text] (chain.calls.map JoinCall.link)

/-! ## The text is read back -/

theorem Name.notMem (n : Name) {b : Byte} (h : isNameByte b = false) : b ∉ n.text := by
  intro hmem
  rw [n.plain b hmem] at h
  cases h

/-- A table and its column, as they are written. -/
def Member.text (m : Member) : Bytes := m.owner.text ++ 0x2e :: m.field.text

def Member.names (m : Member) : Bytes × Bytes := (m.owner.text, m.field.text)

theorem Member.notMem_text (m : Member) {b : Byte} (h : isNameByte b = false) (hdot : b ≠ 0x2e) :
    b ∉ m.text := by
  rw [text, List.mem_append, List.mem_cons, not_or, not_or]
  exact ⟨m.owner.notMem h, hdot, m.field.notMem h⟩

theorem readMember_text (m : Member) : readMember m.text = some m.names := by
  have howner : (0x2e : Byte) ∉ m.owner.text := m.owner.notMem (by decide)
  have hfield : (0x2e : Byte) ∉ m.field.text := m.field.notMem (by decide)
  rw [readMember, Member.text, List.splitOn_append_cons_self_of_not_mem howner,
    List.splitOn_eq_singleton hfield]
  rfl

/-- The table that a clause joins. -/
def joined (T : Bytes) (l : Link Bytes) : Bytes := if T = l.left then l.right else l.left

/-- The clause of a call. -/
def JoinCall.clause (T : Bytes) (c : JoinCall) : JoinClause :=
  ⟨joined T c.link, c.field1.names, c.field2.names⟩

theorem readEquality_text (T : Bytes) (c : JoinCall) :
    readEquality (joined T c.link) (c.field1.text ++ 0x3d :: c.field2.text)
      = some (c.clause T) := by
  have hleft : (0x3d : Byte) ∉ c.field1.text := c.field1.notMem_text (by decide) (by decide)
  have hright : (0x3d : Byte) ∉ c.field2.text := c.field2.notMem_text (by decide) (by decide)
  rw [readEquality, List.splitOn_append_cons_self_of_not_mem hleft,
    List.splitOn_eq_singleton hright]
  simp only [readMember_text]
  rfl

theorem blankWords_blank (text : Bytes) : blankWords (blank :: text) = blankWords text := by
  have hsplit := List.splitOn_append_cons_self_of_not_mem (List.not_mem_nil (a := blank)) text
  rw [List.nil_append] at hsplit
  rw [blankWords, hsplit, List.filter_cons_of_neg (by simp)]
  rfl

theorem blankWords_word {word : Bytes} (hblank : blank ∉ word) (hne : word ≠ []) (rest : Bytes) :
    blankWords (word ++ blank :: rest) = word :: blankWords rest := by
  rw [blankWords, List.splitOn_append_cons_self_of_not_mem hblank,
    List.filter_cons_of_pos (by simpa using hne)]
  rfl

theorem blankWords_singleton {word : Bytes} (hblank : blank ∉ word) (hne : word ≠ []) :
    blankWords word = [word] := by
  rw [blankWords, List.splitOn_eq_singleton hblank, List.filter_cons_of_pos (by simpa using hne)]
  rfl

/-- The clause that a call writes. -/
def JoinCall.text (T : Table) (c : JoinCall) : Bytes :=
  joinImpl T JoinKind.inner.text c.field1.column.info c.field2.column.info

theorem JoinCall.text_append (T : Table) (c : JoinCall) (rest : Bytes) :
    c.text T ++ rest = blank :: (ascii "inner" ++ blank :: (ascii "join" ++ blank
      :: (joined T.name.text c.link ++ blank :: (ascii "ON" ++ blank
      :: ((c.field1.text ++ 0x3d :: c.field2.text) ++ blank :: rest))))) := by
  have hkind : JoinKind.inner.text = blank :: (ascii "inner" ++ [blank]) := rfl
  have hjoin : ascii "join " = ascii "join" ++ [blank] := rfl
  have hon : ascii " ON " = blank :: (ascii "ON" ++ [blank]) := rfl
  have hdot : ascii "." = [0x2e] := rfl
  have heq : ascii "=" = [0x3d] := rfl
  have hblank : ascii " " = [blank] := rfl
  rw [text, joinImpl, hkind, hjoin, hon, hdot, heq, hblank]
  simp only [List.append_assoc, List.cons_append, List.nil_append, Member.text]
  rfl

theorem blankWords_text (T : Table) (c : JoinCall) (rest : Bytes) :
    blankWords (c.text T ++ rest)
      = ascii "inner" :: ascii "join" :: joined T.name.text c.link :: ascii "ON"
        :: (c.field1.text ++ 0x3d :: c.field2.text) :: blankWords rest := by
  have htable : blank ∉ joined T.name.text c.link ∧ joined T.name.text c.link ≠ [] := by
    rw [joined]
    split_ifs
    · exact ⟨c.field2.owner.notMem (by decide), c.field2.owner.text_ne_nil⟩
    · exact ⟨c.field1.owner.notMem (by decide), c.field1.owner.text_ne_nil⟩
  have hcondition : blank ∉ c.field1.text ++ 0x3d :: c.field2.text := by
    rw [List.mem_append, List.mem_cons, not_or, not_or]
    exact ⟨c.field1.notMem_text (by decide) (by decide), by decide,
      c.field2.notMem_text (by decide) (by decide)⟩
  rw [c.text_append, blankWords_blank, blankWords_word (by decide) (by decide),
    blankWords_word (by decide) (by decide), blankWords_word htable.1 htable.2,
    blankWords_word (by decide) (by decide), blankWords_word hcondition (by simp)]

theorem readJoins_text (T : Table) (calls : List JoinCall) :
    readJoins (blankWords (calls.flatMap (JoinCall.text T)))
      = some (calls.map (JoinCall.clause T.name.text)) := by
  induction calls with
  | nil => rfl
  | cons c calls ih =>
    rw [List.flatMap_cons, blankWords_text, readJoins, if_pos ⟨rfl, rfl, rfl⟩,
      readEquality_text, ih]
    rfl

theorem fromJoinClause_eq (T : Table) (calls : List JoinCall) :
    fromJoinClause T calls
      = ascii " from " ++ T.name.text ++ calls.flatMap (JoinCall.text T) := by
  have hnext (calls : List JoinCall) (ctx : Context) :
      (calls.map fun c ↦ Call.joinNext c.field1.column c.field2.column).foldl (Call.run T) ctx
        = { ctx with joinClause := ctx.joinClause ++ calls.flatMap (JoinCall.text T) } := by
    induction calls generalizing ctx with
    | nil => rw [List.flatMap_nil, List.append_nil]; rfl
    | cons c calls ih =>
      rw [List.map_cons, List.foldl_cons, ih, List.flatMap_cons, ← List.append_assoc]
      rfl
  obtain _ | ⟨c, calls⟩ := calls
  · rfl
  · rw [fromJoinClause, innerJoins, List.foldl_cons, hnext]
    rfl

theorem readFrom_fromJoinClause (T : Table) (calls : List JoinCall) :
    readFrom (fromJoinClause T calls)
      = some (T.name.text, calls.map (JoinCall.clause T.name.text)) := by
  have hwords : blankWords (fromJoinClause T calls)
      = ascii "from" :: T.name.text :: blankWords (calls.flatMap (JoinCall.text T)) := by
    have hfrom : fromJoinClause T calls
        = blank :: (ascii "from" ++ blank
          :: (T.name.text ++ calls.flatMap (JoinCall.text T))) := by
      rw [fromJoinClause_eq, List.append_assoc]
      rfl
    have hblank : blank ∉ T.name.text := T.name.notMem (by decide)
    rw [hfrom, blankWords_blank, blankWords_word (by decide) (by decide)]
    obtain _ | ⟨c, calls⟩ := calls
    · rw [List.flatMap_nil, List.append_nil, blankWords_singleton hblank T.name.text_ne_nil]
      rfl
    · -- the clause of the first call begins with a blank
      rw [List.flatMap_cons, c.text_append, blankWords_word hblank T.name.text_ne_nil,
        blankWords_blank]
  rw [readFrom, hwords]
  simp only [readJoins_text]
  rfl

/-! ## The tables that are joined -/

/-- The clauses join the tables that are new exactly where the first field settles it. -/
theorem map_joined_eq_added_iff {T : Bytes} {seen : List Bytes} (hT : T ∈ seen)
    {links : List (Link Bytes)} (h : Chain.Along (fun seen l ↦ l.Grows seen) seen links) :
    links.map (joined T) = Chain.added seen links ↔
      Chain.Along (fun seen l ↦ l.left = T ∨ l.left ∉ seen) seen links := by
  induction links generalizing seen with
  | nil => exact iff_of_true rfl trivial
  | cons l links ih =>
    obtain ⟨hgrows, hlinks⟩ := h
    have hstep : joined T l = l.fresh seen ↔ l.left = T ∨ l.left ∉ seen := by
      rw [joined, Link.fresh]
      by_cases hbase : l.left = T
      · have hleft : l.left ∈ seen := hbase ▸ hT
        rw [if_pos hbase.symm, if_pos hleft]
        exact iff_of_true rfl (.inl hbase)
      · rw [if_neg (Ne.symm hbase)]
        by_cases hleft : l.left ∈ seen
        · have hright : l.right ∉ seen := by
            obtain ⟨-, h⟩ | ⟨-, h⟩ := hgrows
            · exact h
            · exact absurd hleft h
          rw [if_pos hleft]
          refine iff_of_false ?_ ?_
          · intro heq
            exact hright (heq ▸ hleft)
          · rintro (heq | h)
            · exact hbase heq
            · exact h hleft
        · rw [if_neg hleft]
          exact iff_of_true rfl (.inr hleft)
    rw [List.map_cons, Chain.added, List.cons.injEq, hstep, ih (List.mem_append_left _ hT) hlinks,
      Chain.Along]

namespace JoinChain

variable (chain : JoinChain)

/-- What the text of the chain is read as. -/
def clauses : List JoinClause := chain.calls.map (JoinCall.clause chain.table.name.text)

theorem map_table_clause (T : Bytes) (calls : List JoinCall) :
    (calls.map (JoinCall.clause T)).map JoinClause.table
      = (calls.map JoinCall.link).map (joined T) := by
  rw [List.map_map, List.map_map]
  rfl

theorem tables_iff :
    chain.clauses.map JoinClause.table
        = Chain.added [chain.table.name.text] (chain.calls.map JoinCall.link) ↔
      chain.FirstFieldsSettle := by
  rw [clauses, map_table_clause]
  exact map_joined_eq_added_iff (List.mem_singleton_self _) chain.grows

/-- A condition refers to tables that are there once its clause is. -/
theorem refers_of_settle (h : chain.FirstFieldsSettle) {front back : List JoinClause}
    {clause : JoinClause} (hsplit : chain.clauses = front ++ clause :: back) :
    clause.left.1 ∈ chain.table.name.text :: (front ++ [clause]).map JoinClause.table ∧
      clause.right.1 ∈ chain.table.name.text :: (front ++ [clause]).map JoinClause.table := by
  obtain ⟨before, more, hcalls, rfl, hmore⟩ := List.map_eq_append_iff.mp hsplit
  obtain ⟨c, after, rfl, rfl, -⟩ := List.map_eq_cons_iff.mp hmore
  have hlinks : chain.calls.map JoinCall.link
      = before.map JoinCall.link ++ c.link :: after.map JoinCall.link := by
    rw [hcalls, List.map_append, List.map_cons]
  have hupTo : chain.calls.map JoinCall.link
      = (before ++ [c]).map JoinCall.link ++ after.map JoinCall.link := by
    rw [hlinks, List.map_append, List.append_assoc]
    rfl
  -- up to the clause, the tables are those that the calls add
  have hgrows := chain.grows
  rw [FirstFieldsSettle, hupTo, Chain.along_append] at h
  rw [hupTo, Chain.along_append] at hgrows
  have htables := (map_joined_eq_added_iff (List.mem_singleton_self _) hgrows.1).mpr h.1
  rw [← map_table_clause, List.map_append] at htables
  have hmem := Chain.mem_added (hlinks ▸ chain.grows)
  have hfront : before.map JoinCall.link ++ [c.link] = (before ++ [c]).map JoinCall.link := by
    rw [List.map_append, List.map_singleton]
  rw [hfront, ← htables] at hmem
  exact hmem

/-- The chain introduces its tables exactly where the first fields settle which one is new. -/
theorem introduces_iff : (∃ clauses, chain.Introduces clauses) ↔ chain.FirstFieldsSettle := by
  have hread := readFrom_fromJoinClause chain.table chain.calls
  constructor
  · rintro ⟨clauses, h⟩
    have hclauses : chain.clauses = clauses :=
      (Prod.mk.inj (Option.some.inj (hread.symm.trans h.read))).2
    have htables := h.tables
    rw [← hclauses] at htables
    exact chain.tables_iff.mp htables
  · intro h
    have htables := chain.tables_iff.mpr h
    refine ⟨chain.clauses, hread, htables, ?_, fun front back clause hsplit ↦
      chain.refers_of_settle h hsplit⟩
    rw [htables]
    exact Chain.nodup_added chain.grows (List.nodup_singleton _)

/-- A chain that goes on from a table that was joined. -/
def throughJoined : JoinChain where
  table := ⟨.lit (ascii "a"), []⟩
  calls := [
    ⟨⟨.lit (ascii "a"), .lit (ascii "id")⟩,
      ⟨.lit (ascii "b"), .lit (ascii "a_id")⟩⟩,
    ⟨⟨.lit (ascii "b"), .lit (ascii "id")⟩,
      ⟨.lit (ascii "c"), .lit (ascii "b_id")⟩⟩]
  grows := by decide

/-- The table that was joined is joined again, and the new one is not. -/
theorem not_introduces :
    fromJoinClause throughJoined.table throughJoined.calls
        = ascii " from a inner join b ON a.id=b.a_id  inner join b ON b.id=c.b_id " ∧
      ¬ ∀ chain : JoinChain, ∃ clauses, chain.Introduces clauses := by
  refine ⟨by decide, fun h ↦ ?_⟩
  obtain ⟨clauses, hread, htables, -, -⟩ := h throughJoined
  rw [readFrom_fromJoinClause] at hread
  obtain ⟨-, rfl⟩ := Prod.mk.inj (Option.some.inj hread)
  exact absurd htables (by decide)

end JoinChain

end Ormpp
