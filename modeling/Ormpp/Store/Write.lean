import Ormpp.Store.Store

/-!
# The client writes objects

What the statements of an insert, a replace or an update do when the client executes them, one
object after the other: the table has what the store says, up to the first object that cannot be
written, where a transaction of the client's own is rolled back.
-/

namespace Ormpp

open Sql hiding isBlank
open Bulk (OptType intMin)

section

variable {T : StoredClass} {allocated : Bool} {scan : List SqlRow → List SqlRow}

/-! ## A table of the connection -/

/-- The table of the class has other objects, and the rest of the connection is as it was. -/
structure Changed (c c' : SqlConnection) (t : ObjectTable T allocated) (inserted : Option ℤ) :
    Prop where
  database : c'.database = Function.update c.database (foldCase T.table) (some t.toSql)
  saved : c'.saved = c.saved
  inserted : c'.lastInsertRowid = inserted

theorem Changed.refl {c : SqlConnection} {t : ObjectTable T allocated}
    (h : HasTable c.database (some t)) : Changed c c t c.lastInsertRowid := by
  refine ⟨?_, rfl, rfl⟩
  have hsame : some t.toSql = c.database (foldCase T.table) := h.symm
  rw [hsame, Function.update_eq_self]

theorem Changed.trans {c c' c'' : SqlConnection} {t t' : ObjectTable T allocated}
    {n n' : Option ℤ} (h : Changed c c' t n) (h' : Changed c' c'' t' n') : Changed c c'' t' n' := by
  refine ⟨?_, h'.saved.trans h.saved, h'.inserted⟩
  rw [h'.database, h.database, Function.update_idem]

theorem Changed.hasTable {c c' : SqlConnection} {t : ObjectTable T allocated} {n : Option ℤ}
    (h : Changed c c' t n) : HasTable c'.database (some t) := by
  rw [HasTable, h.database, Function.update_self]
  rfl

/-! ## One object -/

theorem boundValues_eq (x : T.Object allocated) (type : OptType) :
    DiscreteClass.boundValues allocated type x.value
      = if type = .update then updateValues x
        else (T.statementIndices (type == .insert)).map x.cell := by
  have hfields : (T.indices.filter fun i ↦
        !(type == .insert && T.aliased.registry.isAutoKey T.structName (T.column i)))
      = T.statementIndices (type == .insert) :=
    List.filter_congr fun i _ ↦ by rw [T.isAutoKey_column]
  have hkeys : (T.indices.filter fun i ↦ isConflictKey T.aliased.reflected (T.column i) .sqlite)
      = T.keyIndices := by
    refine List.filter_congr fun i _ ↦ ?_
    have hkey : isConflictKey T.aliased.reflected (T.column i) .sqlite
        = decide (T.column i ∈ T.aliased.reflected.cutNames) :=
      isConflictKey_quoteName T.aliased.reflected .sqlite (T.column i)
    rw [hkey, T.cutNames_eq, ← T.keyNames_eq]
    rfl
  have hall : T.statementIndices false = T.indices := List.filter_eq_self.mpr fun _ _ ↦ rfl
  rw [DiscreteClass.boundValues]
  simp only [hfields, hkeys]
  split_ifs with h
  · rw [h]
    change (T.statementIndices false).map x.cell ++ _ = _
    rw [hall]
    rfl
  · rw [List.map_nil, List.append_nil]
    rfl

/-- An insert and a replace put the object, as it is stored, behind the others. -/
theorem save_eq {type : OptType} (h : type ≠ .update) (x : T.Object allocated)
    (s : ObjectTable T allocated × Option ℤ) :
    ObjectTable.save type x s = (s.1.prepared (type == .insert) x).bind fun x' ↦
      (s.1.put (!(type == .insert)) x').map fun t ↦ (t, T.number x') := by
  cases type with
  | insert | replace => rfl
  | update => exact absurd rfl h

theorem exists_prepared {type : OptType} {t : ObjectTable T allocated} {x : T.Object allocated}
    (h : t.Numbers type x) : ∃ x', t.prepared (type == .insert) x = some x' := by
  cases type with
  | insert => exact Option.isSome_iff_exists.mp (h rfl)
  | replace | update => exact ⟨x, rfl⟩

/-- The statement writes an object as the store does. -/
structure Writes (scan : List SqlRow → List SqlRow) (type : OptType) (stmt : Prepared)
    (T : StoredClass) (allocated : Bool) : Prop where
  parameters : ∀ x : T.Object allocated,
    stmt.parameters = (DiscreteClass.boundValues allocated type x.value).length
  refused : ∀ (c : SqlConnection) (t : ObjectTable T allocated) (x : T.Object allocated),
    HasTable c.database (some t) → t.Numbers type x →
      ObjectTable.save type x (t, c.lastInsertRowid) = none →
        c.execute scan (parameterValues (DiscreteClass.boundValues allocated type x.value))
          stmt.statement = none
  taken : ∀ (c : SqlConnection) (t t' : ObjectTable T allocated) (x : T.Object allocated)
    (n : Option ℤ), HasTable c.database (some t) → t.Numbers type x →
      ObjectTable.save type x (t, c.lastInsertRowid) = some (t', n) →
        ∃ c', c.execute scan (parameterValues (DiscreteClass.boundValues allocated type x.value))
            stmt.statement = some (c', []) ∧
          Changed c c' t' n ∧ (c'.changes = 0 → type = .update)

theorem writes_insert {type : OptType} (h : type ≠ .update) :
    Writes scan type ⟨.insert (!(type == .insert)) T.table
          ((T.statementIndices (type == .insert)).map T.column)
          ((List.range (T.statementIndices (type == .insert)).length).map parameter),
        (T.statementIndices (type == .insert)).length⟩ T allocated := by
  have hvalues (x : T.Object allocated) : DiscreteClass.boundValues allocated type x.value
      = (T.statementIndices (type == .insert)).map x.cell := by
    rw [boundValues_eq, if_neg h]
  have hexecute {c : SqlConnection} {t : ObjectTable T allocated} {x : T.Object allocated}
      (htable : HasTable c.database (some t)) (hnumbers : t.Numbers type x) :
      ∃ x', ObjectTable.save type x (t, c.lastInsertRowid)
          = (t.put (!(type == .insert)) x').map (fun t' ↦ (t', T.number x')) ∧
        c.execute scan (parameterValues (DiscreteClass.boundValues allocated type x.value))
            (.insert (!(type == .insert)) T.table
              ((T.statementIndices (type == .insert)).map T.column)
              ((List.range (T.statementIndices (type == .insert)).length).map parameter))
          = (t.put (!(type == .insert)) x').map fun t' ↦
              ({ c.setTable T.table t'.toSql with
                changes := 1
                lastInsertRowid := T.number x' }, []) := by
    obtain ⟨x', hx'⟩ := exists_prepared hnumbers
    refine ⟨x', ?_, ?_⟩
    · rw [save_eq h, hx']
      rfl
    · rw [hvalues, execute_insert htable hx']
  constructor
  · intro x
    rw [hvalues, List.length_map]
  · intro c t x htable hnumbers hsave
    obtain ⟨x', hsaved, hexecuted⟩ := hexecute htable hnumbers
    rw [hexecuted, Option.map_eq_none_iff]
    rwa [hsaved, Option.map_eq_none_iff] at hsave
  · intro c t t' x n htable hnumbers hsave
    obtain ⟨x', hsaved, hexecuted⟩ := hexecute htable hnumbers
    rw [hsaved, Option.map_eq_some_iff] at hsave
    obtain ⟨t', hput, ⟨⟩⟩ := hsave
    rw [hexecuted, hput]
    exact ⟨_, rfl, ⟨rfl, rfl, rfl⟩, fun h ↦ nomatch h⟩

theorem writes_update {e : Expr}
    (he : ∀ x y : T.Object allocated, Sql.test (parameterValues (updateValues x)) (some e) y.row
      = some (decide (y.SameOn T.keyIndices x))) :
    Writes scan .update
      ⟨.update T.table ((equationsFrom T T.indices 0).map fun p ↦ (p.1, parameter p.2)) (some e),
        T.indices.length + T.keyIndices.length⟩ T allocated := by
  have hvalues (x : T.Object allocated) :
      DiscreteClass.boundValues allocated .update x.value = updateValues x :=
    boundValues_eq x .update
  constructor
  · intro x
    rw [hvalues, updateValues, List.length_append, List.length_map, List.length_map]
  · intro c t x htable _ hsave
    rw [hvalues, execute_update htable (he x), Option.map_eq_none_iff]
    exact Option.map_eq_none_iff.mp hsave
  · intro c t t' x n htable _ hsave
    obtain ⟨t', hupdate, ⟨⟩⟩ := Option.map_eq_some_iff.mp hsave
    rw [hvalues, execute_update htable (he x), hupdate]
    exact ⟨_, rfl, ⟨rfl, rfl, rfl⟩, fun _ ↦ rfl⟩

variable (scan) in
/-- The text of a write is prepared as a statement that writes, if the table is there. -/
theorem prepare_write {o : Option (ObjectTable T allocated)} {db : SqlDatabase}
    (h : HasTable db o) (type : OptType) (hkeys : type = .update → T.keyIndices ≠ []) :
    ∃ stmt, prepare db (if type = .update then T.updateSql else T.insertSql type)
        = o.map (fun _ ↦ stmt) ∧ Writes scan type stmt T allocated := by
  by_cases htype : type = .update
  · obtain ⟨e, hprepare, he⟩ := prepare_updateSql h (hkeys htype)
    rw [if_pos htype, htype]
    exact ⟨_, hprepare, writes_update he⟩
  · rw [if_neg htype]
    exact ⟨_, prepare_insertSql h, writes_insert htype⟩

/-! ## The client -/

section

variable {type : OptType} {stmt : Prepared} {c : SqliteClient} {t : ObjectTable T allocated}

theorem take_boundValues (hstmt : Writes scan type stmt T allocated) (x : T.Object allocated) :
    (DiscreteClass.boundValues allocated type x.value).take stmt.parameters
      = DiscreteClass.boundValues allocated type x.value :=
  List.take_of_length_le (hstmt.parameters x).ge

theorem stmtExecute_of_refused (hstmt : Writes scan type stmt T allocated)
    (h : HasTable c.handle.database (some t)) {x : T.Object allocated}
    (hnumbers : t.Numbers type x)
    (hsave : ObjectTable.save type x (t, c.handle.lastInsertRowid) = none) :
    c.stmtExecute scan allocated stmt type x.value
      = ({ c with
          failed := true
          hasError := true }, intMin) := by
  rw [SqliteClient.stmtExecute]
  simp only [← hstmt.parameters x, lt_irrefl, if_false]
  rw [SqliteClient.step, take_boundValues hstmt, hstmt.refused _ _ _ h hnumbers hsave]
  rfl

theorem stmtExecute_of_taken (hstmt : Writes scan type stmt T allocated)
    (h : HasTable c.handle.database (some t)) {x : T.Object allocated}
    (hnumbers : t.Numbers type x) {t' : ObjectTable T allocated} {n : Option ℤ}
    (hsave : ObjectTable.save type x (t, c.handle.lastInsertRowid) = some (t', n)) :
    ∃ handle count, Changed c.handle handle t' n ∧ count ≠ intMin ∧
      c.stmtExecute scan allocated stmt type x.value
        = ({ c with
            handle := handle
            failed := false }, count) := by
  obtain ⟨handle, hexecute, hchanged, hcount⟩ := hstmt.taken _ _ _ _ _ h hnumbers hsave
  refine ⟨handle, if handle.changes = 0 then if type = .update then 0 else intMin else 1,
    hchanged, ?_, ?_⟩
  · split_ifs with hzero hupdate
    · decide
    · exact absurd (hcount hzero) hupdate
    · decide
  · rw [SqliteClient.stmtExecute]
    simp only [← hstmt.parameters x, lt_irrefl, if_false]
    rw [SqliteClient.step, take_boundValues hstmt, hexecute]

/-- The client after it has changed a table, with or without an error of the statement. -/
structure ClientChanged (c c' : SqliteClient) (t : ObjectTable T allocated) (inserted : Option ℤ)
    (ok : Bool) : Prop where
  changed : Changed c.handle c'.handle t inserted
  transaction : c'.transaction = c.transaction
  failed : c'.failed = !ok
  hasError : ok = true → c'.hasError = c.hasError

/-- **The loop over a vector.** The objects are written as the store writes them, up to the first
that cannot be; then the transaction is rolled back if there is one. -/
theorem executeAll_eq (hstmt : Writes scan type stmt T allocated) (v : List (T.Object allocated))
    (h : HasTable c.handle.database (some t)) (hfailed : c.failed = false)
    (hnumbers : ObjectTable.NumbersEach type v (t, c.handle.lastInsertRowid)) :
    ∃ c', ClientChanged c c' (ObjectTable.saveEach type v (t, c.handle.lastInsertRowid)).1.1
        (ObjectTable.saveEach type v (t, c.handle.lastInsertRowid)).1.2
        (ObjectTable.saveEach type v (t, c.handle.lastInsertRowid)).2 ∧
      SqliteClient.executeAll scan allocated stmt type (v.map DiscreteClass.Object.value) c
        = if (ObjectTable.saveEach type v (t, c.handle.lastInsertRowid)).2 then (c', true)
          else (if c.transaction then (c'.rollback scan).1 else c', false) := by
  induction v generalizing c t with
  | nil => exact ⟨c, ⟨.refl h, rfl, hfailed, fun _ ↦ rfl⟩, rfl⟩
  | cons x v ih =>
    obtain ⟨hx, hv⟩ := hnumbers
    rw [List.map_cons, SqliteClient.executeAll, ObjectTable.saveEach]
    cases hsave : ObjectTable.save type x (t, c.handle.lastInsertRowid) with
    | none =>
      rw [stmtExecute_of_refused hstmt h hx hsave]
      refine ⟨{ c with
        failed := true
        hasError := true }, ⟨.refl h, rfl, rfl, nofun⟩, ?_⟩
      simp only [if_true, Bool.false_eq_true, if_false]
    | some s =>
      obtain ⟨t', n⟩ := s
      obtain ⟨handle, count, hchanged, hcount, hexecute⟩ := stmtExecute_of_taken hstmt h hx hsave
      rw [hsave] at hv
      rw [← hchanged.inserted] at hv
      obtain ⟨c', hwritten, hrest⟩ := ih (c := { c with
        handle := handle
        failed := false }) hchanged.hasTable rfl hv
      rw [hchanged.inserted] at hwritten hrest
      refine ⟨c', ⟨hchanged.trans hwritten.changed, hwritten.transaction, hwritten.failed,
        hwritten.hasError⟩, ?_⟩
      rw [hexecute]
      simp only [if_neg hcount]
      exact hrest

end

end

end Ormpp
