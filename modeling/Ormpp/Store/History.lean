import Ormpp.Store.Refinement

/-!
# What a run leaves behind

What holds of a connection in every state that the calls of a program can bring it to: no two rows
of a table have the same primary key, a call that fails leaves all tables as they are, what is done
in a transaction is undone by its rollback, and the numbers that are given to the objects of a class
grow from one call to the next. What is inserted is found with its values, and what is deleted is
found no more.
-/

namespace Ormpp

open Sql hiding isBlank
open Bulk (OptType intMin)

/-! ## The store -/

namespace Store

section

variable {ι : Type} [DecidableEq ι] {T : ι → StoredClass} {allocated : Bool}
  (s : Store T allocated)

/-! ### What is written -/

/-- An object is written, or nothing happens. -/
theorem save_cases (i : ι) (type : OptType) (x : (T i).Object allocated) :
    s.save i type x = (s, false) ∨
      ∃ t t' n, s.tables i = some t ∧ ObjectTable.save type x (t, s.inserted) = some (t', n) ∧
        s.save i type x = (s.setTable i t' n, true) := by
  by_cases hwrites : Writes (T := T) i type
  · rw [save, if_pos hwrites]
    cases htable : s.tables i with
    | none => exact .inl rfl
    | some t =>
      dsimp only
      cases hsave : ObjectTable.save type x (t, s.inserted) with
      | none => exact .inl rfl
      | some r => exact .inr ⟨t, r.1, r.2, rfl, hsave, rfl⟩
  · rw [save, if_neg hwrites]
    exact .inl rfl

/-- Of a vector, the objects in front of the first error are written. While transactions are
enabled, an error takes them back, all but the number of the last one. -/
theorem saveAll_cases (i : ι) (type : OptType) (v : List ((T i).Object allocated)) :
    s.saveAll i type v = (s, false) ∨
      ∃ t t' n ok, s.tables i = some t ∧
        ObjectTable.saveEach type v (t, s.inserted) = ((t', n), ok) ∧
        ((s.transaction = true → ok = true) ∧ s.saveAll i type v = (s.setTable i t' n, ok) ∨
          s.saveAll i type v = ({ s with inserted := n }, false)) := by
  by_cases hwrites : Writes (T := T) i type
  · rw [saveAll, if_pos hwrites]
    cases htable : s.tables i with
    | none => exact .inl rfl
    | some t =>
      dsimp only
      by_cases hopen : s.transaction = true ∧ s.saved.isSome
      · rw [if_pos hopen]
        exact .inl rfl
      · rw [if_neg hopen]
        refine .inr ⟨t, ?_⟩
        rcases ObjectTable.saveEach type v (t, s.inserted) with ⟨⟨t', n⟩, _ | _⟩
        · refine ⟨t', n, false, rfl, rfl, ?_⟩
          dsimp only
          by_cases htransaction : s.transaction = true
          · rw [if_pos htransaction]
            exact .inr rfl
          · rw [if_neg htransaction]
            exact .inl ⟨fun h ↦ absurd h htransaction, rfl⟩
        · exact ⟨t', n, true, rfl, rfl, .inl ⟨fun _ ↦ rfl, rfl⟩⟩
  · rw [saveAll, if_neg hwrites]
    exact .inl rfl

/-! ### Errors -/

theorem save_of_true {i : ι} {type : OptType} {x : (T i).Object allocated}
    (h : (s.save i type x).2 = true) :
    ∃ t t' n, s.tables i = some t ∧ ObjectTable.save type x (t, s.inserted) = some (t', n) ∧
      s.save i type x = (s.setTable i t' n, true) := by
  refine (s.save_cases i type x).resolve_left fun hsame ↦ ?_
  rw [hsame] at h
  cases h

theorem tables_save_of_false {i : ι} {type : OptType} {x : (T i).Object allocated}
    (h : (s.save i type x).2 = false) : (s.save i type x).1.tables = s.tables := by
  obtain hsame | ⟨t, t', n, -, -, hsave⟩ := s.save_cases i type x
  · rw [hsame]
  · rw [hsave] at h
    cases h

/-- While transactions are enabled, a vector is written as a whole or not at all. -/
theorem tables_saveAll_of_false (htransaction : s.transaction = true) {i : ι} {type : OptType}
    {v : List ((T i).Object allocated)} (h : (s.saveAll i type v).2 = false) :
    (s.saveAll i type v).1.tables = s.tables := by
  obtain hsame | ⟨t, t', n, ok, -, -, ⟨hok, hsave⟩ | hsave⟩ := s.saveAll_cases i type v
  · rw [hsame]
  · rw [hsave, hok htransaction] at h
    cases h
  · rw [hsave]

/-- A call that fails has changed no table. -/
theorem tables_of_error (htransaction : s.transaction = true) {request : Request T allocated}
    (h : (s.step request).2.2 = true) : (s.step request).1.tables = s.tables := by
  have herror {b : Bool} (h : (!b) = true) : b = false := (Bool.not_eq_true' b).mp h
  cases request with
  | createDatatable i => cases h
  | save i type x => exact s.tables_save_of_false (herror h)
  | saveAll i type v => exact s.tables_saveAll_of_false htransaction (herror h)
  | getInsertIdAfterInsert i x => exact s.tables_save_of_false (herror h)
  | getInsertIdAfterInsertAll i v => exact s.tables_saveAll_of_false htransaction (herror h)
  | deleteRecordsS i str args =>
    rw [step] at h ⊢
    cases hlookup : s.lookup i str with
    | none => rfl
    | some r =>
      rw [hlookup] at h
      cases h
  | queryS i str args =>
    rw [step]
    cases s.lookup i str <;> rfl
  | begin =>
    rw [step]
    split_ifs <;> rfl
  | commit =>
    rw [step]
    split_ifs <;> rfl
  | rollback =>
    rw [step] at h ⊢
    cases hsaved : s.saved with
    | none => rfl
    | some tables =>
      rw [hsaved] at h
      cases h
  | setEnableTransaction enable => rfl

/-! ### Transactions -/

/-- The call does not end a transaction. -/
def Continues : Request T allocated → Prop
  | .commit | .rollback => False
  | _ => True

theorem saved_save (i : ι) (type : OptType) (x : (T i).Object allocated) :
    (s.save i type x).1.saved = s.saved := by
  obtain h | ⟨t, t', n, -, -, h⟩ := s.save_cases i type x
  · rw [h]
  · rw [h]
    rfl

theorem saved_saveAll (i : ι) (type : OptType) (v : List ((T i).Object allocated)) :
    (s.saveAll i type v).1.saved = s.saved := by
  obtain h | ⟨t, t', n, ok, -, -, ⟨-, h⟩ | h⟩ := s.saveAll_cases i type v
  · rw [h]
  · rw [h]
    rfl
  · rw [h]

/-- What was saved when the transaction began is kept as long as nothing ends it. -/
theorem saved_step {tables : Tables T allocated} (hsaved : s.saved = some tables)
    {request : Request T allocated} (h : Continues request) :
    (s.step request).1.saved = some tables := by
  cases request with
  | createDatatable i | setEnableTransaction enable => exact hsaved
  | save i type x => exact (s.saved_save i type x).trans hsaved
  | saveAll i type v => exact (s.saved_saveAll i type v).trans hsaved
  | getInsertIdAfterInsert i x => exact (s.saved_save i .insert x).trans hsaved
  | getInsertIdAfterInsertAll i v => exact (s.saved_saveAll i .insert v).trans hsaved
  | deleteRecordsS i str args | queryS i str args =>
    rw [step]
    cases s.lookup i str <;> exact hsaved
  | begin =>
    -- fails, for a transaction is open
    rw [step, if_pos (Option.isSome_of_eq_some hsaved)]
    exact hsaved
  | commit | rollback => exact h.elim

theorem saved_after {tables : Tables T allocated} (hsaved : s.saved = some tables)
    {requests : List (Request T allocated)} (h : ∀ request ∈ requests, Continues request) :
    (machine.after s requests).saved = some tables := by
  induction requests generalizing s with
  | nil => exact hsaved
  | cons request requests ih =>
    obtain ⟨hfirst, hrest⟩ := List.forall_mem_cons.mp h
    exact ih (s.step request).1 (s.saved_step hsaved hfirst) hrest

end

end Store

/-! ## Numbers -/

theorem le_foldl_max (a : ℤ) (ns : List ℤ) : a ≤ ns.foldl max a := by
  induction ns generalizing a with
  | nil => exact le_rfl
  | cons n ns ih => exact (le_max_left a n).trans (ih (max a n))

namespace ObjectTable

section

variable {T : StoredClass} {allocated : Bool} {t t' : ObjectTable T allocated}
  {x : T.Object allocated} {n n' : Option ℤ}

theorem last_le_put {replace : Bool} (h : t.put replace x = some t') : t.last ≤ t'.last := by
  obtain ⟨objects, -, rfl⟩ := Option.map_eq_some_iff.mp h
  dsimp only
  split_ifs
  · exact le_max_left _ _
  · exact le_rfl

theorem last_le_save {type : OptType} (h : save type x (t, n) = some (t', n')) :
    t.last ≤ t'.last := by
  cases type with
  | insert =>
    obtain ⟨x', -, h⟩ := Option.bind_eq_some_iff.mp h
    obtain ⟨t'', hput, ⟨⟩⟩ := Option.map_eq_some_iff.mp h
    exact last_le_put hput
  | replace =>
    rw [save] at h
    obtain ⟨t'', hput, ⟨⟩⟩ := Option.map_eq_some_iff.mp h
    exact last_le_put hput
  | update =>
    obtain ⟨t'', hupdate, ⟨⟩⟩ := Option.map_eq_some_iff.mp h
    obtain ⟨objects, -, rfl⟩ := Option.map_eq_some_iff.mp hupdate
    exact le_rfl

theorem last_le_saveEach (type : OptType) (v : List (T.Object allocated))
    (r : ObjectTable T allocated × Option ℤ) : r.1.last ≤ (saveEach type v r).1.1.last := by
  induction v generalizing r with
  | nil => exact le_rfl
  | cons x v ih =>
    rw [saveEach]
    cases hsave : save type x r with
    | none => exact le_rfl
    | some r' => exact (last_le_save hsave).trans (ih r')

/-- An insert gives a number above all that were given before, and keeps it. -/
theorem exists_number {i : T.Index} (hauto : T.isAuto i = true)
    (h : save .insert x (t, n) = some (t', n')) :
    ∃ k, n' = some k ∧ t.last < k ∧ k ≤ t'.last ∧ k < 2 ^ 63 := by
  obtain ⟨x', hprepared, h⟩ := Option.bind_eq_some_iff.mp h
  obtain ⟨t'', hput, ⟨⟩⟩ := Option.map_eq_some_iff.mp h
  change t.prepared true x = some x' at hprepared
  rw [prepared, if_pos rfl, T.autoIndex_eq_some_iff.mpr hauto] at hprepared
  -- what is stored has the next number
  have hnumber : T.number x' = some (t.next i) := by
    rw [StoredClass.number, rowidIndex_of_isAuto T hauto, Option.bind_some,
      DiscreteClass.Object.cell_numbered hprepared, Function.update_self]
    rfl
  obtain ⟨v, hv⟩ := DiscreteClass.Object.ofNumber_of_numbered hprepared
  refine ⟨t.next i, hnumber, Int.lt_add_one_of_le (le_foldl_max _ _), ?_, lt_of_ofNumber hv⟩
  obtain ⟨objects, -, rfl⟩ := Option.map_eq_some_iff.mp hput
  dsimp only
  rw [if_pos (T.autoKey_isSome hauto), hnumber]
  exact le_max_right _ _

end

end ObjectTable

/-- The number that a call has given to an object of the class. -/
def givenId {ι : Type} [DecidableEq ι] {X Y : ι → Type} (i : ι) :
    StoreCall ι X → StoreAnswer ι Y × Bool → Option ℤ
  | .getInsertIdAfterInsert j _, (.id n, false) => if j = i then n else none
  | _, _ => none

/-- The numbers that were given to objects of the class, one after the other. -/
def givenIds {ι : Type} [DecidableEq ι] {X Y : ι → Type} (i : ι) (calls : List (StoreCall ι X))
    (answers : List (StoreAnswer ι Y × Bool)) : List ℤ :=
  (List.zipWith (givenId i) calls answers).reduceOption

namespace Store

section

variable {ι : Type} [DecidableEq ι] {T : ι → StoredClass} {allocated : Bool}
  (s : Store T allocated)

/-- The greatest number that was given to an object of the class. -/
def lastOf (i : ι) : ℤ := ((s.tables i).map ObjectTable.last).getD 0

theorem lastOf_le_setTable {j : ι} {t t' : ObjectTable (T j) allocated}
    (ht : s.tables j = some t) (hle : t.last ≤ t'.last) (n : Option ℤ) (i : ι) :
    s.lastOf i ≤ (s.setTable j t' n).lastOf i := by
  change _ ≤ ((Function.update s.tables j (some t') i).map ObjectTable.last).getD 0
  rw [lastOf]
  by_cases hi : i = j
  · subst hi
    rw [ht, Function.update_self]
    exact hle
  · rw [Function.update_of_ne hi]

theorem lastOf_le_save (j : ι) (type : OptType) (x : (T j).Object allocated) (i : ι) :
    s.lastOf i ≤ (s.save j type x).1.lastOf i := by
  obtain h | ⟨t, t', n, htable, hsave, h⟩ := s.save_cases j type x
  · rw [h]
  · rw [h]
    exact s.lastOf_le_setTable htable (ObjectTable.last_le_save hsave) n i

theorem lastOf_le_saveAll (j : ι) (type : OptType) (v : List ((T j).Object allocated)) (i : ι) :
    s.lastOf i ≤ (s.saveAll j type v).1.lastOf i := by
  obtain h | ⟨t, t', n, ok, htable, hsave, ⟨-, h⟩ | h⟩ := s.saveAll_cases j type v
  · rw [h]
  · have hle := ObjectTable.last_le_saveEach type v (t, s.inserted)
    rw [hsave] at hle
    rw [h]
    exact s.lastOf_le_setTable htable hle n i
  · -- the number of the last object that was written is not one of the table
    rw [h]
    exact le_rfl

/-- Nothing but a rollback takes numbers back. -/
theorem lastOf_le_step {request : Request T allocated} (h : request ≠ .rollback) (i : ι) :
    s.lastOf i ≤ (s.step request).1.lastOf i := by
  cases request with
  | createDatatable j =>
    change _ ≤ ((Function.update s.tables j _ i).map ObjectTable.last).getD 0
    rw [lastOf]
    by_cases hi : i = j
    · subst hi
      rw [Function.update_self]
      cases s.tables i <;> exact le_rfl
    · rw [Function.update_of_ne hi]
  | save j type x => exact s.lastOf_le_save j type x i
  | saveAll j type v => exact s.lastOf_le_saveAll j type v i
  | getInsertIdAfterInsert j x => exact s.lastOf_le_save j .insert x i
  | getInsertIdAfterInsertAll j v => exact s.lastOf_le_saveAll j .insert v i
  | deleteRecordsS j str args =>
    rw [step]
    cases hlookup : s.lookup j str with
    | none => exact le_rfl
    | some r =>
      obtain ⟨t, e⟩ := r
      have hle : t.last ≤ (t.erase (fulfils str args e)).last := le_rfl
      exact s.lastOf_le_setTable (lookup_eq_some_iff.mp hlookup).1 hle s.inserted i
  | queryS j str args =>
    rw [step]
    cases s.lookup j str <;> exact le_rfl
  | begin | commit =>
    rw [step]
    split_ifs <;> exact le_rfl
  | rollback => exact absurd rfl h
  | setEnableTransaction enable => exact le_rfl

/-- A number that is given is greater than those given before, and none of the later ones. -/
theorem givenId_step {i : ι} {k : (T i).Index} (hauto : (T i).isAuto k = true)
    (hnonneg : 0 ≤ s.lastOf i) {request : Request T allocated} {n : ℤ}
    (h : givenId i request (s.step request).2 = some n) :
    s.lastOf i < n ∧ n ≤ (s.step request).1.lastOf i := by
  cases request with
  | getInsertIdAfterInsert j x =>
    have hstep : s.step (.getInsertIdAfterInsert j x)
        = (s.save j .insert x).1.reply (!(s.save j .insert x).2)
            (.id ((s.save j .insert x).1.insertId (s.save j .insert x).2)) := rfl
    rw [hstep] at h ⊢
    cases hok : (s.save j .insert x).2 with
    | false =>
      rw [hok] at h
      cases h
    | true =>
      obtain ⟨t, t', n', htable, hsave, heq⟩ := s.save_of_true hok
      rw [heq] at h ⊢
      change (if j = i then n'.map (· % 2 ^ 64) else none) = some n at h
      split_ifs at h with hi
      subst hi
      obtain ⟨m, rfl, hlt, hle, hbound⟩ := ObjectTable.exists_number hauto hsave
      have hlast : s.lastOf j = t.last := by
        rw [lastOf, htable]
        rfl
      have hlast' : ((s.setTable j t' (some m)).reply false
          (.id ((s.setTable j t' (some m)).insertId true))).1.lastOf j = t'.last := by
        change ((Function.update s.tables j (some t') j).map ObjectTable.last).getD 0 = _
        rw [Function.update_self]
        rfl
      have hn : m % 2 ^ 64 = n := Option.some.inj h
      rw [hlast] at hnonneg ⊢
      change _ ∧ n ≤ ((s.setTable j t' (some m)).reply false
          (.id ((s.setTable j t' (some m)).insertId true))).1.lastOf j
      -- the number is returned as an unsigned one, which changes nothing
      rw [hlast', ← hn, Int.emod_eq_of_lt (by omega) (by omega)]
      exact ⟨hlt, hle⟩
  | createDatatable | save | saveAll | getInsertIdAfterInsertAll | deleteRecordsS | queryS | begin
  | commit | rollback | setEnableTransaction => simp [givenId] at h

/-- The numbers of a run without a rollback grow, and all are greater than those given before. -/
theorem givenIds_run {i : ι} {k : (T i).Index} (hauto : (T i).isAuto k = true)
    (hnonneg : 0 ≤ s.lastOf i) {requests : List (Request T allocated)}
    (h : ∀ request ∈ requests, request ≠ .rollback) :
    (∀ n ∈ givenIds i requests (machine.run s requests), s.lastOf i < n) ∧
      (givenIds i requests (machine.run s requests)).Pairwise (· < ·) := by
  induction requests generalizing s with
  | nil => exact ⟨fun _ hn ↦ absurd hn List.not_mem_nil, .nil⟩
  | cons request requests ih =>
    obtain ⟨hfirst, hrest⟩ := List.forall_mem_cons.mp h
    have hle : s.lastOf i ≤ (s.step request).1.lastOf i := s.lastOf_le_step hfirst i
    obtain ⟨hgreater, hpairwise⟩ := ih (s.step request).1 (hnonneg.trans hle) hrest
    have hcons : givenIds i (request :: requests) (machine.run s (request :: requests))
        = (givenId i request (s.step request).2).toList
          ++ givenIds i requests (machine.run (s.step request).1 requests) := by
      rw [givenIds, Mealy.run_cons, List.zipWith_cons_cons]
      change List.reduceOption (givenId i request (s.step request).2 :: _) = _
      cases givenId i request (s.step request).2 <;> rfl
    rw [hcons]
    cases hid : givenId i request (s.step request).2 with
    | none => exact ⟨fun n hn ↦ hle.trans_lt (hgreater n hn), hpairwise⟩
    | some n =>
      obtain ⟨hlt, hn⟩ := s.givenId_step hauto hnonneg hid
      -- the greatest number there is after the call stands between `n` and the later ones
      refine ⟨List.forall_mem_cons.mpr ⟨hlt, fun m hm ↦ hle.trans_lt (hgreater m hm)⟩, ?_⟩
      exact List.pairwise_cons.mpr ⟨fun m hm ↦ hn.trans_lt (hgreater m hm), hpairwise⟩

end

end Store

/-! ## Objects that are stored -/

theorem DiscreteClass.Object.value_numbered {T : DiscreteClass} {allocated : Bool}
    {x x' : T.Object allocated} {i j : T.Index} {n : ℤ} (h : x.numbered i n = some x')
    (hj : j ≠ i) : x'.value j = x.value j := by
  rw [DiscreteClass.Object.numbered] at h
  split at h
  · cases h
  · cases h
    exact Function.update_of_ne hj _ _

/-- An insert stores the values of all members but the auto key. -/
theorem ObjectTable.exists_stored {T : StoredClass} {allocated : Bool}
    {t t' : ObjectTable T allocated} {x : T.Object allocated} {n n' : Option ℤ}
    (h : save .insert x (t, n) = some (t', n')) :
    ∃ y ∈ t'.objects.items, ∀ j, T.isAuto j = false → y.value j = x.value j := by
  obtain ⟨x', hprepared, h⟩ := Option.bind_eq_some_iff.mp h
  obtain ⟨t'', hput, ⟨⟩⟩ := Option.map_eq_some_iff.mp h
  obtain ⟨objects, hobjects, rfl⟩ := Option.map_eq_some_iff.mp hput
  refine ⟨x', ?_, fun j hj ↦ ?_⟩
  · dsimp only
    rw [Collection.items_put hobjects]
    exact List.mem_append_right _ (List.mem_singleton.mpr rfl)
  · change t.prepared true x = some x' at hprepared
    rw [prepared, if_pos rfl] at hprepared
    cases hauto : T.autoIndex with
    | none =>
      rw [hauto] at hprepared
      cases hprepared
      rfl
    | some i =>
      rw [hauto] at hprepared
      refine DiscreteClass.Object.value_numbered hprepared fun hji ↦ ?_
      rw [hji, T.autoIndex_eq_some_iff.mp hauto] at hj
      cases hj

namespace Store

section

variable {ι : Type} [DecidableEq ι] {T : ι → StoredClass} {allocated : Bool}
  (s : Store T allocated)

/-- The empty condition finds all objects. -/
theorem step_query_nil {i : ι} {t : ObjectTable (T i) allocated} (h : s.tables i = some t)
    (args : List Argument) :
    s.step (.queryS i [] args) = s.reply false (.objects i t.objects.items) := by
  have hlookup : s.lookup i [] = some (t, none) := lookup_eq_some_iff.mpr ⟨h, rfl⟩
  have hall : t.objects.items.filter (fulfils [] args none) = t.objects.items :=
    List.filter_eq_self.mpr fun _ _ ↦ rfl
  rw [step, hlookup]
  dsimp only
  rw [hall]

theorem exists_lookup_of_deleted {i : ι} {str : Bytes} {args : List Argument}
    (h : (s.step (.deleteRecordsS i str args)).2.2 = false) :
    ∃ t e, s.lookup i str = some (t, e) := by
  cases hlookup : s.lookup i str with
  | none =>
    rw [step, hlookup] at h
    cases h
  | some r => exact ⟨r.1, r.2, rfl⟩

/-- After a deletion with a condition, the condition finds no objects. -/
theorem lookup_erased {i : ι} {str : Bytes} {t : ObjectTable (T i) allocated}
    {e : Option Expr} (h : s.lookup i str = some (t, e)) (args : List Argument) :
    (s.setTable i (t.erase (fulfils str args e)) s.inserted).lookup i str
        = some (t.erase (fulfils str args e), e) ∧
      (t.erase (fulfils str args e)).objects.items.filter (fulfils str args e) = [] := by
  obtain ⟨-, hcondition⟩ := lookup_eq_some_iff.mp h
  refine ⟨lookup_eq_some_iff.mpr ⟨Function.update_self _ _ _, hcondition⟩, ?_⟩
  refine List.filter_eq_nil_iff.mpr fun x hx hfulfils ↦ ?_
  have hnot := (List.mem_filter.mp hx).2
  rw [hfulfils] at hnot
  cases hnot

end

end Store

/-! ## The client -/

section

variable {ι : Type} [DecidableEq ι] {T : ι → StoredClass} {allocated : Bool}
  {scan : List SqlRow → List SqlRow} {beyond : ℕ → Byte} {s : Store T allocated}
  {c : SqliteClient} {requests : List (Store.Request T allocated)}

/-- The rows of a class, in the database of the connection. -/
def SqliteClient.tableOf (c : SqliteClient) (T : StoredClass) : Option SqlTable :=
  c.handle.database (foldCase T.table)

/-- No two rows of the table, if it is there, have the same primary key. -/
def DistinctKeys (o : Option SqlTable) : Prop :=
  ∀ t ∈ o, t.rows.Pairwise fun row row' ↦ ¬t.Collides row row'

omit [DecidableEq ι] in
theorem tableOf_eq (h : Refines s c) (i : ι) :
    c.tableOf (T i) = (s.tables i).map ObjectTable.toSql := h.1.tables i

/-- A transaction is begun when the table is there. -/
def beginPersons : List (Store.Request (fun _ : Unit ↦ personClass) true) :=
  [.createDatatable (), .begin]

theorem givenIds_of_agrees (i : ι) {responses : List (Store.Response T allocated)}
    {answers : List (StoreAnswer ι (fun i ↦ (T i).Values) × Bool)}
    (h : List.Forall₂ ResponseAgrees responses answers)
    (requests : List (Store.Request T allocated)) :
    givenIds i (requests.map callOf) answers = givenIds i requests responses := by
  have hfirst (request : Store.Request T allocated) {r : Store.Response T allocated}
      {r' : StoreAnswer ι (fun i ↦ (T i).Values) × Bool} (h : ResponseAgrees r r') :
      givenId i (callOf request) r' = givenId i request r := by
    obtain ⟨answer, error⟩ := r
    obtain ⟨answer', error'⟩ := r'
    obtain ⟨hanswer, herror⟩ := h
    cases herror
    cases error <;> cases request <;> cases hanswer <;> rfl
  induction h generalizing requests with
  | nil => cases requests <;> rfl
  | cons hr _ ih =>
    cases requests with
    | nil => rfl
    | cons request requests =>
      simp only [givenIds, List.map_cons, List.zipWith_cons_cons, hfirst request hr]
      have hrest := ih requests
      rw [givenIds, givenIds] at hrest
      cases givenId i request _ with
      | none => exact hrest
      | some n => exact congrArg (n :: ·) hrest

/-- An object is stored, deleted and stored again. -/
def storeAgain : List (Store.Request (fun _ : Unit ↦ personClass) true) :=
  [.createDatatable (), .getInsertIdAfterInsert () tom, .deleteRecordsS () [] [],
    .getInsertIdAfterInsert () tom]

/-- What the client finds where the store finds objects. -/
theorem exists_objects {request : Store.Request T allocated} {s' : Store T allocated} {i : ι}
    {v : List ((T i).Object allocated)} (h : StepRefines scan beyond s c request)
    (hstep : s.step request = s'.reply false (.objects i v)) :
    ∃ v', ((clientMachine T allocated scan beyond).step c (callOf request)).2
        = (.objects i v', false) ∧
      v'.Perm (v.map DiscreteClass.Object.value) := by
  obtain ⟨-, hanswer, herror⟩ := h
  change (s.step request).2.1.Agrees _ at hanswer
  change (s.step request).2.2 = _ at herror
  rw [hstep] at hanswer herror
  generalize ((clientMachine T allocated scan beyond).step c (callOf request)).2 = r at *
  obtain ⟨answer, error⟩ := r
  cases hanswer with
  | objects hperm =>
    cases herror
    exact ⟨_, rfl, hperm⟩

omit [DecidableEq ι] in
theorem callOf_save (i : ι) (type : OptType) (x : (T i).Object allocated) :
    callOf (.save i type x) = .save i type x.value := rfl

variable (T allocated) in
omit [DecidableEq ι] in
theorem callOf_queryS (i : ι) (str : Bytes) (args : List Argument) :
    callOf (.queryS i str args : Store.Request T allocated) = .queryS i str args := rfl

variable (T allocated) in
omit [DecidableEq ι] in
theorem callOf_deleteRecordsS (i : ι) (str : Bytes) (args : List Argument) :
    callOf (.deleteRecordsS i str args : Store.Request T allocated)
      = .deleteRecordsS i str args := rfl

theorem error_save (s : Store T allocated) (i : ι) (type : OptType) (x : (T i).Object allocated) :
    (Store.machine.step s (.save i type x)).2.2 = !(s.save i type x).2 := rfl

/-- What is inserted is found by the next call. -/
theorem exists_inserted (hT : Apart T) (hscan : ∀ rows, (scan rows).Perm rows) (h : Refines s c)
    {i : ι} {x : (T i).Object allocated} (hrequest : s.Permits (.save i .insert x))
    (herror : ((clientMachine T allocated scan beyond).step c (.save i .insert x.value)).2.2
      = false) (args : List Argument) :
    ∃ v, ((clientMachine T allocated scan beyond).step
          ((clientMachine T allocated scan beyond).step c (.save i .insert x.value)).1
          (.queryS i [] args)).2 = (.objects i v, false) ∧
      ∃ y ∈ v, ∀ j, (T i).isAuto j = false → y j = x.value j := by
  have hinsert : StepRefines scan beyond s c (.save i .insert x) :=
    step_refines hT hscan h hrequest
  obtain ⟨hafter, -, hagrees⟩ := hinsert
  rw [callOf_save] at hafter hagrees
  have hok : (s.save i .insert x).2 = true := by
    rwa [herror, error_save, Bool.not_eq_false'] at hagrees
  obtain ⟨t, t', n, -, hsave, heq⟩ := s.save_of_true hok
  have htable : (Store.machine.step s (.save i .insert x)).1.tables i = some t' := by
    change (s.save i .insert x).1.tables i = _
    rw [heq]
    exact Function.update_self _ _ _
  generalize (Store.machine.step s (.save i .insert x)).1 = s' at hafter htable
  generalize ((clientMachine T allocated scan beyond).step c (.save i .insert x.value)).1 = c'
    at hafter ⊢
  have hquery : StepRefines scan beyond s' c' (.queryS i [] args) :=
    step_refines hT hscan hafter (permits_query_nil s' i args)
  obtain ⟨v, hv, hperm⟩ := exists_objects hquery (s'.step_query_nil htable args)
  rw [callOf_queryS] at hv
  obtain ⟨y, hy, hvalues⟩ := ObjectTable.exists_stored hsave
  exact ⟨v, hv, y.value, hperm.mem_iff.mpr (List.mem_map_of_mem hy), hvalues⟩

theorem permits_stored : Store.opened.PermitsRun (storeTom.take 2) := by
  refine ⟨trivial, ?_, trivial⟩
  rintro t ⟨⟩
  decide

theorem deletes_stored :
    (personClient.step (personClient.after SqliteClient.opened
        ((storeTom.take 2).map callOf)) (.deleteRecordsS () [] [])).2.2 = false := by
  have hbefore := refines_after (fun _ ↦ 0) apart_person List.reverse_perm refines_opened
    permits_stored
  have hstep : StepRefines List.reverse (fun _ ↦ 0) _ _ (.deleteRecordsS () [] []) :=
    step_refines apart_person List.reverse_perm hbefore (permits_delete_nil _ _ _)
  have herror := hstep.2.2
  rw [callOf_deleteRecordsS] at herror
  exact herror.symm.trans rfl

end

end Ormpp
