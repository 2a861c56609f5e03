import Ormpp.Registry.Resolution
import Ormpp.Schema.Insert

/-!
# The auto key of the table and the auto key of the insert

The statement that creates a table takes its auto key from the registry and from its arguments, an
insert from the registry alone. SQLite registers what was only an argument, where nothing was
registered before; the other backends do not, and no backend lets an argument replace a key.
-/

namespace Ormpp

namespace Registry

/-- No auto key is the empty text, which stands for none. -/
def Named (r : Registry) : Prop :=
  ∀ key value, r.autoKeyMap.lookup key = some value → value ≠ []

variable {r : Registry}

theorem Named.addAutoKeyField (h : r.Named) (key : Bytes) {value : Bytes} (hvalue : value ≠ []) :
    (r.addAutoKeyField key value).Named := by
  intro key' value' hlookup
  rw [Registry.addAutoKeyField, Dictionary.lookup_emplace] at hlookup
  rcases hold : r.autoKeyMap.lookup key' with _ | v
  · rw [hold, Option.none_or] at hlookup
    split_ifs at hlookup
    obtain rfl := Option.some.inj hlookup
    exact hvalue
  · rw [hold, Option.some_or] at hlookup
    obtain rfl := Option.some.inj hlookup
    exact h key' v hold

theorem Named.of_autoKeyMap_eq {r' : Registry} (h : r.Named) (hmap : r'.autoKeyMap = r.autoKeyMap) :
    r'.Named := by
  rw [Named, hmap]
  exact h

theorem Program.named_registry (fields : StructName → List Key) (p : Program) :
    (p.registry fields).Named := by
  intro key value hlookup
  rw [p.autoKeyMap_registry fields, Dictionary.lookup_emplaceAll_empty] at hlookup
  obtain ⟨f, -, rfl⟩ := Option.map_eq_some_iff.mp hlookup
  exact f.key.text_ne_nil

/-- What is found under the short name of the class. -/
theorem getAutoKey_eq (r : Registry) (T : StructName) :
    r.getAutoKey T = (r.autoKeyMap.lookup (getShortStructName T)).getD [] := by
  rw [getAutoKey]
  rcases r.autoKeyMap.lookup (getShortStructName T) with _ | value <;> rfl

/-- Where nothing is found there is no entry. -/
theorem Named.lookup_eq_none (h : r.Named) {T : StructName} (hkey : r.getAutoKey T = []) :
    r.autoKeyMap.lookup (getShortStructName T) = none := by
  rw [getAutoKey_eq] at hkey
  rcases hlookup : r.autoKeyMap.lookup (getShortStructName T) with _ | value
  · rfl
  · rw [hlookup] at hkey
    exact absurd hkey (h _ _ hlookup)

/-- A field is the auto key where its name is the one that is found. -/
theorem isAutoKey_eq {name : Bytes} (h : name ≠ []) (r : Registry) (T : StructName) :
    r.isAutoKey T name = decide (name = r.getAutoKey T) := by
  rw [isAutoKey, getAutoKey]
  rcases r.autoKeyMap.lookup (getShortStructName T) with _ | value
  · exact (decide_eq_false h).symm
  · exact Bool.eq_iff_iff.mpr
      (beq_iff_eq.trans (eq_comm.trans decide_eq_true_iff.symm))

end Registry

/-! ## A list of columns and its first key -/

section List

variable {α : Type*}

/-- The first one among `key` and some others is `key`, or none of them is there, exactly where
`key` comes no later than each of the others that are there. -/
theorem toList_find?_eq_filter_iff [BEq α] [LawfulBEq α] {l : List α} (h : l.Nodup) {key : α}
    {others : List α} {p q : α → Bool} (hp : ∀ a, p a = true ↔ a = key ∨ a ∈ others)
    (hq : ∀ a, q a = true ↔ a = key) :
    (l.find? p).toList = l.filter q ↔ ∀ a ∈ others, a ∈ l → l.idxOf key ≤ l.idxOf a := by
  induction l with
  | nil => exact iff_of_true rfl fun a _ ha ↦ absurd ha List.not_mem_nil
  | cons c l ih =>
    obtain ⟨hc, hl⟩ := List.nodup_cons.mp h
    by_cases hkey : c = key
    · subst hkey
      apply iff_of_true
      · have hrest : l.filter q = [] := by
          rw [List.filter_eq_nil_iff]
          intro a ha hac
          exact hc ((hq a).mp hac ▸ ha)
        rw [List.find?_cons_of_pos ((hp c).mpr (.inl rfl)),
          List.filter_cons_of_pos ((hq c).mpr rfl), hrest]
        rfl
      · intro a _ _
        rw [List.idxOf_cons_self]
        exact Nat.zero_le _
    · rw [List.filter_cons_of_neg (mt (hq c).mp hkey)]
      by_cases hother : c ∈ others
      · rw [List.find?_cons_of_pos ((hp c).mpr (.inr hother))]
        apply iff_of_false
        · intro heq
          have hmem : c ∈ l.filter q := heq ▸ List.mem_singleton_self c
          exact hkey ((hq c).mp (List.mem_filter.mp hmem).2)
        · intro hle
          have hfirst := hle c hother List.mem_cons_self
          rw [List.idxOf_cons_self, List.idxOf_cons_ne l hkey] at hfirst
          exact absurd hfirst (Nat.not_succ_le_zero _)
      · have hnone : ¬p c = true := fun hc ↦ ((hp c).mp hc).elim hkey hother
        rw [List.find?_cons_of_neg hnone, ih hl]
        have hne {a : α} (ha : a ∈ others) : c ≠ a := fun hca ↦ hother (hca ▸ ha)
        constructor
        · intro hle a ha hmem
          rw [List.idxOf_cons_ne l hkey, List.idxOf_cons_ne l (hne ha)]
          exact Nat.succ_le_succ (hle a ha ((List.mem_cons.mp hmem).resolve_left (hne ha).symm))
        · intro hle a ha hmem
          have hstep := hle a ha (List.mem_cons_of_mem c hmem)
          rw [List.idxOf_cons_ne l hkey, List.idxOf_cons_ne l (hne ha)] at hstep
          exact Nat.le_of_succ_le_succ hstep

theorem filter_eq_singleton [DecidableEq α] {l : List α} (h : l.Nodup) {a : α} (hmem : a ∈ l) :
    (l.filter fun b ↦ b = a) = [a] := by
  rw [List.filter_eq, List.count_eq_one_of_mem h hmem]
  rfl

end List

/-! ## Creating the table -/

section

variable (db : DBType) (T : Entity)

/-- The registry behind some calls of `create_datatable`, each with its arguments. -/
def createDatatables (calls : List (List Constraint)) (r : Registry) : Registry :=
  calls.foldl (fun r args ↦ (generateCreatetbSql db r T args).2) r

/-- The first field of the class that an argument declares as its auto key. -/
def argumentKey (args : List Constraint) : Option Bytes := firstAutoKey T.fields (autoKeys args)

/-- The auto key of the class behind the calls, where `key` was the one in front of them: SQLite
keeps the first one that is declared. -/
def keyBehind (calls : List (List Constraint)) (key : Bytes) : Bytes :=
  if db = .sqlite ∧ key = [] then (calls.findSome? (argumentKey T)).getD [] else key

end

section

variable {db : DBType} {T : Entity} {r : Registry}

theorem Entity.ne_nil_of_mem {name : Bytes} (h : name ∈ T.columnNames) : name ≠ [] := by
  obtain ⟨f, -, rfl⟩ := List.mem_map.mp h
  exact f.name.text_ne_nil

theorem argumentKey_ne_nil {args : List Constraint} {name : Bytes}
    (h : argumentKey T args = some name) : name ≠ [] :=
  Entity.ne_nil_of_mem (T := T) (List.mem_of_find?_eq_some h)

theorem keyBehind_cons (db : DBType) (T : Entity) (args : List Constraint)
    (calls : List (List Constraint)) (key : Bytes) :
    keyBehind db T calls (keyBehind db T [args] key) = keyBehind db T (args :: calls) key := by
  by_cases hsqlite : db = .sqlite ∧ key = []
  · have hkey (calls : List (List Constraint)) :
        keyBehind db T calls key = (calls.findSome? (argumentKey T)).getD [] := if_pos hsqlite
    rw [hkey, hkey, List.findSome?_singleton, List.findSome?_cons]
    rcases hdeclared : argumentKey T args with _ | name
    · exact if_pos ⟨hsqlite.1, rfl⟩
    · exact if_neg fun h ↦ argumentKey_ne_nil hdeclared h.2
  · have hkey (calls : List (List Constraint)) : keyBehind db T calls key = key := if_neg hsqlite
    rw [hkey, hkey, hkey]

/-- The statement takes the registered key and the ones that are declared. -/
theorem firstAutoKey_constraintSets (db : DBType) (r : Registry) (T : Entity)
    (args : List Constraint) :
    firstAutoKey T.fields (constraintSets db r T args).autoPrimaryKey
      = T.columnNames.find? fun name ↦
          name = r.getAutoKey T.structName ∨ name ∈ autoKeys args := by
  apply List.find?_congr
  intro name hname
  have hne : name ≠ [] := Entity.ne_nil_of_mem (T := T) hname
  rw [decide_eq_decide, constraintSets, ConstraintSets.mem_autoPrimaryKey_collect]
  apply or_congr_left
  constructor
  · exact And.left
  · rintro rfl
    exact ⟨rfl, hne⟩

/-- An insert leaves out the column of the key that is found. -/
theorem omittedColumns_eq (r : Registry) (T : Entity) :
    omittedColumns r T = T.columnNames.filter fun name ↦ name = r.getAutoKey T.structName :=
  List.filter_congr fun _ hname ↦ Registry.isAutoKey_eq (Entity.ne_nil_of_mem hname) r _

theorem firstAutoKey_of_getAutoKey_eq_nil (hkey : r.getAutoKey T.structName = [])
    (db : DBType) (args : List Constraint) :
    firstAutoKey T.fields (constraintSets db r T args).autoPrimaryKey = argumentKey T args := by
  rw [firstAutoKey_constraintSets, hkey]
  apply List.find?_congr
  intro name hname
  exact decide_eq_decide.mpr (or_iff_right (Entity.ne_nil_of_mem (T := T) hname))

/-- What one call leaves. -/
theorem generateCreatetbSql_snd_eq (db : DBType) (T : Entity) (hr : r.Named)
    (args : List Constraint) :
    (generateCreatetbSql db r T args).2.Named ∧
      (generateCreatetbSql db r T args).2.getAutoKey T.structName
        = keyBehind db T [args] (r.getAutoKey T.structName) := by
  have hcaches := Registry.autoKeyMap_getConflictKeys (r := r) T.structName db
  have hnamed : (r.getConflictKeys T.structName db).2.Named := hr.of_autoKeyMap_eq hcaches
  have hkept : (r.getConflictKeys T.structName db).2.getAutoKey T.structName
      = r.getAutoKey T.structName := by
    rw [Registry.getAutoKey_eq, hcaches, Registry.getAutoKey_eq]
  rw [generateCreatetbSql_snd, keyBehind]
  split_ifs with hsqlite
  · obtain ⟨rfl, hkey⟩ := hsqlite
    rw [firstAutoKey_of_getAutoKey_eq_nil hkey, List.findSome?_singleton, hkey]
    rcases hdeclared : argumentKey T args with _ | name
    · exact ⟨hnamed, hkept.trans hkey⟩
    · have hne : name ≠ [] := argumentKey_ne_nil hdeclared
      have hlookup := hnamed.lookup_eq_none (hkept.trans hkey)
      rw [declaredRegistry, if_pos ⟨rfl, rfl⟩]
      refine ⟨hnamed.addAutoKeyField _ hne, ?_⟩
      rw [Registry.getAutoKey_eq, Registry.addAutoKeyField, Dictionary.lookup_emplace, hlookup,
        Entity.tableName, if_pos rfl]
      rfl
  · rcases firstAutoKey T.fields (constraintSets db r T args).autoPrimaryKey with _ | name
    · exact ⟨hnamed, hkept⟩
    · rw [declaredRegistry, if_neg hsqlite]
      exact ⟨hnamed, hkept⟩

/-- The registry is changed as by the call of `create_datatable` there. -/
theorem generateCreatetbSql_snd_eq_call {fields : StructName → List Key}
    (h : (fields T.structName).map (fun k ↦ k.text) = T.columnNames) (r : Registry)
    (args : List Constraint) :
    (generateCreatetbSql .sqlite r T args).2
      = r.call fields (.createDatatable T.structName (autoKeys args)) := by
  have hfirst : argumentKey T args = ((fields T.structName).find? fun name ↦
      name.text ∈ autoKeys args).map fun k ↦ k.text := by
    rw [argumentKey, firstAutoKey, ← Entity.columnNames, ← h, List.find?_map]
    rfl
  have hcall : r.call fields (.createDatatable T.structName (autoKeys args))
      = (r.getConflictKeys T.structName .sqlite).2.addFiling
          (Registry.firstField fields T.structName fun name ↦ name ∈ autoKeys args) :=
    Registry.generateCreatetbSql_eq r (autoKeys args)
  rw [generateCreatetbSql_snd, hcall, Registry.firstField]
  by_cases hkey : r.getAutoKey T.structName = []
  · rw [firstAutoKey_of_getAutoKey_eq_nil hkey, hfirst, hkey]
    generalize (fields T.structName).find? _ = found
    obtain _ | k := found
    · rfl
    · rw [Option.map_some, Option.map_some, declaredRegistry, if_pos ⟨rfl, rfl⟩]
      rfl
  · -- A key that is found is neither replaced nor registered again.
    have hisSome : ((r.getConflictKeys T.structName .sqlite).2.autoKeyMap.lookup
        (getShortStructName T.structName)).isSome := by
      rw [Registry.autoKeyMap_getConflictKeys]
      exact Registry.isSome_of_getAutoKey_ne_nil hkey
    have hfiled := @Registry.addFiling_firstField_of_isSome _ fields _ hisSome
      fun name ↦ name ∈ autoKeys args
    rw [Registry.firstField] at hfiled
    rw [hfiled]
    rcases firstAutoKey T.fields (constraintSets .sqlite r T args).autoPrimaryKey with _ | name
    · rfl
    · rw [declaredRegistry, if_neg fun h ↦ hkey h.2]

/-- What the calls leave. -/
theorem createDatatables_eq (db : DBType) (T : Entity) (hr : r.Named)
    (calls : List (List Constraint)) :
    (createDatatables db T calls r).Named ∧
      (createDatatables db T calls r).getAutoKey T.structName
        = keyBehind db T calls (r.getAutoKey T.structName) := by
  induction calls generalizing r with
  | nil =>
    refine ⟨hr, ?_⟩
    rw [keyBehind]
    split_ifs with hsqlite
    · exact hsqlite.2
    · rfl
  | cons args calls ih =>
    obtain ⟨hnamed, hkey⟩ := generateCreatetbSql_snd_eq db T hr args
    obtain ⟨hnamed', hkey'⟩ := ih hnamed
    refine ⟨hnamed', hkey'.trans ?_⟩
    rw [hkey]
    exact keyBehind_cons db T args calls _

/-! ## Agreement -/

/-- An insert that follows the call leaves out the columns that the statement of the call declared
as auto-increment. -/
def InsertAgrees (db : DBType) (r : Registry) (T : Entity) (args : List Constraint) : Prop :=
  omittedColumns (generateCreatetbSql db r T args).2 T
    = (createStatement db r T args).autoIncrement

instance (db : DBType) (r : Registry) (T : Entity) (args : List Constraint) :
    Decidable (InsertAgrees db r T args) := inferInstanceAs (Decidable (_ = _))

/-- No argument declares a column in front of that of the auto key. -/
def KeyFirst (T : Entity) (key : Bytes) (args : List Constraint) : Prop :=
  ∀ name ∈ autoKeys args, name ∈ T.columnNames →
    T.columnNames.idxOf key ≤ T.columnNames.idxOf name

theorem insertAgrees_iff (hr : r.Named) (args : List Constraint) :
    InsertAgrees db r T args ↔
      (db = .sqlite ∧ r.getAutoKey T.structName = []) ∨
        KeyFirst T (r.getAutoKey T.structName) args := by
  obtain ⟨-, hkey⟩ := generateCreatetbSql_snd_eq db T hr args
  have hnodup : T.columnNames.Nodup := T.nodup
  rw [InsertAgrees, omittedColumns_eq, autoIncrement_createStatement, hkey, keyBehind]
  split_ifs with hsqlite
  · -- What was declared is registered.
    apply iff_of_true _ (.inl hsqlite)
    rw [firstAutoKey_of_getAutoKey_eq_nil hsqlite.2, List.findSome?_singleton]
    rcases hdeclared : argumentKey T args with _ | name
    · rw [Option.getD_none, List.filter_eq_nil_iff.mpr]
      · rfl
      · intro name hname hnil
        exact Entity.ne_nil_of_mem hname (of_decide_eq_true hnil)
    · exact filter_eq_singleton hnodup (List.mem_of_find?_eq_some hdeclared)
  · rw [firstAutoKey_constraintSets, eq_comm,
      toList_find?_eq_filter_iff hnodup (fun _ ↦ decide_eq_true_iff) fun _ ↦ decide_eq_true_iff]
    exact (or_iff_right hsqlite).symm

/-- **The auto key of a table.** Behind every sequence of `create_datatable`, an insert leaves out
the columns that the last statement declared exactly where no argument of the last call declares a
column in front of that of the auto key, or the call is the first one of SQLite to find a key. -/
theorem insertAgrees_createDatatables_iff (fields : StructName → List Key)
    (p : Registry.Program) (db : DBType) (T : Entity) (calls : List (List Constraint))
    (args : List Constraint) :
    let r := p.registry fields
    let key := keyBehind db T calls (r.getAutoKey T.structName)
    InsertAgrees db (createDatatables db T calls r) T args ↔
      (db = .sqlite ∧ key = []) ∨ KeyFirst T key args := by
  obtain ⟨hnamed, hkey⟩ := createDatatables_eq db T (p.named_registry fields) calls
  intro r key
  rw [insertAgrees_iff hnamed, hkey]

/-- The class of the test of aliases. -/
def aliasEntity : Entity where
  structName := ⟨[], .lit (ascii "t_alias")⟩
  fields := [⟨.lit (ascii "alias_id"), .value (.integral .int), Eq.refl true⟩,
    ⟨.lit (ascii "alias_name"), .value .string, Eq.refl true⟩]
  fields_ne_nil := List.cons_ne_nil _ _
  nodup := by decide

/-- On MySQL the column of the argument is declared as auto-increment and is not left out. -/
theorem not_insertAgrees_argument :
    (generateCreatetbSql .mysql .empty aliasEntity [.autoKey (ascii "alias_id")]).1
        = ascii "CREATE TABLE IF NOT EXISTS t_alias(alias_id INTEGER AUTO_INCREMENT ,"
          ++ ascii "alias_name TEXT,PRIMARY KEY (alias_id))" ∧
      generateInsertSql (generateCreatetbSql .mysql .empty aliasEntity
          [.autoKey (ascii "alias_id")]).2 aliasEntity .mysql true []
        = ascii "insert into t_alias (`alias_id`,`alias_name`) values(?,?) " ∧
      ¬ ∀ (fields : StructName → List Key) (p : Registry.Program) (db : DBType) (T : Entity)
        (calls : List (List Constraint)) (args : List Constraint),
        InsertAgrees db (createDatatables db T calls (p.registry fields)) T args := by
  refine ⟨by decide, by decide, fun h ↦ ?_⟩
  have hagrees := h (fun _ ↦ []) ⟨[], []⟩ .mysql aliasEntity [] [.autoKey (ascii "alias_id")]
  exact absurd hagrees (by decide)

end

end Ormpp
