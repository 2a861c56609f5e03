import Ormpp.Schema.AutoKey
import Ormpp.Schema.ColumnList

/-!
# The columns of an upsert

PostgreSQL takes an upsert only where the columns behind `on conflict` are those of the primary key
or of another unique constraint of the table. They are the conflict keys of the class, for which its
auto key stands in; the statement that creates the table makes the auto key its primary key wherever
it finds one, and the conflict keys only where it does not.
-/

namespace Ormpp

/-! ## What the server accepts -/

namespace CreateStatement

/-- The sets of columns of which the values are unique in the table. -/
def uniqueSets (s : CreateStatement) : List (List Bytes) :=
  (if s.primaryKey = [] then [] else [columnList (joinNames s.primaryKey)])
    ++ s.unique.map columnList

def columnNames (s : CreateStatement) : List Bytes := s.columns.map TableColumn.name

/-- The server creates the table: the constraints are about its columns, and no one twice. -/
def Valid (s : CreateStatement) : Prop :=
  ∀ set ∈ s.uniqueSets, set.Nodup ∧ ∀ name ∈ set, name ∈ s.columnNames

end CreateStatement

/-- Behind `create_datatable<T>()` the server accepts `replace`: the columns of its `on conflict`
are a primary key or a unique constraint of the table. -/
def UpsertAccepted (r : Registry) (T : Entity) : Prop :=
  (createStatement .postgresql r T []).Valid ∧
    ∃ set ∈ (createStatement .postgresql r T []).uniqueSets, ∀ name, name ∈ set ↔
      name ∈ columnList (conflictTarget (generateCreatetbSql .postgresql r T []).2 T [])

/-! ## The conflict keys of a program -/

namespace Registry.Program

variable (fields : StructName → List Key) (p : Program)

/-- The conflict keys that are found for the class: those that are registered, or the auto key that
is found under the qualified name. -/
def conflictRegistration (T : StructName) : Option Registration :=
  (p.conflictKey T).or ((p.keyUnderStructName fields T).map fun k ↦ ⟨k, []⟩)

theorem getConflictKey_eq (T : StructName) :
    (p.registry fields).getConflictKey T
      = ((p.conflictRegistration fields T).map Registration.text).getD [] := by
  rw [p.getConflictKey_registry fields, conflictRegistration]
  rcases p.conflictKey T with _ | reg
  · rcases p.keyUnderStructName fields T with _ | k <;> rfl
  · rfl

/-- The keys as `split` finds them. -/
theorem getConflictKeys_eq (T : StructName) :
    ((p.registry fields).getConflictKeys T .postgresql).1
      = ((p.conflictRegistration fields T).map fun reg ↦ cutKeys reg.first reg.rest).getD [] := by
  have hplain (names : List Bytes) : names.map (quoteName .postgresql) = names := by
    have hid : quoteName .postgresql = id := rfl
    rw [hid, List.map_id]
  rw [(p.coherent_registry fields).getConflictKeys_fst, quotedKeys, hplain,
    p.getConflictKey_eq fields]
  rcases p.conflictRegistration fields T with _ | reg
  · rfl
  · exact split_text reg

end Registry.Program

/-- What is found under the short name of the class fits the conflict keys: the auto key is the only
one of them, and without an auto key no blank stands in front of a comma. -/
def FitsKeys (reg : Registration) : Option Key → Prop
  | some key => ∀ k ∈ reg.keys, k.text = key.text
  | none => ∀ q ∈ reg.rest, q.1.before = false

/-- There are conflict keys, they are columns of the table, and the auto key fits them. -/
def TargetUnique (fields : StructName → List Key) (p : Registry.Program) (T : Entity) : Prop :=
  ∃ reg, p.conflictRegistration fields T.structName = some reg ∧
    (∀ k ∈ reg.keys, k.text ∈ T.columnNames) ∧
    FitsKeys reg (p.keyUnderShortName fields T.structName)

/-! ## The keys that are cut -/

namespace Registration

/-- The keys, each with whether a blank stands behind it. -/
def cuts (reg : Registration) : List (Key × Bool) := cutsFrom reg.first reg.rest
where
  cutsFrom : Key → List (Spacing × Key) → List (Key × Bool)
    | k, [] => [(k, false)]
    | k, (s, k') :: rest => (k, s.before) :: cutsFrom k' rest

theorem map_cutKey_cuts (reg : Registration) :
    reg.cuts.map (fun c ↦ cutKey c.1 c.2) = cutKeys reg.first reg.rest := by
  have hfrom (k : Key) (rest : List (Spacing × Key)) :
      (cuts.cutsFrom k rest).map (fun c ↦ cutKey c.1 c.2) = cutKeys k rest := by
    induction rest generalizing k with
    | nil => rfl
    | cons q rest ih => rw [cuts.cutsFrom, List.map_cons, ih, cutKeys]
  exact hfrom reg.first reg.rest

theorem map_fst_cuts (reg : Registration) : reg.cuts.map Prod.fst = reg.keys := by
  have hfrom (k : Key) (rest : List (Spacing × Key)) :
      (cuts.cutsFrom k rest).map Prod.fst = k :: rest.map Prod.snd := by
    induction rest generalizing k with
    | nil => rfl
    | cons q rest ih => rw [cuts.cutsFrom, List.map_cons, ih, List.map_cons]
  exact hfrom reg.first reg.rest

/-- No key is cut where no blank stands in front of a comma. -/
theorem forall_mem_cuts (reg : Registration) :
    (∀ c ∈ reg.cuts, c.2 = false) ↔ ∀ q ∈ reg.rest, q.1.before = false := by
  have hfrom (k : Key) (rest : List (Spacing × Key)) :
      (∀ c ∈ cuts.cutsFrom k rest, c.2 = false) ↔ ∀ q ∈ rest, q.1.before = false := by
    induction rest generalizing k with
    | nil => exact iff_of_true (by simp [cuts.cutsFrom]) (by simp)
    | cons q rest ih => rw [cuts.cutsFrom, List.forall_mem_cons, List.forall_mem_cons, ih]
  exact hfrom reg.first reg.rest

end Registration

/-- What the server reads of a key that was cut out. -/
def readCut (c : Key × Bool) : Bytes := if c.2 then c.1.text.drop 1 else c.1.text

theorem isWord_readCut (c : Key × Bool) : IsWord (readCut c) := by
  rw [readCut]
  split_ifs
  · exact fun b hb ↦ c.1.isWord b (List.mem_of_mem_drop hb)
  · exact c.1.isWord

theorem cutKey_eq_readCut (c : Key × Bool) :
    cutKey c.1 c.2 = readCut c ++ optionalBlank c.2 := by
  obtain ⟨k, _ | _⟩ := c
  · exact (List.append_nil _).symm
  · rfl

theorem trimBlanks_cutKey (c : Key × Bool) : trimBlanks (cutKey c.1 c.2) = readCut c := by
  rw [cutKey_eq_readCut]
  exact trimBlanks_word (isWord_readCut c) c.2

theorem cutKey_list (c : Key × Bool) :
    commaByte ∉ cutKey c.1 c.2 ∧ cutKey c.1 c.2 ≠ [] := by
  rw [cutKey_eq_readCut]
  constructor
  · intro hmem
    rcases List.mem_append.mp hmem with hmem | hmem
    · exact (isWord_readCut c).comma_notMem hmem
    · exact comma_notMem_optionalBlank c.2 hmem
  · obtain ⟨k, _ | _⟩ := c
    · exact List.append_ne_nil_of_left_ne_nil k.text_ne_nil _
    · exact List.append_ne_nil_of_right_ne_nil _ (List.cons_ne_nil _ _)

/-- The keys that are cut out, as a set. -/
def cutSet (reg : Registration) : StringSet := StringSet.addAll [] (cutKeys reg.first reg.rest)

theorem mem_cutSet {reg : Registration} {name : Bytes} :
    name ∈ cutSet reg ↔ ∃ c ∈ reg.cuts, cutKey c.1 c.2 = name := by
  rw [cutSet, StringSet.mem_addAll, ← reg.map_cutKey_cuts, List.mem_map]
  exact or_iff_left List.not_mem_nil

theorem cutSet_ne_nil (reg : Registration) : cutSet reg ≠ [] := by
  have hne : reg.cuts ≠ [] := by
    rw [ne_eq, ← List.map_eq_nil_iff (f := Prod.fst), reg.map_fst_cuts]
    exact List.cons_ne_nil _ _
  obtain ⟨c, cuts, hcuts⟩ := List.exists_cons_of_ne_nil hne
  exact List.ne_nil_of_mem (mem_cutSet.mpr ⟨c, hcuts ▸ List.mem_cons_self, rfl⟩)

theorem columnList_cutSet (reg : Registration) :
    columnList (joinNames (cutSet reg)) = (cutSet reg).map trimBlanks := by
  apply columnList_joinNames (cutSet_ne_nil reg)
  intro name hname
  obtain ⟨c, -, rfl⟩ := mem_cutSet.mp hname
  exact cutKey_list c

theorem mem_keys_iff {reg : Registration} {k : Key} : k ∈ reg.keys ↔ ∃ c ∈ reg.cuts, c.1 = k := by
  rw [← reg.map_fst_cuts, List.mem_map]

/-- Where the columns of the primary key are the keys, no key was cut. Otherwise what is left of a
key would be another key, of which something was cut again. -/
theorem uncut_of_keys {reg : Registration} (hnodup : ((cutSet reg).map trimBlanks).Nodup)
    (hkeys : ∀ name ∈ (cutSet reg).map trimBlanks, ∃ k ∈ reg.keys, k.text = name) :
    ∀ c ∈ reg.cuts, c.2 = false := by
  have hinj := List.inj_on_of_nodup_map hnodup
  have hnone (n : ℕ) (k : Key) (hlength : k.text.length = n) : (k, true) ∉ reg.cuts := by
    induction n using Nat.strong_induction_on generalizing k with
    | _ n ih =>
      intro hmem
      have hcut : cutKey k true ∈ cutSet reg := mem_cutSet.mpr ⟨(k, true), hmem, rfl⟩
      have hread : trimBlanks (cutKey k true) = k.text.drop 1 := trimBlanks_cutKey (k, true)
      obtain ⟨_, hk', htext⟩ := hkeys _ (List.mem_map_of_mem hcut)
      rw [hread] at htext
      obtain ⟨⟨k', cut⟩, hmem', rfl⟩ := mem_keys_iff.mp hk'
      have hpos : 0 < k.text.length := List.length_pos_iff.mpr k.text_ne_nil
      have hshort : k'.text.length < n := by
        rw [htext, List.length_drop]
        omega
      obtain _ | _ := cut
      · -- The rest of the key is a key that was not cut, and both are read alike.
        have hsame : cutKey k' false = cutKey k true := by
          apply hinj (mem_cutSet.mpr ⟨_, hmem', rfl⟩) hcut
          rw [hread, ← htext]
          exact trimBlanks_cutKey (k', false)
        have hlengths := congrArg List.length hsame
        rw [cutKey, cutKey, if_neg Bool.false_ne_true, if_pos rfl, List.length_append, htext,
          List.length_singleton] at hlengths
        omega
      · exact ih _ hshort k' rfl hmem'
  intro c hc
  obtain ⟨k, _ | _⟩ := c
  · rfl
  · exact absurd hc (hnone _ k rfl)

/-- Where no key was cut the names are the keys. -/
theorem cutSet_of_uncut {reg : Registration} (h : ∀ c ∈ reg.cuts, c.2 = false) :
    (cutSet reg).map trimBlanks = cutSet reg ∧
      ∀ name, name ∈ cutSet reg ↔ ∃ k ∈ reg.keys, k.text = name := by
  have htext {c : Key × Bool} (hc : c ∈ reg.cuts) : cutKey c.1 c.2 = c.1.text := by
    rw [h c hc]
    rfl
  constructor
  · refine (List.map_congr_left fun name hname ↦ ?_).trans (List.map_id _)
    obtain ⟨c, hc, rfl⟩ := mem_cutSet.mp hname
    rw [trimBlanks_cutKey, htext hc, readCut, h c hc, if_neg Bool.false_ne_true, id]
  · intro name
    rw [mem_cutSet]
    constructor
    · rintro ⟨c, hc, rfl⟩
      exact ⟨c.1, mem_keys_iff.mpr ⟨c, hc, rfl⟩, (htext hc).symm⟩
    · rintro ⟨k, hk, rfl⟩
      obtain ⟨c, hc, rfl⟩ := mem_keys_iff.mp hk
      exact ⟨c, hc, htext hc⟩

/-! ## The primary key -/

section

variable (db : DBType) (r : Registry) (T : Entity)

theorem columnNames_createStatement (args : List Constraint) :
    (createStatement db r T args).columnNames = T.columnNames := by
  have hcolumns (fields : List Field) (auto notNull : StringSet) :
      (declareColumns db fields auto notNull).map TableColumn.name
        = fields.map fun f ↦ f.name.text := by
    induction fields generalizing auto notNull with
    | nil => rfl
    | cons f fields ih =>
      rw [declareColumns]
      split_ifs <;> rw [List.map_cons, ih, List.map_cons]
  exact hcolumns T.fields _ _

/-- Without arguments the auto key of the statement is the one that is found. -/
theorem statementAutoKey_nil : statementAutoKey db r T [] = r.getAutoKey T.structName := by
  rw [statementAutoKey, firstAutoKey_constraintSets]
  rcases hfind : T.columnNames.find? _ with _ | name
  · rfl
  · have hname := List.find?_some hfind
    exact (of_decide_eq_true hname).resolve_right List.not_mem_nil

/-- Without arguments the only constraint is the primary key. -/
theorem uniqueSets_nil :
    (createStatement .postgresql r T []).uniqueSets
      = if (createStatement .postgresql r T []).primaryKey = [] then []
        else [columnList (joinNames (createStatement .postgresql r T []).primaryKey)] :=
  List.append_nil _

theorem primaryKey_createStatement_nil :
    (createStatement db r T []).primaryKey
      = primaryKeyNames db (r.getAutoKey T.structName)
          (StringSet.addAll [] (r.getConflictKeys T.structName db).1) := by
  rw [← statementAutoKey_nil db]
  rfl

theorem primaryKey_nil :
    (createStatement .postgresql r T []).primaryKey
      = if r.getAutoKey T.structName ≠ [] then [r.getAutoKey T.structName]
        else StringSet.addAll [] (r.getConflictKeys T.structName .postgresql).1 :=
  primaryKey_createStatement_nil .postgresql r T

/-- The statement changes nothing for the conflict keys. -/
theorem getConflictKey_generateCreatetbSql (args : List Constraint) :
    (generateCreatetbSql .postgresql r T args).2.getConflictKey T.structName
      = r.getConflictKey T.structName := by
  have hregistry : (generateCreatetbSql .postgresql r T args).2
      = (r.getConflictKeys T.structName .postgresql).2 := by
    rw [generateCreatetbSql_snd]
    rcases firstAutoKey T.fields (constraintSets .postgresql r T args).autoPrimaryKey with _ | name
    · rfl
    · rw [declaredRegistry, if_neg]
      rintro ⟨h, -⟩
      cases h
  rw [hregistry]
  exact Registry.getConflictKey_of_maps_eq (Registry.autoKeyMap_getConflictKeys _ _)
    (Registry.conflictMap_getConflictKeys _ _) _

end

/-! ## Acceptance -/

section

variable (fields : StructName → List Key) (p : Registry.Program) (T : Entity)

/-- The columns behind `on conflict`. -/
theorem columnList_conflictTarget :
    columnList (conflictTarget (generateCreatetbSql .postgresql (p.registry fields) T []).2 T [])
      = ((p.conflictRegistration fields T.structName).map fun reg ↦
          reg.keys.map fun k ↦ k.text).getD [] := by
  rw [conflictTarget, if_pos rfl, getConflictKey_generateCreatetbSql, p.getConflictKey_eq fields]
  rcases p.conflictRegistration fields T.structName with _ | reg
  · rfl
  · exact columnList_text reg

/-- A set of columns of the table, each of them once, that has the same columns as the target. -/
def MatchesTarget (columns set target : List Bytes) : Prop :=
  (set.Nodup ∧ ∀ name ∈ set, name ∈ columns) ∧ ∀ name, name ∈ set ↔ name ∈ target

/-- The one set of columns of which the values are unique. -/
theorem upsertAccepted_iff_of_ne_nil {r : Registry} {T : Entity}
    (h : (createStatement .postgresql r T []).primaryKey ≠ []) :
    UpsertAccepted r T ↔
      MatchesTarget T.columnNames
        (columnList (joinNames (createStatement .postgresql r T []).primaryKey))
        (columnList (conflictTarget (generateCreatetbSql .postgresql r T []).2 T [])) := by
  rw [UpsertAccepted, CreateStatement.Valid, uniqueSets_nil, if_neg h, List.forall_mem_singleton,
    columnNames_createStatement, MatchesTarget]
  simp only [List.mem_singleton, exists_eq_left]

theorem matchesTarget_cutSet_iff (columns : List Bytes) (reg : Registration) :
    MatchesTarget columns ((cutSet reg).map trimBlanks) (reg.keys.map fun k ↦ k.text) ↔
      (∀ k ∈ reg.keys, k.text ∈ columns) ∧ ∀ q ∈ reg.rest, q.1.before = false := by
  constructor
  · rintro ⟨⟨hnodup, hcolumns⟩, hsame⟩
    have hkeys (name : Bytes) (h : name ∈ (cutSet reg).map trimBlanks) :
        ∃ k ∈ reg.keys, k.text = name := List.mem_map.mp ((hsame name).mp h)
    refine ⟨fun k hk ↦ ?_, reg.forall_mem_cuts.mp (uncut_of_keys hnodup hkeys)⟩
    exact hcolumns _ ((hsame _).mpr (List.mem_map_of_mem hk))
  · rintro ⟨hcolumns, huncut⟩
    obtain ⟨htrim, hmem⟩ := cutSet_of_uncut (reg.forall_mem_cuts.mpr huncut)
    rw [htrim]
    refine ⟨⟨StringSet.nodup_addAll List.nodup_nil _, ?_⟩, ?_⟩
    · intro name hname
      obtain ⟨k, hk, rfl⟩ := (hmem name).mp hname
      exact hcolumns k hk
    · intro name
      exact (hmem name).trans List.mem_map.symm

theorem matchesTarget_singleton_iff (columns : List Bytes) (key : Bytes) (reg : Registration) :
    MatchesTarget columns [key] (reg.keys.map fun k ↦ k.text) ↔
      (∀ k ∈ reg.keys, k.text ∈ columns) ∧ ∀ k ∈ reg.keys, k.text = key := by
  constructor
  · rintro ⟨⟨-, hcolumns⟩, hsame⟩
    have honly (k : Key) (hk : k ∈ reg.keys) : k.text = key :=
      List.mem_singleton.mp ((hsame k.text).mpr (List.mem_map_of_mem hk))
    refine ⟨fun k hk ↦ ?_, honly⟩
    rw [honly k hk]
    exact hcolumns _ List.mem_cons_self
  · rintro ⟨hcolumns, honly⟩
    have hfirst : reg.first ∈ reg.keys := List.mem_cons_self
    have hkey : key ∈ columns := honly _ hfirst ▸ hcolumns _ hfirst
    refine ⟨⟨List.nodup_singleton _, List.forall_mem_singleton.mpr hkey⟩, fun name ↦ ?_⟩
    rw [List.mem_singleton, List.mem_map]
    constructor
    · rintro rfl
      exact ⟨_, hfirst, honly _ hfirst⟩
    · rintro ⟨k, hk, rfl⟩
      exact honly k hk

theorem columnList_key (key : Key) : columnList (joinNames [key.text]) = [key.text] := by
  have htrim : trimBlanks key.text = key.text := by
    have hword := trimBlanks_word key.isWord false
    rwa [show optionalBlank false = [] from rfl, List.append_nil] at hword
  rw [columnList_joinNames (List.cons_ne_nil _ _), List.map_singleton, htrim]
  intro name hname
  obtain rfl := List.mem_singleton.mp hname
  exact ⟨key.isWord.comma_notMem, key.text_ne_nil⟩

/-- Without conflict keys nothing is accepted: the list behind `on conflict` is empty. -/
theorem not_upsertAccepted_of_none (h : p.conflictRegistration fields T.structName = none) :
    ¬UpsertAccepted (p.registry fields) T := by
  have hprimary := primaryKey_nil (p.registry fields) T
  rw [p.getAutoKey_registry fields, p.getConflictKeys_eq fields, h] at hprimary
  rintro ⟨-, set, hset, hsame⟩
  rw [columnList_conflictTarget, h] at hsame
  generalize p.keyUnderShortName fields T.structName = found at hprimary
  obtain _ | key := found
  · have hnone : (createStatement .postgresql (p.registry fields) T []).primaryKey = [] := hprimary
    rw [uniqueSets_nil, if_pos hnone] at hset
    exact List.not_mem_nil hset
  · have hkey : (createStatement .postgresql (p.registry fields) T []).primaryKey = [key.text] :=
      hprimary.trans (if_pos key.text_ne_nil)
    rw [uniqueSets_nil, hkey, if_neg (List.cons_ne_nil _ _), columnList_key] at hset
    obtain rfl := List.mem_singleton.mp hset
    exact List.not_mem_nil ((hsame key.text).mp List.mem_cons_self)

/-- **The columns of an upsert.** The server accepts it exactly where the auto key that is found, if
there is one, is the only conflict key, and no conflict key is cut otherwise. -/
theorem upsertAccepted_iff : UpsertAccepted (p.registry fields) T ↔ TargetUnique fields p T := by
  have hprimary := primaryKey_nil (p.registry fields) T
  rw [p.getAutoKey_registry fields, p.getConflictKeys_eq fields] at hprimary
  rcases hreg : p.conflictRegistration fields T.structName with _ | reg
  · apply iff_of_false (not_upsertAccepted_of_none fields p T hreg)
    rintro ⟨reg, h, -⟩
    rw [hreg] at h
    cases h
  · have htarget := columnList_conflictTarget fields p T
    rw [hreg] at htarget hprimary
    have hunique : TargetUnique fields p T ↔ (∀ k ∈ reg.keys, k.text ∈ T.columnNames) ∧
        FitsKeys reg (p.keyUnderShortName fields T.structName) := by
      rw [TargetUnique, hreg]
      constructor
      · rintro ⟨_, ⟨⟩, hkeys⟩
        exact hkeys
      · exact fun hkeys ↦ ⟨reg, rfl, hkeys⟩
    rw [hunique]
    generalize p.keyUnderShortName fields T.structName = found at hprimary ⊢
    obtain _ | key := found
    · have hcut : (createStatement .postgresql (p.registry fields) T []).primaryKey = cutSet reg :=
        hprimary
      rw [upsertAccepted_iff_of_ne_nil (hcut ▸ cutSet_ne_nil reg), hcut, columnList_cutSet, htarget]
      exact matchesTarget_cutSet_iff T.columnNames reg
    · have hkey : (createStatement .postgresql (p.registry fields) T []).primaryKey = [key.text] :=
        hprimary.trans (if_pos key.text_ne_nil)
      rw [upsertAccepted_iff_of_ne_nil (hkey ▸ List.cons_ne_nil _ _), hkey, columnList_key, htarget]
      exact matchesTarget_singleton_iff T.columnNames key.text reg

/-- A class with the auto key `id` and the conflict key `code`. -/
def studentEntity : Entity where
  structName := ⟨[], .lit (ascii "student")⟩
  fields := [⟨.lit (ascii "id"), .value (.integral .int), Eq.refl true⟩,
    ⟨.lit (ascii "code"), .value (.integral .int), Eq.refl true⟩]
  fields_ne_nil := List.cons_ne_nil _ _
  nodup := by decide

/-- The upsert is about `code`, and the primary key is `id`. -/
theorem not_upsertAccepted_student :
    ∃ id code : Key, id.text = ascii "id" ∧ code.text = ascii "code" ∧
      let p : Registry.Program := ⟨[.registerAutoKey studentEntity.structName id,
        .registerConflictKey studentEntity.structName ⟨code, []⟩], []⟩
      let r := p.registry fun _ ↦ [id, code]
      (generateCreatetbSql .postgresql r studentEntity []).1
        = ascii "CREATE TABLE IF NOT EXISTS student(id  serial ,code integer,PRIMARY KEY (id))" ∧
      generateInsertSql r studentEntity .postgresql false []
        = ascii "insert into student (id,code) values($1,$2) on conflict(code) do update set "
          ++ ascii "id = $1 ,code = $2 ; " ∧
      ¬UpsertAccepted r studentEntity := by
  refine ⟨⟨⟨ascii "id", by decide, by decide⟩, by decide⟩,
    ⟨⟨ascii "code", by decide, by decide⟩, by decide⟩, rfl, rfl, by decide, by decide, ?_⟩
  rintro ⟨-, set, hset, hsame⟩
  have hsets : set = [ascii "id"] := List.mem_singleton.mp hset
  have hcode := (hsame (ascii "code")).mpr (by decide)
  rw [hsets] at hcode
  exact absurd hcode (by decide)

end

end Ormpp
