import Ormpp.Registry.Filing

/-!
# Which keys are found

A consumer of auto keys looks under the short name of a class and a consumer of conflict keys under
the qualified one, while each way of registering an auto key files it under one of the two only. The
two names are the same for a class of the global namespace. Elsewhere a key that a macro registered
is not found by the first consumer, a key that a call registered is not found by the second one, and
the first one finds the keys of all classes of that identifier.
-/

namespace Ormpp

namespace Registry

/-! ## The results that are kept -/

/-- What `get_conflict_keys` keeps for a class is what it would put together again. -/
def Coherent (r : Registry) : Prop :=
  ∀ T db, r.results T (db = .mysql) = [] ∨ r.results T (db = .mysql) = r.quotedKeys T db

variable {r : Registry}

theorem coherent_of_results_eq (h : r.results = fun _ _ ↦ []) : r.Coherent :=
  fun T db ↦ .inl (by rw [h])

theorem quotedKeys_congr {db db' : DBType} (h : decide (db = .mysql) = decide (db' = .mysql))
    (r : Registry) (T : StructName) : r.quotedKeys T db = r.quotedKeys T db' := by
  have hquote : quoteName db = quoteName db' := by
    funext name
    simp only [quoteName, decide_eq_decide.mp h]
  rw [quotedKeys, hquote, quotedKeys]

theorem quotedKeys_eq_nil {T : StructName} (h : r.getConflictKey T = []) (db : DBType) :
    r.quotedKeys T db = [] := by
  rw [quotedKeys, h]
  rfl

theorem getConflictKey_of_maps_eq {r' : Registry} (hauto : r'.autoKeyMap = r.autoKeyMap)
    (hconflict : r'.conflictMap = r.conflictMap) (T : StructName) :
    r'.getConflictKey T = r.getConflictKey T := by
  rw [getConflictKey, hauto, hconflict, getConflictKey]

theorem Coherent.getConflictKeys (h : r.Coherent) (T : StructName) (db : DBType) :
    (r.getConflictKeys T db).2.Coherent := by
  intro T' db'
  have hquoted : (r.getConflictKeys T db).2.quotedKeys T' db' = r.quotedKeys T' db' := by
    rw [quotedKeys, quotedKeys, getConflictKey_of_maps_eq (autoKeyMap_getConflictKeys T db)
      (conflictMap_getConflictKeys T db)]
  rw [hquoted]
  obtain hsame | hkept := r.getConflictKeys_snd T db
  · rw [hsame]
    exact h T' db'
  · rw [hkept]
    simp only [setResult]
    split_ifs with heq
    · obtain ⟨rfl, hdb⟩ := heq
      exact .inr (quotedKeys_congr hdb.symm r T')
    · exact h T' db'

/-- A key that is filed changes what is found only where nothing was found. -/
theorem getConflictKey_addFiling (r : Registry) (o : Option Filing) (T : StructName) :
    (r.addFiling o).getConflictKey T = r.getConflictKey T ∨ r.getConflictKey T = [] := by
  rcases o with _ | f
  · exact .inl rfl
  · have hconflict := conflictMap_addFiling r (some f)
    rcases hkeys : r.conflictMap.lookup (getStructName T) with _ | keys
    · rcases hauto : r.autoKeyMap.lookup (getStructName T) with _ | value
      · right
        rw [getConflictKey, hkeys, hauto]
      · left
        have hkept : (r.addFiling (some f)).autoKeyMap.lookup (getStructName T) = some value := by
          rw [← hauto]
          exact Dictionary.lookup_emplace_of_isSome (Option.isSome_of_eq_some hauto) _ _
        rw [getConflictKey, hconflict, hkeys, hkept, getConflictKey, hkeys, hauto]
    · left
      rw [getConflictKey, hconflict, hkeys, getConflictKey, hkeys]

theorem Coherent.addFiling (h : r.Coherent) (o : Option Filing) : (r.addFiling o).Coherent := by
  intro T db
  have hresults : (r.addFiling o).results = r.results := by
    rcases o with _ | f <;> rfl
  rw [hresults]
  rcases h T db with hnil | heq
  · exact .inl hnil
  · rcases getConflictKey_addFiling r o T with hsame | hnone
    · right
      rw [heq, quotedKeys, quotedKeys, hsame]
    · exact .inl (heq.trans (quotedKeys_eq_nil hnone db))

theorem Coherent.call (h : r.Coherent) (fields : StructName → List Key) (c : Call) :
    (r.call fields c).Coherent := by
  rw [call_eq]
  apply Coherent.addFiling
  rcases c with ⟨T, field, valid⟩ | ⟨T, autoKeys⟩ | ⟨T, db⟩
  · exact h
  · exact h.getConflictKeys T .sqlite
  · exact h.getConflictKeys T db

theorem Coherent.foldl_call (h : r.Coherent) (fields : StructName → List Key)
    (calls : List Call) : (calls.foldl (fun r c ↦ r.call fields c) r).Coherent := by
  induction calls generalizing r with
  | nil => exact h
  | cons c calls ih => exact ih (h.call fields c)

/-- A macro looks nothing up. -/
theorem results_foldl_register (macros : List KeyMacro) (h : r.results = fun _ _ ↦ []) :
    (macros.foldl register r).results = fun _ _ ↦ [] := by
  induction macros generalizing r with
  | nil => exact h
  | cons m macros ih =>
    apply ih
    rcases m with ⟨T, key⟩ | ⟨T, keys⟩ <;> exact h

/-- Conflict keys are registered by macros only. -/
theorem conflictMap_foldl_call (fields : StructName → List Key) (calls : List Call)
    (r : Registry) : (calls.foldl (fun r c ↦ r.call fields c) r).conflictMap = r.conflictMap := by
  induction calls generalizing r with
  | nil => rfl
  | cons c calls ih =>
    rw [List.foldl_cons, ih, call_eq, conflictMap_addFiling, conflictMap_lookUp]

/-- It does not matter whether the result was kept. -/
theorem Coherent.getConflictKeys_fst (h : r.Coherent) (T : StructName) (db : DBType) :
    (r.getConflictKeys T db).1 = r.quotedKeys T db := by
  simp only [Registry.getConflictKeys]
  split_ifs with hres hsplit
  · exact (h T db).resolve_left hres
  · rw [quotedKeys, hsplit]
    rfl
  · rfl

/-! ## Programs -/

/-- The macros of a program, in the order in which their variables are initialized, and the calls it
makes afterwards. -/
structure Program where
  macros : List KeyMacro
  calls : List Call

namespace Program

variable (fields : StructName → List Key) (p : Program)

/-- The registry at the end of the program. -/
def registry : Registry := p.calls.foldl (fun r c ↦ r.call fields c) (p.macros.foldl register empty)

/-- The auto keys that are registered, one after the other. -/
def filings : List Filing :=
  p.macros.filterMap KeyMacro.filing ++ p.calls.filterMap (Call.filing fields)

/-- The conflict keys that are registered. -/
def conflicts : List (StructName × Registration) := p.macros.filterMap KeyMacro.conflict

theorem coherent_registry : (p.registry fields).Coherent :=
  Coherent.foldl_call (coherent_of_results_eq (results_foldl_register p.macros rfl)) fields p.calls

theorem autoKeyMap_registry :
    (p.registry fields).autoKeyMap
      = Dictionary.emplaceAll Filing.filedUnder Filing.text (p.filings fields) ∅ := by
  have hregister (r : Registry) (m : KeyMacro) : (r.register m).autoKeyMap
      = Dictionary.emplaceAll Filing.filedUnder Filing.text m.filing.toList r.autoKeyMap := by
    rcases m with ⟨T, key⟩ | ⟨T, keys⟩ <;> rfl
  have hcall (r : Registry) (c : Call) : (r.call fields c).autoKeyMap
      = Dictionary.emplaceAll Filing.filedUnder Filing.text (c.filing fields).toList
          r.autoKeyMap := by
    rw [call_eq, autoKeyMap_addFiling, autoKeyMap_lookUp]
  rw [registry, filings, Dictionary.emplaceAll_append,
    Dictionary.foldl_eq_emplaceAll _ _ autoKeyMap _ _ hcall,
    Dictionary.foldl_eq_emplaceAll _ _ autoKeyMap _ _ hregister]
  rfl

theorem conflictMap_registry :
    (p.registry fields).conflictMap
      = Dictionary.emplaceAll (fun c ↦ getStructName c.1) (fun c ↦ c.2.text) p.conflicts ∅ := by
  have hregister (r : Registry) (m : KeyMacro) : (r.register m).conflictMap
      = Dictionary.emplaceAll (fun c ↦ getStructName c.1) (fun c ↦ c.2.text) m.conflict.toList
          r.conflictMap := by
    rcases m with ⟨T, key⟩ | ⟨T, keys⟩ <;> rfl
  rw [registry, conflictMap_foldl_call, conflicts,
    Dictionary.foldl_eq_emplaceAll _ _ conflictMap _ _ hregister]
  rfl

/-! ## The keys that should be found -/

/-- The key of the first one of the registered auto keys that has the property. -/
def firstKey (P : Filing → Prop) [DecidablePred P] : Option Key :=
  ((p.filings fields).find? fun f ↦ P f).map Filing.key

/-- The auto key of the class: the first one that is registered for it. -/
def autoKey (T : StructName) : Option Key := p.firstKey fields fun f ↦ f.owner = T

/-- The conflict keys of the class. -/
def conflictKey (T : StructName) : Option Registration :=
  (p.conflicts.find? fun c ↦ c.1 = T).map Prod.snd

/-- A text, which is empty where there is no key. -/
def keyText (o : Option Key) : Bytes := (o.map fun k ↦ k.text).getD []

/-- The text of the conflict keys of the class, for which its auto key stands in. -/
def conflictText (T : StructName) : Bytes :=
  match p.conflictKey T with
  | some keys => keys.text
  | none => keyText (p.autoKey fields T)

/-- Each consumer finds the keys that are registered for the class, and no others. -/
structure Resolved (T : StructName) : Prop where
  getAutoKey : (p.registry fields).getAutoKey T = keyText (p.autoKey fields T)
  isAutoKey : ∀ name, (p.registry fields).isAutoKey T name = true ↔
    (p.autoKey fields T).map (fun k ↦ k.text) = some name
  getConflictKeys : ∀ db, ((p.registry fields).getConflictKeys T db).1
    = (split (p.conflictText fields T)).map (quoteName db)

theorem keyText_injective : Function.Injective keyText := by
  rintro (_ | k) (_ | k') h
  · rfl
  · exact absurd h.symm k'.text_ne_nil
  · exact absurd h k.text_ne_nil
  · have hname : k.toName = k'.toName := Name.eq_of_text_eq h
    obtain ⟨name, _⟩ := k
    obtain ⟨name', _⟩ := k'
    obtain rfl : name = name' := hname
    rfl

/-- A key is split into itself. -/
theorem split_keyText (o : Option Key) : (split (keyText o)).headD [] = keyText o := by
  rcases o with _ | k
  · rfl
  · have hsplit : split k.text = [cutKey k false] := splitFrom_argumentText [] k []
    have htext : keyText (some k) = k.text := rfl
    rw [htext, hsplit]
    rfl

theorem eq_of_split_keyText_eq {o o' : Option Key}
    (h : split (keyText o) = split (keyText o')) : o = o' := by
  apply keyText_injective
  rw [← split_keyText o, h, split_keyText]

end Program

/-! ## The keys that are found -/

/-- The key is found under the short name of the class: a macro filed it for the class of that
identifier in the global namespace, or a call filed it for any class of that identifier. -/
def Filing.UnderShortName (f : Filing) (T : StructName) : Prop :=
  f.owner.name = T.name ∧ (f.qualified = true → f.owner.Global)

/-- The key is found under the qualified name of the class: a macro filed it for the class, or the
class is in the global namespace and a call filed it for any class of that identifier. -/
def Filing.UnderStructName (f : Filing) (T : StructName) : Prop :=
  if f.qualified then f.owner = T else T.Global ∧ f.owner.name = T.name

instance (f : Filing) (T : StructName) : Decidable (f.UnderShortName T) :=
  inferInstanceAs (Decidable (_ ∧ _))

instance (f : Filing) (T : StructName) : Decidable (f.UnderStructName T) :=
  inferInstanceAs (Decidable (if f.qualified = true then _ else _))

theorem Filing.filedUnder_eq_short_iff (f : Filing) (T : StructName) :
    f.filedUnder = getShortStructName T ↔ f.UnderShortName T := by
  obtain ⟨owner, key, _ | _⟩ := f
  · have hfiled : Filing.filedUnder ⟨owner, key, false⟩ = owner.name.text :=
      getShortStructName_eq owner
    rw [hfiled, getShortStructName_eq, Name.text_inj]
    exact (and_iff_left fun h ↦ absurd h Bool.false_ne_true).symm
  · have hfiled : Filing.filedUnder ⟨owner, key, true⟩ = getStructName owner := rfl
    rw [hfiled, getShortStructName_eq, getStructName_eq_text_iff, and_comm]
    exact and_congr_right fun _ ↦ ⟨fun h _ ↦ h, fun h ↦ h rfl⟩

theorem Filing.filedUnder_eq_struct_iff (f : Filing) (T : StructName) :
    f.filedUnder = getStructName T ↔ f.UnderStructName T := by
  obtain ⟨owner, key, _ | _⟩ := f
  · have hfiled : Filing.filedUnder ⟨owner, key, false⟩ = owner.name.text :=
      getShortStructName_eq owner
    rw [hfiled, eq_comm, getStructName_eq_text_iff]
    exact and_congr_right fun _ ↦ eq_comm
  · exact getStructName_injective.eq_iff

namespace Program

variable (fields : StructName → List Key) (p : Program)

def keyUnderShortName (T : StructName) : Option Key :=
  p.firstKey fields fun f ↦ f.UnderShortName T

def keyUnderStructName (T : StructName) : Option Key :=
  p.firstKey fields fun f ↦ f.UnderStructName T

/-- Under a name the first key is found that was filed there. -/
theorem lookup_autoKeyMap_registry {text : Bytes} {P : Filing → Prop} [DecidablePred P]
    (h : ∀ f, f.filedUnder = text ↔ P f) :
    (p.registry fields).autoKeyMap.lookup text = (p.firstKey fields P).map fun k ↦ k.text := by
  have hfind : ((p.filings fields).find? fun f ↦ f.filedUnder = text)
      = (p.filings fields).find? fun f ↦ P f :=
    List.find?_congr fun f _ ↦ decide_eq_decide.mpr (h f)
  rw [autoKeyMap_registry, Dictionary.lookup_emplaceAll_empty, hfind, firstKey, Option.map_map]
  rfl

theorem lookup_conflictMap_registry (T : StructName) :
    (p.registry fields).conflictMap.lookup (getStructName T)
      = (p.conflictKey T).map Registration.text := by
  have hfind : (p.conflicts.find? fun c ↦ getStructName c.1 = getStructName T)
      = p.conflicts.find? fun c ↦ c.1 = T :=
    List.find?_congr fun c _ ↦ decide_eq_decide.mpr getStructName_injective.eq_iff
  rw [conflictMap_registry, Dictionary.lookup_emplaceAll_empty, hfind, conflictKey, Option.map_map]
  rfl

theorem getAutoKey_registry (T : StructName) :
    (p.registry fields).getAutoKey T = keyText (p.keyUnderShortName fields T) := by
  rw [getAutoKey, p.lookup_autoKeyMap_registry fields fun f ↦ f.filedUnder_eq_short_iff T,
    keyUnderShortName]
  rcases p.firstKey fields fun f ↦ f.UnderShortName T with _ | k <;> rfl

theorem isAutoKey_registry (T : StructName) (name : Bytes) :
    (p.registry fields).isAutoKey T name = true ↔
      (p.keyUnderShortName fields T).map (fun k ↦ k.text) = some name := by
  rw [isAutoKey, p.lookup_autoKeyMap_registry fields fun f ↦ f.filedUnder_eq_short_iff T,
    keyUnderShortName]
  rcases p.firstKey fields fun f ↦ f.UnderShortName T with _ | k
  · exact iff_of_false Bool.false_ne_true (Option.some_ne_none name).symm
  · exact beq_iff_eq.trans (Option.some_inj).symm

theorem getConflictKey_registry (T : StructName) :
    (p.registry fields).getConflictKey T
      = ((p.conflictKey T).map Registration.text).getD
          (keyText (p.keyUnderStructName fields T)) := by
  rw [getConflictKey, p.lookup_conflictMap_registry fields T,
    p.lookup_autoKeyMap_registry fields fun f ↦ f.filedUnder_eq_struct_iff T, keyUnderStructName]
  rcases p.conflictKey T with _ | keys
  · rcases p.firstKey fields fun f ↦ f.UnderStructName T with _ | k <;> rfl
  · rfl

theorem getConflictKeys_registry (T : StructName) (db : DBType) :
    ((p.registry fields).getConflictKeys T db).1
      = (split (((p.conflictKey T).map Registration.text).getD
          (keyText (p.keyUnderStructName fields T)))).map (quoteName db) := by
  rw [(p.coherent_registry fields).getConflictKeys_fst, quotedKeys, getConflictKey_registry]

/-! ## Which classes are resolved -/

section Resolved

variable {fields p} {T : StructName}

theorem resolved_of_keys (hshort : p.keyUnderShortName fields T = p.autoKey fields T)
    (hstruct : p.conflictKey T = none → p.keyUnderStructName fields T = p.autoKey fields T) :
    p.Resolved fields T where
  getAutoKey := by rw [getAutoKey_registry, hshort]
  isAutoKey name := by rw [isAutoKey_registry, hshort]
  getConflictKeys db := by
    rw [getConflictKeys_registry, conflictText]
    rcases hkeys : p.conflictKey T with _ | keys
    · rw [hstruct hkeys]
      rfl
    · rfl

theorem Resolved.keyUnderShortName (h : p.Resolved fields T) :
    p.keyUnderShortName fields T = p.autoKey fields T :=
  keyText_injective ((p.getAutoKey_registry fields T).symm.trans h.getAutoKey)

theorem Resolved.keyUnderStructName (h : p.Resolved fields T) (hnone : p.conflictKey T = none) :
    p.keyUnderStructName fields T = p.autoKey fields T := by
  have hkeys := (p.getConflictKeys_registry fields T .sqlite).symm.trans (h.getConflictKeys .sqlite)
  rw [conflictText, hnone] at hkeys
  exact eq_of_split_keyText_eq (List.map_injective_iff.mpr (quoteName_injective .sqlite) hkeys)

/-- Among the classes of the global namespace the keys are told apart. -/
theorem resolved_of_global (hT : T.Global)
    (h : ∀ f ∈ p.filings fields, f.owner.name = T.name → f.owner.Global) :
    p.Resolved fields T := by
  have howner (f : Filing) (hf : f ∈ p.filings fields) (hname : f.owner.name = T.name) :
      f.owner = T := by
    obtain ⟨scopes, name⟩ := T
    obtain ⟨⟨scopes', name'⟩, key, qualified⟩ := f
    have hscopes : scopes' = [] := h _ hf hname
    have hnone : scopes = [] := hT
    rw [hscopes, hnone, show name' = name from hname]
  have hshort (f : Filing) (hf : f ∈ p.filings fields) : f.UnderShortName T ↔ f.owner = T := by
    constructor
    · exact fun hunder ↦ howner f hf hunder.1
    · rintro rfl
      exact ⟨rfl, fun _ ↦ hT⟩
  have hstruct (f : Filing) (hf : f ∈ p.filings fields) : f.UnderStructName T ↔ f.owner = T := by
    rw [Filing.UnderStructName]
    split_ifs
    · exact Iff.rfl
    · constructor
      · exact fun hunder ↦ howner f hf hunder.2
      · rintro rfl
        exact ⟨hT, rfl⟩
  refine resolved_of_keys (congrArg (Option.map Filing.key) ?_)
    fun _ ↦ congrArg (Option.map Filing.key) ?_
  · exact List.find?_congr fun f hf ↦ decide_eq_decide.mpr (hshort f hf)
  · exact List.find?_congr fun f hf ↦ decide_eq_decide.mpr (hstruct f hf)

/-- What a statement about the class takes for its conflict keys, is what it finds. -/
theorem Resolved.getConflictKeys_eq (h : p.Resolved fields T) {R : ReflectedType}
    (hconflict : R.conflictKey = p.conflictKey T) (hauto : R.autoKey = p.autoKey fields T)
    (db : DBType) :
    ((p.registry fields).getConflictKeys T db).1 = Ormpp.getConflictKeys R db := by
  rw [h.getConflictKeys, Ormpp.getConflictKeys, Ormpp.getConflictKey, conflictText, hconflict,
    hauto]
  rcases p.conflictKey T with _ | keys
  · rcases p.autoKey fields T with _ | k <;> rfl
  · rfl

end Resolved

end Program

end Registry

end Ormpp
