import Ormpp.Store.Execute

/-!
# The store of objects

What the client is for: the objects of some classes, each class with a table that is created first.
Objects are inserted, replaced, updated, deleted and found; a vector is written as a whole or not at
all while transactions are enabled; and a transaction that is rolled back has changed nothing.
-/

namespace Ormpp

open Sql hiding isBlank
open Bulk (OptType intMin)

/-! ## Writing to a table -/

namespace ObjectTable

variable {T : StoredClass} {allocated : Bool}

/-- An object is written. The number is that of the last object that was inserted. -/
def save (type : OptType) (x : T.Object allocated) (s : ObjectTable T allocated × Option ℤ) :
    Option (ObjectTable T allocated × Option ℤ) :=
  match type with
  | .insert => (s.1.prepared true x).bind fun x ↦ (s.1.put false x).map fun t ↦ (t, T.number x)
  | .replace => (s.1.put true x).map fun t ↦ (t, T.number x)
  | .update => (s.1.update x).map fun t ↦ (t, s.2)

/-- Objects are written up to the first that cannot be, and whether all of them are. -/
def saveEach (type : OptType) :
    List (T.Object allocated) → ObjectTable T allocated × Option ℤ →
      (ObjectTable T allocated × Option ℤ) × Bool
  | [], s => (s, true)
  | x :: v, s =>
    match save type x s with
    | none => (s, false)
    | some s => saveEach type v s

/-- The next number is one that the key of the object can have. -/
def Numbers (type : OptType) (x : T.Object allocated) (t : ObjectTable T allocated) : Prop :=
  type = .insert → (t.prepared true x).isSome = true

instance (type : OptType) (x : T.Object allocated) (t : ObjectTable T allocated) :
    Decidable (t.Numbers type x) := inferInstanceAs (Decidable (_ → _))

def NumbersEach (type : OptType) :
    List (T.Object allocated) → ObjectTable T allocated × Option ℤ → Prop
  | [], _ => True
  | x :: v, s => s.1.Numbers type x ∧
    match save type x s with
    | none => True
    | some s => NumbersEach type v s

instance decidableNumbersEach (type : OptType) :
    (v : List (T.Object allocated)) → (s : ObjectTable T allocated × Option ℤ) →
      Decidable (NumbersEach type v s)
  | [], _ => isTrue trivial
  | x :: v, s =>
    have : Decidable (match save type x s with
        | none => True
        | some s => NumbersEach type v s) :=
      match save type x s with
      | none => isTrue trivial
      | some s => decidableNumbersEach type v s
    inferInstanceAs (Decidable (_ ∧ _))

end ObjectTable

/-! ## The store -/

section

variable {ι : Type} [DecidableEq ι]

/-- The tables of some classes. -/
abbrev Tables (T : ι → StoredClass) (allocated : Bool) : Type :=
  (i : ι) → Option (ObjectTable (T i) allocated)

structure Store (T : ι → StoredClass) (allocated : Bool) where
  tables : Tables T allocated
  /-- The tables as they were when the open transaction began. -/
  saved : Option (Tables T allocated) := none
  /-- A vector is written in a transaction. -/
  transaction : Bool := true
  /-- The number of the last object that was inserted, if it has one. -/
  inserted : Option ℤ := some 0
  /-- The last call has failed. -/
  hasError : Bool := false

namespace Store

variable {T : ι → StoredClass} {allocated : Bool} (s : Store T allocated)

/-- What is called for objects whose values come back. -/
abbrev Request (T : ι → StoredClass) (allocated : Bool) : Type :=
  StoreCall ι fun i ↦ (T i).Object allocated

/-- An answer, and whether there was an error. -/
abbrev Response (T : ι → StoredClass) (allocated : Bool) : Type :=
  (StoreAnswer ι fun i ↦ (T i).Object allocated) × Bool

def setTable (i : ι) (t : ObjectTable (T i) allocated) (inserted : Option ℤ) :
    Store T allocated :=
  { s with
    tables := Function.update s.tables i (some t)
    inserted := inserted }

/-- There is no update for a class without keys. -/
def Writes (i : ι) (type : OptType) : Prop := type = .update → (T i).keyIndices ≠ []

instance (i : ι) (type : OptType) : Decidable (Writes (T := T) i type) :=
  inferInstanceAs (Decidable (_ → _))

/-- An object is written, if it can be. -/
def save (i : ι) (type : OptType) (x : (T i).Object allocated) : Store T allocated × Bool :=
  match if Writes (T := T) i type then s.tables i else none with
  | none => (s, false)
  | some t =>
    match ObjectTable.save type x (t, s.inserted) with
    | none => (s, false)
    | some (t, inserted) => (s.setTable i t inserted, true)

/-- Objects are written, all of them or none while transactions are enabled, but not inside of
another transaction then. -/
def saveAll (i : ι) (type : OptType) (v : List ((T i).Object allocated)) :
    Store T allocated × Bool :=
  match if Writes (T := T) i type then s.tables i else none with
  | none => (s, false)
  | some t =>
    if s.transaction = true ∧ s.saved.isSome then (s, false)
    else
      match ObjectTable.saveEach type v (t, s.inserted) with
      | ((t, inserted), true) => (s.setTable i t inserted, true)
      | ((t, inserted), false) =>
        (if s.transaction then { s with inserted := inserted } else s.setTable i t inserted, false)

/-- The number that was given to the last object. -/
def insertId (ok : Bool) : Option ℤ := if ok then s.inserted.map (· % 2 ^ 64) else some 0

/-- The objects in the table and the condition on them, if there are both. -/
def lookup (i : ι) (str : Bytes) : Option (ObjectTable (T i) allocated × Option Expr) := do
  let t ← s.tables i
  let e ← (T i).condition str
  some (t, e)

/-- Whether an object fulfils the condition of a call, if it can be told. -/
def outcome {T : DiscreteClass} (str : Bytes) (args : List Argument) (e : Option Expr)
    (x : T.Object allocated) : Option Bool :=
  T.outcome ((SqliteClient.argumentValues allocated args).take (parameterCount str)) e x

def fulfils {T : DiscreteClass} (str : Bytes) (args : List Argument) (e : Option Expr)
    (x : T.Object allocated) : Bool := outcome str args e x = some true

/-- The answer to a call that has failed or not. -/
def reply (hasError : Bool) (answer : StoreAnswer ι fun i ↦ (T i).Object allocated) :
    Store T allocated × Response T allocated :=
  ({ s with hasError := hasError }, answer, hasError)

def step : Request T allocated → Store T allocated × Response T allocated
  | .createDatatable i =>
    { s with tables := Function.update s.tables i (some ((s.tables i).getD .empty)) }.reply false
      (.done true)
  | .save i type x =>
    let (s, ok) := s.save i type x
    s.reply (!ok) (.count (if ok then 1 else intMin))
  | .saveAll i type v =>
    let (s, ok) := s.saveAll i type v
    s.reply (!ok) (.count (if ok then castInt v.length else intMin))
  | .getInsertIdAfterInsert i x =>
    let (s, ok) := s.save i .insert x
    s.reply (!ok) (.id (s.insertId ok))
  | .getInsertIdAfterInsertAll i v =>
    let (s, ok) := s.saveAll i .insert v
    s.reply (!ok) (.id (s.insertId ok))
  | .deleteRecordsS i str args =>
    match s.lookup i str with
    | none => s.reply true (.count 0)
    | some (t, e) =>
      (s.setTable i (t.erase (fulfils str args e)) s.inserted).reply false
        (.count (t.objects.items.filter (fulfils str args e)).length)
  | .queryS i str args =>
    match s.lookup i str with
    | none => s.reply true (.objects i [])
    | some (t, e) => s.reply false (.objects i (t.objects.items.filter (fulfils str args e)))
  | .begin =>
    if s.saved.isSome then s.reply true (.done false)
    else { s with saved := some s.tables }.reply false (.done true)
  | .commit =>
    if s.saved.isSome then { s with saved := none }.reply false (.done true)
    else s.reply true (.done false)
  | .rollback =>
    match s.saved with
    | some tables => { s with
        tables := tables
        saved := none }.reply false (.done true)
    | none => s.reply true (.done false)
  | .setEnableTransaction enable => ({ s with transaction := enable }, .done true, s.hasError)

/-- The store answers one call after the other. -/
def machine : Mealy (Store T allocated) (Request T allocated) (Response T allocated) where
  step := step

/-- For every object it can be told whether it fulfils the condition. -/
def Decides (i : ι) (str : Bytes) (args : List Argument) : Prop :=
  ∀ t e, s.lookup i str = some (t, e) → ∀ x ∈ t.objects.items, (outcome str args e x).isSome = true

/-- What the store asks of a call: numbers that keys can have, and conditions with an outcome. -/
def Permits : Request T allocated → Prop
  | .save i type x => ∀ t, s.tables i = some t → t.Numbers type x
  | .saveAll i type v => ∀ t, s.tables i = some t → ObjectTable.NumbersEach type v (t, s.inserted)
  | .getInsertIdAfterInsert i x => ∀ t, s.tables i = some t → t.Numbers .insert x
  | .getInsertIdAfterInsertAll i v =>
    ∀ t, s.tables i = some t → ObjectTable.NumbersEach .insert v (t, s.inserted)
  | .deleteRecordsS i str args => s.Decides i str args
  | .queryS i str args =>
    (containsSelect str = false ∧ ¬ReadsTail str ∧ IsCondition str) ∧ s.Decides i str args
  | .createDatatable _ | .begin | .commit | .rollback | .setEnableTransaction _ => True

end Store

end

end Ormpp
