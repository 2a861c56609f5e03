import Ormpp.Registry.Resolution

/-!
# Lists of keys

The keys of a class are registered as one text, names between commas. `split` skips the blanks of
the text when it counts the letters of a name, but not when it cuts the name out in front of the
comma, so that the names come out as they are where every comma follows its name at once.
-/

namespace Ormpp

namespace Registry

/-- Identifiers joined by commas, with any number of blanks on either side of each. -/
inductive KeyList
  | nil
  | cons (first : Key) (rest : List (Gap × Key))

namespace KeyList

def text : KeyList → Bytes
  | nil => []
  | cons first rest => nameListText first rest

def names : KeyList → List Bytes
  | nil => []
  | cons first rest => (first :: rest.map Prod.snd).map fun k ↦ k.text

/-- No blank stands in front of a comma. -/
def CommasFollow : KeyList → Prop
  | nil => True
  | cons _ rest => ∀ p ∈ rest, p.1.before = 0

theorem split_text_iff (l : KeyList) : split l.text = l.names ↔ l.CommasFollow := by
  rcases l with _ | ⟨first, rest⟩
  · exact iff_of_true rfl trivial
  · have hsplit : split (nameListText first rest) = cutList first rest :=
      splitFrom_nameListText [] first rest
    rw [text, hsplit]
    exact cutList_eq_iff first rest

end KeyList

/-! ## The keys of a class -/

/-- A text is registered for a class before anything else is, and the program runs. -/
def afterRegistering (fields : StructName → List Key) (p : Program) (T : StructName)
    (keys : Bytes) : Registry :=
  p.calls.foldl (fun r c ↦ r.call fields c)
    (p.macros.foldl register (empty.addConflictKeyField (getStructName T) keys))

section

variable (fields : StructName → List Key) (p : Program) (T : StructName) (keys : Bytes)

/-- What is filed under a name stays. -/
theorem lookup_foldl_register (macros : List KeyMacro) {r : Registry} {name : Bytes}
    (h : r.conflictMap.lookup name = some keys) :
    (macros.foldl register r).conflictMap.lookup name = some keys := by
  induction macros generalizing r with
  | nil => exact h
  | cons m macros ih =>
    apply ih
    rcases m with ⟨T, key⟩ | ⟨T, more⟩
    · exact h
    · exact (Dictionary.lookup_emplace_of_isSome (Option.isSome_of_eq_some h) _ _).trans h

theorem getConflictKey_afterRegistering :
    (afterRegistering fields p T keys).getConflictKey T = keys := by
  have hfirst : (empty.addConflictKeyField (getStructName T) keys).conflictMap.lookup
      (getStructName T) = some keys := by
    rw [addConflictKeyField, Dictionary.lookup_emplace, if_pos rfl]
    rfl
  rw [getConflictKey, afterRegistering, conflictMap_foldl_call,
    lookup_foldl_register keys p.macros hfirst]

/-- The keys are those of the text, whether they were asked for before or not. -/
theorem getConflictKeys_afterRegistering (db : DBType) :
    ((afterRegistering fields p T keys).getConflictKeys T db).1
      = (split keys).map (quoteName db) := by
  have hcoherent : (afterRegistering fields p T keys).Coherent :=
    Coherent.foldl_call (coherent_of_results_eq (results_foldl_register p.macros rfl)) fields
      p.calls
  rw [hcoherent.getConflictKeys_fst, quotedKeys, getConflictKey_afterRegistering]

/-- The names of a list are found, quoted as the database wants them, where no blank stands in front
of a comma. -/
theorem getConflictKeys_names_iff (l : KeyList) (db : DBType) :
    (split l.text = l.names ∧
        ((afterRegistering fields p T l.text).getConflictKeys T db).1
          = l.names.map (quoteName db)) ↔
      l.CommasFollow := by
  rw [getConflictKeys_afterRegistering, (quoteName_injective db).list_map.eq_iff, and_self,
    KeyList.split_text_iff]

end

/-- A blank in front of the comma is taken for the last letter of the name. -/
theorem split_blank_comma :
    split (ascii "room_id , user_id") ≠ [ascii "room_id", ascii "user_id"] := by
  decide

end Registry

end Ormpp
