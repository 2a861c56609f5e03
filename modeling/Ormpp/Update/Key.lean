import Ormpp.Query.Builder
import Ormpp.Sql.Token

/-!
# Conflict keys

The keys that tell the rows of a class apart are registered by a macro, which keeps the list of its
arguments as one text. The library takes that text apart again with `split`, which counts the
letters of a key and cuts as many bytes off in front of the comma: a blank in front of the comma is
among them, and the first letter of the key is not.
-/

namespace Ormpp

open Sql

/-- What `split` takes for a letter of a key. -/
def isKeyByte (c : Byte) : Bool :=
  isDigit c || (0x41 ≤ c && c ≤ 0x5a) || (0x61 ≤ c && c ≤ 0x7a) || c = underscore

/-- A name in ASCII. For other characters `std::isalpha` is not defined. -/
structure Key extends Name where
  isKey : ∀ b ∈ text, isKeyByte b = true

/-- A key that is written out. -/
def Key.lit (text : Bytes)
    (h : (isNameText text && text.all isKeyByte) = true := by exact Eq.refl true) : Key where
  toName := .lit text ((Bool.and_eq_true _ _).mp h).1
  isKey := List.all_eq_true.mp ((Bool.and_eq_true _ _).mp h).2

/-- What the preprocessor leaves between two arguments: a comma, and a blank on the sides where the
source has any. -/
structure Spacing where
  before : Bool
  after : Bool

def commaByte : Byte := 0x2c

/-- A blank or nothing. -/
def optionalBlank (present : Bool) : Bytes := if present then [blank] else []

def Spacing.text (s : Spacing) : Bytes :=
  optionalBlank s.before ++ commaByte :: optionalBlank s.after

/-- The arguments of `REGISTER_CONFLICT_KEY` behind the class. -/
structure Registration where
  first : Key
  rest : List (Spacing × Key)

def argumentText : Key → List (Spacing × Key) → Bytes
  | k, [] => k.text
  | k, (s, k') :: rest => k.text ++ s.text ++ argumentText k' rest

/-- `MAKE_NAMES`. -/
def Registration.text (r : Registration) : Bytes := argumentText r.first r.rest

def Registration.keys (r : Registration) : List Key := r.first :: r.rest.map Prod.snd

/-! ## Taking the text apart -/

/-- `str.substr(pos, n)`. -/
def substr (str : Bytes) (pos n : ℕ) : Bytes := (str.drop pos).take n

/-- The loop of `split`: the position, the letters that were counted, and the rest of the text. -/
def splitFrom (str : Bytes) : ℕ → ℕ → Bytes → List Bytes
  | _, start, [] => if start ≠ 0 then [substr str (str.length - start) start] else []
  | i, start, c :: rest =>
    if c = blank then splitFrom str (i + 1) start rest
    else if isKeyByte c then splitFrom str (i + 1) (start + 1) rest
    else substr str (i - start) start :: splitFrom str (i + 1) 0 rest

/-- `split`. -/
def split (str : Bytes) : List Bytes := splitFrom str 0 0 str

/-! ## Reflected classes -/

/-- A reflected class with the keys that are registered for it. -/
structure ReflectedType extends Table where
  members_ne_nil : members ≠ []
  nodup : (members.map Name.text).Nodup
  /-- `REGISTER_CONFLICT_KEY`. -/
  conflictKey : Option Registration
  /-- `REGISTER_AUTO_KEY`. -/
  autoKey : Option Key

/-- `get_conflict_key`. -/
def getConflictKey (T : ReflectedType) : Bytes :=
  match T.conflictKey, T.autoKey with
  | some r, _ => r.text
  | none, some k => k.text
  | none, none => []

/-- The name of a column as it is written in a statement. -/
def quoteName (db : DBType) (name : Bytes) : Bytes :=
  if db = .mysql then ascii "`" ++ name ++ ascii "`" else name

theorem quoteName_injective (db : DBType) : Function.Injective (quoteName db) := by
  intro x y h
  simp only [quoteName] at h
  split_ifs at h
  · exact List.append_cancel_left (List.append_cancel_right h)
  · exact h

/-- `get_conflict_keys`. -/
def getConflictKeys (T : ReflectedType) (db : DBType) : List Bytes :=
  (split (getConflictKey T)).map (quoteName db)

/-- `is_conflict_key`. -/
def isConflictKey (T : ReflectedType) (fieldName : Bytes) (db : DBType) : Bool :=
  fieldName ∈ getConflictKeys T db

/-- The keys of the class, in the order in which they were registered. -/
def ReflectedType.keys (T : ReflectedType) : List Key :=
  match T.conflictKey with
  | some r => r.keys
  | none => T.autoKey.toList

/-- The names of the keys. -/
def ReflectedType.keyNames (T : ReflectedType) : List Bytes := T.keys.map fun k ↦ k.text

/-- No key is followed by a blank and a comma. -/
def ReflectedType.CommasFollow (T : ReflectedType) : Prop :=
  ∀ r, T.conflictKey = some r → ∀ p ∈ r.rest, p.1.before = false

/-! ## What `split` finds -/

theorem isWordByte_of_isKeyByte {b : Byte} (h : isKeyByte b = true) : isWordByte b = true := by
  simp only [isKeyByte, isWordByte, Bool.or_eq_true, decide_eq_true_eq] at h ⊢
  obtain ((h | h) | h) | h := h <;> simp [h]

theorem ne_blank_of_isKeyByte {b : Byte} (h : isKeyByte b = true) : b ≠ blank := by
  rintro rfl
  exact absurd h (by decide)

/-- What stands between two names of a list: a comma, with any number of blanks on its sides. -/
structure Gap where
  before : ℕ
  after : ℕ

def blanks (n : ℕ) : Bytes := List.replicate n blank

def Gap.text (g : Gap) : Bytes := blanks g.before ++ commaByte :: blanks g.after

def nameListText : Key → List (Gap × Key) → Bytes
  | k, [] => k.text
  | k, (g, k') :: rest => k.text ++ g.text ++ nameListText k' rest

/-- The text that `split` cuts out for a name with blanks behind it. -/
def cutName (k : Key) (n : ℕ) : Bytes := (k.text ++ blanks n).drop n

def cutList : Key → List (Gap × Key) → List Bytes
  | k, [] => [cutName k 0]
  | k, (g, k') :: rest => cutName k g.before :: cutList k' rest

theorem splitFrom_letters (str : Bytes) {word : Bytes} (h : ∀ b ∈ word, isKeyByte b = true)
    (i start : ℕ) (rest : Bytes) :
    splitFrom str i start (word ++ rest)
      = splitFrom str (i + word.length) (start + word.length) rest := by
  induction word generalizing i start with
  | nil => rfl
  | cons b word ih =>
    obtain ⟨hb, hword⟩ := List.forall_mem_cons.mp h
    have hlength (j : ℕ) : j + (b :: word).length = j + 1 + word.length := by
      rw [List.length_cons]
      omega
    rw [List.cons_append, splitFrom, if_neg (ne_blank_of_isKeyByte hb), if_pos hb, ih hword,
      hlength, hlength]

theorem splitFrom_blanks (str : Bytes) (n i start : ℕ) (rest : Bytes) :
    splitFrom str i start (blanks n ++ rest) = splitFrom str (i + n) start rest := by
  induction n generalizing i with
  | zero => rfl
  | succ n ih =>
    have hcons : blanks (n + 1) ++ rest = blank :: (blanks n ++ rest) := rfl
    rw [hcons, splitFrom, if_pos rfl, ih, Nat.add_right_comm, Nat.add_assoc]

theorem splitFrom_comma (str : Bytes) (i start : ℕ) (rest : Bytes) :
    splitFrom str i start (commaByte :: rest)
      = substr str (i - start) start :: splitFrom str (i + 1) 0 rest := rfl

/-- As many bytes in front of the comma as the name has letters. -/
theorem substr_cutName (done rest : Bytes) (k : Key) (n : ℕ) :
    substr (done ++ k.text ++ blanks n ++ rest)
        (done.length + k.text.length + n - k.text.length) k.text.length
      = cutName k n := by
  have hpos : done.length + k.text.length + n - k.text.length = done.length + n := by omega
  have htext : done ++ k.text ++ blanks n ++ rest = done ++ (k.text ++ blanks n ++ rest) := by
    simp only [List.append_assoc]
  have hn : n ≤ (k.text ++ blanks n).length := by simp [blanks]
  have hlength : ((k.text ++ blanks n).drop n).length = k.text.length := by simp [blanks]
  rw [hpos, htext, substr, List.drop_length_add_append, List.drop_append_of_le_length hn,
    ← hlength, List.take_left, cutName]

/-- The loop in front of a name, where everything up to it is done. -/
theorem splitFrom_nameListText (done : Bytes) (k : Key) (rest : List (Gap × Key)) :
    splitFrom (done ++ nameListText k rest) done.length 0 (nameListText k rest)
      = cutList k rest := by
  induction rest generalizing done k with
  | nil =>
    have hletters := splitFrom_letters (done ++ k.text) k.isKey done.length 0 []
    have hne : k.text.length ≠ 0 := by
      rw [ne_eq, List.length_eq_zero_iff]
      exact k.text_ne_nil
    have hcut := substr_cutName done [] k 0
    rw [List.append_nil, Nat.zero_add] at hletters
    rw [blanks, List.replicate_zero, List.append_nil, List.append_nil, Nat.add_zero,
      ← List.length_append] at hcut
    rw [nameListText, hletters, splitFrom, if_pos hne, hcut]
    rfl
  | cons p rest ih =>
    obtain ⟨g, k'⟩ := p
    -- Everything up to the next name is done once the comma and the blanks behind it are read.
    let behind := blanks g.after ++ nameListText k' rest
    let next := done ++ k.text ++ blanks g.before ++ commaByte :: blanks g.after
    have htext : nameListText k ((g, k') :: rest)
        = k.text ++ (blanks g.before ++ commaByte :: behind) := by
      simp [nameListText, Gap.text, behind]
    have hstr : done ++ nameListText k ((g, k') :: rest) = next ++ nameListText k' rest := by
      simp [nameListText, Gap.text, next]
    have hcut : substr (next ++ nameListText k' rest)
          (done.length + k.text.length + g.before - k.text.length) k.text.length
        = cutName k g.before := by
      have hsplit : next ++ nameListText k' rest
          = done ++ k.text ++ blanks g.before ++ commaByte :: behind := by
        simp [next, behind]
      rw [hsplit]
      exact substr_cutName done _ k g.before
    have hnext : done.length + k.text.length + g.before + 1 + g.after = next.length := by
      simp only [next, blanks, List.length_append, List.length_cons, List.length_replicate]
      omega
    rw [hstr, htext, splitFrom_letters _ k.isKey, splitFrom_blanks, splitFrom_comma,
      Nat.zero_add, hcut, splitFrom_blanks, hnext, ih, cutList]

theorem cutName_zero (k : Key) : cutName k 0 = k.text := List.append_nil _

/-- A name is found where no blank stands behind it. -/
theorem cutName_eq_iff (k k' : Key) (n : ℕ) (h : cutName k n = k'.text) : n = 0 := by
  rcases n with _ | n
  · rfl
  · have hlength : n + 1 ≤ (k.text ++ blanks n).length := by
      have hne := List.length_pos_iff.mpr k.text_ne_nil
      simp only [blanks, List.length_append, List.length_replicate]
      omega
    have hblanks : blanks (n + 1) = blanks n ++ [blank] := List.replicate_succ'
    have hblank : blank ∈ k'.text := by
      rw [← h, cutName, hblanks, ← List.append_assoc, List.drop_append_of_le_length hlength]
      exact List.mem_append_right _ List.mem_cons_self
    exact absurd rfl (ne_blank_of_isKeyByte (k'.isKey blank hblank))

/-- The names are found where no blank stands in front of a comma. -/
theorem cutList_eq_iff (k : Key) (rest : List (Gap × Key)) :
    cutList k rest = (k :: rest.map Prod.snd).map (fun k ↦ k.text) ↔
      ∀ p ∈ rest, p.1.before = 0 := by
  induction rest generalizing k with
  | nil => exact iff_of_true (congrArg (fun x ↦ [x]) (cutName_zero k)) (by simp)
  | cons p rest ih =>
    obtain ⟨g, k'⟩ := p
    rw [cutList, List.map_cons, List.map_cons, List.cons.injEq, ih, List.forall_mem_cons]
    refine and_congr_left fun _ ↦ ⟨cutName_eq_iff k k g.before, fun h ↦ ?_⟩
    rw [h, cutName_zero]

/-! ## The arguments of the macro -/

/-- The blanks that the preprocessor leaves. -/
def Spacing.gap (s : Spacing) : Gap := ⟨s.before.toNat, s.after.toNat⟩

/-- The text that `split` cuts out for a key. -/
def cutKey (k : Key) (blankBehind : Bool) : Bytes :=
  if blankBehind then k.text.drop 1 ++ [blank] else k.text

def cutKeys : Key → List (Spacing × Key) → List Bytes
  | k, [] => [cutKey k false]
  | k, (s, k') :: rest => cutKey k s.before :: cutKeys k' rest

theorem optionalBlank_eq (present : Bool) : optionalBlank present = blanks present.toNat := by
  cases present <;> rfl

theorem Spacing.text_eq (s : Spacing) : s.text = s.gap.text := by
  rw [Spacing.text, Gap.text, optionalBlank_eq, optionalBlank_eq, Spacing.gap]

theorem argumentText_eq (k : Key) (rest : List (Spacing × Key)) :
    argumentText k rest = nameListText k (rest.map fun p ↦ (p.1.gap, p.2)) := by
  induction rest generalizing k with
  | nil => rfl
  | cons p rest ih => rw [argumentText, List.map_cons, nameListText, Spacing.text_eq, ih]

theorem cutKey_eq (k : Key) (blankBehind : Bool) :
    cutKey k blankBehind = cutName k blankBehind.toNat := by
  obtain ⟨b, word, hword⟩ := List.exists_cons_of_ne_nil k.text_ne_nil
  rcases blankBehind with _ | _
  · exact (List.append_nil _).symm
  · simp [cutKey, cutName, hword, blanks]

theorem cutKeys_eq (k : Key) (rest : List (Spacing × Key)) :
    cutKeys k rest = cutList k (rest.map fun p ↦ (p.1.gap, p.2)) := by
  induction rest generalizing k with
  | nil => rw [cutKeys, List.map_nil, cutList, cutKey_eq, Bool.toNat_false]
  | cons p rest ih =>
    rw [cutKeys, List.map_cons, cutList, cutKey_eq, ih, Spacing.gap]

theorem splitFrom_argumentText (done : Bytes) (k : Key) (rest : List (Spacing × Key)) :
    splitFrom (done ++ argumentText k rest) done.length 0 (argumentText k rest)
      = cutKeys k rest := by
  rw [argumentText_eq, splitFrom_nameListText, cutKeys_eq]

theorem split_text (r : Registration) : split r.text = cutKeys r.first r.rest :=
  splitFrom_argumentText [] r.first r.rest

/-! ## The keys that are found -/

/-- The texts that `split` finds, which stand for the keys in the statement. -/
def ReflectedType.cutNames (T : ReflectedType) : List Bytes :=
  match T.conflictKey with
  | some r => cutKeys r.first r.rest
  | none => T.autoKey.toList.map fun k ↦ cutKey k false

theorem split_getConflictKey (T : ReflectedType) : split (getConflictKey T) = T.cutNames := by
  rw [getConflictKey, ReflectedType.cutNames]
  cases T.conflictKey with
  | some r => exact split_text r
  | none =>
    cases T.autoKey with
    | none => rfl
    | some k => exact splitFrom_argumentText [] k []

theorem getConflictKeys_eq (T : ReflectedType) (db : DBType) :
    getConflictKeys T db = T.cutNames.map (quoteName db) := by
  rw [getConflictKeys, split_getConflictKey]

theorem length_cutKeys (k : Key) (rest : List (Spacing × Key)) :
    (cutKeys k rest).length = rest.length + 1 := by
  induction rest generalizing k with
  | nil => rfl
  | cons p rest ih => rw [cutKeys, List.length_cons, ih, List.length_cons]

theorem length_cutNames (T : ReflectedType) : T.cutNames.length = T.keyNames.length := by
  rw [ReflectedType.cutNames, ReflectedType.keyNames, List.length_map, ReflectedType.keys]
  cases T.conflictKey with
  | some r =>
    have hkeys : r.keys.length = r.rest.length + 1 := by
      rw [Registration.keys, List.length_cons, List.length_map]
    exact (length_cutKeys r.first r.rest).trans hkeys.symm
  | none => exact List.length_map _

theorem length_cutKey (k : Key) (blankBehind : Bool) :
    (cutKey k blankBehind).length = k.text.length := by
  obtain ⟨b, word, hword⟩ := List.exists_cons_of_ne_nil k.text_ne_nil
  rw [cutKey]
  split_ifs
  · simp [hword]
  · rfl

theorem map_length_cutKeys (k : Key) (rest : List (Spacing × Key)) :
    (cutKeys k rest).map List.length
      = (k :: rest.map Prod.snd).map fun k ↦ k.text.length := by
  induction rest generalizing k with
  | nil => rfl
  | cons p rest ih =>
    rw [cutKeys, List.map_cons, ih, length_cutKey]
    rfl

/-- A text that is cut out is as long as its key. -/
theorem map_length_cutNames (T : ReflectedType) :
    T.cutNames.map List.length = T.keyNames.map List.length := by
  rw [ReflectedType.cutNames, ReflectedType.keyNames, List.map_map, ReflectedType.keys]
  cases T.conflictKey with
  | some r => exact map_length_cutKeys r.first r.rest
  | none =>
    rw [List.map_map]
    rfl

/-- A text that is cut out is a key, or ends in a blank. -/
theorem mem_cutKeys {k : Key} {rest : List (Spacing × Key)} {text : Bytes}
    (h : text ∈ cutKeys k rest) : ∃ k' blankBehind, text = cutKey k' blankBehind := by
  induction rest generalizing k with
  | nil => exact ⟨k, false, List.mem_singleton.mp h⟩
  | cons p rest ih =>
    obtain rfl | h := List.mem_cons.mp h
    · exact ⟨k, p.1.before, rfl⟩
    · exact ih h

theorem mem_cutNames {T : ReflectedType} {text : Bytes} (h : text ∈ T.cutNames) :
    ∃ k blankBehind, text = cutKey k blankBehind := by
  rw [ReflectedType.cutNames] at h
  cases hconflict : T.conflictKey with
  | some r =>
    rw [hconflict] at h
    exact mem_cutKeys h
  | none =>
    rw [hconflict] at h
    obtain ⟨k, -, rfl⟩ := List.mem_map.mp h
    exact ⟨k, false, rfl⟩

/-- The keys are found where no blank stands in front of a comma. -/
theorem cutKeys_eq_iff (k : Key) (rest : List (Spacing × Key)) :
    cutKeys k rest = (k :: rest.map Prod.snd).map (fun k ↦ k.text) ↔
      ∀ p ∈ rest, p.1.before = false := by
  have hnames : (rest.map fun p ↦ (p.1.gap, p.2)).map Prod.snd = rest.map Prod.snd := by
    rw [List.map_map]
    rfl
  rw [cutKeys_eq, ← hnames, cutList_eq_iff, List.forall_mem_map]
  simp only [Spacing.gap, Bool.toNat_eq_zero]

theorem cutNames_eq_iff (T : ReflectedType) : T.cutNames = T.keyNames ↔ T.CommasFollow := by
  rw [ReflectedType.cutNames, ReflectedType.keyNames, ReflectedType.keys,
    ReflectedType.CommasFollow]
  cases T.conflictKey with
  | some r =>
    refine (cutKeys_eq_iff r.first r.rest).trans ⟨?_, fun h ↦ h r rfl⟩
    rintro h r' ⟨⟩
    exact h
  | none =>
    apply iff_of_true rfl
    rintro r ⟨⟩

end Ormpp
