import Ormpp.Query.Rendering

/-!
# The names of classes

A reflected class is known by its qualified name, and by what stands behind the last colon of it.
The qualified name tells the classes apart, the short one does not: it is the identifier alone,
whatever the class is nested in.
-/

namespace Ormpp

open Sql

theorem Name.eq_of_text_eq {n n' : Name} (h : n.text = n'.text) : n = n' := by
  obtain ⟨text, _, _⟩ := n
  obtain ⟨text', _, _⟩ := n'
  obtain rfl : text = text' := h
  rfl

theorem Name.text_inj {n n' : Name} : n.text = n'.text ↔ n = n' :=
  ⟨Name.eq_of_text_eq, congrArg Name.text⟩

instance : DecidableEq Name := fun _ _ ↦ decidable_of_iff _ Name.text_inj

/-- A class by what it is nested in, from the outside to the inside, and its identifier. -/
structure StructName where
  scopes : List Name
  name : Name
  deriving DecidableEq

/-- The class is declared in the global namespace. -/
def StructName.Global (T : StructName) : Prop := T.scopes = []

instance (T : StructName) : Decidable T.Global := inferInstanceAs (Decidable (T.scopes = []))

def colon : Byte := 0x3a

def qualify : List Name → Bytes → Bytes
  | [], name => name
  | scope :: scopes, name => scope.text ++ colon :: colon :: qualify scopes name

/-- `ylt::reflection::get_struct_name`. -/
def getStructName (T : StructName) : Bytes := qualify T.scopes T.name.text

/-- `str.rfind(c)`. -/
def rfind (c : Byte) : Bytes → Option ℕ
  | [] => none
  | b :: rest =>
    match rfind c rest with
    | some pos => some (pos + 1)
    | none => if b = c then some 0 else none

/-- `get_short_struct_name`. -/
def getShortStructName (T : StructName) : Bytes :=
  match rfind colon (getStructName T) with
  | none => getStructName T
  | some pos => (getStructName T).drop (pos + 1)

/-! ## The last colon -/

theorem rfind_eq_none {c : Byte} {text : Bytes} (h : c ∉ text) : rfind c text = none := by
  induction text with
  | nil => rfl
  | cons b rest ih =>
    have hb : b ≠ c := fun hb ↦ h (hb ▸ List.mem_cons_self)
    rw [rfind, ih fun hrest ↦ h (List.mem_cons_of_mem b hrest)]
    exact if_neg hb

theorem rfind_append_cons {c : Byte} (front : Bytes) {rest : Bytes} (h : c ∉ rest) :
    rfind c (front ++ c :: rest) = some front.length := by
  induction front with
  | nil =>
    rw [List.nil_append, rfind, rfind_eq_none h]
    exact if_pos rfl
  | cons b front ih =>
    rw [List.cons_append, rfind, ih]
    rfl

theorem Name.colon_notMem (n : Name) : colon ∉ n.text := by
  intro hmem
  exact absurd (n.plain colon hmem) (by decide)

theorem exists_qualify_cons (scope : Name) (scopes : List Name) (name : Bytes) :
    ∃ front, qualify (scope :: scopes) name = front ++ colon :: name := by
  induction scopes generalizing scope with
  | nil => exact ⟨scope.text ++ [colon], by rw [List.append_assoc]; rfl⟩
  | cons scope' scopes ih =>
    obtain ⟨front, hfront⟩ := ih scope'
    refine ⟨scope.text ++ colon :: colon :: front, ?_⟩
    rw [qualify, hfront, List.append_assoc]
    rfl

theorem colon_mem_qualify_cons (scope : Name) (scopes : List Name) (name : Bytes) :
    colon ∈ qualify (scope :: scopes) name :=
  List.mem_append_right _ List.mem_cons_self

/-- The short name is the identifier. -/
theorem getShortStructName_eq (T : StructName) : getShortStructName T = T.name.text := by
  obtain ⟨scopes, name⟩ := T
  rw [getShortStructName]
  rcases scopes with _ | ⟨scope, scopes⟩
  · have hnone : rfind colon (getStructName ⟨[], name⟩) = none := rfind_eq_none name.colon_notMem
    rw [hnone]
    rfl
  · obtain ⟨front, hfront⟩ := exists_qualify_cons scope scopes name.text
    have hname : getStructName ⟨scope :: scopes, name⟩ = front ++ colon :: name.text := hfront
    have hdrop : (front ++ colon :: name.text).drop (front.length + 1) = name.text := by
      rw [← List.drop_drop, List.drop_left]
      rfl
    rw [hname, rfind_append_cons front name.colon_notMem]
    exact hdrop

/-! ## The qualified name -/

/-- A text is taken apart at its first colon. -/
theorem append_colon_inj {xs xs' ys ys' : Bytes} (hxs : colon ∉ xs) (hxs' : colon ∉ xs')
    (h : xs ++ colon :: ys = xs' ++ colon :: ys') : xs = xs' ∧ ys = ys' := by
  induction xs generalizing xs' with
  | nil =>
    rcases xs' with _ | ⟨b, xs'⟩
    · exact ⟨rfl, (List.cons.inj h).2⟩
    · exact absurd ((List.cons.inj h).1 ▸ List.mem_cons_self) hxs'
  | cons a xs ih =>
    rcases xs' with _ | ⟨b, xs'⟩
    · exact absurd ((List.cons.inj h).1 ▸ List.mem_cons_self) hxs
    · obtain ⟨rfl, htail⟩ := List.cons.inj h
      obtain ⟨rfl, hys⟩ := ih (fun hmem ↦ hxs (List.mem_cons_of_mem a hmem))
        (fun hmem ↦ hxs' (List.mem_cons_of_mem a hmem)) htail
      exact ⟨rfl, hys⟩

theorem qualify_inj {scopes scopes' : List Name} {n n' : Name}
    (h : qualify scopes n.text = qualify scopes' n'.text) : scopes = scopes' ∧ n = n' := by
  induction scopes generalizing scopes' with
  | nil =>
    rcases scopes' with _ | ⟨scope', scopes'⟩
    · exact ⟨rfl, Name.eq_of_text_eq h⟩
    · have hcolon : colon ∈ n.text := by
        rw [show n.text = _ from h]
        exact colon_mem_qualify_cons scope' scopes' n'.text
      exact absurd hcolon n.colon_notMem
  | cons scope scopes ih =>
    rcases scopes' with _ | ⟨scope', scopes'⟩
    · have hcolon : colon ∈ n'.text := by
        rw [show n'.text = _ from h.symm]
        exact colon_mem_qualify_cons scope scopes n.text
      exact absurd hcolon n'.colon_notMem
    · obtain ⟨hscope, hrest⟩ := append_colon_inj scope.colon_notMem scope'.colon_notMem h
      obtain ⟨rfl, hname⟩ := ih (List.cons.inj hrest).2
      exact ⟨by rw [Name.eq_of_text_eq hscope], hname⟩

/-- Two classes have two qualified names. -/
theorem getStructName_injective : Function.Injective getStructName := by
  rintro ⟨scopes, n⟩ ⟨scopes', n'⟩ h
  obtain ⟨rfl, rfl⟩ := qualify_inj h
  rfl

/-- A qualified name is the identifier of a class where it is that class of the global namespace. -/
theorem getStructName_eq_text_iff (T : StructName) (n : Name) :
    getStructName T = n.text ↔ T.Global ∧ T.name = n := by
  constructor
  · exact fun h ↦ @qualify_inj T.scopes [] T.name n h
  · rintro ⟨hglobal, rfl⟩
    rw [getStructName, hglobal]
    rfl

end Ormpp
