import Mathlib.Data.List.Basic

/-!
# Collections of values that are told apart

A list of values no two of which are the same in a given sense. A value is put behind the others
unless one that is the same is there, or in the place of those that are; and it is put in the place
of values that a test finds, unless two values would be the same then.
-/

namespace Ormpp

/-- A sense in which values are the same. -/
structure Likeness (α : Type) where
  Same : α → α → Prop
  decidableSame : DecidableRel Same
  symm : ∀ {x y}, Same x y → Same y x

instance {α : Type} (L : Likeness α) : DecidableRel L.Same := L.decidableSame

/-- Values no two of which are the same. -/
@[ext]
structure Collection {α : Type} (L : Likeness α) where
  items : List α
  distinct : items.Pairwise fun x y ↦ ¬L.Same x y

namespace Collection

variable {α : Type} {L : Likeness α} (c : Collection L)

def empty : Collection L := ⟨[], .nil⟩

/-- A value behind the others, where `replace` says that those that are the same give way. -/
def put (replace : Bool) (x : α) : Option (Collection L) :=
  if replace = true ∨ ∀ y ∈ c.items, ¬L.Same x y then
    some
      { items := c.items.filter (fun y ↦ ¬L.Same x y) ++ [x]
        distinct := by
          refine List.pairwise_append.mpr ⟨c.distinct.filter _, List.pairwise_singleton _ _, ?_⟩
          intro y hy z hz hsame
          obtain rfl := List.mem_singleton.mp hz
          exact of_decide_eq_true (List.mem_filter.mp hy).2 (L.symm hsame) }
  else none

/-- The values for which a test does not come out. -/
def erase (p : α → Bool) : Collection L := ⟨c.items.filter (!p ·), c.distinct.filter _⟩

/-- A value in the place of those for which a test comes out. -/
def substitute (p : α → Bool) (x : α) : Option (Collection L) :=
  if h : (c.items.map fun y ↦ if p y then x else y).Pairwise fun x y ↦ ¬L.Same x y then
    some ⟨c.items.map fun y ↦ if p y then x else y, h⟩
  else none

variable {c}

theorem items_put {c' : Collection L} {replace : Bool} {x : α} (h : c.put replace x = some c') :
    c'.items = c.items.filter (fun y ↦ ¬L.Same x y) ++ [x] := by
  rw [put] at h
  split_ifs at h
  cases h
  rfl

theorem items_substitute {c' : Collection L} {p : α → Bool} {x : α}
    (h : c.substitute p x = some c') : c'.items = c.items.map fun y ↦ if p y then x else y := by
  rw [substitute] at h
  split_ifs at h
  cases h
  rfl

end Collection

end Ormpp
