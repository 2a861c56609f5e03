import Mathlib.Data.List.AList

/-!
# Dictionaries in which the first entry stands

A dictionary that is filled with `emplace` keeps what it has: an entry is put in where its key has
none, and is dropped otherwise. Of a list of entries that went in, the first one of a key is found.
-/

namespace Ormpp

/-- A value for each of finitely many keys. -/
abbrev Dictionary (κ ν : Type*) := AList fun _ : κ ↦ ν

namespace Dictionary

variable {α κ ν : Type*} [DecidableEq κ]

/-- `std::unordered_map::emplace`. -/
def emplace (k : κ) (v : ν) (m : Dictionary κ ν) : Dictionary κ ν :=
  if (m.lookup k).isSome then m else m.insert k v

theorem emplace_of_isSome {k : κ} {m : Dictionary κ ν} (h : (m.lookup k).isSome) (v : ν) :
    emplace k v m = m := if_pos h

theorem emplace_of_eq_none {k : κ} {m : Dictionary κ ν} (h : m.lookup k = none) (v : ν) :
    emplace k v m = m.insert k v := by
  rw [emplace, h]
  rfl

theorem lookup_emplace (k k' : κ) (v : ν) (m : Dictionary κ ν) :
    (emplace k v m).lookup k' = (m.lookup k').or (if k = k' then some v else none) := by
  rcases hlookup : m.lookup k with _ | w
  · rw [emplace_of_eq_none hlookup]
    split_ifs with hk
    · rw [← hk, AList.lookup_insert, hlookup, Option.none_or]
    · rw [AList.lookup_insert_ne (Ne.symm hk), Option.or_none]
  · rw [emplace_of_isSome (Option.isSome_of_eq_some hlookup)]
    split_ifs with hk
    · rw [← hk, hlookup, Option.some_or]
    · rw [Option.or_none]

/-- What is found stays. -/
theorem lookup_emplace_of_isSome {k' : κ} {m : Dictionary κ ν} (h : (m.lookup k').isSome) (k : κ)
    (v : ν) : (emplace k v m).lookup k' = m.lookup k' := by
  rw [lookup_emplace, Option.or_of_isSome h]

/-! ## A list of entries -/

section List

variable (key : α → κ) (value : α → ν)

/-- The entries of the list go in one after the other. -/
def emplaceAll (l : List α) (m : Dictionary κ ν) : Dictionary κ ν :=
  l.foldl (fun m a ↦ emplace (key a) (value a) m) m

theorem emplaceAll_append (l l' : List α) (m : Dictionary κ ν) :
    emplaceAll key value (l ++ l') m = emplaceAll key value l' (emplaceAll key value l m) :=
  List.foldl_append

theorem lookup_emplaceAll (l : List α) (m : Dictionary κ ν) (k : κ) :
    (emplaceAll key value l m).lookup k
      = (m.lookup k).or ((l.find? fun a ↦ key a = k).map value) := by
  induction l generalizing m with
  | nil => rw [List.find?_nil, Option.map_none, Option.or_none]; rfl
  | cons a l ih =>
    have hstep : emplaceAll key value (a :: l) m
        = emplaceAll key value l (emplace (key a) (value a) m) := rfl
    rw [hstep, ih, lookup_emplace, Option.or_assoc, List.find?_cons]
    by_cases hk : key a = k
    · rw [if_pos hk, Option.some_or, decide_eq_true hk, Option.map_some]
    · rw [if_neg hk, Option.none_or, decide_eq_false hk]

/-- In a dictionary that was empty the first entry of a key is found. -/
theorem lookup_emplaceAll_empty (l : List α) (k : κ) :
    (emplaceAll key value l ∅).lookup k = (l.find? fun a ↦ key a = k).map value := by
  rw [lookup_emplaceAll, AList.lookup_empty, Option.none_or]

/-- A run in which every step puts at most one entry in. -/
theorem foldl_eq_emplaceAll {σ β : Type*} (entries : σ → Dictionary κ ν) (step : σ → β → σ)
    (entry : β → Option α)
    (h : ∀ s b, entries (step s b) = emplaceAll key value (entry b).toList (entries s))
    (l : List β) (s : σ) :
    entries (l.foldl step s) = emplaceAll key value (l.filterMap entry) (entries s) := by
  induction l generalizing s with
  | nil => rfl
  | cons b l ih =>
    rw [List.foldl_cons, ih, h, ← emplaceAll_append, List.filterMap_cons]
    rcases entry b with _ | a <;> rfl

end List

end Dictionary

end Ormpp
