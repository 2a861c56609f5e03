import Mathlib.Data.List.Nodup

/-!
# Growing a list link by link

A link between two elements, one of which is in a list and the other is not, adds the other one. A
chain of such links puts every element into the list once, and no link refers to an element that the
list has not got once the link is taken.
-/

namespace Ormpp

/-- A link between two elements. -/
structure Link (α : Type) where
  left : α
  right : α

namespace Link

variable {α : Type} [DecidableEq α]

/-- One of the two elements is in the list, the other is not. -/
def Grows (seen : List α) (l : Link α) : Prop := Xor (l.left ∈ seen) (l.right ∈ seen)

instance (seen : List α) (l : Link α) : Decidable (l.Grows seen) :=
  inferInstanceAs (Decidable (Xor (l.left ∈ seen) (l.right ∈ seen)))

/-- The element that is not in the list. -/
def fresh (seen : List α) (l : Link α) : α := if l.left ∈ seen then l.right else l.left

theorem Grows.fresh_notMem {seen : List α} {l : Link α} (h : l.Grows seen) :
    l.fresh seen ∉ seen := by
  rw [fresh]
  obtain ⟨hleft, hright⟩ | ⟨-, hleft⟩ := h
  · rwa [if_pos hleft]
  · rwa [if_neg hleft]

/-- Once the link is taken, both elements are in the list. -/
theorem Grows.mem {seen : List α} {l : Link α} (h : l.Grows seen) :
    l.left ∈ seen ++ [l.fresh seen] ∧ l.right ∈ seen ++ [l.fresh seen] := by
  rw [fresh]
  obtain ⟨hleft, -⟩ | ⟨hright, hleft⟩ := h
  · rw [if_pos hleft]
    exact ⟨List.mem_append_left _ hleft, List.mem_append_right _ (List.mem_singleton_self _)⟩
  · rw [if_neg hleft]
    exact ⟨List.mem_append_right _ (List.mem_singleton_self _), List.mem_append_left _ hright⟩

end Link

/-! ## Chains -/

namespace Chain

variable {α : Type} [DecidableEq α]

/-- Something holds of every link and the list that it is taken at. -/
def Along (p : List α → Link α → Prop) : List α → List (Link α) → Prop
  | _, [] => True
  | seen, l :: links => p seen l ∧ Along p (seen ++ [l.fresh seen]) links

instance decidableAlong (p : List α → Link α → Prop) [∀ seen l, Decidable (p seen l)] :
    (seen : List α) → (links : List (Link α)) → Decidable (Along p seen links)
  | _, [] => inferInstanceAs (Decidable True)
  | seen, l :: links =>
    have : Decidable (Along p (seen ++ [l.fresh seen]) links) := decidableAlong p _ links
    inferInstanceAs (Decidable (p seen l ∧ Along p (seen ++ [l.fresh seen]) links))

/-- The elements that the links add. -/
def added : List α → List (Link α) → List α
  | _, [] => []
  | seen, l :: links => l.fresh seen :: added (seen ++ [l.fresh seen]) links

variable {seen : List α} {links : List (Link α)}

theorem along_append {p : List α → Link α → Prop} {more : List (Link α)} :
    Along p seen (links ++ more) ↔
      Along p seen links ∧ Along p (seen ++ added seen links) more := by
  induction links generalizing seen with
  | nil =>
    rw [List.nil_append, added, List.append_nil, Along, true_and]
  | cons l links ih =>
    rw [List.cons_append, Along, ih, Along, added, and_assoc,
      List.append_cons seen (l.fresh seen) (added _ links)]

theorem added_append (more : List (Link α)) :
    added seen (links ++ more) = added seen links ++ added (seen ++ added seen links) more := by
  induction links generalizing seen with
  | nil => rw [List.nil_append, added, List.nil_append, List.append_nil]
  | cons l links ih =>
    rw [List.cons_append, added, ih, added, List.cons_append,
      List.append_cons seen (l.fresh seen) (added _ links)]

/-- Every element is added once. -/
theorem nodup_added (h : Along (fun seen l ↦ l.Grows seen) seen links) (hseen : seen.Nodup) :
    (seen ++ added seen links).Nodup := by
  induction links generalizing seen with
  | nil =>
    rw [added, List.append_nil]
    exact hseen
  | cons l links ih =>
    obtain ⟨hgrows, hlinks⟩ := h
    have hnext : (seen ++ [l.fresh seen]).Nodup := by
      rw [← List.concat_eq_append]
      exact hseen.concat hgrows.fresh_notMem
    rw [added, List.append_cons]
    exact ih hlinks hnext

/-- Both elements of a link are in the list once it is taken. -/
theorem mem_added {front back : List (Link α)} {l : Link α}
    (h : Along (fun seen l ↦ l.Grows seen) seen (front ++ l :: back)) :
    l.left ∈ seen ++ added seen (front ++ [l]) ∧ l.right ∈ seen ++ added seen (front ++ [l]) := by
  have hgrows : l.Grows (seen ++ added seen front) := (along_append.mp h).2.1
  rw [added_append, ← List.append_assoc]
  exact hgrows.mem

end Chain

end Ormpp
