import Mathlib.Data.List.Infix

/-!
# Searching a text for a pattern

The first position at which a pattern stands in a text. Behind an element that the pattern has not
got, the search begins anew: the pattern stands on one of the two sides.
-/

namespace Ormpp

namespace Search

variable {α : Type} {pattern : List α} {sep : α}

/-! ## Separators -/

theorem prefix_append_cons_iff (hsep : sep ∉ pattern) (xs ys : List α) :
    pattern <+: xs ++ sep :: ys ↔ pattern <+: xs := by
  refine ⟨fun h ↦ ?_, fun h ↦ h.trans (List.prefix_append _ _)⟩
  obtain hle | hlt := le_or_gt pattern.length xs.length
  · exact List.prefix_of_prefix_length_le h (List.prefix_append _ _) hle
  · -- Otherwise the separator is among what the pattern covers.
    have hcover : xs ++ [sep] <+: pattern := by
      refine List.prefix_of_prefix_length_le ⟨ys, by simp⟩ h ?_
      rw [List.length_append, List.length_singleton]
      exact hlt
    exact absurd (hcover.subset (by simp)) hsep

theorem infix_append_cons_iff (hsep : sep ∉ pattern) (xs ys : List α) :
    pattern <:+: xs ++ sep :: ys ↔ pattern <:+: xs ∨ pattern <:+: ys := by
  induction xs with
  | nil =>
    have hhead := prefix_append_cons_iff hsep [] ys
    rw [List.nil_append] at hhead
    rw [List.nil_append, List.infix_cons_iff, hhead, List.prefix_nil, List.infix_nil]
  | cons x xs ih =>
    have hhead := prefix_append_cons_iff hsep (x :: xs) ys
    rw [List.cons_append] at hhead
    rw [List.cons_append, List.infix_cons_iff, hhead, ih, List.infix_cons_iff, or_assoc]

theorem infix_intercalate_iff (hne : pattern ≠ []) (hsep : sep ∉ pattern) (xs : List (List α)) :
    pattern <:+: [sep].intercalate xs ↔ ∃ x ∈ xs, pattern <:+: x := by
  induction xs with
  | nil => simp [hne]
  | cons x xs ih =>
    rcases xs with _ | ⟨y, xs⟩
    · simp
    · rw [List.intercalate_cons_cons, List.append_assoc, List.singleton_append,
        infix_append_cons_iff hsep, ih, List.exists_mem_cons_iff _ x]

/-! ## The search -/

variable [DecidableEq α]

/-- The first position at which the pattern stands. -/
def find (pattern : List α) : List α → Option ℕ
  | [] => if pattern = [] then some 0 else none
  | c :: text =>
    if pattern <+: c :: text then some 0 else (find pattern text).map fun pos ↦ pos + 1

/-- The text up to the first place where the pattern stands. -/
def upTo (pattern text : List α) : List α :=
  match find pattern text with
  | some pos => text.take pos
  | none => text

theorem find_eq_some_zero_iff (text : List α) :
    find pattern text = some 0 ↔ pattern <+: text := by
  rcases text with _ | ⟨c, text⟩
  · rw [find, List.prefix_nil]
    split_ifs with h <;> simp [h]
  · rw [find]
    split_ifs with h <;> simp [h]

theorem find_eq_none_iff (text : List α) : find pattern text = none ↔ ¬pattern <:+: text := by
  induction text with
  | nil =>
    rw [find, List.infix_nil]
    split_ifs with h <;> simp [h]
  | cons c text ih =>
    rw [find, List.infix_cons_iff, not_or]
    split_ifs with h
    · simp [h]
    · rw [Option.map_eq_none_iff, ih, iff_and_self]
      exact fun _ ↦ h

/-- Where the pattern stands, there is room for it. -/
theorem find_lt_length (hne : pattern ≠ []) {text : List α} {pos : ℕ}
    (h : find pattern text = some pos) : pos < text.length := by
  induction text generalizing pos with
  | nil =>
    rw [find, if_neg hne] at h
    exact absurd h (by simp)
  | cons c text ih =>
    rw [find] at h
    split_ifs at h with hhere
    · obtain rfl := Option.some.inj h
      exact Nat.succ_pos _
    · obtain ⟨pos', hpos, rfl⟩ := Option.map_eq_some_iff.mp h
      exact Nat.succ_lt_succ (ih hpos)

theorem length_upTo_lt (hne : pattern ≠ []) {text : List α} (h : pattern <:+: text) :
    (upTo pattern text).length < text.length := by
  rw [upTo]
  rcases hfind : find pattern text with _ | pos
  · exact absurd h ((find_eq_none_iff text).mp hfind)
  · exact (List.length_take_le _ _).trans_lt (find_lt_length hne hfind)

/-! ## The search at a separator -/

/-- The pattern is looked for in front of the separator first. -/
theorem find_append_cons (hne : pattern ≠ []) (hsep : sep ∉ pattern) (xs ys : List α) :
    find pattern (xs ++ sep :: ys)
      = (find pattern xs).or ((find pattern ys).map fun pos ↦ xs.length + 1 + pos) := by
  induction xs with
  | nil =>
    have hhead : ¬pattern <+: sep :: ys := by
      rw [← List.nil_append (sep :: ys), prefix_append_cons_iff hsep, List.prefix_nil]
      exact hne
    have hnil : find pattern ([] : List α) = none := if_neg hne
    have hcons : find pattern (sep :: ys) = (find pattern ys).map fun pos ↦ pos + 1 := if_neg hhead
    rw [List.nil_append, hcons, hnil, Option.none_or, List.length_nil]
    simp only [Nat.zero_add, Nat.add_comm]
  | cons x xs ih =>
    have hhead := prefix_append_cons_iff hsep (x :: xs) ys
    rw [List.cons_append] at hhead
    rw [List.cons_append, find, find, ih]
    by_cases h : pattern <+: x :: xs
    · rw [if_pos (hhead.mpr h), if_pos h, Option.some_or]
    · rw [if_neg (fun h' ↦ h (hhead.mp h')), if_neg h]
      rcases find pattern xs with _ | pos
      · rcases find pattern ys with _ | pos
        · rfl
        · simp only [Option.none_or, Option.map_some, Option.map_none, List.length_cons]
          congr 1
          omega
      · rfl

/-- An element is found where it stands first. -/
theorem find_singleton_append {a : α} {xs : List α} (h : a ∉ xs) (ys : List α) :
    find [a] (xs ++ a :: ys) = some xs.length := by
  induction xs with
  | nil => exact (find_eq_some_zero_iff _).mpr ⟨ys, rfl⟩
  | cons x xs ih =>
    obtain ⟨hx, hxs⟩ := List.ne_and_not_mem_of_not_mem_cons h
    have hhead : ¬[a] <+: x :: (xs ++ a :: ys) := fun hpre ↦
      hx (List.cons_prefix_cons.mp hpre).1
    rw [List.cons_append, find, if_neg hhead, ih hxs]
    rfl

/-- What stands behind a separator and begins with the pattern goes, and nothing else if the
pattern is not in front of the separator. -/
theorem upTo_append_cons (hne : pattern ≠ []) (hsep : sep ∉ pattern) (xs rest : List α) :
    upTo pattern (xs ++ sep :: (pattern ++ rest))
      = if pattern <:+: xs then upTo pattern xs else xs ++ [sep] := by
  have hbehind : find pattern (pattern ++ rest) = some 0 :=
    (find_eq_some_zero_iff _).mpr (List.prefix_append _ _)
  rw [upTo, find_append_cons hne hsep, hbehind, Option.map_some]
  split_ifs with h
  · rw [upTo]
    rcases hfind : find pattern xs with _ | pos
    · exact absurd h ((find_eq_none_iff xs).mp hfind)
    · exact List.take_append_of_le_length (find_lt_length hne hfind).le
  · have htake : (xs ++ sep :: (pattern ++ rest)).take (xs.length + 1 + 0) = xs ++ [sep] := by
      have hsplit : xs ++ sep :: (pattern ++ rest) = (xs ++ [sep]) ++ (pattern ++ rest) := by simp
      have hlength : xs.length + 1 + 0 = (xs ++ [sep]).length := by simp
      rw [hsplit, hlength, List.take_left]
    rw [(find_eq_none_iff xs).mpr h]
    exact htake

end Search

end Ormpp
