import Ormpp.Data.Bytes

/-!
# Views of stored text

A view is a place and a length, and gives whatever is in that place when it is read. The text is
kept in one of two ways. A single string is assigned to over and over: it stays in its block of
memory or moves to another one, as the library's allocation has it, and a view of the old block is
dangling. A container keeps every text in a place of its own until it is cleared as a whole.

A view of nothing can always be read.
-/

namespace Ormpp

/-! ## One string -/

/-- How a string is allocated: assigning a text of some length to a string of some capacity leaves
it where it is, or moves it to a block of another capacity. -/
abbrev Allocation := (capacity length : ℕ) → Option ℕ

/-- A string and the block it is in. -/
structure StoredString where
  block : ℕ
  capacity : ℕ
  text : Bytes

/-- A view of a string. -/
structure BlockView where
  block : ℕ
  length : ℕ

/-- The view of nothing. -/
def BlockView.empty : BlockView := ⟨0, 0⟩

namespace StoredString

variable (A : Allocation) (s : StoredString)

def assign (text : Bytes) : StoredString :=
  match A s.capacity text.length with
  | none => { s with text }
  | some capacity => ⟨s.block + 1, capacity, text⟩

def assignAll (texts : List Bytes) : StoredString := texts.foldl (assign A) s

/-- The view of the whole string. -/
def view : BlockView := ⟨s.block, s.text.length⟩

/-- What a view gives: the string is followed by a NUL, and nothing is known of what is behind it,
or of another block. -/
def read (v : BlockView) : Option Bytes :=
  if v.length = 0 then some []
  else if v.block = s.block ∧ v.length ≤ s.text.length + 1 then
    some ((s.text ++ [0]).take v.length)
  else none

variable {A s}

@[simp] theorem text_assign (text : Bytes) : (s.assign A text).text = text := by
  rw [assign]
  split <;> rfl

/-- A text that stays where the string is. -/
theorem assign_of_eq_none {text : Bytes} (h : A s.capacity text.length = none) :
    s.assign A text = { s with text } := by
  rw [assign, h]

theorem block_le_assign (text : Bytes) : s.block ≤ (s.assign A text).block := by
  rw [assign]
  split
  · exact le_rfl
  · exact Nat.le_succ _

theorem block_lt_assign {text : Bytes} (h : A s.capacity text.length ≠ none) :
    s.block < (s.assign A text).block := by
  obtain ⟨capacity, h⟩ := Option.ne_none_iff_exists'.mp h
  rw [assign, h]
  exact Nat.lt_succ_self _

theorem assignAll_cons (text : Bytes) (texts : List Bytes) :
    s.assignAll A (text :: texts) = (s.assign A text).assignAll A texts := rfl

theorem assignAll_append (xs ys : List Bytes) :
    s.assignAll A (xs ++ ys) = (s.assignAll A xs).assignAll A ys := List.foldl_append

theorem block_le_assignAll (texts : List Bytes) : s.block ≤ (s.assignAll A texts).block := by
  induction texts generalizing s with
  | nil => exact le_rfl
  | cons text texts ih => exact (block_le_assign text).trans ih

/-- The string holds the text that was assigned last. -/
theorem text_assignAll (texts : List Bytes) :
    (s.assignAll A texts).text = texts.getLastD s.text := by
  induction texts generalizing s with
  | nil => rfl
  | cons text texts ih => rw [assignAll_cons, ih, text_assign, List.getLastD_cons]

/-- A string is where it was exactly when no text has moved it. -/
theorem block_assignAll_iff (texts : List Bytes) :
    (s.assignAll A texts).block = s.block ↔ ∀ text ∈ texts, A s.capacity text.length = none := by
  induction texts generalizing s with
  | nil => simp [assignAll]
  | cons text texts ih =>
    rw [assignAll_cons, List.forall_mem_cons]
    by_cases h : A s.capacity text.length = none
    · rw [assign_of_eq_none h, and_iff_right h]
      exact ih
    · have hlt : s.block < ((s.assign A text).assignAll A texts).block :=
        (block_lt_assign h).trans_le (block_le_assignAll texts)
      exact iff_of_false hlt.ne' fun hall ↦ h hall.1

theorem read_of_length_eq_zero {v : BlockView} (h : v.length = 0) : s.read v = some [] := if_pos h

/-- A view gives a text of its own length. -/
theorem length_of_read {v : BlockView} {text : Bytes} (h : s.read v = some text) :
    text.length = v.length := by
  rw [read] at h
  split_ifs at h with hzero hvalid
  · rw [hzero, ← Option.some_inj.mp h, List.length_nil]
  · rw [← Option.some_inj.mp h, List.length_take, List.length_append, List.length_singleton]
    exact Nat.min_eq_left hvalid.2

/-- **Reading a view later.** A view of a string that is not empty gives its text, after other texts
have been assigned, exactly when none of them has moved the string and the last of them begins with
the text. -/
theorem read_view_assignAll_iff (h : s.text ≠ []) (texts : List Bytes) :
    (s.assignAll A texts).read s.view = some s.text ↔
      (∀ text ∈ texts, A s.capacity text.length = none) ∧
        s.text <+: texts.getLastD s.text ++ [0] := by
  have hlength : s.view.length ≠ 0 := fun hzero ↦ h (List.length_eq_zero_iff.mp hzero)
  rw [read, if_neg hlength, text_assignAll, ← block_assignAll_iff, List.prefix_iff_eq_take]
  constructor
  · intro hread
    split_ifs at hread with hvalid
    exact ⟨hvalid.1.symm, (Option.some_inj.mp hread).symm⟩
  · rintro ⟨hblock, hprefix⟩
    have hle : s.view.length ≤ (texts.getLastD s.text).length + 1 := by
      have hlen := congrArg List.length hprefix
      rw [List.length_take, List.length_append, List.length_singleton] at hlen
      exact hlen.trans_le (Nat.min_le_right _ _)
    rw [if_pos ⟨hblock.symm, hle⟩]
    exact congrArg some hprefix.symm

end StoredString

/-! ## A container -/

/-- The texts that have been stored since the container was cleared last. -/
structure TextStorage where
  generation : ℕ
  texts : List Bytes

/-- A view of one of the texts. -/
structure TextView where
  generation : ℕ
  index : ℕ
  length : ℕ

/-- The view of nothing. -/
def TextView.empty : TextView := ⟨0, 0, 0⟩

namespace TextStorage

variable (s : TextStorage)

def clear : TextStorage := ⟨s.generation + 1, []⟩

def store (text : Bytes) : TextStorage × TextView :=
  ({ s with texts := s.texts ++ [text] }, ⟨s.generation, s.texts.length, text.length⟩)

/-- What a view gives. -/
def read (v : TextView) : Option Bytes :=
  if v.length = 0 then some []
  else if v.generation = s.generation then s.texts[v.index]?.map fun text ↦ text.take v.length
  else none

/-- A view of a text that is stored gives the text, whatever has been stored behind it. -/
theorem read_store (text : Bytes) (more : List Bytes) :
    read ⟨s.generation, (s.store text).1.texts ++ more⟩ (s.store text).2 = some text := by
  rw [read]
  split_ifs with hzero hgeneration
  · exact congrArg some (List.length_eq_zero_iff.mp hzero).symm
  · simp [store]
  · exact absurd rfl hgeneration

/-- A view from before the container was cleared gives nothing, unless it is of nothing. -/
theorem read_of_generation_ne {v : TextView} (h : v.generation ≠ s.generation) :
    s.read v = if v.length = 0 then some [] else none := by
  rw [read, if_neg h]

end TextStorage

end Ormpp
