import Mathlib.Tactic

/-!
# Splitting a sequence into bounded chunks

A transport whose frames hold at most `M` items cuts a longer sequence into full chunks of `M`
items and closes it with one chunk that is strictly shorter, so that the receiver can tell the last
chunk by its length alone. When the length is a multiple of `M` the closing chunk is empty; without
it the receiver would go on reading.

`chunks` is the list of those chunks. Nothing here depends on what the items are.
-/

namespace Ormpp

variable {α : Type*}

/-- The chunks of a sequence: full ones of `M + 1` items, then one shorter. The bound is written
`M + 1` because a frame that holds nothing could not make progress. -/
def chunks (M : ℕ) (l : List α) : List (List α) :=
  if l.length < M + 1 then [l] else l.take (M + 1) :: chunks M (l.drop (M + 1))
termination_by l.length
decreasing_by
  rw [List.length_drop]
  omega

theorem chunks_of_lt {M : ℕ} {l : List α} (h : l.length < M + 1) : chunks M l = [l] := by
  rw [chunks, if_pos h]

theorem chunks_of_le {M : ℕ} {l : List α} (h : M + 1 ≤ l.length) :
    chunks M l = l.take (M + 1) :: chunks M (l.drop (M + 1)) := by
  rw [chunks, if_neg (Nat.not_lt.mpr h)]

/-- Induction along the chunks: a short sequence is one chunk, a long one is a full chunk in front
of the chunks of what is left. -/
theorem chunks_induction {M : ℕ} {motive : List α → Prop}
    (short : ∀ l, l.length < M + 1 → motive l)
    (long : ∀ l, M + 1 ≤ l.length → motive (l.drop (M + 1)) → motive l) (l : List α) :
    motive l := by
  induction l using chunks.induct (M := M) with
  | case1 l h => exact short l h
  | case2 l h ih => exact long l (Nat.not_lt.mp h) ih

theorem chunks_ne_nil (M : ℕ) (l : List α) : chunks M l ≠ [] := by
  rw [chunks]
  split <;> simp

theorem length_le_of_mem_chunks {M : ℕ} {l : List α} :
    ∀ c ∈ chunks M l, c.length ≤ M + 1 := by
  induction l using chunks_induction (M := M) with
  | short l h =>
    rw [chunks_of_lt h]
    simp only [List.mem_singleton, forall_eq]
    omega
  | long l h ih =>
    rw [chunks_of_le h, List.forall_mem_cons]
    exact ⟨by rw [List.length_take]; omega, ih⟩

/-- The chunks put together again. -/
@[simp] theorem flatten_chunks (M : ℕ) (l : List α) : (chunks M l).flatten = l := by
  induction l using chunks_induction (M := M) with
  | short l h => rw [chunks_of_lt h, List.flatten_singleton]
  | long l h ih => rw [chunks_of_le h, List.flatten_cons, ih, List.take_append_drop]

end Ormpp
