import Ormpp.Bind.Escape
import Ormpp.Query.Fidelity

/-!
# C strings

A buffer that is handed over without its length is read up to its first NUL. Of a text that is
written to its front, this is all exactly where the text has no NUL and something ends it.
-/

namespace Ormpp

theorem untilNul_eq_iff {text : Bytes} : untilNul text = text ↔ NulFree text := by
  rw [untilNul, List.takeWhile_eq_self_iff]
  constructor
  · intro h hmem
    exact absurd (h 0 hmem) (by decide)
  · intro h b hb
    refine bne_iff_ne.mpr ?_
    rintro rfl
    exact h hb

theorem nulFree_untilNul (text : Bytes) : NulFree (untilNul text) := by
  intro hmem
  simpa using List.mem_takeWhile_imp hmem

/-- The text in front of the first NUL, and the rest from there on. -/
theorem exists_untilNul (text : Bytes) :
    ∃ rest, text = untilNul text ++ rest ∧ (rest = [] ∨ ∃ more, rest = 0 :: more) := by
  refine ⟨text.dropWhile fun b ↦ b != 0, List.takeWhile_append_dropWhile.symm, ?_⟩
  rcases h : text.dropWhile fun b ↦ b != 0 with _ | ⟨b, more⟩
  · exact .inl rfl
  · have hb := List.head?_dropWhile_not (fun b : Byte ↦ b != 0) text
    rw [h] at hb
    obtain rfl : b = 0 := by simpa using hb
    exact .inr ⟨more, rfl⟩

theorem untilNul_append_nul {text : Bytes} (h : NulFree text) (rest : Bytes) :
    untilNul (text ++ 0 :: rest) = text := by
  have hwhole : untilNul text = text := untilNul_eq_iff.mpr h
  rw [untilNul, List.takeWhile_eq_self_iff] at hwhole
  rw [untilNul, List.takeWhile_append_of_pos hwhole, List.takeWhile_cons_of_neg (by decide),
    List.append_nil]

/-- A text goes no further than its first NUL. -/
theorem untilNul_append_of_mem {text : Bytes} (h : 0 ∈ text) (rest : Bytes) :
    untilNul (text ++ rest) = untilNul text := by
  obtain ⟨behind, heq, rfl | ⟨more, rfl⟩⟩ := exists_untilNul text
  · rw [List.append_nil] at heq
    exact absurd h (untilNul_eq_iff.mp heq.symm)
  · have hfree := nulFree_untilNul text
    have hrest : text ++ rest = untilNul text ++ 0 :: (more ++ rest) := by
      rw [← List.cons_append, ← List.append_assoc, ← heq]
    rw [hrest, untilNul_append_nul hfree]

/-! ## Padding -/

/-- The text, and zeros behind it. -/
def PaddedTo (value text : Bytes) : Prop := ∃ k, value = text ++ List.replicate k 0

/-- Behind the first zero there are only zeros. -/
def ZerosBehind (value : Bytes) : Prop := ∃ text, NulFree text ∧ PaddedTo value text

theorem paddedTo_self (text : Bytes) : PaddedTo text text := ⟨0, (List.append_nil text).symm⟩

theorem zerosBehind_of_nulFree {text : Bytes} (h : NulFree text) : ZerosBehind text :=
  ⟨text, h, paddedTo_self text⟩

/-- The text in front of the first zero is padded to an array exactly where zeros fill the rest. -/
theorem paddedTo_untilNul_iff {value : Bytes} :
    PaddedTo value (untilNul value) ↔ ZerosBehind value := by
  constructor
  · intro h
    exact ⟨untilNul value, nulFree_untilNul value, h⟩
  · rintro ⟨text, hfree, k, rfl⟩
    refine ⟨k, ?_⟩
    rcases k with _ | k
    · rw [List.replicate_zero, List.append_nil, untilNul_eq_iff.mpr hfree, List.append_nil]
    · rw [List.replicate_succ, untilNul_append_nul hfree]

end Ormpp
