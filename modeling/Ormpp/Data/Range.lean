import Mathlib.Data.List.Chain
import Mathlib.Order.WithBot

/-!
# Contiguous ranges

Half-open ranges over a linear order, the last of which may have no end. In a list of ranges that
follow each other without a gap a value is looked up in two ways: by both ends, or by the upper end
alone, taking the first range that ends above the value. The second way gives the first range all
the values below it as well.
-/

namespace Ormpp

/-- The values from `lower` on that are below `upper`. -/
structure Range (α : Type) where
  lower : α
  upper : WithTop α

namespace Range

variable {α β : Type} [LinearOrder α]

def Contains (r : Range α) (v : α) : Prop := r.lower ≤ v ∧ (v : WithTop α) < r.upper

instance (r : Range α) (v : α) : Decidable (r.Contains v) := inferInstanceAs (Decidable (_ ∧ _))

/-- No range is empty, and each begins where the one before it ends. -/
structure Contiguous (range : β → Range α) (l : List β) : Prop where
  lower_lt_upper : ∀ p ∈ l, ((range p).lower : WithTop α) < (range p).upper
  chain : l.IsChain fun p q ↦ (range p).upper = (range q).lower

variable {range : β → Range α} {p : β} {l : List β}

theorem Contiguous.tail (h : Contiguous range (p :: l)) : Contiguous range l :=
  ⟨fun q hq ↦ h.lower_lt_upper q (List.mem_cons_of_mem p hq), (List.isChain_cons.mp h.chain).2⟩

/-- Everything behind a range lies above it. -/
theorem Contiguous.upper_le_lower (h : Contiguous range (p :: l)) {q : β} (hq : q ∈ l) :
    (range p).upper ≤ (range q).lower := by
  induction l generalizing p with
  | nil => exact absurd hq List.not_mem_nil
  | cons r l ih =>
    have hnext : (range p).upper = (range r).lower := (List.isChain_cons.mp h.chain).1 r rfl
    obtain rfl | hq := List.mem_cons.mp hq
    · exact hnext.le
    · calc (range p).upper = (range r).lower := hnext
        _ ≤ (range r).upper := (h.tail.lower_lt_upper r List.mem_cons_self).le
        _ ≤ (range q).lower := ih h.tail hq

/-- A value below the end of a range is in no range behind it. -/
theorem Contiguous.not_lower_le (h : Contiguous range (p :: l)) {q : β} (hq : q ∈ l) {v : α}
    (hv : (v : WithTop α) < (range p).upper) : ¬(range q).lower ≤ v := fun hle ↦
  absurd (hv.trans_le ((h.upper_le_lower hq).trans (WithTop.coe_le_coe.mpr hle))) (lt_irrefl _)

/-- **Lookup by the upper end.** The first range gets every value below its end, any other the
values between its ends. -/
theorem Contiguous.find?_lt_upper_iff (h : Contiguous range l) {v : α} :
    l.find? (fun q ↦ (v : WithTop α) < (range q).upper) = some p ↔
      p ∈ l ∧ (v : WithTop α) < (range p).upper ∧ (l.head? = some p ∨ (range p).lower ≤ v) := by
  induction l with
  | nil => simp
  | cons q l ih =>
    by_cases hv : (v : WithTop α) < (range q).upper
    · rw [List.find?_cons_of_pos (by simpa using hv), List.head?_cons, Option.some_inj]
      constructor
      · rintro rfl
        exact ⟨List.mem_cons_self, hv, .inl rfl⟩
      · rintro ⟨hmem, -, rfl | hle⟩
        · rfl
        · obtain rfl | hmem := List.mem_cons.mp hmem
          · rfl
          · exact absurd hle (h.not_lower_le hmem hv)
    · rw [List.find?_cons_of_neg (by simpa using hv), ih h.tail]
      -- The value is not below the first range, so it is from the beginning of the second one on.
      have hfirst (hhead : l.head? = some p) : (range p).lower ≤ v := by
        have hnext : (range q).upper = (range p).lower := (List.isChain_cons.mp h.chain).1 p hhead
        rw [hnext, not_lt] at hv
        exact WithTop.coe_le_coe.mp hv
      constructor
      · rintro ⟨hmem, hlt, hhead | hle⟩
        · exact ⟨List.mem_cons_of_mem q hmem, hlt, .inr (hfirst hhead)⟩
        · exact ⟨List.mem_cons_of_mem q hmem, hlt, .inr hle⟩
      · rintro ⟨hmem, hlt, hor⟩
        obtain rfl | hmem := List.mem_cons.mp hmem
        · exact absurd hlt hv
        · rw [List.head?_cons, Option.some_inj] at hor
          obtain rfl | hle := hor
          · exact absurd hlt hv
          · exact ⟨hmem, hlt, .inr hle⟩

/-- **Lookup by both ends.** -/
theorem Contiguous.find?_contains_iff (h : Contiguous range l) {v : α} :
    l.find? (fun q ↦ (range q).Contains v) = some p ↔ p ∈ l ∧ (range p).Contains v := by
  induction l with
  | nil => simp
  | cons q l ih =>
    by_cases hv : (range q).Contains v
    · rw [List.find?_cons_of_pos (by simpa using hv), Option.some_inj]
      constructor
      · rintro rfl
        exact ⟨List.mem_cons_self, hv⟩
      · rintro ⟨hmem, hp⟩
        obtain rfl | hmem := List.mem_cons.mp hmem
        · rfl
        · exact absurd hp.1 (h.not_lower_le hmem hv.2)
    · rw [List.find?_cons_of_neg (by simpa using hv), ih h.tail, List.mem_cons, or_and_right]
      exact ⟨.inr, fun hor ↦ hor.resolve_left fun hq ↦ hv (hq.1 ▸ hq.2)⟩

end Range

end Ormpp
