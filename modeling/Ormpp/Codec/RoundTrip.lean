import Ormpp.Codec.CString
import Ormpp.Codec.Literal

/-!
# Reading back what was bound

A value that is bound, stored and read comes back if the number that is bound extends to it, if the
text has no NUL, if the text leaves no more than one byte of its array, and if an empty vector in
an optional field has data of its own.
-/

namespace Ormpp

namespace Sqlite

/-- Reading the column gives the value that was bound, whatever lies behind the text of the column
in memory. -/
def RoundTrips (allocated : Bool) (f : DiscreteField) (v : f.Value) : Prop :=
  ∀ beyond, assign beyond (setParamBind allocated f v) f = v

/-! ## What comes back -/

/-- The number has no more bits than are bound, or is the extension of those; the text has no NUL,
and that of an array fills it but for one byte at most. -/
def Kept : (t : DiscreteType) → t.Value → Prop
  | .number t, v => t.underlying.bits ≤ boundBits t ∨
      Cast.FitsSigned (boundBits t) (Cast.toSigned t.underlying.bits v.val)
  | .string, text => NulFree text
  | .charArray N, text => N ≤ (untilNul text.val).length + 1
  | .blob, _ => True

/-- The value is not bound as NULL. -/
def Present (allocated : Bool) : (t : DiscreteType) → t.Value → Prop
  | .blob, b => b = ([] : Bytes) → allocated = true
  | _, _ => True

def FieldKept (allocated : Bool) : (f : DiscreteField) → f.Value → Prop
  | .value t, v => Kept t v
  | .optional _, none => True
  | .optional t, some v => Present allocated t v ∧ Kept t v

/-! ## Numbers -/

section Numbers

variable {t : NumberType}

theorem readNumber_bindNumber (v : Number t) :
    readNumber (bindNumber v) t = .ofInt t (Cast.toSigned (boundBits t) v.val) := by
  rw [bindNumber_eq]
  obtain t | t := t
  · rw [readNumber, boundBits]
    split_ifs
    · rfl
    · rw [columnInt, columnInt64, Cast.toSigned_toSigned le_rfl]
  · rw [readNumber, boundBits, columnInt, columnInt64, Cast.toSigned_toSigned le_rfl]

theorem readNumber_eq_iff (v : Number t) :
    readNumber (bindNumber v) t = v ↔ Kept (.number t) v := by
  rw [readNumber_bindNumber]
  exact Number.ofInt_toSigned_iff v (one_lt_boundBits t)

end Numbers

/-! ## Texts -/

/-- What is copied behind the NUL is what lies in memory there. -/
theorem copyText_eq_iff {N : ℕ} (text : { text : Bytes // text.length = N }) :
    (∀ beyond, copyText beyond (untilNul text.val) N = text)
      ↔ N ≤ (untilNul text.val).length + 1 := by
  obtain ⟨text, hlength⟩ := text
  obtain ⟨rest, heq, rfl | ⟨more, rfl⟩⟩ := exists_untilNul text
  · have hwhole : untilNul text = text := by rw [List.append_nil] at heq; exact heq.symm
    refine iff_of_true (fun beyond ↦ Subtype.ext ?_) (by rw [hwhole, hlength]; exact N.le_succ)
    change (untilNul text ++ _).take N = text
    rw [hwhole, ← hlength, List.take_left]
  · have hN : N = (untilNul text).length + (more.length + 1) := by
      rw [← hlength, congrArg List.length heq, List.length_append, List.length_cons]
    have hcopy (beyond : ℕ → Byte) : (copyText beyond (untilNul text) N).val
        = untilNul text ++ 0 :: ((List.range N).map beyond).take more.length := by
      change (untilNul text ++ 0 :: (List.range N).map beyond).take N = _
      generalize (List.range N).map beyond = memory
      rw [hN, List.take_length_add_append, List.take_succ_cons]
    constructor
    · intro h
      obtain _ | ⟨b, more⟩ := more
      · exact hN.le
      · -- memory that does not begin with the byte behind the NUL
        have hcopied := hcopy fun _ ↦ if b = 0 then 1 else 0
        rw [congrArg Subtype.val (h fun _ ↦ if b = 0 then 1 else 0)] at hcopied
        have hmore := List.append_cancel_left (heq.symm.trans hcopied)
        rw [List.length_cons] at hN
        rw [hN, ← Nat.add_assoc, List.range_succ_eq_map, List.map_cons, List.length_cons,
          List.take_succ_cons] at hmore
        have hhead : b = if b = 0 then 1 else 0 := (List.cons.inj (List.cons.inj hmore).2).1
        split_ifs at hhead with hb
        · exact absurd (hb.symm.trans hhead) (by decide)
        · exact absurd hhead hb
    · intro hle
      change N ≤ (untilNul text).length + 1 at hle
      have hnil : more = [] := List.eq_nil_of_length_eq_zero (by omega)
      refine fun beyond ↦ Subtype.ext ((hcopy beyond).trans ?_)
      rw [hnil] at heq ⊢
      exact heq.symm

/-! ## Fields -/

theorem bindBlob_eq_null_iff {allocated : Bool} {b : Bytes} :
    bindBlob allocated b = .null ↔ ¬(b = [] → allocated = true) := by
  rw [bindBlob, Classical.not_imp, Bool.not_eq_true]
  split_ifs with h
  · exact iff_of_true rfl h
  · exact iff_of_false nofun h

theorem bindValue_eq_null_iff {allocated : Bool} {t : DiscreteType} (v : t.Value) :
    bindValue allocated t v = .null ↔ ¬Present allocated t v := by
  obtain t | _ | N | _ := t
  · have hbound : bindNumber v = .integer _ := bindNumber_eq v
    refine iff_of_false (fun h ↦ ?_) (not_not_intro trivial)
    exact nomatch hbound.symm.trans h
  · exact iff_of_false nofun (not_not_intro trivial)
  · exact iff_of_false nofun (not_not_intro trivial)
  · exact bindBlob_eq_null_iff

/-- A value that is present is read as itself exactly when it is kept. -/
theorem readValue_bindValue_iff {allocated : Bool} {t : DiscreteType} {v : t.Value}
    (hpresent : Present allocated t v) :
    (∀ beyond, readValue beyond (bindValue allocated t v) t = v) ↔ Kept t v := by
  obtain t | _ | N | _ := t
  · exact (forall_const (ℕ → Byte)).trans (readNumber_eq_iff v)
  · exact (forall_const (ℕ → Byte)).trans untilNul_eq_iff
  · exact copyText_eq_iff v
  · have hblob : bindBlob allocated v = .blob v :=
      if_neg fun h ↦ bindBlob_eq_null_iff.mp (if_pos h) hpresent
    refine iff_of_true (fun beyond ↦ ?_) trivial
    change columnBlob (bindBlob allocated v) = v
    rw [hblob]
    rfl

/-- Only an empty vector is not present, and it is what NULL is read as. -/
theorem assign_of_not_present {allocated : Bool} {t : DiscreteType} {v : t.Value}
    (hpresent : ¬Present allocated t v) (beyond : ℕ → Byte) :
    assign beyond (bindValue allocated t v) (.value t) = v ∧ Kept t v := by
  have hassign : assign beyond (bindValue allocated t v) (.value t) = t.zero :=
    if_pos ((bindValue_eq_null_iff v).mpr hpresent)
  obtain t | _ | N | _ := t
  · exact absurd trivial hpresent
  · exact absurd trivial hpresent
  · exact absurd trivial hpresent
  · obtain ⟨rfl, -⟩ := Classical.not_imp.mp hpresent
    exact ⟨hassign, trivial⟩

theorem assign_value_of_present {allocated : Bool} {t : DiscreteType} {v : t.Value}
    (hpresent : Present allocated t v) (beyond : ℕ → Byte) :
    assign beyond (bindValue allocated t v) (.value t)
      = readValue beyond (bindValue allocated t v) t :=
  if_neg fun h ↦ (bindValue_eq_null_iff v).mp h hpresent

theorem assign_optional_of_present {allocated : Bool} {t : DiscreteType} {v : t.Value}
    (hpresent : Present allocated t v) (beyond : ℕ → Byte) :
    assign beyond (bindValue allocated t v) (.optional t)
      = some (readValue beyond (bindValue allocated t v) t) :=
  if_neg fun h ↦ (bindValue_eq_null_iff v).mp h hpresent

/-- **The SQLite codec.** A value comes back exactly when it is kept. -/
theorem roundTrips_iff (allocated : Bool) (f : DiscreteField) (v : f.Value) :
    RoundTrips allocated f v ↔ FieldKept allocated f v := by
  obtain t | t := f
  · by_cases hpresent : Present allocated t v
    · refine (forall_congr' fun beyond ↦ ?_).trans (readValue_bindValue_iff hpresent)
      exact Eq.congr_left (assign_value_of_present hpresent beyond)
    · exact iff_of_true (fun beyond ↦ (assign_of_not_present hpresent beyond).1)
        (assign_of_not_present hpresent fun _ ↦ 0).2
  · obtain _ | v := v
    · exact iff_of_true (fun _ ↦ rfl) trivial
    · by_cases hpresent : Present allocated t v
      · refine Iff.trans (forall_congr' fun beyond ↦ ?_)
          ((readValue_bindValue_iff hpresent).trans (and_iff_right hpresent).symm)
        exact (Eq.congr_left (assign_optional_of_present hpresent beyond)).trans Option.some_inj
      · have hassign : assign (fun _ ↦ 0) (bindValue allocated t v) (.optional t) = none :=
          if_pos ((bindValue_eq_null_iff v).mpr hpresent)
        refine iff_of_false (fun h ↦ ?_) fun h ↦ hpresent h.1
        exact nomatch hassign.symm.trans (h fun _ ↦ 0)

/-- An enumerator that needs 64 bits. -/
theorem not_roundTrips : ¬ ∀ (allocated : Bool) (f : DiscreteField) (v : f.Value),
    RoundTrips allocated f v := by
  intro h
  have hread := h true (.value (.number (.enum .int64))) ⟨4294967296, by decide⟩ fun _ ↦ 0
  exact absurd (congrArg Number.val hread) (by decide)

end Sqlite

end Ormpp
