import Ormpp.Data.Interleaving

/-!
# Objects with one owner

Objects are numbered as they are made. Some lie in a store, and every coroutine holds at most one:
when the numbers of all of them together are distinct, each object has one place, the store or the
one coroutine that holds it.
-/

namespace Ormpp

/-- The objects are distinct, and all have been made. -/
structure Distinct (created : ℕ) (objects : Multiset ℕ) : Prop where
  nodup : objects.Nodup
  made : ∀ i ∈ objects, i < created

variable {created : ℕ} {objects objects' : Multiset ℕ}

theorem distinct_zero (created : ℕ) : Distinct created 0 where
  nodup := Multiset.nodup_zero
  made i hi := absurd hi (Multiset.notMem_zero i)

/-- Objects may be moved and let go. -/
theorem Distinct.of_le (h : Distinct created objects) (hle : objects' ≤ objects) :
    Distinct created objects' where
  nodup := Multiset.nodup_of_le hle h.nodup
  made i hi := h.made i (Multiset.mem_of_le hle hi)

/-- A new object is none of the old ones. -/
theorem Distinct.make (h : Distinct created objects) :
    Distinct (created + 1) ({created} + objects) where
  nodup := by
    rw [Multiset.singleton_add, Multiset.nodup_cons]
    exact ⟨fun hmem ↦ (h.made _ hmem).false, h.nodup⟩
  made i hi := by
    rw [Multiset.singleton_add, Multiset.mem_cons] at hi
    obtain rfl | hi := hi
    · exact Nat.lt_succ_self _
    · exact Nat.lt_succ_of_lt (h.made i hi)

/-- Nothing but the numbers is left of what is made and let go. -/
theorem Distinct.mono {created' : ℕ} (h : Distinct created objects) (hle : created ≤ created') :
    Distinct created' objects where
  nodup := h.nodup
  made i hi := (h.made i hi).trans_le hle

/-- Several objects that are made one after the other. -/
theorem Distinct.makeRange (h : Distinct created objects) (n : ℕ) :
    Distinct (created + n) (↑(List.range' created n) + objects) := by
  induction n generalizing created objects with
  | zero => rwa [List.range'_zero, Multiset.coe_nil, zero_add]
  | succ n ih =>
    have hnext := ih h.make
    rwa [add_left_comm, ← add_assoc, Multiset.singleton_add, Multiset.cons_coe, ← List.range'_succ,
      Nat.add_right_comm, Nat.add_assoc] at hnext

/-! ## One place for every object -/

section Exclusive

variable {Shared Frame Call Answer Action : Type}

/-- Every object is in the store once, or has one holder. -/
structure Exclusive (stored : List ℕ) (holds : Frame → Option ℕ) (frames : List Frame) : Prop where
  storedOnce : stored.Nodup
  notStored : ∀ (j : ℕ) (f : Frame) (id : ℕ), frames[j]? = some f → holds f = some id → id ∉ stored
  oneHolder : ∀ (j k : ℕ) (f g : Frame) (id : ℕ), frames[j]? = some f → frames[k]? = some g →
    holds f = some id → holds g = some id → j = k

/-- What a frame holds, as objects. -/
def held (holds : Frame → Option ℕ) (f : Frame) : Multiset ℕ := ((holds f).toList : Multiset ℕ)

theorem held_of_eq_some {holds : Frame → Option ℕ} {f : Frame} {id : ℕ} (h : holds f = some id) :
    held holds f = {id} := by
  rw [held, h]
  rfl

theorem Exclusive.of_nodup {stored : List ℕ} {holds : Frame → Option ℕ} {frames : List Frame}
    (h : ((stored : Multiset ℕ) + Program.weight (held holds) frames).Nodup) :
    Exclusive stored holds frames := by
  obtain ⟨hstored, hframes, hdisjoint⟩ := Multiset.nodup_add.mp h
  have hheld {f : Frame} {id : ℕ} (hid : holds f = some id) : id ∈ held holds f := by
    rw [held_of_eq_some hid]
    exact Multiset.mem_singleton_self id
  constructor
  · exact hstored
  · intro j f id hf hid hmem
    have hweight : id ∈ Program.weight (held holds) frames :=
      Program.mem_weight.mpr ⟨f, List.mem_of_getElem? hf, hheld hid⟩
    exact Multiset.disjoint_left.mp hdisjoint hmem hweight
  · intro j k f g id hf hg hfid hgid
    by_contra hne
    rw [Program.weight_eraseIdx _ hf] at hframes
    have hothers : g ∈ frames.eraseIdx j :=
      List.mem_eraseIdx_iff_getElem?.mpr ⟨k, Ne.symm hne, hg⟩
    have hweight : id ∈ Program.weight (held holds) (frames.eraseIdx j) :=
      Program.mem_weight.mpr ⟨g, hothers, hheld hgid⟩
    exact Multiset.disjoint_left.mp (Multiset.nodup_add.mp hframes).2.2 (hheld hfid) hweight

end Exclusive

end Ormpp
