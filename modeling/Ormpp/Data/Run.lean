import Mathlib.Tactic

/-!
# Runs of a step function

A run applies a step function to a list of inputs from left to right. `Along` says that a property
of the state and the next input holds wherever a run is about to take a step; it is established by
an invariant, and it unfolds to a statement about every prefix of the run.
-/

namespace Ormpp

namespace Run

variable {σ α : Type} (step : σ → α → σ)

/-- The property holds of every input of the run and the state it meets. -/
def Along (P : σ → α → Prop) : σ → List α → Prop
  | _, [] => True
  | s, a :: as => P s a ∧ Along P (step s a) as

instance decidableAlong {P : σ → α → Prop} [∀ s a, Decidable (P s a)] :
    (s : σ) → (as : List α) → Decidable (Along step P s as)
  | _, [] => isTrue trivial
  | s, a :: as =>
    have : Decidable (Along step P (step s a) as) := decidableAlong (step s a) as
    inferInstanceAs (Decidable (P s a ∧ Along step P (step s a) as))

theorem along_iff {P : σ → α → Prop} {s : σ} {as : List α} :
    Along step P s as ↔ ∀ pre a post, as = pre ++ a :: post → P (pre.foldl step s) a := by
  induction as generalizing s with
  | nil => simp [Along]
  | cons b as ih =>
    rw [Along, ih]
    constructor
    · rintro ⟨hb, hrest⟩ pre a post heq
      cases pre with
      | nil =>
        cases heq
        exact hb
      | cons c pre =>
        cases heq
        exact hrest pre a post rfl
    · intro h
      exact ⟨h [] b as rfl,
        fun pre a post heq ↦ h (b :: pre) a post (by rw [heq, List.cons_append])⟩

/-- An invariant that every input of the run preserves, and that gives the property. -/
theorem along_of_invariant {P : σ → α → Prop} (Inv : σ → Prop) {s : σ} {as : List α} (hs : Inv s)
    (hstep : ∀ a ∈ as, ∀ s, Inv s → P s a ∧ Inv (step s a)) : Along step P s as := by
  induction as generalizing s with
  | nil => trivial
  | cons a as ih =>
    obtain ⟨ha, hrest⟩ := List.forall_mem_cons.mp hstep
    obtain ⟨hP, hnext⟩ := ha s hs
    exact ⟨hP, ih hnext hrest⟩

theorem Along.of_prefix {P : σ → α → Prop} {s : σ} {as bs : List α} (h : Along step P s bs)
    (has : as <+: bs) : Along step P s as := by
  obtain ⟨cs, rfl⟩ := has
  rw [along_iff] at h ⊢
  rintro pre a post rfl
  exact h pre a (post ++ cs) (by simp)

/-! ## What a run leaves behind -/

variable {β : Type}

/-- Where a step sets a value or leaves it alone, the run leaves the last value that was given. -/
theorem foldl_assigns (read : σ → β) (given : α → Option β)
    (h : ∀ s a, read (step s a) = (given a).getD (read s)) (s : σ) (as : List α) :
    read (as.foldl step s) = (as.filterMap given).getLast?.getD (read s) := by
  induction as using List.reverseRecOn with
  | nil => rfl
  | append_singleton as a ih =>
    rw [List.foldl_append, List.foldl_cons, List.foldl_nil, h, List.filterMap_append]
    cases hgiven : given a with
    | none => rw [List.filterMap_cons_none hgiven, List.filterMap_nil, List.append_nil, ← ih]; rfl
    | some v => rw [List.filterMap_cons_some hgiven, List.filterMap_nil, List.getLast?_concat]; rfl

/-- Where a step writes behind what is there, the run leaves everything that was given. -/
theorem foldl_appends (read : σ → List β) (given : α → List β)
    (h : ∀ s a, read (step s a) = read s ++ given a) (s : σ) (as : List α) :
    read (as.foldl step s) = read s ++ as.flatMap given := by
  induction as generalizing s with
  | nil => exact (List.append_nil _).symm
  | cons a as ih => rw [List.foldl_cons, ih, h, List.append_assoc, List.flatMap_cons]

end Run

end Ormpp
