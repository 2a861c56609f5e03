import Ormpp.Data.Run

/-!
# Mealy machines

A machine that gives one output for every input. Its outputs are those of a function of the input
alone where an invariant of the states makes them so, and machines that stand side by side run each
on its own inputs. A machine that simulates another answers a run as the other does.
-/

namespace Ormpp

structure Mealy (σ α β : Type) where
  step : σ → α → σ × β

namespace Mealy

section

variable {σ α β : Type} (M : Mealy σ α β)

def run : σ → List α → List β
  | _, [] => []
  | s, a :: as => (M.step s a).2 :: run (M.step s a).1 as

theorem run_cons (s : σ) (a : α) (as : List α) :
    M.run s (a :: as) = (M.step s a).2 :: M.run (M.step s a).1 as := rfl

/-- Nothing of an input is left behind for the next ones. -/
theorem run_eq_map {f : α → β} (Inv : σ → Prop)
    (hstep : ∀ s a, Inv s → (M.step s a).2 = f a ∧ Inv (M.step s a).1) {s : σ} (hs : Inv s)
    (as : List α) : M.run s as = as.map f := by
  induction as generalizing s with
  | nil => rfl
  | cons a as ih =>
    obtain ⟨houtput, hnext⟩ := hstep s a hs
    rw [run_cons, houtput, ih hnext, List.map_cons]

theorem length_run (s : σ) (as : List α) : (M.run s as).length = as.length := by
  induction as generalizing s with
  | nil => rfl
  | cons a as ih => rw [run_cons, List.length_cons, ih, List.length_cons]

/-- The state after some inputs. -/
def after (s : σ) (as : List α) : σ := as.foldl (fun s a ↦ (M.step s a).1) s

end

/-! ## Simulations -/

section

variable {σ τ α α' β β' : Type} {M : Mealy σ α β} {N : Mealy τ α' β'} {f : α → α'}
  {R : σ → τ → Prop} {P : σ → α → Prop} {Q : β → β' → Prop}

/-- Related states stay related, and the outputs are related, along a run whose inputs are all
permitted where it meets them. -/
theorem simulates
    (hstep : ∀ s t a, R s t → P s a →
      R (M.step s a).1 (N.step t (f a)).1 ∧ Q (M.step s a).2 (N.step t (f a)).2)
    {s : σ} {t : τ} (hst : R s t) {as : List α}
    (hP : Run.Along (fun s a ↦ (M.step s a).1) P s as) :
    List.Forall₂ Q (M.run s as) (N.run t (as.map f)) ∧ R (M.after s as) (N.after t (as.map f)) := by
  induction as generalizing s t with
  | nil => exact ⟨.nil, hst⟩
  | cons a as ih =>
    obtain ⟨ha, has⟩ := hP
    obtain ⟨hnext, houtput⟩ := hstep s t a hst ha
    obtain ⟨houtputs, hlast⟩ := ih hnext has
    exact ⟨.cons houtput houtputs, hlast⟩

end

/-! ## Machines side by side -/

variable {ι : Type} {σ α β : ι → Type}

def pi (M : (i : ι) → Mealy (σ i) (α i) (β i)) :
    Mealy ((i : ι) → σ i) ((i : ι) → α i) ((i : ι) → β i) where
  step s a := (fun i ↦ ((M i).step (s i) (a i)).1, fun i ↦ ((M i).step (s i) (a i)).2)

theorem map_run_pi (M : (i : ι) → Mealy (σ i) (α i) (β i)) (s : (i : ι) → σ i)
    (as : List ((i : ι) → α i)) (i : ι) :
    ((pi M).run s as).map (· i) = (M i).run (s i) (as.map (· i)) := by
  induction as generalizing s with
  | nil => rfl
  | cons a as ih =>
    rw [run_cons, List.map_cons, ih, List.map_cons, run_cons]
    rfl

/-- Lists of families are equal if they are equal in every place. -/
theorem eq_of_map_eval {xs ys : List ((i : ι) → β i)}
    (hlength : xs.length = ys.length) (h : ∀ i, xs.map (· i) = ys.map (· i)) : xs = ys := by
  apply List.ext_getElem hlength
  intro n hx hy
  funext i
  have hn := List.getElem_of_eq (h i) (by rwa [List.length_map])
  rwa [List.getElem_map, List.getElem_map] at hn

end Mealy

end Ormpp
