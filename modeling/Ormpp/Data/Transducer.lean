import Mathlib.Tactic

/-!
# Transducers

A machine that reads a list from left to right and writes a list as it goes. `run` is its state and
its output so far; `output` adds what the machine writes when the input ends. Both can be computed
in parts: what a machine does with a second half depends on the first half only through the state.
-/

namespace Ormpp

structure Transducer (σ α β : Type) where
  step : σ → α → σ × List β
  finish : σ → List β

namespace Transducer

variable {σ α β : Type} (T : Transducer σ α β)

def run : σ → List α → σ × List β
  | s, [] => (s, [])
  | s, a :: as => ((run (T.step s a).1 as).1, (T.step s a).2 ++ (run (T.step s a).1 as).2)

def output (s : σ) (as : List α) : List β := (T.run s as).2 ++ T.finish (T.run s as).1

theorem run_append (s : σ) (as bs : List α) :
    T.run s (as ++ bs)
      = ((T.run (T.run s as).1 bs).1, (T.run s as).2 ++ (T.run (T.run s as).1 bs).2) := by
  induction as generalizing s with
  | nil => rfl
  | cons a as ih => rw [List.cons_append, run, ih, run, List.append_assoc]

theorem output_append (s : σ) (as bs : List α) :
    T.output s (as ++ bs) = (T.run s as).2 ++ T.output (T.run s as).1 bs := by
  rw [output, run_append, output, List.append_assoc]

theorem output_cons (s : σ) (a : α) (as : List α) :
    T.output s (a :: as) = (T.step s a).2 ++ T.output (T.step s a).1 as := by
  rw [output, run, output, List.append_assoc]

theorem output_nil (s : σ) : T.output s [] = T.finish s := by
  rw [output, run, List.nil_append]

/-- A first half that is written without a trace in the state. -/
theorem output_append_of_run {s t : σ} {as : List α} {out : List β} (h : T.run s as = (t, out))
    (bs : List α) : T.output s (as ++ bs) = out ++ T.output t bs := by
  rw [output_append, h]

theorem run_append_of_run {s t : σ} {as : List α} {out : List β} (h : T.run s as = (t, out))
    (bs : List α) : T.run s (as ++ bs) = ((T.run t bs).1, out ++ (T.run t bs).2) := by
  rw [run_append, h]

/-- A stretch that the state collects, and of which nothing is written. -/
theorem run_collect {γ : Type} {p : γ → Prop} (f : List γ → σ) (g : γ → α)
    (hstep : ∀ xs x, p x → T.step (f xs) (g x) = (f (xs ++ [x]), [])) {ys : List γ}
    (h : ∀ y ∈ ys, p y) (xs : List γ) : T.run (f xs) (ys.map g) = (f (xs ++ ys), []) := by
  induction ys generalizing xs with
  | nil =>
    rw [List.append_nil]
    rfl
  | cons y ys ih =>
    obtain ⟨hy, hys⟩ := List.forall_mem_cons.mp h
    rw [List.map_cons, run, hstep xs y hy, ih hys, List.append_assoc]
    rfl

/-- Where each thing that is written is the image of what another machine writes. -/
theorem output_map {γ : Type} {U : Transducer σ α γ} (f : β → γ)
    (hstep : ∀ s a, U.step s a = ((T.step s a).1, (T.step s a).2.map f))
    (hfinish : ∀ s, U.finish s = (T.finish s).map f) (s : σ) (as : List α) :
    U.output s as = (T.output s as).map f := by
  induction as generalizing s with
  | nil => rw [output_nil, output_nil, hfinish]
  | cons a as ih => rw [output_cons, output_cons, hstep, ih, List.map_append]

end Transducer

end Ormpp
