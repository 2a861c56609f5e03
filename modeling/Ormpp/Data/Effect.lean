import Mathlib.Tactic

/-!
# Stateful actions that may throw

The rules for sequencing actions of type `EStateM ε σ α`: what a sequence does once the outcome of
its first half is known, and what can be read off a sequence that ended in a given way. An
exception carries the state at the point of the throw, so what a failed action has consumed is not
lost: `final` is the state an action ends in, however it ends.
-/

namespace Ormpp

namespace Effect

variable {ε σ α β : Type}

theorem bind_of_ok {x : EStateM ε σ α} {f : α → EStateM ε σ β} {s s' : σ} {a : α}
    (h : x s = .ok a s') : (x >>= f) s = f a s' := by
  change EStateM.bind x f s = _
  rw [EStateM.bind, h]

theorem bind_of_error {x : EStateM ε σ α} {f : α → EStateM ε σ β} {s s' : σ} {e : ε}
    (h : x s = .error e s') : (x >>= f) s = .error e s' := by
  change EStateM.bind x f s = _
  rw [EStateM.bind, h]

/-- Two sequences with the same second half agree as soon as their first halves do. -/
theorem bind_congr {x y : EStateM ε σ α} {f : α → EStateM ε σ β} {s t : σ} (h : x s = y t) :
    (x >>= f) s = (y >>= f) t := by
  change EStateM.bind x f s = EStateM.bind y f t
  rw [EStateM.bind, EStateM.bind, h]

theorem bind_eq_ok {x : EStateM ε σ α} {f : α → EStateM ε σ β} {s s' : σ} {b : β}
    (h : (x >>= f) s = .ok b s') : ∃ a t, x s = .ok a t ∧ f a t = .ok b s' := by
  cases hx : x s with
  | ok a t => exact ⟨a, t, rfl, by rwa [bind_of_ok hx] at h⟩
  | error e t => rw [bind_of_error hx] at h; exact absurd h (by simp)

theorem bind_eq_error {x : EStateM ε σ α} {f : α → EStateM ε σ β} {s s' : σ} {e : ε}
    (h : (x >>= f) s = .error e s') :
    x s = .error e s' ∨ ∃ a t, x s = .ok a t ∧ f a t = .error e s' := by
  cases hx : x s with
  | ok a t => exact Or.inr ⟨a, t, rfl, by rwa [bind_of_ok hx] at h⟩
  | error e' t =>
    rw [bind_of_error hx] at h
    cases h
    exact Or.inl rfl

theorem map_of_ok {x : EStateM ε σ α} {s s' : σ} {a : α} (f : α → β) (h : x s = .ok a s') :
    (f <$> x) s = .ok (f a) s' := by
  change EStateM.map f x s = _
  rw [EStateM.map, h]

theorem map_of_error {x : EStateM ε σ α} {s s' : σ} {e : ε} (f : α → β) (h : x s = .error e s') :
    (f <$> x) s = .error e s' := by
  change EStateM.map f x s = _
  rw [EStateM.map, h]

theorem get_bind {f : σ → EStateM ε σ β} {s : σ} : ((get : EStateM ε σ σ) >>= f) s = f s s := rfl

theorem modify_bind {g : σ → σ} {f : PUnit → EStateM ε σ β} {s : σ} :
    ((modify g : EStateM ε σ PUnit) >>= f) s = f () (g s) := rfl

/-! ## The final state -/

/-- The state in which an action ends. -/
def final (x : EStateM ε σ α) (s : σ) : σ :=
  match x s with
  | .ok _ t => t
  | .error _ t => t

/-- The action ends with an exception. -/
def Throws (x : EStateM ε σ α) (s : σ) : Prop := ∃ e t, x s = .error e t

theorem final_of_ok {x : EStateM ε σ α} {s t : σ} {a : α} (h : x s = .ok a t) : final x s = t := by
  rw [final, h]

theorem final_of_error {x : EStateM ε σ α} {s t : σ} {e : ε} (h : x s = .error e t) :
    final x s = t := by
  rw [final, h]

theorem final_bind_of_ok {x : EStateM ε σ α} {f : α → EStateM ε σ β} {s t : σ} {a : α}
    (h : x s = .ok a t) : final (x >>= f) s = final (f a) t := by
  rw [final, bind_of_ok h, final]

theorem final_bind_of_error {x : EStateM ε σ α} {f : α → EStateM ε σ β} {s t : σ} {e : ε}
    (h : x s = .error e t) : final (x >>= f) s = t :=
  final_of_error (bind_of_error h)

theorem final_get_bind {f : σ → EStateM ε σ β} {s : σ} :
    final ((get : EStateM ε σ σ) >>= f) s = final (f s) s := rfl

theorem throws_of_error {x : EStateM ε σ α} {s t : σ} {e : ε} (h : x s = .error e t) :
    Throws x s := ⟨e, t, h⟩

theorem final_map (f : α → β) (x : EStateM ε σ α) (s : σ) : final (f <$> x) s = final x s := by
  cases h : x s with
  | ok a t => rw [final_of_ok (map_of_ok f h), final_of_ok h]
  | error e t => rw [final_of_error (map_of_error f h), final_of_error h]

theorem Throws.bind {x : EStateM ε σ α} {s : σ} (h : Throws x s) (f : α → EStateM ε σ β) :
    Throws (x >>= f) s := by
  obtain ⟨e, t, h⟩ := h
  exact ⟨e, t, bind_of_error h⟩

/-- The action leaves a component of the state as it is, however it ends. -/
def Keeps {τ : Type} (g : σ → τ) (x : EStateM ε σ α) : Prop := ∀ s, g (final x s) = g s

variable {τ : Type} {g : σ → τ}

theorem keeps_pure (a : α) : Keeps g (pure a : EStateM ε σ α) := fun _ ↦ rfl

theorem keeps_throw (e : ε) : Keeps g (throw e : EStateM ε σ α) := fun _ ↦ rfl

theorem keeps_get : Keeps g (get : EStateM ε σ σ) := fun _ ↦ rfl

theorem keeps_modify {f : σ → σ} (h : ∀ s, g (f s) = g s) :
    Keeps g (modify f : EStateM ε σ PUnit) := h

/-- What the second half keeps is as the first half has left it. -/
theorem final_bind_of_keeps {x : EStateM ε σ α} {f : α → EStateM ε σ β}
    (hf : ∀ a, Keeps g (f a)) (s : σ) : g (final (x >>= f) s) = g (final x s) := by
  cases hx : x s with
  | ok a t => rw [final_bind_of_ok hx, hf, final_of_ok hx]
  | error e t => rw [final_bind_of_error hx, final_of_error hx]

theorem Keeps.bind {x : EStateM ε σ α} {f : α → EStateM ε σ β} (hx : Keeps g x)
    (hf : ∀ a, Keeps g (f a)) : Keeps g (x >>= f) := by
  intro s
  rw [final_bind_of_keeps hf, hx]

theorem Keeps.map {x : EStateM ε σ α} (hx : Keeps g x) (f : α → β) : Keeps g (f <$> x) := by
  intro s
  rw [final_map, hx]

/-! ## A change that an action does not notice -/

/-- The outcome with another state. -/
def mapState (f : σ → σ) : EStateM.Result ε σ α → EStateM.Result ε σ α
  | .ok a t => .ok a (f t)
  | .error e t => .error e (f t)

/-- From states with a property, which the action keeps, it does the same before a change of the
state and after it. -/
structure Commutes (p : σ → Prop) (f : σ → σ) (x : EStateM ε σ α) : Prop where
  run : ∀ s, p s → x (f s) = mapState f (x s)
  keeps : ∀ s, p s → p (final x s)

section Commutes

variable {p : σ → Prop} {f : σ → σ}

theorem commutes_pure (a : α) : Commutes p f (pure a : EStateM ε σ α) :=
  ⟨fun _ _ ↦ rfl, fun _ h ↦ h⟩

theorem commutes_throw (e : ε) : Commutes p f (throw e : EStateM ε σ α) :=
  ⟨fun _ _ ↦ rfl, fun _ h ↦ h⟩

theorem commutes_modify {g : σ → σ} (hg : ∀ s, g (f s) = f (g s)) (hp : ∀ s, p s → p (g s)) :
    Commutes p f (modify g : EStateM ε σ PUnit) where
  run := by
    intro s _
    change EStateM.Result.ok _ (g (f s)) = .ok _ (f (g s))
    rw [hg]
  keeps := hp

theorem Commutes.bind {x : EStateM ε σ α} {k : α → EStateM ε σ β} (hx : Commutes p f x)
    (hk : ∀ a, Commutes p f (k a)) : Commutes p f (x >>= k) where
  run := by
    intro s hs
    have hrun := hx.run s hs
    have hkeeps := hx.keeps s hs
    cases hfirst : x s with
    | ok a t =>
      rw [hfirst] at hrun
      rw [final_of_ok hfirst] at hkeeps
      rw [bind_of_ok hrun, bind_of_ok hfirst]
      exact (hk a).run t hkeeps
    | error e t =>
      rw [hfirst] at hrun
      rw [bind_of_error hrun, bind_of_error hfirst]
      rfl
  keeps := by
    intro s hs
    have hkeeps := hx.keeps s hs
    cases hfirst : x s with
    | ok a t =>
      rw [final_of_ok hfirst] at hkeeps
      rw [final_bind_of_ok hfirst]
      exact (hk a).keeps t hkeeps
    | error e t =>
      rw [final_of_error hfirst] at hkeeps
      rwa [final_bind_of_error hfirst]

/-- What is made of the state does not depend on the change. -/
theorem Commutes.get_bind {k : σ → EStateM ε σ α} (hsame : ∀ s, p s → k (f s) = k s)
    (hk : ∀ s, p s → Commutes p f (k s)) : Commutes p f (get >>= k) where
  run := by
    intro s hs
    change k (f s) (f s) = mapState f (k s s)
    rw [hsame s hs]
    exact (hk s hs).run s hs
  keeps := fun s hs ↦ (hk s hs).keeps s hs

end Commutes

/-! ## Without a state -/

theorem except_bind_eq_ok {x : Except ε α} {f : α → Except ε β} {b : β} (h : x >>= f = .ok b) :
    ∃ a, x = .ok a ∧ f a = .ok b := by
  cases x with
  | error e => exact absurd h nofun
  | ok a => exact ⟨a, rfl, h⟩

theorem except_bind_eq_error {x : Except ε α} {f : α → Except ε β} {e : ε}
    (h : x >>= f = .error e) : x = .error e ∨ ∃ a, x = .ok a ∧ f a = .error e := by
  cases x with
  | error e' =>
    cases h
    exact Or.inl rfl
  | ok a => exact Or.inr ⟨a, rfl, h⟩

theorem except_bind_of_ok {x : Except ε α} {f : α → Except ε β} {a : α} (h : x = .ok a) :
    x >>= f = f a := by
  rw [h]
  rfl

end Effect

end Ormpp
