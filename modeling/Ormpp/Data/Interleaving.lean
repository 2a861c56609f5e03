import Mathlib.Tactic
import Mathlib.Algebra.BigOperators.Group.List.Basic

/-!
# Interleaved coroutines

Coroutines that share a state and run one at a time, each from one suspension point to the next. A
suspended coroutine is a frame, and a configuration is the shared state with the frames of all
coroutines called so far, in the order of their calls. What a coroutine finds when it is resumed is
an answer of the environment. A segment whose behaviour is undefined has no result.

A property that speaks of the shared state and of what all frames weigh together is kept by a step
as soon as every segment keeps it, whatever the other frames weigh.
-/

namespace Ormpp

structure Program (Shared Frame Call Answer Action : Type) where
  start : Call → Frame
  resume : Shared → Frame → Answer → Option (Shared × Frame × List Action)

/-- The shared state and the frames, in the order of the calls. -/
structure Config (Shared Frame : Type) where
  shared : Shared
  frames : List Frame

inductive Event (Call Answer : Type)
  | call (c : Call)
  /-- The coroutine called at that place in the order of the calls is resumed. -/
  | resume (i : ℕ) (answer : Answer)

namespace Program

variable {Shared Frame Call Answer Action : Type} (P : Program Shared Frame Call Answer Action)

def step (σ : Config Shared Frame) :
    Event Call Answer → Option (Config Shared Frame × List Action)
  | .call c => some (⟨σ.shared, σ.frames ++ [P.start c]⟩, [])
  | .resume i answer =>
    match σ.frames[i]? with
    | none => some (σ, [])
    | some f =>
      match P.resume σ.shared f answer with
      | none => none
      | some (s, f', actions) => some (⟨s, σ.frames.set i f'⟩, actions)

/-- The configuration after the events, and what the segments did on the way. -/
def run : Config Shared Frame → List (Event Call Answer) →
    Option (Config Shared Frame × List Action)
  | σ, [] => some (σ, [])
  | σ, e :: es =>
    match P.step σ e with
    | none => none
    | some (τ, actions) =>
      match run τ es with
      | none => none
      | some (υ, later) => some (υ, actions ++ later)

/-- The property holds of every event of the run and the configuration it meets. -/
def Along (ok : Config Shared Frame → Event Call Answer → Prop) :
    Config Shared Frame → List (Event Call Answer) → Prop
  | _, [] => True
  | σ, e :: es =>
    ok σ e ∧
      match P.step σ e with
      | none => True
      | some (τ, _) => Along ok τ es

instance decidableAlong {ok : Config Shared Frame → Event Call Answer → Prop}
    [∀ σ e, Decidable (ok σ e)] :
    (σ : Config Shared Frame) → (es : List (Event Call Answer)) → Decidable (P.Along ok σ es)
  | _, [] => isTrue trivial
  | σ, e :: es =>
    have : Decidable (match P.step σ e with
        | none => True
        | some (τ, _) => P.Along ok τ es) :=
      match P.step σ e with
      | none => isTrue trivial
      | some (τ, _) => decidableAlong τ es
    inferInstanceAs (Decidable (ok σ e ∧ _))

variable {P}

/-! ## Steps -/

/-- A step adds a frame, or lets one run its next segment, or has no frame to resume. -/
theorem step_cases {σ τ : Config Shared Frame} {e : Event Call Answer} {actions : List Action}
    (h : P.step σ e = some (τ, actions)) :
    (∃ c, e = .call c ∧ τ = ⟨σ.shared, σ.frames ++ [P.start c]⟩ ∧ actions = []) ∨
      (∃ i answer, e = .resume i answer ∧ σ.frames[i]? = none ∧ τ = σ ∧ actions = []) ∨
      ∃ i answer f s f', e = .resume i answer ∧ σ.frames[i]? = some f ∧
        P.resume σ.shared f answer = some (s, f', actions) ∧ τ = ⟨s, σ.frames.set i f'⟩ := by
  cases e with
  | call c =>
    cases h
    exact .inl ⟨c, rfl, rfl, rfl⟩
  | resume i answer =>
    rw [step] at h
    rcases hf : σ.frames[i]? with _ | f
    · rw [hf] at h
      cases h
      exact .inr (.inl ⟨i, answer, rfl, hf, rfl, rfl⟩)
    · simp only [hf] at h
      rcases hresume : P.resume σ.shared f answer with _ | ⟨s, f', acts⟩
      · rw [hresume] at h
        cases h
      · rw [hresume] at h
        cases h
        exact .inr (.inr ⟨i, answer, f, s, f', rfl, hf, hresume, rfl⟩)

theorem step_resume {σ : Config Shared Frame} {i : ℕ} {answer : Answer} {f f' : Frame} {s : Shared}
    {actions : List Action} (hf : σ.frames[i]? = some f)
    (h : P.resume σ.shared f answer = some (s, f', actions)) :
    P.step σ (.resume i answer) = some (⟨s, σ.frames.set i f'⟩, actions) := by
  simp only [step, hf, h]

/-- A step is undefined only where a segment is. -/
theorem step_ne_none {σ : Config Shared Frame} {e : Event Call Answer}
    (h : ∀ i answer f, e = .resume i answer → σ.frames[i]? = some f →
      P.resume σ.shared f answer ≠ none) : P.step σ e ≠ none := by
  cases e with
  | call c => nofun
  | resume i answer =>
    rcases hf : σ.frames[i]? with _ | f
    · simp only [step, hf]
      nofun
    · rcases hresume : P.resume σ.shared f answer with _ | ⟨s, f', actions⟩
      · exact absurd hresume (h i answer f rfl hf)
      · rw [step_resume hf hresume]
        nofun

/-! ## Runs -/

theorem run_cons_some {σ υ : Config Shared Frame} {e : Event Call Answer}
    {es : List (Event Call Answer)} {actions : List Action}
    (h : P.run σ (e :: es) = some (υ, actions)) :
    ∃ τ first later, P.step σ e = some (τ, first) ∧ P.run τ es = some (υ, later) ∧
      actions = first ++ later := by
  rw [run] at h
  rcases hstep : P.step σ e with _ | ⟨τ, first⟩
  · rw [hstep] at h
    cases h
  · simp only [hstep] at h
    rcases hrun : P.run τ es with _ | ⟨υ', later⟩
    · rw [hrun] at h
      cases h
    · rw [hrun] at h
      cases h
      exact ⟨τ, first, later, rfl, hrun, rfl⟩

theorem Along.head {ok : Config Shared Frame → Event Call Answer → Prop} {σ : Config Shared Frame}
    {e : Event Call Answer} {es : List (Event Call Answer)} (h : P.Along ok σ (e :: es)) : ok σ e :=
  h.1

theorem Along.tail {ok : Config Shared Frame → Event Call Answer → Prop} {σ τ : Config Shared Frame}
    {e : Event Call Answer} {es : List (Event Call Answer)} {actions : List Action}
    (h : P.Along ok σ (e :: es)) (hstep : P.step σ e = some (τ, actions)) : P.Along ok τ es := by
  have htail := h.2
  simp only [hstep] at htail
  exact htail

/-- A run keeps what each of its steps keeps. The invariant may speak of what was done so far. -/
theorem run_invariant {ok : Config Shared Frame → Event Call Answer → Prop}
    (Inv : Config Shared Frame → List Action → Prop)
    (hstep : ∀ σ e τ done actions, Inv σ done → ok σ e → P.step σ e = some (τ, actions) →
      Inv τ (done ++ actions))
    {σ τ : Config Shared Frame} {es : List (Event Call Answer)} (done : List Action)
    {actions : List Action} (h : Inv σ done) (hok : P.Along ok σ es)
    (hrun : P.run σ es = some (τ, actions)) :
    Inv τ (done ++ actions) := by
  induction es generalizing σ done actions with
  | nil =>
    cases hrun
    rwa [List.append_nil]
  | cons e es ih =>
    obtain ⟨υ, first, later, hfirst, hlater, rfl⟩ := run_cons_some hrun
    rw [← List.append_assoc]
    exact ih (done ++ first) (hstep σ e υ done first h hok.head hfirst) (hok.tail hfirst) hlater

theorem run_keeps {ok : Config Shared Frame → Event Call Answer → Prop}
    (Inv : Config Shared Frame → Prop)
    (hstep : ∀ σ e τ actions, Inv σ → ok σ e → P.step σ e = some (τ, actions) → Inv τ)
    {σ τ : Config Shared Frame} {es : List (Event Call Answer)} {actions : List Action}
    (h : Inv σ) (hok : P.Along ok σ es) (hrun : P.run σ es = some (τ, actions)) : Inv τ :=
  run_invariant (fun σ _ ↦ Inv σ) (fun σ e τ _ actions ↦ hstep σ e τ actions) [] h hok hrun

theorem along_of_mem {ok : Config Shared Frame → Event Call Answer → Prop} (σ : Config Shared Frame)
    {es : List (Event Call Answer)} (h : ∀ e ∈ es, ∀ σ, ok σ e) : P.Along ok σ es := by
  induction es generalizing σ with
  | nil => trivial
  | cons e es ih =>
    obtain ⟨he, hrest⟩ := List.forall_mem_cons.mp h
    refine ⟨he σ, ?_⟩
    split
    · trivial
    · next τ _ _ => exact ih τ hrest

theorem Along.imp {ok ok' : Config Shared Frame → Event Call Answer → Prop}
    (himp : ∀ σ e, ok σ e → ok' σ e) {σ : Config Shared Frame} {es : List (Event Call Answer)}
    (h : P.Along ok σ es) : P.Along ok' σ es := by
  induction es generalizing σ with
  | nil => trivial
  | cons e es ih =>
    refine ⟨himp σ e h.head, ?_⟩
    split
    · trivial
    · next τ actions hstep => exact ih (h.tail hstep)

theorem Along.and {ok ok' : Config Shared Frame → Event Call Answer → Prop}
    {σ : Config Shared Frame} {es : List (Event Call Answer)} (h : P.Along ok σ es)
    (h' : P.Along ok' σ es) :
    P.Along (fun σ e ↦ ok σ e ∧ ok' σ e) σ es := by
  induction es generalizing σ with
  | nil => trivial
  | cons e es ih =>
    refine ⟨⟨h.head, h'.head⟩, ?_⟩
    split
    · trivial
    · next τ actions hstep => exact ih (h.tail hstep) (h'.tail hstep)

/-- What an invariant gives of every configuration and the event it meets, it gives along a run. -/
theorem Along.of_invariant {ok ok' : Config Shared Frame → Event Call Answer → Prop}
    (Inv : Config Shared Frame → Prop) (hok' : ∀ σ e, Inv σ → ok σ e → ok' σ e)
    (hstep : ∀ σ e τ actions, Inv σ → ok σ e → P.step σ e = some (τ, actions) → Inv τ)
    {σ : Config Shared Frame} {es : List (Event Call Answer)} (h : Inv σ) (hok : P.Along ok σ es) :
    P.Along ok' σ es := by
  induction es generalizing σ with
  | nil => trivial
  | cons e es ih =>
    refine ⟨hok' σ e h hok.head, ?_⟩
    split
    · trivial
    · next τ actions hτ => exact ih (hstep σ e τ actions h hok.head hτ) (hok.tail hτ)

/-- A run is defined to its end if no step of it meets undefined behaviour. -/
theorem run_defined {ok : Config Shared Frame → Event Call Answer → Prop}
    (Inv : Config Shared Frame → Prop)
    (hstep : ∀ σ e, Inv σ → ok σ e →
      ∃ τ actions, P.step σ e = some (τ, actions) ∧ Inv τ)
    {σ : Config Shared Frame} {es : List (Event Call Answer)} (h : Inv σ) (hok : P.Along ok σ es) :
    ∃ τ actions, P.run σ es = some (τ, actions) ∧ Inv τ := by
  induction es generalizing σ with
  | nil => exact ⟨σ, [], rfl, h⟩
  | cons e es ih =>
    obtain ⟨τ, first, hfirst, hτ⟩ := hstep σ e h hok.head
    obtain ⟨υ, later, hlater, hυ⟩ := ih hτ (hok.tail hfirst)
    exact ⟨υ, first ++ later, by simp only [run, hfirst, hlater], hυ⟩

/-! ## What the frames weigh -/

section Weight

variable {M : Type} [AddCommMonoid M]

def weight (weigh : Frame → M) (frames : List Frame) : M := (frames.map weigh).sum

@[simp] theorem weight_nil (weigh : Frame → M) : weight weigh [] = 0 := rfl

@[simp] theorem weight_cons (weigh : Frame → M) (f : Frame) (frames : List Frame) :
    weight weigh (f :: frames) = weigh f + weight weigh frames := by
  rw [weight, List.map_cons, List.sum_cons, weight]

@[simp] theorem weight_append (weigh : Frame → M) (xs ys : List Frame) :
    weight weigh (xs ++ ys) = weight weigh xs + weight weigh ys := by
  rw [weight, List.map_append, List.sum_append, weight, weight]

/-- A frame apart from the others. -/
theorem weight_eraseIdx (weigh : Frame → M) {frames : List Frame} {i : ℕ} {f : Frame}
    (h : frames[i]? = some f) :
    weight weigh frames = weigh f + weight weigh (frames.eraseIdx i) := by
  induction frames generalizing i with
  | nil => cases h
  | cons g frames ih =>
    cases i with
    | zero =>
      cases h
      rw [weight_cons, List.eraseIdx_cons_zero]
    | succ i =>
      rw [weight_cons, List.eraseIdx_cons_succ, weight_cons, ih h, add_left_comm]

theorem weight_set (weigh : Frame → M) {frames : List Frame} {i : ℕ} {f : Frame}
    (h : frames[i]? = some f) (f' : Frame) :
    weight weigh (frames.set i f') = weigh f' + weight weigh (frames.eraseIdx i) := by
  have hi : i < frames.length := (List.getElem?_eq_some_iff.mp h).1
  have hset : (frames.set i f')[i]? = some f' := List.getElem?_set_self hi
  rw [weight_eraseIdx weigh hset, List.eraseIdx_set_eq]

theorem weight_eq_zero {weigh : Frame → M} {frames : List Frame} (h : ∀ f ∈ frames, weigh f = 0) :
    weight weigh frames = 0 := by
  induction frames with
  | nil => rfl
  | cons f frames ih =>
    obtain ⟨hf, hframes⟩ := List.forall_mem_cons.mp h
    rw [weight_cons, hf, ih hframes, add_zero]

theorem mem_weight {α : Type} {weigh : Frame → Multiset α} {frames : List Frame} {a : α} :
    a ∈ weight weigh frames ↔ ∃ f ∈ frames, a ∈ weigh f := by
  induction frames with
  | nil => simp
  | cons f frames ih => simp [ih]

/-- What the frames weigh on two scales at once. -/
theorem weight_prod {N : Type} [AddCommMonoid N] (weigh : Frame → M) (weigh' : Frame → N)
    (frames : List Frame) :
    weight (fun f ↦ (weigh f, weigh' f)) frames = (weight weigh frames, weight weigh' frames) := by
  induction frames with
  | nil => rfl
  | cons f frames ih => rw [weight_cons, ih, weight_cons, weight_cons, Prod.mk_add_mk]

/-- A law about the shared state and the weight of all frames is kept by a step if its segment keeps
it beside the frames that do not move. -/
theorem law_step (Law : Shared → M → Prop) {weigh : Frame → M} {σ τ : Config Shared Frame}
    {e : Event Call Answer} {actions : List Action} (hstep : P.step σ e = some (τ, actions))
    (hcall : ∀ c, e = .call c → weigh (P.start c) = 0)
    (hresume : ∀ i answer f s f', e = .resume i answer → σ.frames[i]? = some f →
      P.resume σ.shared f answer = some (s, f', actions) →
      Law σ.shared (weigh f + weight weigh (σ.frames.eraseIdx i)) →
      Law s (weigh f' + weight weigh (σ.frames.eraseIdx i)))
    (h : Law σ.shared (weight weigh σ.frames)) : Law τ.shared (weight weigh τ.frames) := by
  obtain ⟨c, rfl, rfl, rfl⟩ | ⟨i, answer, rfl, hf, rfl, rfl⟩ |
    ⟨i, answer, f, s, f', rfl, hf, hs, rfl⟩ := step_cases hstep
  · rw [weight_append, weight_cons, hcall c rfl, weight_nil, add_zero, add_zero]
    exact h
  · exact h
  · rw [weight_set weigh hf]
    rw [weight_eraseIdx weigh hf] at h
    exact hresume i answer f s f' rfl hf hs h

end Weight

end Program

end Ormpp
