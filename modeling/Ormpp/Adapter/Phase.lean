import Ormpp.Adapter.Transition

/-!
# The course of an awaiter

At any time at most one task is about to move the child or the parent on. Which one it is tells how
far both are.
-/

namespace Ormpp

namespace Adapter

variable {α : Type} {s s' t : State α} {f f' : Frame} {actions : List (Action α)}

/-- The parent finds a value or an exception. -/
def State.HasOutcome (s : State α) : Prop := s.result.isSome = true ∨ s.exception.isSome = true

/-- What a task that is under way says about the child and its outcome. -/
def Frame.Holds (s : State α) : Frame → Prop
  | .startPosted => s.child = .unborn ∧ s.finished = false
  | .child => s.child = .running ∧ s.finished = false
  | .childFinished => s.child = .finished ∧ s.HasOutcome
  | .resumePosted | .scheduled =>
    (s.child = .unborn ∧ s.finished = true ∨ s.child = .completed) ∧ s.HasOutcome
  | .called _ | .cancelPosted _ | .returned => False

/-- Either the adapter was not awaited, or all is over. -/
structure Idle (s : State α) : Prop where
  unstarted : s.awaitStarted = false → s.child = .unborn ∧ s.finished = false
  atRest : s.child = .unborn ∨ s.child = .completed
  unobserved : s.child = .unborn → s.finished = false → s.resumeObserved = false

/-- The tasks that move the child or the parent on: there is at most one. -/
inductive Phase (s : State α) : Multiset Frame → Prop
  | idle (hidle : Idle s) : Phase s 0
  | underway (f : Frame) (hholds : f.Holds s) (hstarted : s.awaitStarted = true)
    (hobserved : s.resumeObserved = false) : Phase s {f}

def Frame.tasks (f : Frame) : Multiset Frame := if f.isAside then 0 else {f}

theorem tasks_of_isAside (hf : f.isAside = true) : f.tasks = 0 := if_pos hf

/-! ## One step -/

/-- Beside a task there is no other. -/
theorem Phase.alone {others : Multiset Frame} (h : Phase s ({f} + others)) :
    f.Holds s ∧ s.awaitStarted = true ∧ s.resumeObserved = false ∧ others = 0 := by
  rw [Multiset.singleton_add] at h
  generalize hm : f ::ₘ others = m at h
  cases h with
  | idle hidle => exact absurd hm (Multiset.cons_ne_zero)
  | underway g hholds hstarted hobserved =>
    obtain ⟨rfl, rfl⟩ := (Multiset.singleton_eq_cons_iff _).mp hm.symm
    exact ⟨hholds, hstarted, hobserved, rfl⟩

/-- A call that begins to await finds no task. -/
theorem Phase.of_unstarted {m : Multiset Frame} (h : Phase s m)
    (hstarted : s.awaitStarted = false) :
    m = 0 ∧ s.child = .unborn ∧ s.finished = false ∧ s.resumeObserved = false := by
  cases h with
  | idle hidle =>
    obtain ⟨hchild, hfinished⟩ := hidle.unstarted hstarted
    exact ⟨rfl, hchild, hfinished, hidle.unobserved hchild hfinished⟩
  | underway f hholds hstarted' =>
    rw [hstarted] at hstarted'
    cases hstarted'

/-- The phase does not depend on who holds the state and what was asked for. -/
theorem Phase.congr {m : Multiset Frame} (h : Phase s m) (hresult : t.result = s.result)
    (hexception : t.exception = s.exception) (hfinished : t.finished = s.finished)
    (hstarted : t.awaitStarted = s.awaitStarted) (hobserved : t.resumeObserved = s.resumeObserved)
    (hchild : t.child = s.child) : Phase t m := by
  cases h with
  | idle hidle =>
    apply Phase.idle
    constructor
    · rw [hstarted, hchild, hfinished]
      exact hidle.unstarted
    · rw [hchild]
      exact hidle.atRest
    · rw [hchild, hfinished, hobserved]
      exact hidle.unobserved
  | underway f hholds hs ho =>
    apply Phase.underway f ?_ (hstarted.trans hs) (hobserved.trans ho)
    cases f with
    | startPosted | child => rwa [Frame.Holds, hchild, hfinished]
    | childFinished => rwa [Frame.Holds, State.HasOutcome, hchild, hresult, hexception]
    | resumePosted | scheduled =>
      rwa [Frame.Holds, State.HasOutcome, hchild, hfinished, hresult, hexception]
    | _ => cases hholds

theorem Phase.touch {m : Multiset Frame} (h : Phase s m) (ht : Touched s t) : Phase t m := by
  rw [ht.eq]
  exact h.congr rfl rfl rfl rfl rfl rfl

theorem hasOutcome_runAsio (s : State α) (outcome : Except Bytes α) :
    (s.runAsio outcome).HasOutcome := by
  cases outcome with
  | ok value => exact .inl rfl
  | error exception => exact .inr rfl

/-- The completion leaves an outcome, whatever has become of the child. -/
theorem hasOutcome_completed (s : State α) (completion : Option Bytes)
    (h : s.finished = true → s.HasOutcome) : (s.completed completion).HasOutcome := by
  rw [State.completed]
  split
  · exact .inr rfl
  · next hstored =>
    rcases hfinished : s.finished with _ | _
    · rw [hfinished] at hstored
      have hnone : (s.exception.or completion).isNone = false := eq_false_of_ne_true hstored
      right
      rw [← Option.not_isNone, hnone]
      rfl
    · obtain hresult | hexception := h hfinished
      · exact .inl hresult
      · right
        rw [Option.isSome_or, hexception]
        rfl

theorem runAsio_underway (outcome : Except Bytes α) (hstarted : s.awaitStarted = true)
    (hobserved : s.resumeObserved = false) : Phase (s.runAsio outcome) {.childFinished} := by
  have houtcome := hasOutcome_runAsio s outcome
  cases outcome with
  | ok value => exact .underway .childFinished ⟨rfl, houtcome⟩ hstarted hobserved
  | error exception => exact .underway .childFinished ⟨rfl, houtcome⟩ hstarted hobserved

theorem completed_eq (s : State α) (completion : Option Bytes) :
    ∃ exception, s.completed completion = { s with exception, child := .completed } := by
  rw [State.completed]
  split
  · exact ⟨_, rfl⟩
  · exact ⟨_, rfl⟩

theorem completed_underway (completion : Option Bytes) (h : s.finished = true → s.HasOutcome)
    (hstarted : s.awaitStarted = true) (hobserved : s.resumeObserved = false) :
    Phase (s.completed completion) {.resumePosted} := by
  have houtcome := hasOutcome_completed s completion h
  obtain ⟨exception, heq⟩ := completed_eq s completion
  rw [heq] at houtcome ⊢
  exact .underway .resumePosted ⟨.inr rfl, houtcome⟩ hstarted hobserved

theorem tasks_of_resuming (hf : f = .resumePosted ∨ f = .scheduled) : f.tasks = {f} := by
  obtain rfl | rfl := hf
  · rfl
  · rfl

/-- A task that is about to resume the parent. -/
theorem holds_of_resuming (hf : f = .resumePosted ∨ f = .scheduled) (h : f.Holds s) :
    (s.child = .unborn ∧ s.finished = true ∨ s.child = .completed) ∧ s.HasOutcome := by
  obtain rfl | rfl := hf
  · exact h
  · exact h

/-- Nothing is under way once the last task is done. -/
theorem idle_of_holds (hchild : s.child = .unborn ∧ s.finished = true ∨ s.child = .completed)
    (hstarted : s.awaitStarted = true) : Idle s := by
  constructor
  · rw [hstarted]
    nofun
  · exact hchild.imp_left And.left
  · intro hunborn hfinished
    rw [hunborn, hfinished] at hchild
    obtain ⟨-, hfalse⟩ | hfalse := hchild
    · cases hfalse
    · cases hfalse

/-- A transition leaves at most one task under way, and the phase tells which. -/
theorem Phase.transition {others : Multiset Frame} (h : Phase s (f.tasks + others))
    (ht : Transition s f s' f' actions) : Phase s' (f'.tasks + others) := by
  cases ht with
  | touch f f' t hf hf' ht =>
    rw [tasks_of_isAside hf] at h
    rw [tasks_of_isAside hf']
    exact h.touch ht
  | ignore type hover => exact h
  | cancel type hfinished hobserved => exact h.congr rfl rfl rfl rfl rfl rfl
  | suspend c hstarted =>
    rw [tasks_of_isAside rfl, zero_add] at h
    obtain ⟨rfl, hchild, hfinished, hobserved⟩ := h.of_unstarted hstarted
    exact .underway .startPosted ⟨hchild, hfinished⟩ rfl hobserved
  | suspendFailed c exception hstarted =>
    rw [tasks_of_isAside rfl, zero_add] at h
    obtain ⟨rfl, hchild, hfinished, hobserved⟩ := h.of_unstarted hstarted
    exact .idle ⟨nofun, .inl hchild, nofun⟩
  | drop habandoned =>
    obtain ⟨⟨hchild, -⟩, hstarted, hobserved, rfl⟩ := h.alone
    exact .idle ⟨fun hunstarted ↦ absurd (hunstarted.symm.trans hstarted) nofun, .inl hchild,
      fun _ _ ↦ hobserved⟩
  | startFailed exception habandoned =>
    obtain ⟨⟨hchild, -⟩, hstarted, hobserved, rfl⟩ := h.alone
    exact .underway .resumePosted ⟨.inl ⟨hchild, rfl⟩, .inr rfl⟩ hstarted hobserved
  | start habandoned =>
    obtain ⟨⟨-, hfinished⟩, hstarted, hobserved, rfl⟩ := h.alone
    exact .underway .child ⟨rfl, hfinished⟩ hstarted hobserved
  | startFinished outcome habandoned =>
    obtain ⟨-, hstarted, hobserved, rfl⟩ := h.alone
    exact runAsio_underway outcome hstarted hobserved
  | finish outcome =>
    obtain ⟨-, hstarted, hobserved, rfl⟩ := h.alone
    exact runAsio_underway outcome hstarted hobserved
  | tearDown completion =>
    obtain ⟨⟨-, hfinished⟩, hstarted, hobserved, rfl⟩ := h.alone
    apply completed_underway completion ?_ hstarted hobserved
    rw [hfinished]
    nofun
  | complete completion =>
    obtain ⟨⟨-, houtcome⟩, hstarted, hobserved, rfl⟩ := h.alone
    exact completed_underway completion (fun _ ↦ houtcome) hstarted hobserved
  | schedule =>
    obtain ⟨hholds, hstarted, hobserved, rfl⟩ := h.alone
    exact .underway .scheduled hholds hstarted hobserved
  | stop f hf hstop =>
    rw [tasks_of_resuming hf] at h
    obtain ⟨hholds, hstarted, hobserved, rfl⟩ := h.alone
    exact .idle (idle_of_holds (holds_of_resuming hf hholds).1 hstarted)
  | resume f t hf hresume ht =>
    rw [tasks_of_resuming hf] at h
    obtain ⟨hholds, hstarted, hobserved, rfl⟩ := h.alone
    obtain rfl | ⟨exception, rfl⟩ := ht
    · exact .idle (idle_of_holds (s := t.awaitResume) (holds_of_resuming hf hholds).1 hstarted)
    · exact .idle
        (idle_of_holds (s := (s.addException exception).awaitResume) (holds_of_resuming hf hholds).1
          hstarted)

/-! ## Runs -/

/-- The phase of a configuration. -/
def InPhase (σ : Config (State α) Frame) : Prop :=
  Phase σ.shared (Program.weight Frame.tasks σ.frames)

theorem inPhase_initial : InPhase (initial α) :=
  .idle ⟨fun _ ↦ ⟨rfl, rfl⟩, .inl rfl, fun _ _ ↦ rfl⟩

theorem inPhase_step {σ τ : Config (State α) Frame} {e : Event Call (Answer α)}
    (hstep : (program α).step σ e = some (τ, actions)) (h : InPhase σ) : InPhase τ := by
  apply Program.law_step Phase hstep ?_ ?_ h
  · intro c _
    rfl
  · intro i answer f s f' _ _ hresume hphase
    exact hphase.transition (transition_of_resume hresume)

/-- What every transition keeps beside the phase, every run keeps. -/
theorem run_transition (Inv : State α → List (Action α) → Prop)
    (hinv : ∀ s f s' f' actions done others, Inv s done → Phase s (f.tasks + others) →
      Transition s f s' f' actions → Inv s' (done ++ actions))
    (hinitial : Inv {} []) {es : List (Event Call (Answer α))} {σ : Config (State α) Frame}
    (hrun : (program α).run (initial α) es = some (σ, actions)) :
    InPhase σ ∧ Inv σ.shared actions := by
  have hok : (program α).Along (fun _ _ ↦ True) (initial α) es :=
    Program.along_of_mem _ fun _ _ _ ↦ trivial
  apply Program.run_invariant (fun σ done ↦ InPhase σ ∧ Inv σ.shared done) ?_ []
    ⟨inPhase_initial, hinitial⟩ hok hrun
  rintro σ e τ done actions ⟨hphase, hσ⟩ - hstep
  refine ⟨inPhase_step hstep hphase, ?_⟩
  obtain ⟨c, rfl, rfl, rfl⟩ | ⟨i, answer, rfl, hf, rfl, rfl⟩ |
    ⟨i, answer, f, s, f', rfl, hf, hs, rfl⟩ := Program.step_cases hstep
  · rwa [List.append_nil]
  · rwa [List.append_nil]
  · rw [InPhase, Program.weight_eraseIdx _ hf] at hphase
    exact hinv _ f s f' actions done _ hσ hphase (transition_of_resume hs)

end Adapter

end Ormpp
