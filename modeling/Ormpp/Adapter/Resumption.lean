import Ormpp.Adapter.Phase

/-!
# Resumption of the parent

Whoever resumes the parent has seen that it was not abandoned and has not taken its result, and the
parent takes it at once. So it is resumed once, while the awaiter lives, and finds an outcome.
-/

namespace Ormpp

namespace Adapter

variable {α : Type} {s s' : State α} {f f' : Frame} {done actions : List (Action α)}

def Action.isResumed : Action α → Bool
  | .resumed _ => true
  | .spawned _ | .requested _ | .delivered _ => false

/-- What is known of the parent, given what was done. -/
structure ResumedOnce (s : State α) (done : List (Action α)) : Prop where
  once : done.countP Action.isResumed ≤ s.resumeObserved.toNat
  guarded : s.destroyed = true → s.abandoned = true ∨ s.resumeObserved = true
  sound : ∀ t, .resumed t ∈ done → t.destroyed = false ∧ t.HasOutcome

theorem isResumed_of_mem_emit {type : CancellationType} {a : Action α} (h : a ∈ s.emit type) :
    a.isResumed = false := by
  rw [(mem_emit.mp h).1]
  rfl

theorem isResumed_of_mem_emitPending {a : Action α} (h : a ∈ s.emitPending) :
    a.isResumed = false := isResumed_of_mem_emit (mem_emitPending.mp h).2

theorem isResumed_of_mem_recordRequest {type : CancellationType} {a : Action α}
    (h : a ∈ s.recordRequest type) : a.isResumed = false := by
  rw [(mem_recordRequest.mp h).1]
  rfl

theorem resumedOnce_initial : ResumedOnce ({} : State α) [] where
  once := le_rfl
  guarded h := absurd h Bool.false_ne_true
  sound _ ht := absurd ht List.not_mem_nil

/-- Something that does not resume the parent. -/
theorem ResumedOnce.quiet (h : ResumedOnce s done) (hactions : ∀ a ∈ actions, a.isResumed = false)
    (hobserved : s.resumeObserved = true → s'.resumeObserved = true)
    (hguarded : s'.destroyed = true → s'.abandoned = true ∨ s'.resumeObserved = true) :
    ResumedOnce s' (done ++ actions) where
  once := by
    have hzero : actions.countP Action.isResumed = 0 := by
      rw [List.countP_eq_zero]
      intro a ha
      rw [hactions a ha]
      exact Bool.false_ne_true
    rw [List.countP_append, hzero, Nat.add_zero]
    exact h.once.trans (Bool.toNat_le_toNat hobserved)
  guarded := hguarded
  sound t ht := by
    obtain ht | ht := List.mem_append.mp ht
    · exact h.sound t ht
    · cases hactions _ ht

/-- A transition that resumes nobody and touches neither the holders nor the marks. -/
theorem ResumedOnce.pass (h : ResumedOnce s done) (hactions : ∀ a ∈ actions, a.isResumed = false)
    (hobserved : s'.resumeObserved = s.resumeObserved) (habandoned : s'.abandoned = s.abandoned)
    (hdestroyed : s'.destroyed = s.destroyed) : ResumedOnce s' (done ++ actions) := by
  apply h.quiet hactions
  · rw [hobserved]
    exact id
  · rw [hobserved, habandoned, hdestroyed]
    exact h.guarded

theorem shouldResume_iff (s : State α) :
    s.shouldResume = true ↔
      (s.abandoned = false ∧ s.resumeObserved = false) ∧ s.resumeHandle = true := by
  rw [State.shouldResume, Bool.and_eq_true, Bool.and_eq_true, Bool.not_eq_true', Bool.not_eq_true']

theorem ResumedOnce.resume {t : State α} (h : ResumedOnce s done) (hresume : s.shouldResume = true)
    (hdestroyed : t.destroyed = s.destroyed) (houtcome : t.HasOutcome) :
    ResumedOnce t.awaitResume (done ++ [.resumed t]) := by
  obtain ⟨⟨habandoned, hobserved⟩, -⟩ := (shouldResume_iff s).mp hresume
  have halive : s.destroyed = false := by
    rw [← Bool.not_eq_true]
    intro hdestroyed
    obtain hfalse | hfalse := h.guarded hdestroyed
    · rw [habandoned] at hfalse
      cases hfalse
    · rw [hobserved] at hfalse
      cases hfalse
  constructor
  · have honce := h.once
    rw [hobserved, Bool.toNat_false, Nat.le_zero] at honce
    rw [List.countP_append, honce]
    exact le_rfl
  · exact fun _ ↦ .inr rfl
  · intro u hu
    obtain hu | hu := List.mem_append.mp hu
    · exact h.sound u hu
    · cases List.mem_singleton.mp hu
      exact ⟨hdestroyed.trans halive, houtcome⟩

theorem hasOutcome_of_le {t : State α} (h : s.HasOutcome)
    (ht : t = s ∨ ∃ exception, t = s.addException exception) : t.HasOutcome := by
  obtain rfl | ⟨exception, rfl⟩ := ht
  · exact h
  · obtain hresult | hexception := h
    · exact .inl hresult
    · right
      rw [State.addException, Option.isSome_or, hexception]
      rfl

theorem ResumedOnce.transition {others : Multiset Frame} (h : ResumedOnce s done)
    (hphase : Phase s (f.tasks + others)) (ht : Transition s f s' f' actions) :
    ResumedOnce s' (done ++ actions) := by
  cases ht with
  | touch f f' t hf hf' ht =>
    apply h.quiet (List.forall_mem_nil _)
    · rw [ht.eq]
      exact id
    · intro hdestroyed
      obtain hd | hor := ht.destroyed hdestroyed
      · obtain habandoned | hobserved := h.guarded hd
        · exact .inl (ht.abandoned habandoned)
        · right
          rw [ht.eq]
          exact hobserved
      · exact hor
  | ignore type hover => exact h.pass (fun a ↦ isResumed_of_mem_recordRequest) rfl rfl rfl
  | cancel type hfinished hobserved =>
    refine h.pass ?_ rfl rfl rfl
    intro a ha
    obtain ha | ha := List.mem_append.mp ha
    · exact isResumed_of_mem_recordRequest ha
    · exact isResumed_of_mem_emit ha
  | suspend c hstarted => exact h.pass (List.forall_mem_nil _) rfl rfl rfl
  | suspendFailed c exception hstarted =>
    exact h.quiet (List.forall_mem_nil _) (fun _ ↦ rfl) fun _ ↦ .inr rfl
  | drop habandoned => exact h.pass (List.forall_mem_nil _) rfl rfl rfl
  | startFailed exception habandoned => exact h.pass (List.forall_mem_nil _) rfl rfl rfl
  | start habandoned =>
    refine h.pass (List.forall_mem_cons.mpr ⟨rfl, ?_⟩) rfl rfl rfl
    exact fun a ↦ isResumed_of_mem_emitPending
  | startFinished outcome habandoned =>
    have hactions : ∀ a ∈ .spawned s :: (s.runAsio outcome).emitPending, a.isResumed = false :=
      List.forall_mem_cons.mpr ⟨rfl, fun a ↦ isResumed_of_mem_emitPending⟩
    cases outcome with
    | ok value => exact h.pass hactions rfl rfl rfl
    | error exception => exact h.pass hactions rfl rfl rfl
  | finish outcome =>
    cases outcome with
    | ok value => exact h.pass (List.forall_mem_nil _) rfl rfl rfl
    | error exception => exact h.pass (List.forall_mem_nil _) rfl rfl rfl
  | tearDown completion | complete completion =>
    obtain ⟨exception, heq⟩ := completed_eq s completion
    rw [heq]
    exact h.pass (List.forall_mem_nil _) rfl rfl rfl
  | schedule | stop => exact h.pass (List.forall_mem_nil _) rfl rfl rfl
  | resume f t hf hresume ht =>
    rw [tasks_of_resuming hf] at hphase
    have houtcome := hasOutcome_of_le (holds_of_resuming hf hphase.alone.1).2 ht
    apply h.resume hresume ?_ houtcome
    obtain rfl | ⟨exception, rfl⟩ := ht
    · rfl
    · rfl

/-- **Resumption.** However the tasks and the calls are ordered, the parent is resumed at most once,
never after its awaiter was destroyed, and finds a value or an exception. -/
theorem resumption (es : List (Event Call (Answer α))) {σ : Config (State α) Frame}
    {actions : List (Action α)} (hrun : (program α).run (initial α) es = some (σ, actions)) :
    actions.countP Action.isResumed ≤ 1 ∧
      ∀ s, .resumed s ∈ actions → s.destroyed = false ∧ s.HasOutcome := by
  obtain ⟨-, h⟩ := run_transition ResumedOnce
    (fun _ _ _ _ _ _ _ h hphase ht ↦ h.transition hphase ht) resumedOnce_initial hrun
  exact ⟨h.once.trans (Bool.toNat_le _), h.sound⟩

/-- The executor refuses to take the resumption, and the awaiter is destroyed behind it. -/
def refusedByExecutor : List (Event Call (Answer ℕ)) :=
  [.call (.coAwait 0 1 true), .resume 0 {}, .call (.awaitSuspend 1), .resume 1 {}, .resume 1 {},
    .resume 1 { outcome := some (.ok 42) }, .resume 1 {}, .resume 1 { schedule := .refuses },
    .call (.destroy 1), .resume 2 {}]

theorem resumption_refusedByExecutor :
    ∃ σ actions, (program ℕ).run (initial ℕ) refusedByExecutor = some (σ, actions) ∧
      actions.countP Action.isResumed ≤ 1 ∧
        ∀ s, .resumed s ∈ actions → s.destroyed = false ∧ s.HasOutcome :=
  ⟨_, _, rfl, resumption refusedByExecutor rfl⟩

end Adapter

end Ormpp
