import Ormpp.Adapter.Adapter

/-!
# What a task or a call does

The transitions of an adapter. The calls on the adapters change who holds the state and what was
asked for, and leave alone how far the child and the parent are; only the tasks and `await_suspend`
move those on.
-/

namespace Ormpp

namespace Adapter

variable {α : Type} {s s' t : State α} {f f' : Frame} {answer : Answer α}
  {actions : List (Action α)}

/-- The frame moves neither the child nor the parent on. -/
def Frame.isAside : Frame → Bool
  | .called _ | .cancelPosted _ | .returned => true
  | .startPosted | .child | .childFinished | .resumePosted | .scheduled => false

/-- The holders have changed, and if the state was abandoned, it is marked so unless the parent has
taken its result. -/
structure Touched (s t : State α) : Prop where
  eq : t = { s with
    asyncExecutor := t.asyncExecutor
    abandoned := t.abandoned
    holders := t.holders
    destroyed := t.destroyed }
  abandoned : s.abandoned = true → t.abandoned = true
  destroyed : t.destroyed = true → s.destroyed = true ∨ t.abandoned = true ∨ t.resumeObserved = true

theorem touched_refl (s : State α) : Touched s s := ⟨rfl, id, .inl⟩

/-- A signal is sent to a child that is there. -/
theorem mem_emit {type : CancellationType} {a : Action α} :
    a ∈ s.emit type ↔ a = .delivered type ∧ (s.child = .running ∨ s.child = .finished) := by
  rw [State.emit]
  rcases s.child <;> simp

theorem mem_emitPending {a : Action α} :
    a ∈ s.emitPending ↔ s.pendingCancellation ≠ .none ∧ a ∈ s.emit s.pendingCancellation := by
  rw [State.emitPending]
  split_ifs with hpending <;> simp [hpending]

/-- A request counts until the child has finished. -/
theorem mem_recordRequest {type : CancellationType} {a : Action α} :
    a ∈ s.recordRequest type ↔ a = .requested type ∧ (s.child = .unborn ∨ s.child = .running) := by
  rw [State.recordRequest]
  rcases s.child <;> simp

inductive Transition (s : State α) : Frame → State α → Frame → List (Action α) → Prop
  | touch (f f' : Frame) (t : State α) (hf : f.isAside = true) (hf' : f'.isAside = true)
    (ht : Touched s t) : Transition s f t f' []
  | ignore (type : CancellationType) (hover : s.finished = true ∨ s.resumeObserved = true) :
    Transition s (.cancelPosted type) s .returned (s.recordRequest type)
  | cancel (type : CancellationType) (hfinished : s.finished = false)
    (hobserved : s.resumeObserved = false) :
    Transition s (.cancelPosted type)
      { s with pendingCancellation := s.pendingCancellation ||| type } .returned
      (s.recordRequest type ++ s.emit type)
  | suspend (c : Call) (hstarted : s.awaitStarted = false) :
    Transition s (.called c) { s with resumeHandle := true, awaitStarted := true } .startPosted []
  | suspendFailed (c : Call) (exception : Bytes) (hstarted : s.awaitStarted = false) :
    Transition s (.called c)
      { s with
        resumeHandle := true
        awaitStarted := true
        exception := some exception
        finished := true
        resumeObserved := true } .returned []
  | drop (habandoned : s.abandoned = true) : Transition s .startPosted s .returned []
  | startFailed (exception : Bytes) (habandoned : s.abandoned = false) :
    Transition s .startPosted { s with exception := some exception, finished := true }
      .resumePosted []
  | start (habandoned : s.abandoned = false) :
    Transition s .startPosted { s with child := .running } .child
      (.spawned s :: { s with child := .running }.emitPending)
  | startFinished (outcome : Except Bytes α) (habandoned : s.abandoned = false) :
    Transition s .startPosted (s.runAsio outcome) .childFinished
      (.spawned s :: (s.runAsio outcome).emitPending)
  | finish (outcome : Except Bytes α) :
    Transition s .child (s.runAsio outcome) .childFinished []
  | tearDown (completion : Option Bytes) :
    Transition s .child (s.completed completion) .resumePosted []
  | complete (completion : Option Bytes) :
    Transition s .childFinished (s.completed completion) .resumePosted []
  | schedule : Transition s .resumePosted s .scheduled []
  | stop (f : Frame) (hf : f = .resumePosted ∨ f = .scheduled) (hstop : s.shouldResume = false) :
    Transition s f s .returned []
  | resume (f : Frame) (t : State α) (hf : f = .resumePosted ∨ f = .scheduled)
    (hresume : s.shouldResume = true) (ht : t = s ∨ ∃ exception, t = s.addException exception) :
    Transition s f t.awaitResume .returned [.resumed t]

/-! ## The calls -/

theorem requestCancel_eq (s : State α) (answer : Answer α) (type : CancellationType) :
    ∃ f : Frame, f.isAside = true ∧ s.requestCancel answer type = (s, f, []) := by
  rw [State.requestCancel]
  split
  · exact ⟨_, rfl, rfl⟩
  · split
    · exact ⟨_, rfl, rfl⟩
    · exact ⟨_, rfl, rfl⟩

/-- The state is marked as abandoned, unless the parent has taken its result. -/
theorem abandon_eq (s : State α) (answer : Answer α) :
    ∃ (f : Frame) (b : Bool), f.isAside = true ∧ (s.abandoned = true → b = true) ∧
      (b = true ∨ s.resumeObserved = true) ∧
        s.abandon answer = ({ s with abandoned := b }, f, []) := by
  rw [State.abandon]
  split
  · next hobserved => exact ⟨.returned, s.abandoned, rfl, id, .inr hobserved, rfl⟩
  · dsimp only
    split
    · exact ⟨.returned, true, rfl, fun _ ↦ rfl, .inl rfl, rfl⟩
    · obtain ⟨f, hf, heq⟩ := requestCancel_eq { s with abandoned := true } answer .all
      exact ⟨f, true, hf, fun _ ↦ rfl, .inl rfl, heq⟩

theorem movePointer_eq (s : State α) (source target : ℕ) :
    ∃ holders, s.movePointer source target = { s with holders } := by
  rw [State.movePointer]
  split
  · exact ⟨_, rfl⟩
  · exact ⟨_, rfl⟩

theorem transition_of_requestCancel {type : CancellationType} {c : Call}
    (h : s.requestCancel answer type = (s', f', actions)) :
    Transition s (.called c) s' f' actions := by
  obtain ⟨f, hf, heq⟩ := requestCancel_eq s answer type
  rw [heq] at h
  cases h
  exact .touch _ _ s rfl hf (touched_refl s)

/-- An adapter that holds the state is destroyed, or assigned to. -/
theorem transition_of_abandon {holders : List ℕ} {c : Call}
    (h : State.abandon { s with holders, destroyed := true } answer = (s', f', actions)) :
    Transition s (.called c) s' f' actions := by
  obtain ⟨f, b, hf, hb, hor, heq⟩ := abandon_eq { s with holders, destroyed := true } answer
  rw [heq] at h
  cases h
  exact .touch _ _ _ rfl hf ⟨rfl, hb, fun _ ↦ .inr hor⟩

theorem transition_of_moveAssign {source target : ℕ} {c : Call}
    (h : s.moveAssign answer source target = (s', f', actions)) :
    Transition s (.called c) s' f' actions := by
  rw [State.moveAssign] at h
  split at h
  · cases h
    exact .touch _ _ s rfl rfl (touched_refl s)
  · split at h
    · obtain ⟨holders, heq⟩ := movePointer_eq
        { s with holders := s.holders.erase target, destroyed := true } source target
      rw [heq] at h
      exact transition_of_abandon h
    · obtain ⟨holders, heq⟩ := movePointer_eq s source target
      rw [heq] at h
      cases h
      exact .touch _ _ _ rfl rfl ⟨rfl, id, .inl⟩

theorem transition_of_awaitSuspend {adapter : ℕ} {c : Call}
    (h : s.awaitSuspend answer adapter = some (s', f', actions)) :
    Transition s (.called c) s' f' actions := by
  rw [State.awaitSuspend] at h
  split at h
  · cases h
    exact .touch _ _ s rfl rfl (touched_refl s)
  · split at h
    · cases h
    · next hstarted =>
      have hstarted := eq_false_of_ne_true hstarted
      dsimp only at h
      split at h
      · cases h
        exact .suspend c hstarted
      · next exception hpost =>
        cases h
        exact .suspendFailed c exception hstarted

theorem transition_of_runCall {c : Call} (h : s.runCall answer c = some (s', f', actions)) :
    Transition s (.called c) s' f' actions := by
  cases c with
  | coAwait source target executor =>
    obtain ⟨holders, heq⟩ := movePointer_eq { s with asyncExecutor := executor } source target
    rw [State.runCall, State.coAwait] at h
    split at h
    · rw [heq] at h
      cases h
      exact .touch _ _ _ rfl rfl ⟨rfl, id, .inl⟩
    · cases h
      exact .touch _ _ s rfl rfl (touched_refl s)
  | awaitSuspend adapter => exact transition_of_awaitSuspend h
  | cancel adapter type =>
    rw [State.runCall, Option.some_inj] at h
    split at h
    · exact transition_of_requestCancel h
    · cases h
      exact .touch _ _ s rfl rfl (touched_refl s)
  | cancelByHandle type =>
    rw [State.runCall, Option.some_inj] at h
    split at h
    · cases h
      exact .touch _ _ s rfl rfl (touched_refl s)
    · exact transition_of_requestCancel h
  | moveConstruct source target =>
    obtain ⟨holders, heq⟩ := movePointer_eq s source target
    rw [State.runCall, heq] at h
    cases h
    exact .touch _ _ _ rfl rfl ⟨rfl, id, .inl⟩
  | moveAssign source target => exact transition_of_moveAssign (Option.some_inj.mp h)
  | destroy adapter =>
    rw [State.runCall, Option.some_inj, State.destroy] at h
    split at h
    · exact transition_of_abandon h
    · cases h
      exact .touch _ _ s rfl rfl (touched_refl s)

/-! ## The tasks -/

theorem postResume_eq (h : s.postResume answer = some (s', f', actions)) :
    s' = s ∧ f' = .resumePosted ∧ actions = [] := by
  rw [State.postResume] at h
  split at h
  · cases h
    exact ⟨rfl, rfl, rfl⟩
  · cases h

/-- A child that comes to its end does so wherever it is. -/
theorem runAsio_running (s : State α) (outcome : Except Bytes α) :
    State.runAsio { s with child := .running } outcome = s.runAsio outcome := by
  cases outcome <;> rfl

theorem transition_of_startAsio (h : s.startAsio answer = some (s', f', actions)) :
    Transition s .startPosted s' f' actions := by
  rw [State.startAsio] at h
  split at h
  · next habandoned =>
    cases h
    exact .drop habandoned
  · next habandoned =>
    have habandoned := eq_false_of_ne_true habandoned
    split at h
    · next exception hspawn =>
      obtain ⟨rfl, rfl, rfl⟩ := postResume_eq h
      exact .startFailed exception habandoned
    · dsimp only at h
      split at h
      · cases h
        exact .start habandoned
      · next outcome houtcome =>
        rw [runAsio_running] at h
        cases h
        exact .startFinished outcome habandoned

theorem transition_of_endChild (h : s.endChild answer = some (s', f', actions)) :
    Transition s .child s' f' actions := by
  rw [State.endChild] at h
  split at h
  · next outcome houtcome =>
    cases h
    exact .finish outcome
  · obtain ⟨rfl, rfl, rfl⟩ := postResume_eq h
    exact .tearDown answer.completion

theorem transition_of_resumeParent {schedule : Schedule}
    (h : s.resumeParent schedule = (s', f', actions)) :
    Transition s .resumePosted s' f' actions := by
  unfold State.resumeParent at h
  split at h
  · next hstop =>
    cases h
    exact .stop _ (.inl rfl) (Bool.not_eq_true' _ ▸ hstop)
  · next hresume =>
    have hresume : s.shouldResume = true := by simpa using hresume
    split at h
    · split at h
      · cases h
        exact .schedule
      · cases h
        exact .resume _ s (.inl rfl) hresume (.inl rfl)
      · next exception =>
        cases h
        exact .resume _ _ (.inl rfl) hresume (.inr ⟨exception, rfl⟩)
    · cases h
      exact .resume _ s (.inl rfl) hresume (.inl rfl)

theorem transition_of_resumeScheduled (h : s.resumeScheduled = (s', f', actions)) :
    Transition s .scheduled s' f' actions := by
  rw [State.resumeScheduled] at h
  split at h
  · next hresume =>
    cases h
    exact .resume _ s (.inr rfl) hresume (.inl rfl)
  · next hstop =>
    cases h
    exact .stop _ (.inr rfl) (eq_false_of_ne_true hstop)

theorem transition_of_runCancel {type : CancellationType}
    (h : s.runCancel type = (s', f', actions)) :
    Transition s (.cancelPosted type) s' f' actions := by
  rw [State.runCancel] at h
  split at h
  · next hover =>
    cases h
    exact .ignore type (Bool.or_eq_true_iff.mp hover)
  · next hover =>
    rw [Bool.not_eq_true, Bool.or_eq_false_iff] at hover
    cases h
    exact .cancel type hover.1 hover.2

theorem transition_of_resume (h : resume s f answer = some (s', f', actions)) :
    Transition s f s' f' actions := by
  cases f with
  | called c => exact transition_of_runCall h
  | startPosted => exact transition_of_startAsio h
  | child => exact transition_of_endChild h
  | childFinished =>
    obtain ⟨rfl, rfl, rfl⟩ := postResume_eq h
    exact .complete answer.completion
  | resumePosted => exact transition_of_resumeParent (Option.some_inj.mp h)
  | scheduled => exact transition_of_resumeScheduled (Option.some_inj.mp h)
  | cancelPosted type => exact transition_of_runCancel (Option.some_inj.mp h)
  | returned =>
    cases h
    exact .touch _ _ s rfl rfl (touched_refl s)

end Adapter

end Ormpp
