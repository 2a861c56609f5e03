import Ormpp.Adapter.Resumption

/-!
# Delivery of cancel requests

A request that runs before the child is spawned is kept in `pending_cancellation`, which the start
emits; one that runs while the child is there is emitted at once.
-/

namespace Ormpp

namespace Adapter

variable {α : Type} {s s' : State α} {f f' : Frame} {done actions : List (Action α)}
  {type : CancellationType}

/-- What is known of the requests that have run, given what was done. -/
structure Delivered (s : State α) (done : List (Action α)) : Prop where
  pending : s.child = .unborn → s.finished = false → ∀ type, .requested type ∈ done →
    s.pendingCancellation ||| type = s.pendingCancellation
  delivered : s.child ≠ .unborn → ∀ type, .requested type ∈ done →
    type = .none ∨ ∃ mask, .delivered mask ∈ done ∧ mask ||| type = mask
  alive : ∀ t, .spawned t ∈ done → t.abandoned = false ∧ t.destroyed = false

theorem delivered_initial : Delivered ({} : State α) [] where
  pending _ _ _ h := absurd h List.not_mem_nil
  delivered _ _ h := absurd h List.not_mem_nil
  alive _ h := absurd h List.not_mem_nil

/-! ## Masks -/

theorem or_absorb_of_or_absorb {mask type other : CancellationType} (h : mask ||| type = mask) :
    mask ||| other ||| type = mask ||| other := by
  rw [BitVec.or_assoc, BitVec.or_comm other, ← BitVec.or_assoc, h]

theorem or_absorb_self (mask type : CancellationType) : mask ||| type ||| type = mask ||| type := by
  rw [BitVec.or_assoc, BitVec.or_self]

theorem eq_none_of_or_absorb (h : CancellationType.none ||| type = .none) : type = .none := by
  rw [← h]
  exact (BitVec.zero_or).symm

/-! ## The child and its flags -/

theorem Phase.of_running {m : Multiset Frame} (h : Phase s m) (hchild : s.child = .running) :
    s.finished = false ∧ s.resumeObserved = false := by
  cases h with
  | idle hidle =>
    obtain hrest | hrest := hidle.atRest
    · cases hchild.symm.trans hrest
    · cases hchild.symm.trans hrest
  | underway f hholds hstarted hobserved =>
    cases f with
    | child => exact ⟨hholds.2, hobserved⟩
    | startPosted | childFinished => cases hchild.symm.trans hholds.1
    | resumePosted | scheduled =>
      obtain ⟨⟨hrest, -⟩ | hrest, -⟩ := hholds
      · cases hchild.symm.trans hrest
      · cases hchild.symm.trans hrest
    | _ => cases hholds

theorem Phase.of_unborn {m : Multiset Frame} (h : Phase s m) (hchild : s.child = .unborn)
    (hfinished : s.finished = false) : s.resumeObserved = false := by
  cases h with
  | idle hidle => exact hidle.unobserved hchild hfinished
  | underway f hholds hstarted hobserved => exact hobserved

/-! ## One step -/

theorem not_mem_emit_requested {mask : CancellationType} :
    (.requested type : Action α) ∉ s.emit mask :=
  fun h ↦ absurd (mem_emit.mp h).1 nofun

theorem not_mem_emitPending_requested : (.requested type : Action α) ∉ s.emitPending :=
  fun h ↦ not_mem_emit_requested (mem_emitPending.mp h).2

theorem not_mem_emit_spawned {t : State α} {mask : CancellationType} :
    (.spawned t : Action α) ∉ s.emit mask :=
  fun h ↦ absurd (mem_emit.mp h).1 nofun

theorem not_mem_emitPending_spawned {t : State α} : (.spawned t : Action α) ∉ s.emitPending :=
  fun h ↦ not_mem_emit_spawned (mem_emitPending.mp h).2

/-- At most the parent is resumed, and a child that is there was there before. -/
theorem Delivered.pass (h : Delivered s done) (hactions : ∀ a ∈ actions, a.isResumed = true)
    (hunborn : s'.child = .unborn → s'.finished = false →
      s.child = .unborn ∧ s.finished = false ∧ s'.pendingCancellation = s.pendingCancellation)
    (hborn : s'.child ≠ .unborn → s.child ≠ .unborn) : Delivered s' (done ++ actions) := by
  have hold (a : Action α) (ha : a ∈ done ++ actions) (hresumed : a.isResumed = false) :
      a ∈ done := by
    apply (List.mem_append.mp ha).resolve_right
    intro hmem
    cases hresumed.symm.trans (hactions a hmem)
  constructor
  · intro hchild hfinished type hmem
    obtain ⟨hchild, hfinished, hpending⟩ := hunborn hchild hfinished
    rw [hpending]
    exact h.pending hchild hfinished type (hold _ hmem rfl)
  · intro hchild type hmem
    obtain hnone | ⟨mask, hmask, habsorb⟩ := h.delivered (hborn hchild) type (hold _ hmem rfl)
    · exact .inl hnone
    · exact .inr ⟨mask, List.mem_append_left _ hmask, habsorb⟩
  · intro t hmem
    exact h.alive t (hold _ hmem rfl)

/-- What the child and its flag do not notice. -/
theorem Delivered.congr (h : Delivered s done) (hactions : ∀ a ∈ actions, a.isResumed = true)
    (hchild : s'.child = s.child) (hfinished : s'.finished = s.finished)
    (hpending : s'.pendingCancellation = s.pendingCancellation) :
    Delivered s' (done ++ actions) := by
  apply h.pass hactions
  · rw [hchild, hfinished]
    exact fun h₁ h₂ ↦ ⟨h₁, h₂, hpending⟩
  · rw [hchild]
    exact id

theorem Delivered.spawn (h : Delivered s done) (hchild : s.child = .unborn)
    (hfinished : s.finished = false) (halive : s.abandoned = false ∧ s.destroyed = false)
    (hborn : s'.child = .running ∨ s'.child = .finished)
    (hpending : s'.pendingCancellation = s.pendingCancellation) :
    Delivered s' (done ++ .spawned s :: s'.emitPending) := by
  have hne : s'.child ≠ .unborn := by
    obtain hborn | hborn := hborn <;> simp [hborn]
  have hemit (hnone : s'.pendingCancellation ≠ .none) :
      .delivered s'.pendingCancellation ∈ s'.emitPending :=
    mem_emitPending.mpr ⟨hnone, mem_emit.mpr ⟨rfl, hborn⟩⟩
  have hrequested (type : CancellationType)
      (hmem : .requested type ∈ done ++ .spawned s :: s'.emitPending) : .requested type ∈ done := by
    obtain hmem | hmem := List.mem_append.mp hmem
    · exact hmem
    · obtain heq | hmem := List.mem_cons.mp hmem
      · cases heq
      · exact absurd hmem not_mem_emitPending_requested
  constructor
  · intro hunborn
    exact absurd hunborn hne
  · intro _ type hmem
    have habsorb := h.pending hchild hfinished type (hrequested type hmem)
    rw [← hpending] at habsorb
    by_cases hnone : s'.pendingCancellation = .none
    · rw [hnone] at habsorb
      exact .inl (eq_none_of_or_absorb habsorb)
    · right
      refine ⟨_, ?_, habsorb⟩
      exact List.mem_append_right _ (List.mem_cons_of_mem _ (hemit hnone))
  · intro t hmem
    obtain hmem | hmem := List.mem_append.mp hmem
    · exact h.alive t hmem
    · obtain heq | hmem := List.mem_cons.mp hmem
      · cases heq
        exact halive
      · exact absurd hmem not_mem_emitPending_spawned

/-- A request that comes too late, or whose child will never be there. -/
theorem Delivered.ignore {m : Multiset Frame} (h : Delivered s done) (hphase : Phase s m)
    (hover : s.finished = true ∨ s.resumeObserved = true) :
    Delivered s (done ++ s.recordRequest type) := by
  have hrunning : s.child ≠ .running := by
    intro hchild
    obtain ⟨hfinished, hobserved⟩ := hphase.of_running hchild
    simp [hfinished, hobserved] at hover
  have hfinished : s.child = .unborn → s.finished ≠ false := by
    intro hchild hfinished
    simp [hfinished, hphase.of_unborn hchild hfinished] at hover
  by_cases hchild : s.child = .unborn
  · constructor
    · intro _ hfalse
      exact absurd hfalse (hfinished hchild)
    · intro hne
      exact absurd hchild hne
    · intro t hmem
      obtain hmem | hmem := List.mem_append.mp hmem
      · exact h.alive t hmem
      · exact absurd (mem_recordRequest.mp hmem).1 nofun
  · have hnil : (s.recordRequest type : List (Action α)) = [] :=
      List.eq_nil_iff_forall_not_mem.mpr fun a ha ↦
        (mem_recordRequest.mp ha).2.elim hchild hrunning
    rw [hnil]
    exact h.congr (List.forall_mem_nil _) rfl rfl rfl

/-- A request that is taken is kept for the child, and reaches one that is there. -/
theorem Delivered.request (h : Delivered s done) (hfinished : s.finished = false) :
    Delivered { s with pendingCancellation := s.pendingCancellation ||| type }
      (done ++ (s.recordRequest type ++ s.emit type)) := by
  have hrequested (other : CancellationType)
      (hmem : .requested other ∈ done ++ (s.recordRequest type ++ s.emit type)) :
      .requested other ∈ done ∨ other = type ∧ (s.child = .unborn ∨ s.child = .running) := by
    obtain hmem | hmem := List.mem_append.mp hmem
    · exact .inl hmem
    · obtain hmem | hmem := List.mem_append.mp hmem
      · right
        obtain ⟨heq, hchild⟩ := mem_recordRequest.mp hmem
        cases heq
        exact ⟨rfl, hchild⟩
      · exact absurd hmem not_mem_emit_requested
  constructor
  · intro hchild _ other hmem
    obtain hmem | ⟨rfl, -⟩ := hrequested other hmem
    · exact or_absorb_of_or_absorb (h.pending hchild hfinished other hmem)
    · exact or_absorb_self _ _
  · intro hchild other hmem
    obtain hmem | ⟨rfl, hrunning⟩ := hrequested other hmem
    · obtain hnone | ⟨mask, hmask, habsorb⟩ := h.delivered hchild other hmem
      · exact .inl hnone
      · exact .inr ⟨mask, List.mem_append_left _ hmask, habsorb⟩
    · right
      have hrunning : s.child = .running := hrunning.resolve_left hchild
      have hemit : (.delivered other : Action α) ∈ s.emit other :=
        mem_emit.mpr ⟨rfl, .inl hrunning⟩
      have hmem := List.mem_append_right (s.recordRequest other) hemit
      exact ⟨other, List.mem_append_right _ hmem, BitVec.or_self⟩
  · intro t hmem
    obtain hmem | hmem := List.mem_append.mp hmem
    · exact h.alive t hmem
    · obtain hmem | hmem := List.mem_append.mp hmem
      · exact absurd (mem_recordRequest.mp hmem).1 nofun
      · exact absurd hmem not_mem_emit_spawned

theorem child_runAsio (s : State α) (outcome : Except Bytes α) :
    (s.runAsio outcome).child = .finished ∧
      (s.runAsio outcome).pendingCancellation = s.pendingCancellation := by
  cases outcome with
  | ok value => exact ⟨rfl, rfl⟩
  | error exception => exact ⟨rfl, rfl⟩

theorem Delivered.born (h : Delivered s done) (hborn : s.child ≠ .unborn)
    (hchild : s'.child ≠ .unborn) : Delivered s' (done ++ []) :=
  h.pass (List.forall_mem_nil _) (fun hunborn ↦ absurd hunborn hchild) fun _ ↦ hborn

theorem Delivered.transition {others : Multiset Frame} (h : Delivered s done)
    (hguarded : s.destroyed = true → s.abandoned = true ∨ s.resumeObserved = true)
    (hphase : Phase s (f.tasks + others)) (ht : Transition s f s' f' actions) :
    Delivered s' (done ++ actions) := by
  have halive (habandoned : s.abandoned = false) (hobserved : s.resumeObserved = false) :
      s.abandoned = false ∧ s.destroyed = false := by
    refine ⟨habandoned, ?_⟩
    rw [← Bool.not_eq_true]
    intro hdestroyed
    have hor := hguarded hdestroyed
    rw [habandoned, hobserved] at hor
    simp at hor
  cases ht with
  | touch f f' t hf hf' ht =>
    rw [ht.eq]
    exact h.congr (List.forall_mem_nil _) rfl rfl rfl
  | ignore type hover => exact h.ignore hphase hover
  | cancel type hfinished hobserved => exact h.request hfinished
  | suspend c hstarted => exact h.congr (List.forall_mem_nil _) rfl rfl rfl
  | suspendFailed c exception hstarted => exact h.pass (List.forall_mem_nil _) nofun id
  | drop habandoned => exact h.congr (List.forall_mem_nil _) rfl rfl rfl
  | startFailed exception habandoned => exact h.pass (List.forall_mem_nil _) nofun id
  | start habandoned =>
    obtain ⟨⟨hchild, hfinished⟩, -, hobserved, -⟩ := hphase.alone
    exact h.spawn hchild hfinished (halive habandoned hobserved) (.inl rfl) rfl
  | startFinished outcome habandoned =>
    obtain ⟨⟨hchild, hfinished⟩, -, hobserved, -⟩ := hphase.alone
    obtain ⟨hborn, hpending⟩ := child_runAsio s outcome
    exact h.spawn hchild hfinished (halive habandoned hobserved) (.inr hborn) hpending
  | finish outcome =>
    obtain ⟨⟨hchild, -⟩, -⟩ := hphase.alone
    exact h.born (by simp [hchild]) (by simp [child_runAsio])
  | tearDown completion | complete completion =>
    obtain ⟨⟨hchild, -⟩, -⟩ := hphase.alone
    obtain ⟨exception, heq⟩ := completed_eq s completion
    rw [heq]
    exact h.born (by simp [hchild]) nofun
  | schedule | stop => exact h.congr (List.forall_mem_nil _) rfl rfl rfl
  | resume f t hf hresume ht =>
    have hactions : ∀ a ∈ [Action.resumed t], a.isResumed = true :=
      List.forall_mem_cons.mpr ⟨rfl, List.forall_mem_nil _⟩
    obtain rfl | ⟨exception, rfl⟩ := ht
    · exact h.congr hactions rfl rfl rfl
    · exact h.congr hactions rfl rfl rfl

/-- A request that runs before the start, and another while the child runs. -/
def cancelledTwice : List (Event Call (Answer ℕ)) :=
  [.call (.cancel 0 1), .resume 0 {}, .call (.awaitSuspend 0), .resume 1 {}, .resume 0 {},
    .resume 1 {}, .call (.cancelByHandle 2), .resume 2 {}, .resume 2 {}]

end Adapter

end Ormpp
