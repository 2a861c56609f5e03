import Ormpp.AsyncPool.Phase

/-!
# Capacity

Without `close_all` a pool keeps as many connections as it was opened with, until a `get` fails to
reconnect one: that connection is dropped and none is made in its place.
-/

namespace Ormpp

namespace AsyncPool

/-- A `get` that has failed to reconnect its connection goes on. -/
def losesConnection (σ : Config Pool Frame) (e : Event Call Bool) : Bool :=
  match resumed σ e with
  | some (.getFailed _) => true
  | _ => false

/-! ## Nothing is lost -/

/-- A pooled connection that is checked out, being verified, or being returned. -/
def Frame.holdsFixed : Frame → Bool
  | .getPinging _ | .getReconnecting _ | .getFailed _ | .getVerified _ => true
  | .handle _ dynamic | .returning _ dynamic => !dynamic
  | _ => false

def Holding.fixedCount : Holding → ℕ
  | .fixed _ _ | .failed _ => 1
  | _ => 0

/-- The frame is a `close_all` that has not returned. -/
def Holding.closers : Holding → ℕ
  | .stopping | .closing | .walking none _ => 1
  | _ => 0

/-- All pooled connections are accounted for. -/
structure Complete (s : Pool) (out : ℕ) : Prop where
  notClosing : s.closing = false
  closed : s.initialized = false → out = 0
  full : s.initialized = true → s.availableConnections.length + out = s.poolSize

variable {options : PoolOptions} {s s' : Pool} {h h' : Holding} {actions : List Action}

theorem Complete.congr {out : ℕ} (hcomplete : Complete s out)
    (hinit : s'.initialized = s.initialized)
    (hclosing : s'.closing = s.closing) (hsize : s'.poolSize = s.poolSize)
    (ha : s'.availableConnections = s.availableConnections) : Complete s' out where
  notClosing := hclosing.trans hcomplete.notClosing
  closed h := hcomplete.closed (hinit.symm.trans h)
  full h := by
    rw [ha, hsize]
    exact hcomplete.full (hinit.symm.trans h)

/-- As long as nothing closes it, a pool with connections out is open. -/
theorem Complete.isOpen {out : ℕ} (hcomplete : Complete s (1 + out)) : s.isOpen = true := by
  rcases hinit : s.initialized with _ | _
  · have := hcomplete.closed hinit
    omega
  · exact isOpen_of_flags hinit hcomplete.notClosing

/-- A transition that does not close the pool and does not give up a connection that could not be
reconnected. -/
theorem Complete.transition {others : ℕ} {roles : Multiset Role}
    (hcomplete : Complete s (h.fixedCount + others)) (ht : Transition options s h s' h' actions)
    (hstart : h = .starting → s.initialized = false → s.closing = false → roles = 0)
    (hphase : Phase s (h.roles + roles)) (hclose : h.closers = 0) (hlose : ∀ c, h ≠ .failed c) :
    Complete s' (h'.fixedCount + others) := by
  cases ht with
  | store poolSize parameters hinit hclosing =>
    have hothers := hcomplete.closed hinit
    exact ⟨hclosing, fun _ ↦ hothers, fun h ↦ by simp [Pool.stored, hinit] at h⟩
  | storeNone parameters hinit hclosing =>
    have hempty : s.availableConnections = [] :=
      hphase.available_of_start (hstart rfl) hinit hclosing
    have hothers := hcomplete.closed hinit
    refine ⟨hclosing, fun h ↦ absurd h.symm Bool.false_ne_true, fun _ ↦ ?_⟩
    change s.availableConnections.length + (0 + others) = 0
    rw [hempty, List.length_nil, zero_add]
    exact hothers
  -- While `init` fills the deque the pool is closed, and nothing is out.
  | push parameters i c =>
    obtain ⟨-, hinit, hclosing, -⟩ := hphase.holds
    exact ⟨hclosing, fun _ ↦ hcomplete.closed hinit, fun h ↦ by simp [hinit] at h⟩
  | finish parameters i c hi =>
    obtain ⟨-, hinit, hclosing, hlength, hlt⟩ := hphase.holds
    have hothers : others = 0 := (Nat.add_eq_zero_iff.mp (hcomplete.closed hinit)).2
    refine ⟨hclosing, fun h ↦ absurd h.symm Bool.false_ne_true, fun _ ↦ ?_⟩
    change (s.availableConnections ++ [c]).length + (0 + others) = s.poolSize
    rw [List.length_append, List.length_singleton, hothers]
    omega
  | failNone parameters i c =>
    obtain ⟨-, hinit, hclosing, -⟩ := hphase.holds
    exact ⟨hclosing, fun _ ↦ hcomplete.closed hinit, fun h ↦ by simp [Pool.walked, hinit] at h⟩
  | walkNext failed => cases failed <;> exact hcomplete
  | walkEnd failed c =>
    cases failed with
    | none => cases hclose
    | some failed =>
      obtain ⟨-, hinit, hclosing, -⟩ := hphase.holds
      exact ⟨hclosing, fun _ ↦ hcomplete.closed hinit, fun h ↦ by simp [Pool.walked, hinit] at h⟩
  | take c behind hinit hclosing ha =>
    have hfull := hcomplete.full hinit
    refine ⟨hclosing, fun h ↦ by simp [hinit] at h, fun _ ↦ ?_⟩
    change behind.length + (1 + others) = s.poolSize
    rw [ha, List.length_cons] at hfull
    change behind.length + 1 + (0 + others) = s.poolSize at hfull
    omega
  | lose c => exact absurd rfl (hlose c)
  -- With a connection out the pool is open, so that nothing is dropped or destroyed.
  | drop c hopen =>
    rw [Complete.isOpen hcomplete] at hopen
    cases hopen
  | destroy c hopen =>
    rw [Complete.isOpen hcomplete] at hopen
    cases hopen
  | pool c hinit hclosing =>
    have hfull := hcomplete.full hinit
    refine ⟨hclosing, fun h ↦ by simp [Pool.releaseGuarded, hinit] at h, fun _ ↦ ?_⟩
    change (s.availableConnections ++ [c]).length + (0 + others) = s.poolSize
    change s.availableConnections.length + (1 + others) = s.poolSize at hfull
    rw [List.length_append, List.length_singleton]
    omega
  | close => cases hclose
  | closeStart => cases hclose
  | closeNone => cases hclose
  -- The others leave the deque alone, and their connections where they are.
  | _ => exact hcomplete.congr rfl rfl rfl rfl

/-- What is known of a configuration in a run without `close_all`. -/
structure KeepsCapacity (σ : Config Pool Frame) : Prop where
  phase : InPhase σ
  noCloser : Program.weight (·.holding.closers) σ.frames = 0
  complete : Complete σ.shared (Program.weight (·.holding.fixedCount) σ.frames)

theorem keepsCapacity_empty : KeepsCapacity empty :=
  ⟨inPhase_empty, rfl, rfl, fun _ ↦ rfl, nofun⟩

theorem closers_transition (ht : Transition options s h s' h' actions) :
    h'.closers ≤ h.closers := by
  cases ht with
  | walkNext failed => cases failed <;> exact le_rfl
  | pass | close | closeStart => exact le_rfl
  | _ => exact Nat.zero_le _

theorem keepsCapacity_step {σ τ : Config Pool Frame} {e : Event Call Bool}
    (hstep : (program options).step σ e = some (τ, actions)) (hseq : Sequential σ e)
    (hclose : isCloseCall e = false) (hlose : losesConnection σ e = false) (hσ : KeepsCapacity σ) :
    KeepsCapacity τ where
  phase := inPhase_step hstep hseq hσ.phase
  noCloser := by
    refine law_step (fun _ n ↦ n = 0) Holding.closers hstep ?_ ?_ hσ.noCloser
    · rintro (_ | _ | _) rfl
      · rfl
      · rfl
      · cases hclose
    · intro i answer f s h' _ _ ht hzero
      have hle := closers_transition ht
      omega
  complete := by
    refine law_step Complete Holding.fixedCount hstep (fun c _ ↦ by cases c <;> rfl) ?_ hσ.complete
    rintro i answer f s h' rfl hf ht hcomplete
    have hclosers := hσ.noCloser
    rw [Program.weight_eraseIdx _ hf] at hclosers
    refine hcomplete.transition ht ?_ (hσ.phase.beside hf) (Nat.add_eq_zero_iff.mp hclosers).1 ?_
    · intro hstart _ hclosing
      exact others_eq_zero hσ.phase hseq hf hstart hclosing
    · intro c hfailed
      rw [losesConnection, resumed, hf, frame_of_failed hfailed] at hlose
      cases hlose

theorem fixedCount_holding (f : Frame) : f.holding.fixedCount = f.holdsFixed.toNat := by
  cases f with
  | handle c dynamic | returning c dynamic => cases dynamic <;> rfl
  | _ => rfl

theorem weight_fixedCount (frames : List Frame) :
    Program.weight (·.holding.fixedCount) frames = frames.countP Frame.holdsFixed := by
  induction frames with
  | nil => rfl
  | cons f frames ih =>
    rw [Program.weight_cons, ih, fixedCount_holding, List.countP_cons, Nat.add_comm]
    cases f.holdsFixed <;> rfl

/-- **Capacity.** Without `close_all`, and as long as no `get` gives up a connection that it could
not reconnect, every pooled connection is in the deque or out, and there are as many as the pool was
opened with. -/
theorem capacity_eq_poolSize (options : PoolOptions) (es : List (Event Call Bool))
    (hclose : ∀ e ∈ es, isCloseCall e = false)
    (hseq : (program options).Along Sequential empty es)
    (hlose : (program options).Along (fun σ e ↦ losesConnection σ e = false) empty es) :
    ∃ σ actions, (program options).run empty es = some (σ, actions) ∧
      (σ.shared.initialized = true →
        σ.shared.availableConnections.length + σ.frames.countP Frame.holdsFixed
          = σ.shared.poolSize) := by
  obtain ⟨σ, actions, hrun, -⟩ := run_sequential inPhase_empty hseq
  have hok := (hseq.and hlose).and (Program.along_of_mem empty fun e he _ ↦ hclose e he)
  have hσ := Program.run_keeps KeepsCapacity
    (fun _ _ _ _ hσ ⟨⟨hseq, hlose⟩, hclose⟩ hstep ↦ keepsCapacity_step hstep hseq hclose hlose hσ)
    keepsCapacity_empty hok hrun
  refine ⟨σ, actions, hrun, fun hinit ↦ ?_⟩
  rw [← weight_fixedCount]
  exact hσ.complete.full hinit

/-- A `get` that finds its connection alive, and its release. -/
theorem capacity_getAndRelease :
    ∃ σ actions, (program {}).run empty
        [.call (.init 1 ⟨[], [], [], [], none, none⟩), .resume 0 true, .resume 0 true, .call .get,
          .resume 1 true, .resume 1 true, .resume 1 true, .resume 1 true, .resume 1 true,
          .resume 1 true] = some (σ, actions) ∧
      (σ.shared.initialized = true →
        σ.shared.availableConnections.length + σ.frames.countP Frame.holdsFixed
          = σ.shared.poolSize) :=
  capacity_eq_poolSize {} _ (by decide) (by decide) (by decide)

/-- A pool of one connection, and a `get` that can neither ping nor reconnect it. -/
def outage : List (Event Call Bool) :=
  [.call (.init 1 ⟨[], [], [], [], none, none⟩), .resume 0 true, .resume 0 true, .call .get,
    .resume 1 true, .resume 1 true, .resume 1 false, .resume 1 false, .resume 1 true]

/-- The pool is left without any connection, for good. -/
theorem capacity_ne_poolSize :
    outage.countP isInitCall = 1 ∧ (∀ e ∈ outage, isCloseCall e = false) ∧
      ∃ σ actions, (program {}).run empty outage = some (σ, actions) ∧
        σ.shared.initialized = true ∧
        σ.shared.availableConnections.length + σ.frames.countP Frame.holdsFixed
          ≠ σ.shared.poolSize :=
  ⟨by decide, by decide, _, _, rfl, rfl, by decide⟩

end AsyncPool

end Ormpp
