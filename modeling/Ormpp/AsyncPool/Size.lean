import Ormpp.AsyncPool.Phase

/-!
# The size of the deque

The deque stays within the size of the pool, and nobody touches it while `close_all` walks it, as
long as no `init` begins while another is in flight and no connection that was checked out from an
earlier pool is returned to a later one. `return_connection` only looks at the flags, so it pools
such a connection on top of those that the later `init` has made.
-/

namespace Ormpp

namespace AsyncPool

/-- A connection that was checked out before the latest `init` is returned to the open pool. -/
def poolsOld (σ : Config Pool Frame) (e : Event Call Bool) : Bool :=
  match resumed σ e with
  | some (.returning c false) => σ.shared.isOpen && c.generation != σ.shared.generation
  | _ => false

/-- While a `close_all` walks the deque, no other coroutine changes it. -/
def UndisturbedWalk (options : PoolOptions) (σ : Config Pool Frame) : Prop :=
  ∀ (i j : ℕ) (c : Connection) (behind : List Connection) (answer : Bool) (τ : Config Pool Frame)
    (actions : List Action), σ.frames[j]? = some (.closeDisconnecting c behind) → i ≠ j →
    (program options).step σ (.resume i answer) = some (τ, actions) →
    τ.shared.availableConnections = σ.shared.availableConnections

variable {options : PoolOptions} {s s' : Pool} {h h' : Holding} {actions : List Action}

/-! ## The walk of `close_all` -/

/-- The role of a `close_all` that has found the pool open. -/
def Role.IsCloser : Role → Prop
  | .closing | .walking _ => True
  | .opening _ | .failing _ => False

/-- Beside a `close_all` that has found the pool open, nobody else has a role. -/
theorem Phase.beside_closer {others : Multiset Role} {r : Role}
    (hphase : Phase s (h.roles + others))
    (hr : r ∈ others) (hcloser : r.IsCloser) :
    h.roles = 0 ∧ s.initialized = true ∧ s.closing = true := by
  rcases hphase with ⟨hm, -, -⟩ | ⟨r', hm, hholds⟩
  · rw [(add_eq_zero.mp hm).2] at hr
    exact absurd hr (Multiset.notMem_zero r)
  · obtain ⟨rest, rfl⟩ := Multiset.exists_cons_of_mem hr
    rw [Multiset.add_cons] at hm
    obtain ⟨rfl, hzero⟩ := (Multiset.singleton_eq_cons_iff _).mp hm.symm
    refine ⟨(add_eq_zero.mp hzero).1, ?_⟩
    cases r' with
    | opening | failing => cases hcloser
    | closing => exact hholds
    | walking => exact ⟨hholds.1, hholds.2.1⟩

/-- A transition of a frame without a role leaves the deque of a closing pool alone. -/
theorem available_of_closing (ht : Transition options s h s' h' actions) (hroles : h.roles = 0)
    (hclosing : s.closing = true) : s'.availableConnections = s.availableConnections := by
  cases ht with
  | push | finish | failNone | closeNone => exact absurd hroles (Multiset.singleton_ne_zero _)
  | walkEnd failed => cases failed <;> exact absurd hroles (Multiset.singleton_ne_zero _)
  | take c behind hinit hopen => simp [hclosing] at hopen
  | pool c hinit hopen => simp [hclosing] at hopen
  | _ => rfl

theorem InPhase.beside_closer {σ : Config Pool Frame} {i j : ℕ} {f g : Frame} {r : Role}
    (hphase : InPhase σ) (hg : σ.frames[j]? = some g) (hr : r ∈ g.holding.roles)
    (hcloser : r.IsCloser) (hne : i ≠ j) (hf : σ.frames[i]? = some f) :
    f.holding.roles = 0 ∧ σ.shared.initialized = true ∧ σ.shared.closing = true := by
  have hothers : g ∈ σ.frames.eraseIdx i :=
    List.mem_eraseIdx_iff_getElem?.mpr ⟨j, hne.symm, hg⟩
  exact (hphase.beside hf).beside_closer (Program.mem_weight.mpr ⟨g, hothers, hr⟩) hcloser

/-- A step of another coroutine than the `close_all` that has found the pool open. -/
theorem available_beside_closer {σ τ : Config Pool Frame} {i j : ℕ} {answer : Bool} {g : Frame}
    {r : Role} (hphase : InPhase σ) (hg : σ.frames[j]? = some g) (hr : r ∈ g.holding.roles)
    (hcloser : r.IsCloser) (hne : i ≠ j)
    (hstep : (program options).step σ (.resume i answer) = some (τ, actions)) :
    τ.shared.availableConnections = σ.shared.availableConnections := by
  obtain ⟨c, hcall, -⟩ | ⟨_, _, -, -, rfl, -⟩ | ⟨k, answer', f, s, f', he, hf, hs, rfl⟩ :=
    Program.step_cases hstep
  · cases hcall
  · rfl
  · cases he
    obtain ⟨hroles, -, hclosing⟩ := hphase.beside_closer hg hr hcloser hne hf
    exact available_of_closing (transition_of_resume hs) hroles hclosing

theorem InPhase.undisturbedWalk {σ : Config Pool Frame} (h : InPhase σ) :
    UndisturbedWalk options σ := by
  intro i j c behind answer τ actions hj hne hstep
  have hr : Role.walking (c :: behind) ∈ (Frame.closeDisconnecting c behind).holding.roles :=
    Multiset.mem_singleton_self _
  exact available_beside_closer h hj hr trivial hne hstep

/-! ## The size -/

/-- The generations from which pooled connections are out. -/
def Holding.checkedOut : Holding → Multiset ℕ
  | .fixed _ c | .failed c => {c.generation}
  | _ => 0

/-- The deque and the connections that are out of this pool stay within its size. None is out of a
pool that is being opened. -/
structure Sized (s : Pool) (roles : Multiset Role) (out : Multiset ℕ) : Prop where
  known : ∀ g ∈ out, g ≤ s.generation
  fresh : ∀ i, .opening i ∈ roles → out.count s.generation = 0
  fits : s.availableConnections.length ≤ s.poolSize
  room : s.initialized = true →
    s.availableConnections.length + out.count s.generation ≤ s.poolSize

variable {roles roles' : Multiset Role} {out out' : Multiset ℕ}

/-- Nothing is added to the deque, and nothing is checked out. -/
theorem Sized.of_le (hsized : Sized s roles out) (hgeneration : s'.generation = s.generation)
    (hsize : s'.poolSize = s.poolSize) (hinit : s'.initialized = true → s.initialized = true)
    (ha : s'.availableConnections.length ≤ s.availableConnections.length)
    (hroles : ∀ i, .opening i ∈ roles' → .opening i ∈ roles) (hout : out' ≤ out) :
    Sized s' roles' out' where
  known g hg := hgeneration ▸ hsized.known g (Multiset.mem_of_le hout hg)
  fresh i hi := by
    have hcount := Multiset.count_le_of_le s.generation hout
    rw [hsized.fresh i (hroles i hi)] at hcount
    rw [hgeneration]
    exact Nat.le_zero.mp hcount
  fits := by
    rw [hsize]
    exact ha.trans hsized.fits
  room h := by
    rw [hsize, hgeneration]
    exact (Nat.add_le_add ha (Multiset.count_le_of_le s.generation hout)).trans
      (hsized.room (hinit h))

/-- A pool whose arguments have just been stored is empty, and no connection of it is out. -/
theorem Sized.stored (hsized : Sized s roles out) (hempty : s.availableConnections = [])
    (hgeneration : s'.generation = s.generation + 1)
    (ha : s'.availableConnections = s.availableConnections) : Sized s' roles' out := by
  -- Nothing that is out was checked out of a pool that is only being opened.
  have hcount : out.count (s.generation + 1) = 0 := by
    apply Multiset.count_eq_zero.mpr
    intro hmem
    have := hsized.known _ hmem
    omega
  refine ⟨fun g hg ↦ ?_, fun _ _ ↦ ?_, ?_, fun _ ↦ ?_⟩
  · rw [hgeneration]
    exact Nat.le_succ_of_le (hsized.known g hg)
  · rw [hgeneration, hcount]
  · rw [ha, hempty]
    exact Nat.zero_le _
  · rw [ha, hempty, hgeneration, hcount]
    exact Nat.zero_le _

theorem count_singleton_add (a : ℕ) (m : Multiset ℕ) : ({a} + m).count a = 1 + m.count a := by
  rw [Multiset.count_add, Multiset.count_singleton_self]

/-- An `init` in flight adds a connection. -/
theorem Sized.add {i : ℕ} {c : Connection} (hsized : Sized s ({.opening i} + roles) out)
    (hlength : s.availableConnections.length = i) (hi : i < s.poolSize)
    (hgeneration : s'.generation = s.generation) (hsize : s'.poolSize = s.poolSize)
    (ha : s'.availableConnections = s.availableConnections ++ [c]) : Sized s' roles' out := by
  have hcount : out.count s.generation = 0 :=
    hsized.fresh i (Multiset.mem_add.mpr (.inl (Multiset.mem_singleton_self _)))
  have hfits : s'.availableConnections.length ≤ s'.poolSize := by
    rw [ha, hsize, List.length_append, List.length_singleton, hlength]
    exact hi
  refine ⟨fun g hg ↦ ?_, fun _ _ ↦ ?_, hfits, fun _ ↦ ?_⟩
  · rw [hgeneration]
    exact hsized.known g hg
  · rw [hgeneration, hcount]
  · rw [hgeneration, hcount]
    exact hfits

/-- A connection is taken out of an open pool. -/
theorem Sized.take {c : Connection} {behind : List Connection} (hsized : Sized s 0 out)
    (hinit : s.initialized = true) (ha : s.availableConnections = c :: behind)
    (hgeneration : s'.generation = s.generation) (hsize : s'.poolSize = s.poolSize)
    (ha' : s'.availableConnections = behind) : Sized s' 0 ({s.generation} + out) := by
  have hroom := hsized.room hinit
  rw [ha, List.length_cons] at hroom
  refine ⟨fun g hg ↦ ?_, fun _ hi ↦ absurd hi (Multiset.notMem_zero _), ?_, fun _ ↦ ?_⟩
  · rw [hgeneration]
    rcases Multiset.mem_add.mp hg with hg | hg
    · exact (Multiset.mem_singleton.mp hg).le
    · exact hsized.known g hg
  · rw [ha', hsize]
    omega
  · rw [ha', hsize, hgeneration, count_singleton_add]
    omega

/-- A connection of this pool is returned to it. -/
theorem Sized.pool {c : Connection} (hsized : Sized s roles ({s.generation} + out))
    (hinit : s.initialized = true) (hgeneration : s'.generation = s.generation)
    (hsize : s'.poolSize = s.poolSize)
    (ha : s'.availableConnections = s.availableConnections ++ [c]) : Sized s' roles out := by
  have hroom := hsized.room hinit
  rw [count_singleton_add] at hroom
  refine ⟨fun g hg ↦ ?_, fun i hi ↦ ?_, ?_, fun _ ↦ ?_⟩
  · rw [hgeneration]
    exact hsized.known g (Multiset.mem_add.mpr (.inr hg))
  · have hcount := hsized.fresh i hi
    rw [count_singleton_add] at hcount
    omega
  · rw [ha, hsize, List.length_append, List.length_singleton]
    omega
  · rw [ha, hsize, hgeneration, List.length_append, List.length_singleton]
    omega

/-- A transition keeps the deque within its size, if it does not pool a connection from an earlier
pool. -/
theorem Sized.transition (hsized : Sized s (h.roles + roles) (h.checkedOut + out))
    (ht : Transition options s h s' h' actions)
    (hstart : h = .starting → s.initialized = false → s.closing = false → roles = 0)
    (hphase : Phase s (h.roles + roles))
    (hold : ∀ c, h = .fixed .returning c → s.isOpen = true → c.generation = s.generation) :
    Sized s' (h'.roles + roles) (h'.checkedOut + out) := by
  have hroles {r : Multiset Role} (hno : ∀ i, .opening i ∉ r) (i : ℕ)
      (hi : .opening i ∈ r + roles) : .opening i ∈ h.roles + roles :=
    Multiset.mem_add.mpr (.inr ((Multiset.mem_add.mp hi).resolve_left (hno i)))
  have hnone (i : ℕ) : Role.opening i ∉ (0 : Multiset Role) := Multiset.notMem_zero _
  have hother {r : Role} (hne : ∀ i, Role.opening i ≠ r) (i : ℕ) :
      Role.opening i ∉ ({r} : Multiset Role) :=
    fun hi ↦ hne i (Multiset.mem_singleton.mp hi)
  have hless : 0 + out ≤ h.checkedOut + out := add_le_add_left (Multiset.zero_le _) out
  have hnil : ([] : List Connection).length ≤ s.availableConnections.length := Nat.zero_le _
  cases ht with
  | store poolSize parameters hinit hclosing =>
    exact hsized.stored (hphase.available_of_start (hstart rfl) hinit hclosing) rfl rfl
  | storeNone parameters hinit hclosing =>
    exact hsized.stored (hphase.available_of_start (hstart rfl) hinit hclosing) rfl rfl
  | push parameters i c =>
    obtain ⟨-, -, -, hlength, hlt⟩ := hphase.holds
    exact hsized.add hlength hlt rfl rfl rfl
  | finish parameters i c =>
    obtain ⟨-, -, -, hlength, hlt⟩ := hphase.holds
    exact hsized.add hlength hlt rfl rfl rfl
  | failStart | closeStart => exact hsized.of_le rfl rfl id le_rfl (hroles (hother nofun)) le_rfl
  | failNone => exact hsized.of_le rfl rfl id hnil (hroles hnone) le_rfl
  | closeNone => exact hsized.of_le rfl rfl nofun hnil (hroles hnone) le_rfl
  | walkNext failed =>
    cases failed
    · exact hsized.of_le rfl rfl id le_rfl (hroles (hother nofun)) le_rfl
    · exact hsized.of_le rfl rfl id le_rfl (hroles (hother nofun)) le_rfl
  | walkEnd failed =>
    cases failed
    · exact hsized.of_le rfl rfl nofun hnil (hroles hnone) le_rfl
    · exact hsized.of_le rfl rfl id hnil (hroles hnone) le_rfl
  | take c behind hinit hclosing ha =>
    obtain rfl := (add_eq_zero.mp (hphase.of_open hinit hclosing)).2
    rw [add_zero, show Holding.nothing.checkedOut + out = out from zero_add out] at hsized
    rw [add_zero]
    exact hsized.take hinit ha rfl rfl rfl
  | pool c hinit hclosing =>
    have hgeneration := hold c rfl (isOpen_of_flags hinit hclosing)
    have hback : Sized s (0 + roles) ({s.generation} + out) := hgeneration ▸ hsized
    rw [show Holding.nothing.checkedOut + out = out from zero_add out]
    exact hback.pool hinit rfl rfl rfl
  | lose | drop | destroy => exact hsized.of_le rfl rfl id le_rfl (fun _ hi ↦ hi) hless
  | close => exact hsized.of_le rfl rfl id le_rfl (hroles (hother nofun)) le_rfl
  -- The others neither touch the deque nor check out or give up a pooled connection.
  | _ => exact hsized.of_le rfl rfl id le_rfl (fun _ hi ↦ hi) le_rfl

/-! ## Runs -/

/-- The conditions under which the deque keeps within its size. -/
def KeepsSize (σ : Config Pool Frame) (e : Event Call Bool) : Prop :=
  Sequential σ e ∧ poolsOld σ e = false

instance (σ : Config Pool Frame) (e : Event Call Bool) : Decidable (KeepsSize σ e) :=
  inferInstanceAs (Decidable (_ ∧ _))

structure WithinSize (σ : Config Pool Frame) : Prop where
  phase : InPhase σ
  sized : Sized σ.shared (Program.weight (·.holding.roles) σ.frames)
    (Program.weight (·.holding.checkedOut) σ.frames)

theorem withinSize_empty : WithinSize empty :=
  ⟨inPhase_empty, fun _ hg ↦ absurd hg (Multiset.notMem_zero _),
    fun _ hi ↦ absurd hi (Multiset.notMem_zero _), le_rfl, nofun⟩

theorem withinSize_step {σ τ : Config Pool Frame} {e : Event Call Bool}
    (hstep : (program options).step σ e = some (τ, actions)) (hok : KeepsSize σ e)
    (hσ : WithinSize σ) : WithinSize τ := by
  obtain ⟨hseq, hold⟩ := hok
  refine ⟨inPhase_step hstep hseq hσ.phase, ?_⟩
  have hlaw := law_step (fun s (m : Multiset Role × Multiset ℕ) ↦ Sized s m.1 m.2)
    (fun h ↦ (h.roles, h.checkedOut)) hstep (fun c _ ↦ by cases c <;> rfl) ?_
    (by simpa only [Program.weight_prod] using hσ.sized)
  · simpa only [Program.weight_prod] using hlaw
  · rintro i answer f s h' rfl hf ht hsized
    rw [Program.weight_prod, Prod.mk_add_mk] at hsized ⊢
    refine hsized.transition ht ?_ (hσ.phase.beside hf) ?_
    · intro hstart _ hclosing
      exact others_eq_zero hσ.phase hseq hf hstart hclosing
    · intro c hreturning hopen
      simpa [poolsOld, resumed, hf, frame_of_returning (d := false) hreturning, hopen] using hold

/-- **Size.** As long as no `init` begins while another is in flight and no connection that was
checked out from an earlier pool is returned to a later one, the deque stays within the size of the
pool and is left alone while `close_all` walks it. -/
theorem available_le_poolSize (options : PoolOptions) (es : List (Event Call Bool))
    (hok : (program options).Along KeepsSize empty es) :
    ∃ σ actions, (program options).run empty es = some (σ, actions) ∧
      σ.shared.availableConnections.length ≤ σ.shared.poolSize ∧ UndisturbedWalk options σ := by
  have hstep (σ : Config Pool Frame) (e : Event Call Bool) (hσ : WithinSize σ)
      (hok : KeepsSize σ e) :
      ∃ τ actions, (program options).step σ e = some (τ, actions) ∧ WithinSize τ := by
    obtain ⟨⟨τ, actions⟩, hstep⟩ := Option.ne_none_iff_exists'.mp (step_defined hσ.phase e)
    exact ⟨τ, actions, hstep, withinSize_step hstep hok hσ⟩
  obtain ⟨σ, actions, hrun, hσ⟩ := Program.run_defined WithinSize hstep withinSize_empty hok
  exact ⟨σ, actions, hrun, hσ.sized.fits, hσ.phase.undisturbedWalk⟩

/-- A pool that is opened, closed and opened again. -/
theorem available_le_poolSize_reopened :
    ∃ σ actions, (program {}).run empty
        [.call (.init 1 ⟨[], [], [], [], none, none⟩), .resume 0 true, .resume 0 true,
          .call (.closeAll false), .resume 1 true, .resume 1 true, .resume 1 true, .resume 1 true,
          .call (.init 2 ⟨[], [], [], [], none, none⟩), .resume 2 true, .resume 2 true,
          .resume 2 true] = some (σ, actions) ∧
      σ.shared.availableConnections.length ≤ σ.shared.poolSize ∧ UndisturbedWalk {} σ :=
  available_le_poolSize {} _ (by decide)

/-- Two `init` in flight at once. -/
def overlap : List (Event Call Bool) :=
  [.call (.init 1 ⟨[], [], [], [], none, none⟩), .call (.init 1 ⟨[], [], [], [], none, none⟩),
    .resume 0 true, .resume 1 true, .resume 0 true]

/-- A connection is returned to a later pool than it was taken from. -/
def lateReturn : List (Event Call Bool) :=
  [.call (.init 1 ⟨[], [], [], [], none, none⟩), .resume 0 true, .resume 0 true, .call .get,
    .resume 1 true, .resume 1 true, .resume 1 true, .resume 1 true, .call (.closeAll false),
    .resume 2 true, .resume 2 true, .resume 2 true, .call (.init 1 ⟨[], [], [], [], none, none⟩),
    .resume 3 true, .resume 3 true, .resume 1 true, .resume 1 true]

/-- Two `init` both fill the deque, and the second does so while `close_all` walks it. A late return
adds to a full deque. -/
theorem available_gt_poolSize :
    (∃ σ actions, (program {}).run empty (overlap ++ [.resume 1 true]) = some (σ, actions) ∧
        σ.shared.poolSize < σ.shared.availableConnections.length) ∧
      (∃ σ actions, (program {}).run empty lateReturn = some (σ, actions) ∧
        σ.shared.poolSize < σ.shared.availableConnections.length) ∧
      ∃ σ actions, (program {}).run empty
          (overlap ++ [.call (.closeAll false), .resume 2 true, .resume 2 true, .resume 2 true])
            = some (σ, actions) ∧ ¬UndisturbedWalk {} σ := by
  refine ⟨⟨_, _, rfl, by decide⟩, ⟨_, _, rfl, by decide⟩, _, _, rfl, fun hwalk ↦ ?_⟩
  have hsame := hwalk 1 2 _ _ true _ _ rfl (by decide) rfl
  cases hsame

end AsyncPool

end Ormpp
