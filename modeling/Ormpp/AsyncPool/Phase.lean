import Ormpp.AsyncPool.Transition

/-!
# The phases of a pool

As long as no `init` begins while another is in flight, at most one coroutine at a time has a say
over the deque as a whole: an `init` that fills it or that disconnects what it has filled, or the
`close_all` that found the pool open. Then no loop over the deque meets an invalid iterator.
-/

namespace Ormpp

namespace AsyncPool

/-! ## One `init` after another -/

/-- The frame is an `init` between its first segment and its return. -/
def Frame.initInFlight : Frame → Bool
  | .initConnecting .. | .initDisconnecting .. => true
  | _ => false

def isInitCall : Event Call Bool → Bool
  | .call (.init _ _) => true
  | _ => false

def isCloseCall : Event Call Bool → Bool
  | .call (.closeAll _) => true
  | _ => false

/-- The frame that the event resumes. -/
def resumed (σ : Config Pool Frame) : Event Call Bool → Option Frame
  | .call _ => none
  | .resume i _ => σ.frames[i]?

/-- The event is the first segment of an `init`. -/
def startsInit (σ : Config Pool Frame) (e : Event Call Bool) : Bool :=
  match resumed σ e with
  | some (.init _ _) => true
  | _ => false

/-- No `init` begins while another is in flight. -/
def Sequential (σ : Config Pool Frame) (e : Event Call Bool) : Prop :=
  startsInit σ e = true → ∀ f ∈ σ.frames, f.initInFlight = false

instance (σ : Config Pool Frame) (e : Event Call Bool) : Decidable (Sequential σ e) :=
  inferInstanceAs (Decidable (_ → _))

/-! ## Roles -/

/-- What a coroutine with a say over the deque is doing. -/
inductive Role
  | opening (i : ℕ)
  | failing (walk : List Connection)
  | closing
  | walking (walk : List Connection)

def Holding.roles : Holding → Multiset Role
  | .opening _ i _ => {.opening i}
  | .walking (some _) walk => {.failing walk}
  | .closing => {.closing}
  | .walking none walk => {.walking walk}
  | _ => 0

/-- What the pool is like while a coroutine has that role. -/
def Role.Holds (s : Pool) : Role → Prop
  | .opening i =>
    s.initialized = false ∧ s.closing = false ∧ s.availableConnections.length = i ∧ i < s.poolSize
  | .failing walk => s.initialized = false ∧ s.closing = false ∧ walk <:+ s.availableConnections
  | .closing => s.initialized = true ∧ s.closing = true
  | .walking walk => s.initialized = true ∧ s.closing = true ∧ walk <:+ s.availableConnections

/-- The pool rests, closed or open, or one coroutine has a role. -/
inductive Phase (s : Pool) (m : Multiset Role) : Prop
  | rest (hm : m = 0) (hclosing : s.closing = false)
    (hclosed : s.initialized = false → s.availableConnections = [])
  | busy (r : Role) (hm : m = {r}) (hr : r.Holds s)

variable {options : PoolOptions} {s s' : Pool} {h h' : Holding} {actions : List Action}
  {m others : Multiset Role} {r : Role}

/-- A role leaves no room for another. -/
theorem Phase.holds (hphase : Phase s ({r} + others)) : others = 0 ∧ r.Holds s := by
  rw [Multiset.singleton_add] at hphase
  rcases hphase with ⟨hm, -, -⟩ | ⟨r', hm, hr⟩
  · exact absurd hm Multiset.cons_ne_zero
  · obtain ⟨rfl, rfl⟩ := (Multiset.singleton_eq_cons_iff _).mp hm.symm
    exact ⟨rfl, hr⟩

theorem Phase.only (hr : r.Holds s) : Phase s ({r} + 0) := .busy r (add_zero _) hr

/-- In an open pool nobody has a role. -/
theorem Phase.of_open (hphase : Phase s m) (hinit : s.initialized = true)
    (hclosing : s.closing = false) :
    m = 0 := by
  rcases hphase with ⟨hm, -, -⟩ | ⟨r, -, hr⟩
  · exact hm
  · cases r with
    | opening | failing => simp [Role.Holds, hinit] at hr
    | closing | walking => simp [Role.Holds, hclosing] at hr

theorem Phase.open (hinit : s.initialized = true) (hclosing : s.closing = false) :
    Phase s (0 + 0) :=
  .rest (add_zero 0) hclosing fun hclosed ↦ by simp [hinit] at hclosed

/-- The phase depends only on the flags, the size and the deque. -/
theorem Phase.congr (hphase : Phase s m) (hinit : s'.initialized = s.initialized)
    (hclosing : s'.closing = s.closing) (hsize : s'.poolSize = s.poolSize)
    (ha : s'.availableConnections = s.availableConnections) : Phase s' m := by
  rcases hphase with ⟨hm, hc, hclosed⟩ | ⟨r, hm, hr⟩
  · exact .rest hm (hclosing.trans hc) fun h ↦ ha.trans (hclosed (hinit.symm.trans h))
  · refine .busy r hm ?_
    cases r <;> simpa only [Role.Holds, hinit, hclosing, hsize, ha] using hr

/-- An `init` that finds the pool closed, and is alone, finds the deque empty. -/
theorem Phase.available_of_start (hphase : Phase s (0 + others))
    (hstart : s.initialized = false → s.closing = false → others = 0)
    (hinit : s.initialized = false) (hclosing : s.closing = false) :
    s.availableConnections = [] := by
  rw [hstart hinit hclosing] at hphase
  rcases hphase with ⟨-, -, hclosed⟩ | ⟨r, hm, -⟩
  · exact hclosed hinit
  · exact absurd hm.symm (Multiset.singleton_ne_zero r)

theorem suffix_tail {c d : Connection} {walk available : List Connection}
    (hvalid : c :: d :: walk <:+ available) : d :: walk <:+ available :=
  (List.suffix_cons c _).trans hvalid

/-- A transition keeps the phase. An `init` that begins in a closed pool has to be alone. -/
theorem Phase.transition (hphase : Phase s (h.roles + others))
    (ht : Transition options s h s' h' actions)
    (hstart : h = .starting → s.initialized = false → s.closing = false → others = 0) :
    Phase s' (h'.roles + others) := by
  cases ht with
  | pass => exact hphase
  | refuse | keepOut => exact hphase
  -- An `init` takes up its role in a closed pool, where it is alone.
  | store poolSize parameters hinit hclosing hsize =>
    have hempty := hphase.available_of_start (hstart rfl) hinit hclosing
    obtain rfl := hstart rfl hinit hclosing
    refine .only ⟨hinit, hclosing, ?_, hsize⟩
    simp [Pool.stored, hempty]
  | storeNone parameters hinit hclosing =>
    obtain rfl := hstart rfl hinit hclosing
    exact .open rfl hclosing
  | push parameters i c hi =>
    obtain ⟨rfl, hinit, hclosing, hlength, -⟩ := hphase.holds
    refine .only ⟨hinit, hclosing, ?_, hi⟩
    simp [hlength]
  | finish parameters i c hi =>
    obtain ⟨rfl, -, hclosing, -, -⟩ := hphase.holds
    exact .open rfl hclosing
  | failStart parameters i c d walk ha =>
    obtain ⟨rfl, hinit, hclosing, -, -⟩ := hphase.holds
    exact .only ⟨hinit, hclosing, ha ▸ List.suffix_rfl⟩
  | failNone parameters i c ha =>
    obtain ⟨rfl, -, hclosing, -, -⟩ := hphase.holds
    exact .rest (add_zero 0) hclosing fun _ ↦ rfl
  -- Where the deque is changed without a role, the pool is open and nobody has one.
  | take c behind hinit hclosing ha =>
    obtain rfl := (add_eq_zero.mp (hphase.of_open hinit hclosing)).2
    exact .open hinit hclosing
  | pool c hinit hclosing =>
    obtain rfl := (add_eq_zero.mp (hphase.of_open hinit hclosing)).2
    exact .open hinit hclosing
  | close hinit hclosing =>
    obtain rfl := (add_eq_zero.mp (hphase.of_open hinit hclosing)).2
    exact .only ⟨hinit, rfl⟩
  | closeStart d walk ha =>
    obtain ⟨rfl, hinit, hclosing⟩ := hphase.holds
    exact .only ⟨hinit, hclosing, ha ▸ List.suffix_rfl⟩
  | closeNone ha =>
    obtain ⟨rfl, -, -⟩ := hphase.holds
    exact .rest (add_zero 0) rfl fun _ ↦ rfl
  | walkNext failed c d walk hvalid =>
    cases failed with
    | none =>
      obtain ⟨rfl, hinit, hclosing, -⟩ := hphase.holds
      exact .only ⟨hinit, hclosing, suffix_tail hvalid⟩
    | some failed =>
      obtain ⟨rfl, hinit, hclosing, -⟩ := hphase.holds
      exact .only ⟨hinit, hclosing, suffix_tail hvalid⟩
  | walkEnd failed c hvalid =>
    cases failed with
    | none =>
      obtain ⟨rfl, -, -, -⟩ := hphase.holds
      exact .rest (add_zero 0) rfl fun _ ↦ rfl
    | some failed =>
      obtain ⟨rfl, -, hclosing, -⟩ := hphase.holds
      exact .rest (add_zero 0) hclosing fun _ ↦ rfl
  -- The others change the counters at most.
  | verify | reconnect | miss | handOut | release | forget => exact hphase
  | verifyDynamic | handOutDynamic | releaseDynamic => exact hphase
  | lose | drop | destroy | expand | giveUp | dropDynamic | destroyDynamic =>
    exact hphase.congr rfl rfl rfl rfl

/-! ## The phase of a configuration -/

def InPhase (σ : Config Pool Frame) : Prop :=
  Phase σ.shared (Program.weight (·.holding.roles) σ.frames)

/-- The phase, seen from a frame and the others. -/
theorem InPhase.beside {σ : Config Pool Frame} {i : ℕ} {f : Frame} (h : InPhase σ)
    (hf : σ.frames[i]? = some f) :
    Phase σ.shared (f.holding.roles + Program.weight (·.holding.roles) (σ.frames.eraseIdx i)) := by
  rw [InPhase, Program.weight_eraseIdx _ hf] at h
  exact h

/-- The roles of a pool that is not open are those of an `init` in flight. -/
theorem roles_eq_zero {frames : List Frame}
    (hphase : Phase s (Program.weight (·.holding.roles) frames))
    (hclosing : s.closing = false) (halone : ∀ f ∈ frames, f.initInFlight = false) :
    Program.weight (·.holding.roles) frames = 0 := by
  rcases hphase with ⟨hm, -, -⟩ | ⟨r, hm, hr⟩
  · exact hm
  · have hmem : r ∈ Program.weight (·.holding.roles) frames := hm ▸ Multiset.mem_singleton_self r
    obtain ⟨f, hf, hrole⟩ := Program.mem_weight.mp hmem
    have hflight := halone f hf
    -- Only an `init` in flight and a `close_all` that is closing the pool have a role.
    cases f with
    | initConnecting | initDisconnecting => cases hflight
    | closeRecounting | closeWaiting | closeReady =>
      obtain rfl := Multiset.mem_singleton.mp hrole
      simp [Role.Holds, hclosing] at hr
    | closeDisconnecting =>
      obtain rfl := Multiset.mem_singleton.mp hrole
      simp [Role.Holds, hclosing] at hr
    | handle c dynamic | returning c dynamic =>
      cases dynamic
      · exact absurd hrole (Multiset.notMem_zero r)
      · exact absurd hrole (Multiset.notMem_zero r)
    | _ => exact absurd hrole (Multiset.notMem_zero r)

theorem startsInit_of_holding {σ : Config Pool Frame} {i : ℕ} {answer : Bool} {f : Frame}
    (hf : σ.frames[i]? = some f) (hstart : f.holding = .starting) :
    startsInit σ (.resume i answer) = true := by
  cases f with
  | init poolSize parameters => simp only [startsInit, resumed, hf]
  | handle c dynamic | returning c dynamic => cases dynamic <;> cases hstart
  | _ => cases hstart

/-- An `init` that begins in a closed pool is the only coroutine with a say over the deque. -/
theorem others_eq_zero {σ : Config Pool Frame} {i : ℕ} {answer : Bool} {f : Frame}
    (hphase : InPhase σ)
    (hseq : Sequential σ (.resume i answer)) (hf : σ.frames[i]? = some f)
    (hstart : f.holding = .starting) (hclosing : σ.shared.closing = false) :
    Program.weight (·.holding.roles) (σ.frames.eraseIdx i) = 0 := by
  have hzero := roles_eq_zero hphase hclosing (hseq (startsInit_of_holding hf hstart))
  rw [Program.weight_eraseIdx _ hf] at hzero
  exact (add_eq_zero.mp hzero).2

theorem inPhase_step {σ τ : Config Pool Frame} {e : Event Call Bool}
    (hstep : (program options).step σ e = some (τ, actions)) (hseq : Sequential σ e)
    (h : InPhase σ) : InPhase τ := by
  refine law_step Phase Holding.roles hstep (fun c _ ↦ by cases c <;> rfl) ?_ h
  rintro i answer f s h' rfl hf ht hphase
  exact hphase.transition ht fun hstart _ hclosing ↦ others_eq_zero h hseq hf hstart hclosing

theorem step_defined {σ : Config Pool Frame} (h : InPhase σ) (e : Event Call Bool) :
    (program options).step σ e ≠ none := by
  refine Program.step_ne_none fun i answer f _ hf ↦ resume_ne_none ?_
  intro failed c walk hwalk
  -- The role of a loop is that what it has yet to walk is an end of the deque.
  have hphase := h.beside hf
  rw [hwalk] at hphase
  cases failed with
  | none => exact hphase.holds.2.2.2
  | some failed => exact hphase.holds.2.2.2

theorem inPhase_empty : InPhase empty := .rest rfl rfl fun _ ↦ rfl

/-- **Defined runs.** A run in which no `init` begins while another is in flight meets no undefined
behaviour, and leaves the pool in one of its phases. -/
theorem run_sequential {σ : Config Pool Frame} {es : List (Event Call Bool)} (h : InPhase σ)
    (hseq : (program options).Along Sequential σ es) :
    ∃ τ actions, (program options).run σ es = some (τ, actions) ∧ InPhase τ := by
  refine Program.run_defined InPhase ?_ h hseq
  intro σ e hphase hok
  obtain ⟨⟨τ, actions⟩, hstep⟩ := Option.ne_none_iff_exists'.mp (step_defined hphase e)
  exact ⟨τ, actions, hstep, inPhase_step hstep hok hphase⟩

end AsyncPool

end Ormpp
