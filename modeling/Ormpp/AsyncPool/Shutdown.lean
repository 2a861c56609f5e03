import Ormpp.AsyncPool.Generation
import Ormpp.AsyncPool.Ownership
import Ormpp.AsyncPool.Size

/-!
# Shutdown

From the moment that `close_all` finds the pool open until it returns, the deque is its own: it
starts to disconnect each connection once, and clears the deque when the last has answered. After
that the pool stays empty until another `init`: a `get` returns nothing, and what is returned is
destroyed.
-/

namespace Ormpp

namespace AsyncPool

/-! ## What is disconnected -/

/-- The object that a segment starts to disconnect. -/
def Action.disconnects : Action → Option ℕ
  | .disconnect c => some c.id
  | .decrement _ _ => none

/-- How often the connection was disconnected. -/
def disconnectCount (c : Connection) (actions : List Action) : ℕ :=
  (actions.filterMap Action.disconnects).count c.id

/-- Those of the given connections that were disconnected, in the order of the calls. -/
def disconnectedOf (pooled : List Connection) (actions : List Action) : List ℕ :=
  (actions.filterMap Action.disconnects).filter (· ∈ pooled.map Connection.id)

theorem disconnectedOf_append (pooled : List Connection) (actions later : List Action) :
    disconnectedOf pooled (actions ++ later)
      = disconnectedOf pooled actions ++ disconnectedOf pooled later := by
  rw [disconnectedOf, List.filterMap_append, List.filter_append, disconnectedOf, disconnectedOf]

theorem disconnectedOf_disconnect {pooled : List Connection} {c : Connection} (hc : c ∈ pooled) :
    disconnectedOf pooled [.disconnect c] = [c.id] := by
  have hmem : c.id ∈ pooled.map Connection.id := List.mem_map_of_mem hc
  exact List.filter_cons_of_pos (decide_eq_true hmem)

theorem disconnectedOf_eq_nil {pooled : List Connection} {actions : List Action}
    (h : ∀ c, .disconnect c ∈ actions → c.id ∉ pooled.map Connection.id) :
    disconnectedOf pooled actions = [] := by
  apply List.filter_eq_nil_iff.mpr
  intro id hid
  obtain ⟨action, haction, heq⟩ := List.mem_filterMap.mp hid
  cases action with
  | disconnect c =>
    cases heq
    simpa using h c haction
  | decrement => cases heq

theorem disconnectCount_eq_one {pooled : List Connection} {actions : List Action} {c : Connection}
    (hnodup : (pooled.map Connection.id).Nodup) (hc : c ∈ pooled)
    (h : disconnectedOf pooled actions = pooled.map Connection.id) :
    disconnectCount c actions = 1 := by
  have hmem : c.id ∈ pooled.map Connection.id := List.mem_map_of_mem hc
  calc disconnectCount c actions
      = (disconnectedOf pooled actions).count c.id :=
        (List.count_filter (p := fun id ↦ decide (id ∈ pooled.map Connection.id))
          (decide_eq_true hmem)).symm
    _ = (pooled.map Connection.id).count c.id := by rw [h]
    _ = 1 := List.count_eq_one_of_mem hnodup hmem

/-! ## The other coroutines -/

variable {options : PoolOptions} {s s' : Pool} {h h' : Holding} {actions : List Action}

/-- A coroutine without a role disconnects only what it holds. -/
theorem disconnect_held (ht : Transition options s h s' h' actions) (hroles : h.roles = 0)
    {c : Connection} (hc : .disconnect c ∈ actions) : c.id ∈ h.objects := by
  cases ht with
  | failStart | closeStart => exact absurd hroles (Multiset.singleton_ne_zero _)
  | walkNext failed => cases failed <;> exact absurd hroles (Multiset.singleton_ne_zero _)
  | lose d | drop d =>
    rcases List.mem_append.mp hc with hc | hc
    · cases List.mem_singleton.mp hc
    · cases List.mem_singleton.mp hc
      exact Multiset.mem_singleton_self _
  | dropDynamic d =>
    rcases List.mem_append.mp hc with hc | hc
    · simp [Pool.decrementsDynamic] at hc
    · cases List.mem_singleton.mp hc
      exact Multiset.mem_singleton_self _
  | pool | destroy => cases List.mem_singleton.mp hc
  | giveUp | destroyDynamic => simp [Pool.decrementsDynamic] at hc
  | _ => cases hc

/-- A closed pool stays as it is, and no new connection is made, by what is not an `init`. -/
theorem transition_of_closed (ht : Transition options s h s' h' actions) (hroles : h.roles = 0)
    (hstart : h ≠ .starting) (hinit : s.initialized = false) :
    s'.availableConnections = s.availableConnections ∧ s'.initialized = false ∧
      s'.closing = s.closing ∧ s'.created = s.created ∧ h'.objects ≤ h.objects := by
  cases ht with
  | refuse | store | storeNone => exact absurd rfl hstart
  | push | finish | failStart | failNone => exact absurd hroles (Multiset.singleton_ne_zero _)
  | closeStart | closeNone => exact absurd hroles (Multiset.singleton_ne_zero _)
  | walkNext failed => cases failed <;> exact absurd hroles (Multiset.singleton_ne_zero _)
  | walkEnd failed => cases failed <;> exact absurd hroles (Multiset.singleton_ne_zero _)
  | take c behind hopen => simp [hinit] at hopen
  | pool c hopen => simp [hinit] at hopen
  | handOut c hopen => simp [hinit] at hopen
  | handOutDynamic c hopen => simp [hinit] at hopen
  | expand hopen => simp [hinit] at hopen
  | close hopen => simp [hinit] at hopen
  | forget | destroy | giveUp | destroyDynamic => exact ⟨rfl, hinit, rfl, rfl, Multiset.zero_le _⟩
  | _ => exact ⟨rfl, hinit, rfl, rfl, le_rfl⟩

/-! ## The progress of `close_all` -/

/-- How far the `close_all` called at that place has come with the connections that were pooled when
it set `closing_`. -/
inductive Progress (pooled : List Connection) (i : ℕ) (σ : Config Pool Frame)
    (actions : List Action) :
    Prop
  | waiting (f : Frame) (hf : σ.frames[i]? = some f) (hholding : f.holding = .closing)
    (ha : σ.shared.availableConnections = pooled) (hd : disconnectedOf pooled actions = [])
  | walking (walked : List Connection) (c : Connection) (behind : List Connection)
    (hf : σ.frames[i]? = some (.closeDisconnecting c behind))
    (hpooled : pooled = walked ++ c :: behind)
    (ha : σ.shared.availableConnections = pooled)
    (hd : disconnectedOf pooled actions = (walked ++ [c]).map Connection.id)
  | done (hf : σ.frames[i]? = some (.returned .closed)) (ha : σ.shared.availableConnections = [])
    (hinit : σ.shared.initialized = false) (hclosing : σ.shared.closing = false)
    (hd : disconnectedOf pooled actions = pooled.map Connection.id)
    (hgone : ∀ c ∈ pooled, c.id ∉ Program.weight (·.holding.objects) σ.frames)

structure Stopping (pooled : List Connection) (i : ℕ) (σ : Config Pool Frame)
    (actions : List Action) :
    Prop where
  phase : InPhase σ
  owned : AllOwned σ
  noInit : initCount σ.frames = 0
  progress : Progress pooled i σ actions

theorem isInit_of_initCount {frames : List Frame} (hcount : initCount frames = 0) {f : Frame}
    (hf : f ∈ frames) : f.holding.isInit = false := by
  obtain ⟨i, hi⟩ := List.mem_iff_getElem?.mp hf
  rw [initCount, Program.weight_eraseIdx _ hi] at hcount
  rcases hinit : f.holding.isInit with _ | _
  · rfl
  · rw [hinit, Bool.toNat_true] at hcount
    omega

theorem not_inFlight_of_initCount {frames : List Frame} (hcount : initCount frames = 0) {f : Frame}
    (hf : f ∈ frames) : f.initInFlight = false := by
  by_contra hflight
  rw [Bool.not_eq_false] at hflight
  have hinit := isInit_of_initCount hcount hf
  rw [(isInit_of_inFlight hflight).1] at hinit
  cases hinit

section Step

variable {pooled : List Connection} {i j : ℕ} {σ : Config Pool Frame} {s : Pool}
  {done actions : List Action} {f f' g : Frame} {answer : Bool} {r : Role}

/-- Beside a `close_all` that has found the pool open, a coroutine touches neither the deque nor the
connections in it. -/
theorem beside_closer (hphase : InPhase σ) (howned : AllOwned σ) (hg : σ.frames[i]? = some g)
    (hr : r ∈ g.holding.roles) (hcloser : r.IsCloser) (hne : j ≠ i) (hf : σ.frames[j]? = some f)
    (hresume : resume options σ.shared f answer = some (s, f', actions)) :
    s.availableConnections = σ.shared.availableConnections ∧
      disconnectedOf σ.shared.availableConnections actions = [] := by
  obtain ⟨hroles, -, hclosing⟩ := hphase.beside_closer hg hr hcloser hne hf
  have ht := transition_of_resume hresume
  constructor
  · exact available_of_closing ht hroles hclosing
  · apply disconnectedOf_eq_nil
    intro c hc hpooled
    exact howned.disjoint hpooled (mem_objects hf (disconnect_held ht hroles hc))

/-- The frame that moves is not the `close_all`. -/
theorem Progress.other (hprogress : Progress pooled i σ done) (hphase : InPhase σ)
    (howned : AllOwned σ) (hnoInit : initCount σ.frames = 0) (hne : j ≠ i)
    (hf : σ.frames[j]? = some f)
    (hresume : resume options σ.shared f answer = some (s, f', actions)) :
    Progress pooled i ⟨s, σ.frames.set j f'⟩ (done ++ actions) := by
  have hset : (σ.frames.set j f')[i]? = σ.frames[i]? := List.getElem?_set_ne hne
  have happend := disconnectedOf_append pooled done actions
  rcases hprogress with ⟨g, hg, hholding, ha, hd⟩ | ⟨walked, c, behind, hg, hpooled, ha, hd⟩ |
    ⟨hg, ha, hinit, hclosing, hd, hgone⟩
  -- Until the loop has come to its end, nobody touches the deque or what is in it.
  · have hr : Role.closing ∈ g.holding.roles := hholding ▸ Multiset.mem_singleton_self _
    obtain ⟨ha', hnone⟩ := beside_closer hphase howned hg hr trivial hne hf hresume
    rw [ha] at ha' hnone
    refine .waiting g (hset.trans hg) hholding ha' ?_
    rw [happend, hd, hnone, List.append_nil]
  · have hr : Role.walking (c :: behind) ∈ (Frame.closeDisconnecting c behind).holding.roles :=
      Multiset.mem_singleton_self _
    obtain ⟨ha', hnone⟩ := beside_closer hphase howned hg hr trivial hne hf hresume
    rw [ha] at ha' hnone
    refine .walking walked c behind (hset.trans hg) hpooled ha' ?_
    rw [happend, hd, hnone, List.append_nil]
  -- After that nobody has a role, and what others disconnect is not what was pooled.
  · have ht := transition_of_resume hresume
    have hzero := roles_eq_zero hphase hclosing fun g hg ↦ not_inFlight_of_initCount hnoInit hg
    rw [Program.weight_eraseIdx _ hf] at hzero
    have hroles := (add_eq_zero.mp hzero).1
    have hstart : f.holding ≠ .starting := by
      intro hstart
      have hnone := isInit_of_initCount hnoInit (List.mem_of_getElem? hf)
      rw [hstart] at hnone
      cases hnone
    obtain ⟨ha', hinit', hclosing', -, hless⟩ := transition_of_closed ht hroles hstart hinit
    have hnone : disconnectedOf pooled actions = [] := by
      apply disconnectedOf_eq_nil
      intro c hc hmem
      obtain ⟨d, hd, hid⟩ := List.mem_map.mp hmem
      exact hgone d hd (hid ▸ mem_objects hf (disconnect_held ht hroles hc))
    refine .done (hset.trans hg) (ha'.trans ha) hinit' (hclosing'.trans hclosing) ?_ ?_
    · rw [happend, hd, hnone, List.append_nil]
    · intro c hc hmem
      rw [Program.weight_set _ hf] at hmem
      apply hgone c hc
      rw [Program.weight_eraseIdx _ hf]
      exact Multiset.mem_of_le (add_le_add_left hless _) hmem

/-- `close_all` begins its loop or goes on with it. -/
theorem progress_closeNext {walked : List Connection} (howned : AllOwned σ)
    (hf : σ.frames[i]? = some f) (hobjects : f.holding.objects = 0)
    (ha : σ.shared.availableConnections = pooled) (behind : List Connection)
    (hpooled : pooled = walked ++ behind)
    (hd : disconnectedOf pooled done = walked.map Connection.id) :
    Progress pooled i
      ⟨(σ.shared.closeNext behind).1, σ.frames.set i (σ.shared.closeNext behind).2.1⟩
      (done ++ (σ.shared.closeNext behind).2.2) := by
  have hi : i < σ.frames.length := (List.getElem?_eq_some_iff.mp hf).1
  have hset (g : Frame) : (σ.frames.set i g)[i]? = some g := List.getElem?_set_self hi
  cases behind with
  | nil =>
    apply Progress.done (hset _) rfl rfl rfl
    · rw [List.append_nil] at hpooled
      change disconnectedOf pooled (done ++ []) = _
      rw [List.append_nil, hd, hpooled]
    · intro c hc hmem
      have hweight := Program.weight_eraseIdx (·.holding.objects) hf
      rw [Program.weight_set _ hf] at hmem
      rw [hobjects] at hweight
      exact howned.disjoint (ha ▸ List.mem_map_of_mem hc) (hweight ▸ hmem)
  | cons d behind =>
    refine .walking walked d behind (hset _) hpooled ha ?_
    have hmem : d ∈ pooled := hpooled ▸ List.mem_append_right walked List.mem_cons_self
    change disconnectedOf pooled (done ++ [.disconnect d]) = _
    rw [disconnectedOf_append, hd, disconnectedOf_disconnect hmem, List.map_append]
    rfl

/-- The `close_all` moves. -/
theorem Progress.own (hprogress : Progress pooled i σ done) (howned : AllOwned σ)
    (hf : σ.frames[i]? = some f)
    (hresume : resume options σ.shared f answer = some (s, f', actions)) :
    Progress pooled i ⟨s, σ.frames.set i f'⟩ (done ++ actions) := by
  have hi : i < σ.frames.length := (List.getElem?_eq_some_iff.mp hf).1
  have hset (g : Frame) : (σ.frames.set i g)[i]? = some g := List.getElem?_set_self hi
  rcases hprogress with ⟨g, hg, hholding, ha, hd⟩ | ⟨walked, c, behind, hg, hpooled, ha, hd⟩ |
    ⟨hg, ha, hinit, hclosing, hd, hgone⟩
  · cases hg.symm.trans hf
    -- As long as it waits for connections in use, it comes back to its loop with nothing done.
    have hwait (g : Frame) (hg : g.holding = .closing) :
        Progress pooled i ⟨σ.shared, σ.frames.set i g⟩ (done ++ []) :=
      .waiting g (hset g) hg ha (by rw [List.append_nil, hd])
    cases f with
    | closeRecounting =>
      rw [resume, Pool.closeRecount] at hresume
      split_ifs at hresume
      all_goals
        cases hresume
        exact hwait _ rfl
    | closeWaiting =>
      rw [resume, Pool.closeLoop] at hresume
      split_ifs at hresume
      all_goals
        cases hresume
        exact hwait _ rfl
    | closeReady =>
      have hnext := progress_closeNext howned hf rfl ha pooled (List.nil_append _).symm hd
      rw [resume, ha, Option.some.injEq] at hresume
      rwa [hresume] at hnext
    | handle c dynamic | returning c dynamic => cases dynamic <;> cases hholding
    | _ => cases hholding
  · cases hg.symm.trans hf
    have hwalked : pooled = (walked ++ [c]) ++ behind := by
      rw [hpooled, List.append_assoc]
      rfl
    have hnext := progress_closeNext howned hf rfl ha behind hwalked hd
    rw [resume] at hresume
    split_ifs at hresume
    rw [Option.some.injEq] at hresume
    rwa [hresume] at hnext
  · cases hg.symm.trans hf
    cases hresume
    have hsame : σ.frames.set i (.returned .closed) = σ.frames := by
      obtain ⟨hlt, heq⟩ := List.getElem?_eq_some_iff.mp hf
      rw [← heq, List.set_getElem_self]
    rw [List.append_nil, hsame]
    exact .done hg ha hinit hclosing hd hgone

end Step

theorem start_objects (c : Call) : ((program options).start c).holding.objects = 0 := by
  cases c <;> rfl

theorem stopping_step {pooled : List Connection} {i : ℕ} {σ τ : Config Pool Frame}
    {done actions : List Action} {e : Event Call Bool} (hσ : Stopping pooled i σ done)
    (he : isInitCall e = false) (hstep : (program options).step σ e = some (τ, actions)) :
    Stopping pooled i τ (done ++ actions) := by
  have hseq : Sequential σ e := sequential_of_initCount e (hσ.noInit ▸ Nat.zero_le 1)
  refine ⟨inPhase_step hstep hseq hσ.phase, allOwned_step hstep hσ.owned, ?_, ?_⟩
  · have hle := initCount_step hstep
    rw [hσ.noInit, he] at hle
    exact Nat.le_zero.mp hle
  -- A call adds a frame behind the others; a resumed frame is the `close_all` or another.
  obtain ⟨c, rfl, rfl, rfl⟩ | ⟨j, answer, rfl, -, rfl, rfl⟩ |
      ⟨j, answer, f, s, f', rfl, hf, hs, rfl⟩ :=
    Program.step_cases hstep
  · have hkeep {g : Frame} (hg : σ.frames[i]? = some g) : (σ.frames ++ [start c])[i]? = some g := by
      rw [List.getElem?_append_left (List.getElem?_eq_some_iff.mp hg).1]
      exact hg
    rw [List.append_nil]
    rcases hσ.progress with ⟨g, hg, hholding, ha, hd⟩ | ⟨walked, d, behind, hg, hpooled, ha, hd⟩ |
      ⟨hg, ha, hinit, hclosing, hd, hgone⟩
    · exact .waiting g (hkeep hg) hholding ha hd
    · exact .walking walked d behind (hkeep hg) hpooled ha hd
    · refine .done (hkeep hg) ha hinit hclosing hd fun d hd hmem ↦ hgone d hd ?_
      rwa [Program.weight_append, Program.weight_cons, start_objects, Program.weight_nil, add_zero,
        add_zero] at hmem
  · rw [List.append_nil]
    exact hσ.progress
  · by_cases hji : j = i
    · subst hji
      exact hσ.progress.own hσ.owned hf hs
    · exact hσ.progress.other hσ.phase hσ.owned hσ.noInit hji hf hs

/-- A run without a call of `init` is defined, and the `close_all` comes on. -/
theorem Stopping.run {pooled : List Connection} {i : ℕ} {σ : Config Pool Frame} {done : List Action}
    {es : List (Event Call Bool)} (hσ : Stopping pooled i σ done) (options : PoolOptions)
    (hes : ∀ e ∈ es, isInitCall e = false) :
    ∃ τ actions, (program options).run σ es = some (τ, actions) ∧
      Stopping pooled i τ (done ++ actions) := by
  have hcalls : es.countP isInitCall = 0 :=
    List.countP_eq_zero.mpr fun e he ↦ by rw [hes e he]; exact Bool.false_ne_true
  have hseq : (program options).Along Sequential σ es :=
    along_sequential (by rw [hσ.noInit, hcalls]; exact Nat.zero_le 1)
  obtain ⟨τ, actions, hrun, -⟩ := run_sequential hσ.phase hseq
  exact ⟨τ, actions, hrun, Program.run_invariant (Stopping pooled i)
    (fun _ _ _ _ _ hσ he hstep ↦ stopping_step hσ he hstep) done hσ
    (Program.along_of_mem σ fun e he _ ↦ hes e he) hrun⟩

/-! ## The moment at which the pool is found open -/

/-- The `close_all` that have found the pool open. -/
def Holding.atWork : Holding → ℕ
  | .closing | .walking none _ => 1
  | _ => 0

/-- There is one exactly while the pool is closing, whatever `init` does. -/
theorem atWork_transition {others : ℕ} (ht : Transition options s h s' h' actions)
    (hcount : s.closing.toNat = h.atWork + others) : s'.closing.toNat = h'.atWork + others := by
  cases ht with
  | close hinit hclosing =>
    rw [hclosing] at hcount
    have hothers : others = 0 := by
      change 0 = 0 + others at hcount
      omega
    rw [hothers]
    rfl
  | closeNone =>
    change 0 = 0 + others
    have hle : s.closing.toNat ≤ 1 := Bool.toNat_le _
    change s.closing.toNat = 1 + others at hcount
    omega
  | walkNext failed => cases failed <;> exact hcount
  | walkEnd failed =>
    cases failed
    · change 0 = 0 + others
      have hle : s.closing.toNat ≤ 1 := Bool.toNat_le _
      change s.closing.toNat = 1 + others at hcount
      omega
    · exact hcount
  | _ => exact hcount

theorem roles_of_holding {h : Holding} (hinit : h.isInit = false) (hwork : h.atWork = 0) :
    h.roles = 0 := by
  cases h with
  | opening | closing => cases hinit <;> cases hwork
  | walking failed walk =>
    cases failed
    · cases hwork
    · cases hinit
  | _ => rfl

/-- Any run leads to an open pool in its phase, if no `init` is in flight. -/
theorem stopping_of_run {es : List (Event Call Bool)} {σ : Config Pool Frame} {done : List Action}
    (hrun : (program options).run empty es = some (σ, done)) (hopen : σ.shared.isOpen = true)
    (hinit : ∀ f ∈ σ.frames, f.holding.isInit = false) :
    InPhase σ ∧ AllOwned σ ∧ initCount σ.frames = 0 := by
  obtain ⟨hinitialized, hclosing⟩ := Bool.and_eq_true_iff.mp hopen
  rw [Bool.not_eq_true'] at hclosing
  have hok : (program options).Along (fun _ _ ↦ True) empty es :=
    Program.along_of_mem empty fun _ _ _ ↦ trivial
  have howned : AllOwned σ :=
    Program.run_keeps AllOwned (fun _ _ _ _ h _ hstep ↦ allOwned_step hstep h) allOwned_empty hok
      hrun
  have hcount := Program.run_keeps
    (fun σ ↦ σ.shared.closing.toNat = Program.weight (·.holding.atWork) σ.frames)
    (fun _ _ _ _ h _ hstep ↦ law_step (fun s n ↦ s.closing.toNat = n) Holding.atWork hstep
      (fun c _ ↦ by cases c <;> rfl) (fun _ _ _ _ _ _ _ ht hc ↦ atWork_transition ht hc) h)
    rfl hok hrun
  -- In an open pool only an `init` in flight could have a role, and there is none.
  have hnone : Program.weight (·.holding.roles) σ.frames = 0 := by
    refine Program.weight_eq_zero fun f hf ↦ roles_of_holding (hinit f hf) ?_
    obtain ⟨i, hi⟩ := List.mem_iff_getElem?.mp hf
    rw [hclosing, Program.weight_eraseIdx _ hi, Bool.toNat_false] at hcount
    omega
  refine ⟨.rest hnone hclosing fun hclosed ↦ ?_, howned, Program.weight_eq_zero fun f hf ↦ ?_⟩
  · rw [hinitialized] at hclosed
    cases hclosed
  · rw [hinit f hf]
    rfl

/-! ## After the return -/

/-- A call of `get` or `close_all` that has not looked at the flags, or has come back with
nothing. -/
def Frame.unserved : Frame → Bool
  | .get | .getPosted | .returned .nullptr => true
  | .closeAll _ | .closePosted _ | .returned .closed => true
  | _ => false

/-- What holds of a `close_all`, called at that place, in every configuration after it has set
`closing_`, with the connections that were pooled then and what was done since. -/
structure ShutDown (options : PoolOptions) (pooled : List Connection) (i : ℕ)
    (τ : Config Pool Frame) (actions : List Action) : Prop where
  /-- Until it returns, nothing is added to the deque or removed. -/
  untouched : τ.frames[i]? ≠ some (.returned .closed) → τ.shared.availableConnections = pooled
  disconnectedOnce : τ.frames[i]? = some (.returned .closed) →
    ∀ c ∈ pooled, disconnectCount c actions = 1
  emptied : τ.frames[i]? = some (.returned .closed) → τ.shared.availableConnections = []
  /-- A `get` that comes to look at the flags returns nothing. -/
  refused : τ.frames[i]? = some (.returned .closed) →
    ∀ (j : ℕ) (answer : Bool) (υ : Config Pool Frame) (later : List Action),
      τ.frames[j]? = some .getPosted →
      (program options).step τ (.resume j answer) = some (υ, later) →
      υ.frames[j]? = some (.returned .nullptr)
  /-- What is called from now on is never served. -/
  unserved : τ.frames[i]? = some (.returned .closed) →
    ∀ (es : List (Event Call Bool)) (υ : Config Pool Frame) (later : List Action),
      (∀ e ∈ es, isInitCall e = false) → (program options).run τ es = some (υ, later) →
      ∀ (k : ℕ) (f : Frame), τ.frames.length ≤ k → υ.frames[k]? = some f → f.unserved = true
  /-- What is returned is not pooled, and nobody else holds it. -/
  destroyed : τ.frames[i]? = some (.returned .closed) →
    ∀ (j : ℕ) (c : Connection) (dynamic answer : Bool) (υ : Config Pool Frame)
      (later : List Action),
      τ.frames[j]? = some (.returning c dynamic) →
      (program options).step τ (.resume j answer) = some (υ, later) →
      υ.shared.availableConnections = [] ∧
        ∀ (k : ℕ) (f : Frame) (d : Connection), υ.frames[k]? = some f →
          f.holding.connection = some d → d.id ≠ c.id

section Returned

variable {pooled : List Connection} {i : ℕ} {σ τ υ : Config Pool Frame} {done later : List Action}
  {f f' : Frame} {answer : Bool} {es : List (Event Call Bool)}

/-- A `close_all` that has returned leaves a closed pool. -/
theorem Stopping.closed (hτ : Stopping pooled i τ done)
    (hreturned : τ.frames[i]? = some (.returned .closed)) :
    τ.shared.initialized = false ∧ τ.shared.availableConnections = [] ∧
      disconnectedOf pooled done = pooled.map Connection.id := by
  rcases hτ.progress with ⟨g, hg, hholding, -, -⟩ | ⟨walked, c, behind, hg, -, -, -⟩ |
    ⟨-, ha, hinit, -, hd, -⟩
  · cases hg.symm.trans hreturned
    cases hholding
  · cases hg.symm.trans hreturned
  · exact ⟨hinit, ha, hd⟩

theorem unserved_resume (hclosed : s.initialized = false) (hf : f.unserved = true)
    (hresume : resume options s f answer = some (s', f', actions)) : f'.unserved = true := by
  cases f with
  | get =>
    rw [resume, Pool.getLoop] at hresume
    split_ifs at hresume <;> (cases hresume; rfl)
  | getPosted =>
    simp only [resume, Pool.getCheck, hclosed, Bool.not_false, Bool.true_or, if_true] at hresume
    cases hresume
    rfl
  | closeAll wait =>
    cases hresume
    rfl
  | closePosted wait =>
    simp only [resume, Pool.closeCheck, hclosed, Bool.not_false, Bool.true_or, if_true] at hresume
    cases hresume
    rfl
  | returned result =>
    cases hresume
    exact hf
  | _ => cases hf

/-- The `close_all` stays returned. -/
theorem returned_step {e : Event Call Bool} (hstep : (program options).step τ e = some (υ, later))
    (hreturned : τ.frames[i]? = some (.returned .closed)) :
    υ.frames[i]? = some (.returned .closed) := by
  have hi : i < τ.frames.length := (List.getElem?_eq_some_iff.mp hreturned).1
  obtain ⟨c, -, rfl, -⟩ | ⟨_, _, -, -, rfl, -⟩ | ⟨j, answer, f, s, f', rfl, hf, hs, rfl⟩ :=
    Program.step_cases hstep
  · rw [List.getElem?_append_left hi]
    exact hreturned
  · exact hreturned
  · by_cases hji : j = i
    · subst hji
      cases hf.symm.trans hreturned
      cases hs
      exact List.getElem?_set_self hi
    · rw [List.getElem?_set_ne hji]
      exact hreturned

/-- The calls since then come back with nothing. -/
theorem unserved_step {n : ℕ} {e : Event Call Bool} (hclosed : τ.shared.initialized = false)
    (he : isInitCall e = false) (hstep : (program options).step τ e = some (υ, later))
    (hlate : ∀ (k : ℕ) (f : Frame), n ≤ k → τ.frames[k]? = some f → f.unserved = true) (k : ℕ)
    (hk : n ≤ k) (g : Frame) (hg : υ.frames[k]? = some g) : g.unserved = true := by
  obtain ⟨c, rfl, rfl, -⟩ | ⟨_, _, -, -, rfl, -⟩ | ⟨j, answer, f, s, f', rfl, hf, hs, rfl⟩ :=
    Program.step_cases hstep
  · rcases Nat.lt_or_ge k τ.frames.length with hlt | hge
    · rw [List.getElem?_append_left hlt] at hg
      exact hlate k g hk hg
    · rw [List.getElem?_append_right hge, List.getElem?_singleton] at hg
      split_ifs at hg
      cases hg
      cases c with
      | init => cases he
      | get | closeAll => rfl
  · exact hlate k g hk hg
  · by_cases hjk : j = k
    · subst hjk
      rw [List.getElem?_set_self (List.getElem?_eq_some_iff.mp hf).1, Option.some.injEq] at hg
      exact hg ▸ unserved_resume hclosed (hlate j f hk hf) hs
    · rw [List.getElem?_set_ne hjk] at hg
      exact hlate k g hk hg

theorem Stopping.unserved (hτ : Stopping pooled i τ done)
    (hreturned : τ.frames[i]? = some (.returned .closed)) (hes : ∀ e ∈ es, isInitCall e = false)
    (hrun : (program options).run τ es = some (υ, later)) (k : ℕ) (g : Frame)
    (hk : τ.frames.length ≤ k) (hg : υ.frames[k]? = some g) : g.unserved = true := by
  have hinv := Program.run_invariant
    (fun υ done ↦ Stopping pooled i υ done ∧ υ.frames[i]? = some (.returned .closed) ∧
      ∀ (k : ℕ) (f : Frame), τ.frames.length ≤ k → υ.frames[k]? = some f → f.unserved = true)
    (fun σ e υ before acts ⟨hσ, hreturned, hlate⟩ he hstep ↦
      ⟨stopping_step hσ he hstep, returned_step hstep hreturned,
        fun k g hk hg ↦ unserved_step (hσ.closed hreturned).1 he hstep hlate k hk g hg⟩)
    done ⟨hτ, hreturned, fun k f hk hf ↦ absurd (List.getElem?_eq_some_iff.mp hf).1 hk.not_gt⟩
    (Program.along_of_mem τ fun e he _ ↦ hes e he) hrun
  exact hinv.2.2 k g hk hg

/-- A posted return lets its connection go. -/
theorem Stopping.destroyed {j : ℕ} {c : Connection} {dynamic : Bool} (hτ : Stopping pooled i τ done)
    (hreturned : τ.frames[i]? = some (.returned .closed))
    (hj : τ.frames[j]? = some (.returning c dynamic))
    (hstep : (program options).step τ (.resume j answer) = some (υ, later)) :
    υ.shared.availableConnections = [] ∧
      ∀ (k : ℕ) (f : Frame) (d : Connection), υ.frames[k]? = some f →
        f.holding.connection = some d → d.id ≠ c.id := by
  have hυ := stopping_step hτ rfl hstep
  have hclosed := hυ.closed (returned_step hstep hreturned)
  refine ⟨hclosed.2.1, fun k g d hg hd hid ↦ ?_⟩
  obtain ⟨_, hcall, -⟩ | ⟨_, _, he, hnone, -, -⟩ | ⟨_, _, f, s, f', he, hf, hs, rfl⟩ :=
    Program.step_cases hstep
  · cases hcall
  · cases he
    cases hnone.symm.trans hj
  · cases he
    cases hf.symm.trans hj
    have hobjects : (Frame.returning c dynamic).holding.objects = {c.id} := by
      cases dynamic <;> rfl
    -- The connection is destroyed with the frame: the closed pool does not take it back.
    have hmine : f'.holding.objects = 0 := by
      cases dynamic with
      | true =>
        cases hs
        rfl
      | false =>
        change some (τ.shared.returnConnection c false) = _ at hs
        simp only [Pool.returnConnection, (hτ.closed hreturned).1, Bool.false_and] at hs
        cases hs
        rfl
    have hheld : c.id ∈ g.holding.objects := hid ▸ mem_objects_of_connection hd
    have hmem := mem_objects hg hheld
    rw [Program.weight_set _ hf, hmine, zero_add] at hmem
    exact hτ.owned.disjoint_frames hf (hobjects ▸ Multiset.mem_singleton_self _) hmem

end Returned

/-- A `close_all` that finds the pool open sets `closing_`. -/
theorem resume_closePosted (options : PoolOptions) (hopen : s.isOpen = true)
    (waitForReturn answer : Bool) :
    ∃ f, resume options s (.closePosted waitForReturn) answer
        = some ({ s with closing := true }, f, []) ∧ f.holding = .closing := by
  obtain ⟨-, -, htest⟩ | ⟨hclosed, -⟩ := isOpen_cases s
  · rw [resume, Pool.closeCheck, htest, if_neg Bool.false_ne_true, Pool.closeLoop]
    split_ifs
    · exact ⟨_, rfl, rfl⟩
    · exact ⟨_, rfl, rfl⟩
    · exact ⟨_, rfl, rfl⟩
  · rw [hopen] at hclosed
    cases hclosed

/-- **Shutdown.** In an open pool without an `init` in flight, whatever led to it, a `close_all`
sets `closing_`. Then, as long as `init` is not called, nothing is undefined, nobody touches the
deque until it returns, it disconnects every pooled connection once, and it leaves a pool that
serves nobody. -/
theorem shutDown (options : PoolOptions) (before : List (Event Call Bool)) (σ : Config Pool Frame)
    (done : List Action) (hbefore : (program options).run empty before = some (σ, done))
    (hopen : σ.shared.isOpen = true) (hinit : ∀ f ∈ σ.frames, f.holding.isInit = false) (i : ℕ)
    (waitForReturn answer : Bool) (hi : σ.frames[i]? = some (.closePosted waitForReturn))
    (es : List (Event Call Bool)) (hes : ∀ e ∈ es, isInitCall e = false) :
    ∃ τ actions, (program options).run σ (.resume i answer :: es) = some (τ, actions) ∧
      ShutDown options σ.shared.availableConnections i τ actions := by
  obtain ⟨hphase, howned, hcount⟩ := stopping_of_run hbefore hopen hinit
  obtain ⟨f, hresume, hholding⟩ := resume_closePosted options hopen waitForReturn answer
  have hstep := Program.step_resume (P := program options) hi hresume
  have hseq := sequential_of_initCount (.resume i answer) (hcount ▸ Nat.zero_le 1)
  -- With the first segment of the `close_all`, the invariant of the shutdown begins to hold.
  have hfirst : Stopping σ.shared.availableConnections i
      ⟨{ σ.shared with closing := true }, σ.frames.set i f⟩ [] := by
    refine ⟨inPhase_step hstep hseq hphase, allOwned_step hstep howned, ?_, ?_⟩
    · have hle := initCount_step hstep
      rw [hcount] at hle
      exact Nat.le_zero.mp hle
    · exact .waiting f (List.getElem?_set_self (List.getElem?_eq_some_iff.mp hi).1) hholding rfl rfl
  obtain ⟨τ, later, hrun, hτ⟩ := hfirst.run options hes
  have hnodup : (σ.shared.availableConnections.map Connection.id).Nodup :=
    (Multiset.nodup_add.mp howned.nodup).1
  refine ⟨τ, [] ++ later, by simp only [Program.run, hstep, hrun], ?_, ?_, ?_, ?_, ?_, ?_⟩
  · intro hnot
    rcases hτ.progress with ⟨-, -, -, ha, -⟩ | ⟨-, -, -, -, -, ha, -⟩ | ⟨hreturned, -⟩
    · exact ha
    · exact ha
    · exact absurd hreturned hnot
  · exact fun hreturned c hc ↦ disconnectCount_eq_one hnodup hc (hτ.closed hreturned).2.2
  · exact fun hreturned ↦ (hτ.closed hreturned).2.1
  · intro hreturned j answer υ later hj hstep
    have hrefuse : resume options τ.shared .getPosted answer
        = some (τ.shared, .returned .nullptr, []) := by
      rw [resume, Pool.getCheck, (hτ.closed hreturned).1]
      rfl
    rw [Program.step_resume (P := program options) hj hrefuse] at hstep
    cases hstep
    exact List.getElem?_set_self (List.getElem?_eq_some_iff.mp hj).1
  · exact fun hreturned es υ later hes hrun k g ↦ hτ.unserved hreturned hes hrun k g
  · exact fun hreturned j c dynamic answer υ later hj hstep ↦ hτ.destroyed hreturned hj hstep

/-- A pool of two connections, with a `get` that waits for its ping, and a posted `close_all`. -/
def closeDuringGet : List (Event Call Bool) :=
  [.call (.init 2 ⟨[], [], [], [], none, none⟩), .resume 0 true, .resume 0 true, .resume 0 true,
    .call .get, .resume 1 true, .resume 1 true, .call (.closeAll true), .resume 2 true]

theorem shutDown_duringGet :
    ∃ σ, (program {}).run empty closeDuringGet = some (σ, []) ∧
      ∃ τ actions, (program {}).run σ (.resume 2 true ::
          [.resume 2 true, .resume 2 false, .resume 1 true, .resume 2 true, .resume 1 true,
            .resume 2 true, .call .get, .resume 3 true, .resume 3 true]) = some (τ, actions) ∧
        ShutDown {} σ.shared.availableConnections 2 τ actions :=
  ⟨_, rfl, shutDown {} closeDuringGet _ [] rfl rfl (by decide) 2 true true rfl _ (by decide)⟩

end AsyncPool

end Ormpp
