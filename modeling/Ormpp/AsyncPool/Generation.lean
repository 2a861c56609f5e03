import Ormpp.AsyncPool.Phase

/-!
# Generations

A pool hands out connections that were last connected with the arguments of the `init` that opened
it, as long as nothing of an earlier pool comes to a later one: neither a connection that is
returned, nor one that `get` has still been verifying or making when the later `init` stored its
arguments. `return_connection` and the last check of `get` only look at the flags.
-/

namespace Ormpp

namespace AsyncPool

/-- A connection of other parameters, which was made or checked out before the latest `init`, meets
the last check of its `get`, or is returned, while the pool is open. -/
def mixesGenerations (σ : Config Pool Frame) (e : Event Call Bool) : Bool :=
  match resumed σ e with
  | some (.getVerified c) | some (.dynamicConnected c) | some (.returning c false) =>
    σ.shared.isOpen && c.generation != σ.shared.generation &&
      decide (c.parameters ≠ σ.shared.parameters)
  | _ => false

/-- The conditions under which the generations stay apart. -/
def KeepsGenerations (σ : Config Pool Frame) (e : Event Call Bool) : Prop :=
  Sequential σ e ∧ mixesGenerations σ e = false

instance (σ : Config Pool Frame) (e : Event Call Bool) : Decidable (KeepsGenerations σ e) :=
  inferInstanceAs (Decidable (_ ∧ _))

/-- If the event makes a `get` return a connection, this was last connected with the arguments of
the `init` that opened the pool last. -/
def HandsOutCurrent (options : PoolOptions) (σ : Config Pool Frame) (e : Event Call Bool) : Prop :=
  ∀ (i : ℕ) (answer : Bool) (τ : Config Pool Frame) (actions : List Action) (c : Connection)
    (dynamic : Bool), e = .resume i answer → (program options).step σ e = some (τ, actions) →
    τ.frames[i]? = some (.handle c dynamic) → c.parameters = σ.shared.opened

/-! ## The connections of a pool -/

/-- The connections of the pool that are out, with their generation and parameters. -/
def Holding.out : Holding → Multiset (ℕ × Parameters)
  | .fixed _ c | .failed c | .dynamic _ c => {(c.generation, c.parameters)}
  | _ => 0

/-- What an `init` in flight was called with, and the connection it is making. -/
def Holding.openings : Holding → Multiset (Parameters × Connection)
  | .opening parameters _ c => {(parameters, c)}
  | _ => 0

/-- The connections of the present generation were connected with its parameters. -/
structure Current (s : Pool) (openings : Multiset (Parameters × Connection))
    (out : Multiset (ℕ × Parameters)) : Prop where
  known : ∀ x ∈ out, x.1 ≤ s.generation
  same : ∀ x ∈ out, x.1 = s.generation → x.2 = s.parameters
  opening : ∀ x ∈ openings, x.1 = s.parameters ∧ x.2.parameters = s.parameters
  pooled : ∀ c ∈ s.availableConnections, c.parameters = s.parameters
  opened : s.initialized = true → s.opened = s.parameters

variable {options : PoolOptions} {s s' : Pool} {h h' : Holding} {actions : List Action}
  {openings openings' : Multiset (Parameters × Connection)} {out out' : Multiset (ℕ × Parameters)}

/-- Nothing is added. -/
theorem Current.of_le (hcurrent : Current s openings out)
    (hgeneration : s'.generation = s.generation)
    (hparameters : s'.parameters = s.parameters)
    (ha : ∀ c ∈ s'.availableConnections, c ∈ s.availableConnections)
    (hopened : s'.initialized = true → s.initialized = true ∧ s'.opened = s.opened)
    (hopenings : openings' ≤ openings) (hout : out' ≤ out) : Current s' openings' out' where
  known x hx := hgeneration ▸ hcurrent.known x (Multiset.mem_of_le hout hx)
  same x hx := by
    rw [hgeneration, hparameters]
    exact hcurrent.same x (Multiset.mem_of_le hout hx)
  opening x hx := by
    rw [hparameters]
    exact hcurrent.opening x (Multiset.mem_of_le hopenings hx)
  pooled c hc := hparameters ▸ hcurrent.pooled c (ha c hc)
  opened h := by
    obtain ⟨hinit, heq⟩ := hopened h
    rw [heq, hparameters]
    exact hcurrent.opened hinit

/-- A walk over the idle connections ends with none of them left. -/
theorem Current.of_empty (hcurrent : Current s openings out)
    (hgeneration : s'.generation = s.generation)
    (hparameters : s'.parameters = s.parameters) (ha : s'.availableConnections = [])
    (hopened : s'.initialized = true → s.initialized = true ∧ s'.opened = s.opened)
    (hopenings : openings' ≤ openings) : Current s' openings' out := by
  refine hcurrent.of_le hgeneration hparameters (fun c hc ↦ ?_) hopened hopenings le_rfl
  rw [ha] at hc
  cases hc

/-- A new generation has no connection yet, but for the one that its `init` may be making. -/
theorem Current.stored (hcurrent : Current s openings out) (hempty : s.availableConnections = [])
    (hgeneration : s'.generation = s.generation + 1)
    (ha : s'.availableConnections = s.availableConnections)
    (hopenings : ∀ x ∈ openings', x.1 = s'.parameters ∧ x.2.parameters = s'.parameters)
    (hopened : s'.initialized = true → s'.opened = s'.parameters) : Current s' openings' out where
  known x hx := hgeneration ▸ Nat.le_succ_of_le (hcurrent.known x hx)
  same x hx heq := by
    have hle := hcurrent.known x hx
    omega
  opening := hopenings
  pooled c hc := by
    rw [ha, hempty] at hc
    cases hc
  opened := hopened

/-- A connection of the present generation is out besides. -/
theorem Current.take {x : ℕ × Parameters} (hcurrent : Current s openings out)
    (hle : x.1 ≤ s.generation) (hx : x.1 = s.generation → x.2 = s.parameters) :
    Current s openings ({x} + out) where
  known y hy := by
    rcases Multiset.mem_add.mp hy with hy | hy
    · rw [Multiset.mem_singleton.mp hy]
      exact hle
    · exact hcurrent.known y hy
  same y hy := by
    rcases Multiset.mem_add.mp hy with hy | hy
    · rw [Multiset.mem_singleton.mp hy]
      exact hx
    · exact hcurrent.same y hy
  opening := hcurrent.opening
  pooled := hcurrent.pooled
  opened := hcurrent.opened

/-- A connection of the present parameters is pooled. -/
theorem Current.pool {c : Connection} (hcurrent : Current s openings out)
    (hc : c.parameters = s.parameters) (hgeneration : s'.generation = s.generation)
    (hparameters : s'.parameters = s.parameters)
    (ha : s'.availableConnections = s.availableConnections ++ [c])
    (hopenings : ∀ x ∈ openings', x.1 = s.parameters ∧ x.2.parameters = s.parameters)
    (hopened : s'.initialized = true → s'.opened = s.parameters) (hout : out' ≤ out) :
    Current s' openings' out' where
  known x hx := hgeneration ▸ hcurrent.known x (Multiset.mem_of_le hout hx)
  same x hx := by
    rw [hgeneration, hparameters]
    exact hcurrent.same x (Multiset.mem_of_le hout hx)
  opening x hx := hparameters ▸ hopenings x hx
  pooled d hd := by
    rw [ha] at hd
    rw [hparameters]
    rcases List.mem_append.mp hd with hd | hd
    · exact hcurrent.pooled d hd
    · rw [List.mem_singleton.mp hd, hc]
  opened h := hparameters ▸ hopened h

/-- A transition keeps the connections of the present generation apart, if it does not pool one of
an earlier generation. -/
theorem Current.transition {roles : Multiset Role}
    (hcurrent : Current s (h.openings + openings) (h.out + out))
    (ht : Transition options s h s' h' actions)
    (hstart : h = .starting → s.initialized = false → s.closing = false → roles = 0 ∧ openings = 0)
    (hphase : Phase s (h.roles + roles))
    (hold : ∀ c, h = .fixed .returning c → s.isOpen = true →
      c.generation = s.generation ∨ c.parameters = s.parameters) :
    Current s' (h'.openings + openings) (h'.out + out) := by
  have hless : 0 + out ≤ h.out + out := add_le_add_left (Multiset.zero_le _) out
  have hlessOpenings : 0 + openings ≤ h.openings + openings :=
    add_le_add_left (Multiset.zero_le _) openings
  cases ht with
  | store poolSize parameters hinit hclosing =>
    obtain ⟨rfl, rfl⟩ := hstart rfl hinit hclosing
    refine hcurrent.stored (hphase.available_of_start (fun _ _ ↦ rfl) hinit hclosing) rfl rfl ?_
      fun h ↦ by simp [Pool.stored, hinit] at h
    intro x hx
    rw [add_zero] at hx
    rw [Multiset.mem_singleton.mp hx]
    exact ⟨rfl, rfl⟩
  | storeNone parameters hinit hclosing =>
    obtain ⟨rfl, rfl⟩ := hstart rfl hinit hclosing
    exact hcurrent.stored (hphase.available_of_start (fun _ _ ↦ rfl) hinit hclosing) rfl rfl
      (fun x hx ↦ absurd hx (Multiset.notMem_zero x)) fun _ ↦ rfl
  | push parameters i c =>
    obtain ⟨-, hinit, -, -⟩ := hphase.holds
    obtain ⟨hp, hc⟩ :=
      hcurrent.opening _ (Multiset.mem_add.mpr (.inl (Multiset.mem_singleton_self _)))
    refine hcurrent.pool hc rfl rfl rfl ?_ (fun h ↦ by simp [hinit] at h) le_rfl
    intro x hx
    rcases Multiset.mem_add.mp hx with hx | hx
    · rw [Multiset.mem_singleton.mp hx]
      exact ⟨hp, rfl⟩
    · exact hcurrent.opening x (Multiset.mem_add.mpr (.inr hx))
  | finish parameters i c =>
    obtain ⟨hp, hc⟩ :=
      hcurrent.opening _ (Multiset.mem_add.mpr (.inl (Multiset.mem_singleton_self _)))
    exact hcurrent.pool hc rfl rfl rfl
      (fun x hx ↦ hcurrent.opening x (Multiset.mem_of_le hlessOpenings hx)) (fun _ ↦ hp) le_rfl
  | failStart =>
    exact hcurrent.of_le rfl rfl (fun _ hc ↦ hc) (fun h ↦ ⟨h, rfl⟩) hlessOpenings le_rfl
  | failNone =>
    exact hcurrent.of_empty rfl rfl rfl (fun h ↦ ⟨h, rfl⟩) hlessOpenings
  | closeNone =>
    exact hcurrent.of_empty rfl rfl rfl (fun h ↦ absurd h Bool.false_ne_true) le_rfl
  | walkNext failed =>
    cases failed <;> exact hcurrent
  | walkEnd failed =>
    cases failed
    · exact hcurrent.of_empty rfl rfl rfl (fun h ↦ absurd h Bool.false_ne_true) le_rfl
    · exact hcurrent.of_empty rfl rfl rfl (fun h ↦ ⟨h, rfl⟩) le_rfl
  | take c behind hinit hclosing ha =>
    have hc : c.parameters = s.parameters := hcurrent.pooled c (ha ▸ List.mem_cons_self)
    have hbefore : Current s (0 + openings) out := by
      rwa [show Holding.nothing.out + out = out from zero_add out] at hcurrent
    exact (hbefore.take le_rfl fun _ ↦ hc).of_le rfl rfl
      (fun d hd ↦ ha ▸ List.mem_cons_of_mem c hd) (fun h ↦ ⟨h, rfl⟩) le_rfl le_rfl
  -- A connection that is reconnected gets the parameters that the pool has at that moment.
  | reconnect c =>
    have hbefore : Current s (0 + openings) out :=
      hcurrent.of_le rfl rfl (fun _ hc ↦ hc) (fun h ↦ ⟨h, rfl⟩) le_rfl (Multiset.le_add_left _ _)
    have hle := hcurrent.known (c.generation, c.parameters)
      (Multiset.mem_add.mpr (.inl (Multiset.mem_singleton_self _)))
    exact hbefore.take hle fun _ ↦ rfl
  | pool c hinit hclosing =>
    have hc : c.parameters = s.parameters := by
      rcases hold c rfl (isOpen_of_flags hinit hclosing) with hgeneration | hc
      · exact hcurrent.same (c.generation, c.parameters)
          (Multiset.mem_add.mpr (.inl (Multiset.mem_singleton_self _))) hgeneration
      · exact hc
    exact hcurrent.pool hc rfl rfl rfl hcurrent.opening hcurrent.opened hless
  | expand =>
    have hbefore : Current s (0 + openings) out := by
      rwa [show Holding.nothing.out + out = out from zero_add out] at hcurrent
    exact (hbefore.take le_rfl fun _ ↦ rfl).of_le rfl rfl (fun _ hc ↦ hc) (fun h ↦ ⟨h, rfl⟩)
      le_rfl le_rfl
  | lose | drop | destroy | giveUp | dropDynamic | destroyDynamic =>
    exact hcurrent.of_le rfl rfl (fun _ hc ↦ hc) (fun h ↦ ⟨h, rfl⟩) le_rfl hless
  -- The others keep what they hold, and leave the deque and the parameters alone.
  | _ => exact hcurrent.of_le rfl rfl (fun _ hc ↦ hc) (fun h ↦ ⟨h, rfl⟩) le_rfl le_rfl

/-! ## Runs -/

structure Apart (σ : Config Pool Frame) : Prop where
  phase : InPhase σ
  current : Current σ.shared (Program.weight (·.holding.openings) σ.frames)
    (Program.weight (·.holding.out) σ.frames)

theorem apart_empty : Apart empty :=
  ⟨inPhase_empty, fun _ hx ↦ absurd hx (Multiset.notMem_zero _),
    fun _ hx ↦ absurd hx (Multiset.notMem_zero _), fun _ hx ↦ absurd hx (Multiset.notMem_zero _),
    nofun, nofun⟩

theorem openings_of_not_inFlight {f : Frame} (hf : f.initInFlight = false) :
    f.holding.openings = 0 := by
  cases f with
  | initConnecting => cases hf
  | handle c dynamic | returning c dynamic => cases dynamic <;> rfl
  | _ => rfl

/-- What the condition says of a connection. -/
theorem not_mixed {σ : Config Pool Frame} {i : ℕ} {answer : Bool} {f : Frame} {c : Connection}
    (hmixes : mixesGenerations σ (.resume i answer) = false) (hf : σ.frames[i]? = some f)
    (hc : f = .getVerified c ∨ f = .dynamicConnected c ∨ f = .returning c false)
    (hopen : σ.shared.isOpen = true) :
    c.generation = σ.shared.generation ∨ c.parameters = σ.shared.parameters := by
  rw [mixesGenerations, resumed, hf] at hmixes
  by_contra hne
  rw [not_or] at hne
  rcases hc with rfl | rfl | rfl <;> simp [hopen, hne] at hmixes

theorem apart_step {σ τ : Config Pool Frame} {e : Event Call Bool}
    (hstep : (program options).step σ e = some (τ, actions)) (hok : KeepsGenerations σ e)
    (hσ : Apart σ) : Apart τ := by
  obtain ⟨hseq, hmixes⟩ := hok
  refine ⟨inPhase_step hstep hseq hσ.phase, ?_⟩
  have hlaw := law_step
    (fun s (m : Multiset (Parameters × Connection) × Multiset (ℕ × Parameters)) ↦ Current s m.1 m.2)
    (fun h ↦ (h.openings, h.out)) hstep (fun c _ ↦ by cases c <;> rfl) ?_
    (by simpa only [Program.weight_prod] using hσ.current)
  · simpa only [Program.weight_prod] using hlaw
  · rintro i answer f s h' rfl hf ht hcurrent
    rw [Program.weight_prod, Prod.mk_add_mk] at hcurrent ⊢
    refine hcurrent.transition ht ?_ (hσ.phase.beside hf) ?_
    · intro hstart _ hclosing
      have halone := hseq (startsInit_of_holding hf hstart)
      exact ⟨others_eq_zero hσ.phase hseq hf hstart hclosing, Program.weight_eq_zero fun g hg ↦
        openings_of_not_inFlight (halone g (List.mem_of_mem_eraseIdx hg))⟩
    · intro c hreturning hopen
      exact not_mixed hmixes hf (.inr (.inr (frame_of_returning hreturning))) hopen

/-- A `get` returns a connection only in an open pool, and only from one of its two last checks. -/
theorem handOut_of_resume {f : Frame} {answer dynamic : Bool} {c : Connection}
    (hresume : resume options s f answer = some (s', .handle c dynamic, actions)) :
    s.isOpen = true ∧ (f = .getVerified c ∨ f = .dynamicConnected c) := by
  have ht := transition_of_resume hresume
  generalize hholding : f.holding = h at ht
  cases dynamic with
  | false =>
    cases ht with
    | pass =>
      rw [frame_of_handle (d := false) hholding] at hresume
      cases hresume
    | handOut c hinit hclosing =>
      exact ⟨isOpen_of_flags hinit hclosing, .inl (frame_of_verified hholding)⟩
  | true =>
    cases ht with
    | pass =>
      rw [frame_of_handle (d := true) hholding] at hresume
      cases hresume
    | handOutDynamic c hinit hclosing =>
      exact ⟨isOpen_of_flags hinit hclosing, .inr (frame_of_verifiedDynamic hholding)⟩

theorem Apart.handsOut {σ : Config Pool Frame} {e : Event Call Bool} (hσ : Apart σ)
    (hmixes : mixesGenerations σ e = false) : HandsOutCurrent options σ e := by
  rintro i answer τ actions c dynamic rfl hstep hhandle
  obtain ⟨c, hcall, -⟩ | ⟨_, _, he, hnone, rfl, -⟩ | ⟨_, _, f, s, f', he, hf, hs, rfl⟩ :=
    Program.step_cases hstep
  · cases hcall
  · cases he
    cases hnone.symm.trans hhandle
  · cases he
    have hi : i < σ.frames.length := (List.getElem?_eq_some_iff.mp hf).1
    rw [List.getElem?_set_self hi, Option.some.injEq] at hhandle
    subst hhandle
    -- What is handed out was held by the frame, and belongs to the present generation.
    obtain ⟨hopen, hframe⟩ := handOut_of_resume hs
    obtain ⟨hinit, -⟩ := Bool.and_eq_true_iff.mp hopen
    have hmem : (c.generation, c.parameters) ∈ Program.weight (·.holding.out) σ.frames := by
      refine Program.mem_weight.mpr ⟨f, List.mem_of_getElem? hf, ?_⟩
      rcases hframe with rfl | rfl
      · exact Multiset.mem_singleton_self _
      · exact Multiset.mem_singleton_self _
    rw [hσ.current.opened hinit]
    rcases not_mixed hmixes hf (hframe.imp_right .inl) hopen with hgeneration | hparameters
    · exact hσ.current.same _ hmem hgeneration
    · exact hparameters

/-- A pool is closed, and opened with another database, while a `get` waits for its ping. -/
def reopenDuringPing : List (Event Call Bool) :=
  [.call (.init 1 ⟨[], [], [], ascii "a", none, none⟩), .resume 0 true, .resume 0 true, .call .get,
    .resume 1 true, .resume 1 true, .call (.closeAll false), .resume 2 true, .resume 2 true,
    .resume 2 true, .call (.init 1 ⟨[], [], [], ascii "b", none, none⟩), .resume 3 true,
    .resume 3 true, .resume 1 true]

/-- The same while the connection is out on a handle, which is released after that. Two calls of
`get` follow. -/
def reopenDuringUse : List (Event Call Bool) :=
  [.call (.init 1 ⟨[], [], [], ascii "a", none, none⟩), .resume 0 true, .resume 0 true, .call .get,
    .resume 1 true, .resume 1 true, .resume 1 true, .resume 1 true, .call (.closeAll false),
    .resume 2 true, .resume 2 true, .resume 2 true,
    .call (.init 1 ⟨[], [], [], ascii "b", none, none⟩), .resume 3 true, .resume 3 true,
    .resume 1 true, .resume 1 true, .call .get, .resume 4 true, .resume 4 true, .resume 4 true,
    .resume 4 true, .call .get, .resume 5 true, .resume 5 true, .resume 5 true]

end AsyncPool

end Ormpp
