import Ormpp.AsyncPool.Pool

/-!
# What a segment does with a connection

Most suspension points differ only in what happens next. What the properties of the pool depend on
is what a frame holds: the connection that it alone refers to and how it is counted, or the loop
over the deque that it is in. `Transition` says once what a segment can do to the pool and to what
its frame holds, and every invariant is derived from it.
-/

namespace Ormpp

namespace AsyncPool

/-- How far a connection that is counted as in use has come. -/
inductive Stage
  | verifying
  | reconnecting
  | verified
  | handle
  | returning
  deriving DecidableEq

inductive Holding
  | nothing
  /-- `init` has been called and has not begun. -/
  | starting
  /-- `init` has pooled this many connections and is connecting the next. -/
  | opening (parameters : Parameters) (i : ℕ) (conn : Connection)
  /-- A pooled connection that is checked out, out on a handle, or on its way back. -/
  | fixed (stage : Stage) (connection : Connection)
  /-- A pooled connection that could not be reconnected. -/
  | failed (connection : Connection)
  | dynamic (stage : Stage) (connection : Connection)
  /-- A connection that is no longer counted. -/
  | dropped (connection : Connection)
  /-- `close_all` has been called and has not looked at the flags. -/
  | stopping
  /-- `close_all` has found the pool open and has not begun its loop. -/
  | closing
  /-- The rest of the deque that a loop has to walk. The loop is that of an `init` that failed to
  connect a connection, or that of `close_all`. -/
  | walking (failed : Option Connection) (walk : List Connection)

def Frame.holding : Frame → Holding
  | .init _ _ => .starting
  | .initConnecting parameters i conn => .opening parameters i conn
  | .initDisconnecting failed conn behind => .walking (some failed) (conn :: behind)
  | .getPinging c => .fixed .verifying c
  | .getReconnecting c => .fixed .reconnecting c
  | .getFailed c => .failed c
  | .getVerified c => .fixed .verified c
  | .dynamicConnecting c | .dynamicFailed c => .dynamic .verifying c
  | .dynamicConnected c => .dynamic .verified c
  | .handle c dynamic => if dynamic then .dynamic .handle c else .fixed .handle c
  | .returning c dynamic => if dynamic then .dynamic .returning c else .fixed .returning c
  | .getDisconnecting c | .dynamicDisconnecting c => .dropped c
  | .closeAll _ | .closePosted _ => .stopping
  | .closeRecounting | .closeWaiting | .closeReady => .closing
  | .closeDisconnecting conn behind => .walking none (conn :: behind)
  | .get | .getPosted | .getWaiting | .dynamicPosted | .returned _ => .nothing

/-! Where a holding is that of one suspension point. -/

section FrameOfHolding

variable {f : Frame} {c : Connection}

theorem frame_of_verified (hf : f.holding = .fixed .verified c) : f = .getVerified c := by
  cases f with
  | getVerified => cases hf; rfl
  | handle d dynamic | returning d dynamic => cases dynamic <;> cases hf
  | _ => cases hf

theorem frame_of_failed (hf : f.holding = .failed c) : f = .getFailed c := by
  cases f with
  | getFailed => cases hf; rfl
  | handle d dynamic | returning d dynamic => cases dynamic <;> cases hf
  | _ => cases hf

theorem frame_of_verifiedDynamic (hf : f.holding = .dynamic .verified c) :
    f = .dynamicConnected c := by
  cases f with
  | dynamicConnected => cases hf; rfl
  | handle d dynamic | returning d dynamic => cases dynamic <;> cases hf
  | _ => cases hf

theorem frame_of_handle {d : Bool} (hf : f.holding = (Frame.handle c d).holding) :
    f = .handle c d := by
  cases f with
  | handle e dynamic => cases d <;> cases dynamic <;> cases hf <;> rfl
  | returning e dynamic => cases d <;> cases dynamic <;> cases hf
  | _ => cases d <;> cases hf

theorem frame_of_returning {d : Bool} (hf : f.holding = (Frame.returning c d).holding) :
    f = .returning c d := by
  cases f with
  | returning e dynamic => cases d <;> cases dynamic <;> cases hf <;> rfl
  | handle e dynamic => cases d <;> cases dynamic <;> cases hf
  | _ => cases d <;> cases hf

end FrameOfHolding

/-- The pool behind a loop over the deque. -/
def Pool.walked (s : Pool) : Option Connection → Pool
  | some _ => { s with availableConnections := [] }
  | none => { s with availableConnections := [], initialized := false, closing := false }

/-- The pool with the arguments of `init`. -/
def Pool.stored (s : Pool) (poolSize : ℕ) (parameters : Parameters) : Pool :=
  { s with poolSize, parameters, generation := s.generation + 1 }

inductive Transition (options : PoolOptions) : Pool → Holding → Pool → Holding → List Action → Prop
  | pass (s : Pool) (h : Holding) : Transition options s h s h []
  | refuse (s : Pool) : Transition options s .starting s .nothing []
  | store (s : Pool) (poolSize : ℕ) (parameters : Parameters) (hinit : s.initialized = false)
      (hclosing : s.closing = false) (hsize : 0 < poolSize) :
      Transition options s .starting
        { s.stored poolSize parameters with created := s.created + 1 }
        (.opening parameters 0 (s.stored poolSize parameters).newConnection) []
  | storeNone (s : Pool) (parameters : Parameters) (hinit : s.initialized = false)
      (hclosing : s.closing = false) :
      Transition options s .starting
        { s.stored 0 parameters with initialized := true, opened := parameters } .nothing []
  | push (s : Pool) (parameters : Parameters) (i : ℕ) (c : Connection) (hi : i + 1 < s.poolSize) :
      Transition options s (.opening parameters i c)
        { s with
          availableConnections := s.availableConnections ++ [c]
          created := s.created + 1 }
        (.opening parameters (i + 1) s.newConnection) []
  | finish (s : Pool) (parameters : Parameters) (i : ℕ) (c : Connection) (hi : s.poolSize ≤ i + 1) :
      Transition options s (.opening parameters i c)
        { s with
          availableConnections := s.availableConnections ++ [c]
          initialized := true
          opened := parameters }
        .nothing []
  | failStart (s : Pool) (parameters : Parameters) (i : ℕ) (c d : Connection)
      (walk : List Connection) (ha : s.availableConnections = d :: walk) :
      Transition options s (.opening parameters i c) s (.walking (some c) (d :: walk))
        [.disconnect d]
  | failNone (s : Pool) (parameters : Parameters) (i : ℕ) (c : Connection)
      (ha : s.availableConnections = []) :
      Transition options s (.opening parameters i c) (s.walked (some c)) .nothing []
  | take (s : Pool) (c : Connection) (behind : List Connection) (hinit : s.initialized = true)
      (hclosing : s.closing = false) (ha : s.availableConnections = c :: behind) :
      Transition options s .nothing
        { s with availableConnections := behind, inUseCount := s.inUseCount + 1 }
        (.fixed .verifying { c with generation := s.generation }) []
  | verify (s : Pool) (stage : Stage) (c : Connection)
      (hstage : stage = .verifying ∨ stage = .reconnecting) :
      Transition options s (.fixed stage c) s (.fixed .verified c) []
  | reconnect (s : Pool) (c : Connection) :
      Transition options s (.fixed .verifying c) s
        (.fixed .reconnecting { c with parameters := s.parameters }) []
  | miss (s : Pool) (c : Connection) :
      Transition options s (.fixed .reconnecting c) s (.failed c) []
  | lose (s : Pool) (c : Connection) :
      Transition options s (.failed c) s.releaseGuarded (.dropped c)
        (s.decrementsInUse ++ [.disconnect c])
  | handOut (s : Pool) (c : Connection) (hinit : s.initialized = true)
      (hclosing : s.closing = false) :
      Transition options s (.fixed .verified c) s (.fixed .handle c) []
  | drop (s : Pool) (c : Connection) (hopen : s.isOpen = false) :
      Transition options s (.fixed .verified c) s.releaseGuarded (.dropped c)
        (s.decrementsInUse ++ [.disconnect c])
  | release (s : Pool) (c : Connection) :
      Transition options s (.fixed .handle c) s (.fixed .returning c) []
  | pool (s : Pool) (c : Connection) (hinit : s.initialized = true) (hclosing : s.closing = false) :
      Transition options s (.fixed .returning c)
        { s.releaseGuarded with availableConnections := s.availableConnections ++ [c] } .nothing
        s.decrementsInUse
  | destroy (s : Pool) (c : Connection) (hopen : s.isOpen = false) :
      Transition options s (.fixed .returning c) s.releaseGuarded .nothing s.decrementsInUse
  | forget (s : Pool) (c : Connection) : Transition options s (.dropped c) s .nothing []
  | expand (s : Pool) (hinit : s.initialized = true) (hclosing : s.closing = false)
      (hroom : s.dynamicConnectionCount < options.maxDynamicConnections) :
      Transition options s .nothing
        { s with
          dynamicConnectionCount := s.dynamicConnectionCount + 1
          inUseCount := s.inUseCount + 1
          created := s.created + 1 }
        (.dynamic .verifying s.newConnection) []
  | verifyDynamic (s : Pool) (c : Connection) :
      Transition options s (.dynamic .verifying c) s (.dynamic .verified c) []
  | giveUp (s : Pool) (c : Connection) :
      Transition options s (.dynamic .verifying c) s.releaseDynamic .nothing s.decrementsDynamic
  | handOutDynamic (s : Pool) (c : Connection) (hinit : s.initialized = true)
      (hclosing : s.closing = false) :
      Transition options s (.dynamic .verified c) s (.dynamic .handle c) []
  | dropDynamic (s : Pool) (c : Connection) (hopen : s.isOpen = false) :
      Transition options s (.dynamic .verified c) s.releaseDynamicGuarded (.dropped c)
        (s.decrementsDynamic ++ [.disconnect c])
  | releaseDynamic (s : Pool) (c : Connection) :
      Transition options s (.dynamic .handle c) s (.dynamic .returning c) []
  | destroyDynamic (s : Pool) (c : Connection) :
      Transition options s (.dynamic .returning c) s.releaseDynamicGuarded .nothing
        s.decrementsDynamic
  | keepOut (s : Pool) : Transition options s .stopping s .nothing []
  | close (s : Pool) (hinit : s.initialized = true) (hclosing : s.closing = false) :
      Transition options s .stopping { s with closing := true } .closing []
  | closeStart (s : Pool) (d : Connection) (walk : List Connection)
      (ha : s.availableConnections = d :: walk) :
      Transition options s .closing s (.walking none (d :: walk)) [.disconnect d]
  | closeNone (s : Pool) (ha : s.availableConnections = []) :
      Transition options s .closing (s.walked none) .nothing []
  | walkNext (s : Pool) (failed : Option Connection) (c d : Connection) (walk : List Connection)
      (hvalid : s.IsValid c (d :: walk)) :
      Transition options s (.walking failed (c :: d :: walk)) s (.walking failed (d :: walk))
        [.disconnect d]
  | walkEnd (s : Pool) (failed : Option Connection) (c : Connection) (hvalid : s.IsValid c []) :
      Transition options s (.walking failed [c]) (s.walked failed) .nothing []

/-! ## The segments are transitions -/

/-- The segment is a transition from there. -/
abbrev Leads (options : PoolOptions) (s : Pool) (h : Holding) (segment : Segment) : Prop :=
  Transition options s h segment.1 segment.2.1.holding segment.2.2

variable {options : PoolOptions} {s s' : Pool} {f f' : Frame} {answer : Bool} {segment : Segment}
  {actions : List Action}

/-- The test at the beginning of most segments. -/
theorem isOpen_cases (s : Pool) :
    (s.initialized = true ∧ s.closing = false ∧ (!s.initialized || s.closing) = false) ∨
      (s.isOpen = false ∧ (!s.initialized || s.closing) = true) := by
  rcases hi : s.initialized <;> rcases hc : s.closing <;> simp [Pool.isOpen, hi, hc]

theorem isOpen_of_flags (hinit : s.initialized = true) (hclosing : s.closing = false) :
    s.isOpen = true := by
  rw [Pool.isOpen, hinit, hclosing]
  rfl

theorem leads_getWait (s : Pool) (timeLeft : Bool) :
    Leads options s .nothing (s.getWait timeLeft) := by
  cases timeLeft
  · exact .pass s .nothing
  · exact .pass s .nothing

theorem leads_getLoop (s : Pool) (timeLeft : Bool) :
    Leads options s .nothing (s.getLoop timeLeft) := by
  cases timeLeft
  · exact .pass s .nothing
  · exact .pass s .nothing

theorem leads_initStart (s : Pool) (poolSize : ℕ) (parameters : Parameters) :
    Leads options s .starting (s.initStart poolSize parameters) := by
  rw [Pool.initStart]
  by_cases hinit : s.initialized = true
  · rw [if_pos hinit]
    exact .refuse s
  by_cases hclosing : s.closing = true
  · rw [if_neg hinit, if_pos hclosing]
    exact .refuse s
  rw [if_neg hinit, if_neg hclosing, Pool.initNext]
  rw [Bool.not_eq_true] at hinit hclosing
  by_cases hsize : 0 < poolSize
  · rw [if_pos hsize]
    exact .store s poolSize parameters hinit hclosing hsize
  · rw [if_neg hsize]
    obtain rfl : poolSize = 0 := by omega
    exact .storeNone s parameters hinit hclosing

theorem leads_initConnected (s : Pool) (parameters : Parameters) (i : ℕ) (c : Connection)
    (connected : Bool) :
    Leads options s (.opening parameters i c) (s.initConnected parameters i c connected) := by
  cases connected with
  | true =>
    rw [Pool.initConnected, if_pos rfl, Pool.initNext]
    by_cases hi : i + 1 < s.poolSize
    · rw [if_pos hi]
      exact .push s parameters i c hi
    · rw [if_neg hi]
      exact .finish s parameters i c (by omega)
  | false =>
    rw [Pool.initConnected, if_neg Bool.false_ne_true]
    rcases ha : s.availableConnections with _ | ⟨d, walk⟩
    · exact .failNone s parameters i c ha
    · exact .failStart s parameters i c d walk ha

theorem leads_getCheck (s : Pool) (timeLeft : Bool) :
    Leads options s .nothing (s.getCheck options timeLeft) := by
  rw [Pool.getCheck]
  obtain ⟨hinit, hclosing, htest⟩ | ⟨-, htest⟩ := isOpen_cases s
  · rw [htest, if_neg Bool.false_ne_true]
    rcases ha : s.availableConnections with _ | ⟨c, behind⟩
    · dsimp only
      split_ifs
      · exact .pass s .nothing
      · exact leads_getWait s timeLeft
    · exact .take s c behind hinit hclosing ha
  · rw [htest, if_pos rfl]
    exact .pass s .nothing

theorem leads_getHandOut (s : Pool) (c : Connection) :
    Leads options s (.fixed .verified c) (s.getHandOut c) := by
  rw [Pool.getHandOut]
  obtain ⟨hinit, hclosing, htest⟩ | ⟨hopen, htest⟩ := isOpen_cases s
  · rw [htest, if_neg Bool.false_ne_true]
    exact .handOut s c hinit hclosing
  · rw [htest, if_pos rfl]
    exact .drop s c hopen

theorem leads_dynamicCheck (s : Pool) (timeLeft : Bool) :
    Leads options s .nothing (s.dynamicCheck options timeLeft) := by
  rw [Pool.dynamicCheck]
  by_cases hroom : options.maxDynamicConnections ≤ s.dynamicConnectionCount
  · rw [decide_eq_true hroom, Bool.or_true, if_pos rfl]
    exact leads_getWait s timeLeft
  · rw [decide_eq_false hroom, Bool.or_false]
    obtain ⟨hinit, hclosing, htest⟩ | ⟨-, htest⟩ := isOpen_cases s
    · rw [htest, if_neg Bool.false_ne_true]
      exact .expand s hinit hclosing (by omega)
    · rw [htest, if_pos rfl]
      exact leads_getWait s timeLeft

theorem leads_dynamicGiveUp (s : Pool) (c : Connection) (timeLeft : Bool) :
    Leads options s (.dynamic .verifying c) (s.dynamicGiveUp timeLeft) := by
  cases timeLeft
  · exact .giveUp s c
  · exact .giveUp s c

theorem leads_dynamicHandOut (s : Pool) (c : Connection) :
    Leads options s (.dynamic .verified c) (s.dynamicHandOut c) := by
  rw [Pool.dynamicHandOut]
  obtain ⟨hinit, hclosing, htest⟩ | ⟨hopen, htest⟩ := isOpen_cases s
  · rw [htest, if_neg Bool.false_ne_true]
    exact .handOutDynamic s c hinit hclosing
  · rw [htest, if_pos rfl]
    exact .dropDynamic s c hopen

theorem leads_returnConnection (s : Pool) (c : Connection) (dynamic : Bool) :
    Leads options s (Frame.returning c dynamic).holding (s.returnConnection c dynamic) := by
  cases dynamic with
  | true => exact .destroyDynamic s c
  | false =>
    rw [Pool.returnConnection, if_neg Bool.false_ne_true]
    rcases hopen : s.initialized && !s.closing with _ | _
    · rw [if_neg Bool.false_ne_true]
      exact .destroy s c hopen
    · rw [if_pos rfl]
      obtain ⟨hinit, hclosing⟩ := Bool.and_eq_true_iff.mp hopen
      exact .pool s c hinit (by simpa using hclosing)

theorem leads_closeCheck (s : Pool) (waitForReturn timeLeft : Bool) :
    Leads options s .stopping (s.closeCheck waitForReturn timeLeft) := by
  rw [Pool.closeCheck]
  obtain ⟨hinit, hclosing, htest⟩ | ⟨-, htest⟩ := isOpen_cases s
  · rw [htest, if_neg Bool.false_ne_true, Pool.closeLoop]
    split_ifs
    · exact .close s hinit hclosing
    · exact .close s hinit hclosing
    · exact .close s hinit hclosing
  · rw [htest, if_pos rfl]
    exact .keepOut s

/-- Whatever a segment does is one of the transitions. -/
theorem leads_of_resume (h : resume options s f answer = some segment) :
    Leads options s f.holding segment := by
  cases f with
  | init poolSize parameters =>
    cases h
    exact leads_initStart s poolSize parameters
  | initConnecting parameters i conn =>
    cases h
    exact leads_initConnected s parameters i conn answer
  -- The loop goes on only from a valid iterator.
  | initDisconnecting failed conn behind =>
    rw [resume] at h
    by_cases hvalid : s.IsValid conn behind
    · rw [if_pos hvalid] at h
      cases h
      cases behind with
      | nil => exact .walkEnd s (some failed) conn hvalid
      | cons d walk => exact .walkNext s (some failed) conn d walk hvalid
    · rw [if_neg hvalid] at h
      cases h
  | get | getWaiting =>
    cases h
    exact leads_getLoop s answer
  | getPosted =>
    cases h
    exact leads_getCheck s answer
  -- The answer decides which of two transitions it is.
  | getPinging connection =>
    cases answer
    · cases h
      exact .reconnect s connection
    · cases h
      exact .verify s .verifying connection (.inl rfl)
  | getReconnecting connection =>
    cases answer
    · cases h
      exact .miss s connection
    · cases h
      exact .verify s .reconnecting connection (.inr rfl)
  | getFailed connection =>
    cases h
    exact .lose s connection
  | getVerified connection =>
    cases h
    exact leads_getHandOut s connection
  | getDisconnecting connection =>
    cases answer
    · cases h
      exact .forget s connection
    · cases h
      exact .forget s connection
  | dynamicPosted =>
    cases h
    exact leads_dynamicCheck s answer
  | dynamicConnecting conn =>
    cases answer
    · cases h
      exact .pass s (.dynamic .verifying conn)
    · cases h
      exact .verifyDynamic s conn
  | dynamicFailed conn =>
    cases h
    exact leads_dynamicGiveUp s conn answer
  | dynamicConnected conn =>
    cases h
    exact leads_dynamicHandOut s conn
  | dynamicDisconnecting conn =>
    cases answer
    · cases h
      exact .forget s conn
    · cases h
      exact .forget s conn
  | handle connection dynamic =>
    cases h
    cases dynamic
    · exact .release s connection
    · exact .releaseDynamic s connection
  | returning connection dynamic =>
    cases h
    exact leads_returnConnection s connection dynamic
  | closeAll waitForReturn =>
    cases h
    exact .pass s .stopping
  | closePosted waitForReturn =>
    cases h
    exact leads_closeCheck s waitForReturn answer
  | closeRecounting =>
    cases h
    rw [Pool.closeRecount]
    split_ifs
    · exact .pass s .closing
    · exact .pass s .closing
    · exact .pass s .closing
  | closeWaiting =>
    cases answer
    · cases h
      exact .pass s .closing
    · cases h
      exact .pass s .closing
  | closeReady =>
    cases h
    rcases ha : s.availableConnections with _ | ⟨d, walk⟩
    · exact .closeNone s ha
    · exact .closeStart s d walk ha
  | closeDisconnecting conn behind =>
    rw [resume] at h
    by_cases hvalid : s.IsValid conn behind
    · rw [if_pos hvalid] at h
      cases h
      cases behind with
      | nil => exact .walkEnd s none conn hvalid
      | cons d walk => exact .walkNext s none conn d walk hvalid
    · rw [if_neg hvalid] at h
      cases h
  | returned result =>
    cases h
    exact .pass s .nothing

theorem transition_of_resume (h : resume options s f answer = some (s', f', actions)) :
    Transition options s f.holding s' f'.holding actions :=
  leads_of_resume h

/-- A segment is undefined only where a loop meets an invalid iterator. -/
theorem resume_ne_none
    (h : ∀ failed c walk, f.holding = .walking failed (c :: walk) → s.IsValid c walk) :
    resume options s f answer ≠ none := by
  cases f with
  | initDisconnecting failed conn behind =>
    rw [resume, if_pos (h (some failed) conn behind rfl)]
    nofun
  | closeDisconnecting conn behind =>
    rw [resume, if_pos (h none conn behind rfl)]
    nofun
  | _ => nofun

/-! ## Laws -/

/-- A law about the pool and what all frames hold is kept by a step of the program if the transition
of its segment keeps it beside the frames that do not move. -/
theorem law_step {M : Type} [AddCommMonoid M] (Law : Pool → M → Prop) (weigh : Holding → M)
    {σ τ : Config Pool Frame} {e : Event Call Bool}
    (hstep : (program options).step σ e = some (τ, actions))
    (hcall : ∀ c, e = .call c → weigh (start c).holding = 0)
    (htransition : ∀ i answer f s h', e = .resume i answer → σ.frames[i]? = some f →
      Transition options σ.shared f.holding s h' actions →
      Law σ.shared (weigh f.holding + Program.weight (weigh ·.holding) (σ.frames.eraseIdx i)) →
      Law s (weigh h' + Program.weight (weigh ·.holding) (σ.frames.eraseIdx i)))
    (h : Law σ.shared (Program.weight (weigh ·.holding) σ.frames)) :
    Law τ.shared (Program.weight (weigh ·.holding) τ.frames) := by
  refine Program.law_step Law hstep hcall ?_ h
  intro i answer f s f' he hf hresume
  exact htransition i answer f s f'.holding he hf (transition_of_resume hresume)

end AsyncPool

end Ormpp
