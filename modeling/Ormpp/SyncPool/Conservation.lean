import Ormpp.Data.Ownership
import Ormpp.SyncPool.Init

/-!
# Conservation

Every connection of the pool is in the deque or with one thread, and a `get` keeps their number
until it fails to replace a connection that it has taken out.
-/

namespace Ormpp

namespace SyncPool

/-- The connection that the thread verifies, replaces or has been given. -/
def Frame.connection : Frame → Option Connection
  | .getPinging conn | .createConnection conn | .handle conn => some conn
  | .init _ _ | .get | .getWaiting | .returned _ => none

def Frame.object (f : Frame) : Option ℕ := f.connection.map Connection.id

/-- The numbers of the pooled connections. -/
def Pool.objects (s : Pool) : List ℕ := s.pool.map Connection.id

/-- An `init` leaves connections behind when it throws, or is asked for fewer than none. -/
def opensUncleanly (σ : Config Pool Frame) : Event Call Answer → Bool
  | .call _ => false
  | .resume i answer =>
    match σ.frames[i]? with
    | some (.init maxsize args) =>
      σ.shared.flag.isNone &&
        if (Attempt.mk maxsize args answer.connects).Fails then answer.connects 0 else maxsize < 0
    | _ => false

/-- A `get` is refused the connection that it asks for in place of the one it has taken out. -/
def losesConnection (σ : Config Pool Frame) : Event Call Answer → Bool
  | .call _ => false
  | .resume i answer =>
    match σ.frames[i]? with
    | some (.createConnection _) => !answer.connects 0
    | _ => false

/-! ## The segments -/

variable {s s' : Pool} {f f' : Frame} {answer : Answer} {actions : List Empty}

/-- What a segment does to the deque and to the connection of its thread. -/
inductive Transition (s : Pool) : Frame → Answer → Pool → Frame → Prop
  | init (maxsize : ℤ) (args : AsyncPool.Parameters) (answer : Answer) (result : Result) :
    Transition s (.init maxsize args) answer (s.attempt ⟨maxsize, args, answer.connects⟩)
      (.returned result)
  /-- A thread without a connection goes on without one. -/
  | pass (f f' : Frame) (answer : Answer) (hf : f.connection = none) (hf' : f'.connection = none) :
    Transition s f answer s f'
  | take (f : Frame) (answer : Answer) (conn : Connection) (rest : List Connection)
    (hf : f.connection = none) (hpool : s.pool = conn :: rest) :
    Transition s f answer { s with pool := rest } (.getPinging conn)
  | verify (conn : Connection) (answer : Answer) (f' : Frame) (hf' : f'.connection = some conn) :
    Transition s (.getPinging conn) answer s f'
  | replace (conn : Connection) (answer : Answer) (hconnects : answer.connects 0 = true) :
    Transition s (.createConnection conn) answer s.make (.handle s.newConnection)
  | lose (conn : Connection) (answer : Answer) (hconnects : answer.connects 0 = false) :
    Transition s (.createConnection conn) answer s.make (.returned .nullptr)
  | release (conn : Connection) (answer : Answer) :
    Transition s (.handle conn) answer { s with pool := s.pool ++ [conn] } (.returned .released)

theorem transition_of_getLoop (hf : f.connection = none)
    (h : s.getLoop = (s', f', actions)) : Transition s f answer s' f' := by
  rw [Pool.getLoop] at h
  split at h
  · cases h
    exact .pass f _ answer hf rfl
  · next conn rest hpool =>
    cases h
    exact .take f answer conn rest hf hpool

theorem transition_of_resume (h : resume s f answer = some (s', f', actions)) :
    Transition s f answer s' f' := by
  cases f with
  | init maxsize args =>
    have hinit := Transition.init (s := s) maxsize args answer
    rw [Pool.attempt] at hinit
    rw [resume, Option.some_inj, Pool.initSegment] at h
    split at h
    · next t heq =>
      cases h
      have := hinit .initialized
      rwa [heq] at this
    · next t heq =>
      cases h
      have := hinit .initFailed
      rwa [heq] at this
  | get => exact transition_of_getLoop rfl (Option.some_inj.mp h)
  | getWaiting =>
    rw [resume, Option.some_inj, Pool.getWaited] at h
    split at h
    · cases h
      exact .pass _ _ answer rfl rfl
    · exact transition_of_getLoop rfl h
  | getPinging conn =>
    rw [resume, Option.some_inj, Pool.getPinged] at h
    split at h
    · cases h
      exact .verify conn answer _ rfl
    · split at h
      · cases h
        exact .verify conn answer _ rfl
      · cases h
        exact .verify conn answer _ rfl
  | createConnection conn =>
    rw [resume, Option.some_inj, Pool.createConnection] at h
    split at h
    · next hconnects =>
      cases h
      exact .replace conn answer hconnects
    · next hconnects =>
      cases h
      exact .lose conn answer (eq_false_of_ne_true hconnects)
  | handle conn =>
    cases h
    exact .release conn answer
  | returned result =>
    cases h
    exact .pass _ _ answer rfl rfl

/-! ## One place for every connection -/

theorem objects_of_connection {conn : Connection} (hf : f.connection = some conn) :
    held Frame.object f = {conn.id} :=
  held_of_eq_some (by rw [Frame.object, hf]; rfl)

theorem objects_of_none (hf : f.connection = none) : held Frame.object f = 0 := by
  rw [held, Frame.object, hf]
  rfl

/-- The connections of the deque and those of the threads are distinct objects. -/
def Owned (s : Pool) (objects : Multiset ℕ) : Prop := Distinct s.created (s.objects + objects)

theorem Owned.attempt {others : Multiset ℕ} (h : Owned s others) (a : Attempt) :
    Owned (s.attempt a) others := by
  rcases hflag : s.flag with _ | n
  · obtain ⟨hpool, -, hcreated⟩ := attempt_eq (a := a) hflag
    have hobjects : ((s.attempt a).objects : Multiset ℕ)
        = List.range' s.created a.opened + s.objects := by
      rw [Pool.objects, hpool, List.map_append, ← Multiset.coe_add, add_comm, newConnections,
        List.map_map]
      exact congrArg (· + _) (congrArg _ (List.map_id _))
    have hmade := h.makeRange a.opened
    rw [← add_assoc, ← hobjects] at hmade
    exact hmade.mono hcreated
  · rwa [attempt_of_flag hflag]

theorem Owned.transition {others : Multiset ℕ} (h : Owned s (held Frame.object f + others))
    (ht : Transition s f answer s' f') : Owned s' (held Frame.object f' + others) := by
  cases ht with
  | init maxsize args answer result => exact h.attempt ⟨maxsize, args, answer.connects⟩
  | pass f f' answer hf hf' => rwa [objects_of_none hf', ← objects_of_none hf]
  | take f answer conn rest hf hpool =>
    rw [Owned, objects_of_none hf, zero_add, Pool.objects, hpool, List.map_cons,
      ← Multiset.cons_coe, ← Multiset.singleton_add, add_assoc, add_left_comm] at h
    exact h
  | verify conn answer f' hf' => rwa [objects_of_connection hf']
  | replace conn answer hconnects =>
    have hothers : Owned s others := h.of_le (add_le_add_right (Multiset.le_add_left _ _) _)
    have hmade := hothers.make
    rw [add_left_comm] at hmade
    exact hmade
  | lose conn answer hconnects =>
    have hothers : Owned s others := h.of_le (add_le_add_right (Multiset.le_add_left _ _) _)
    have hzero : held Frame.object (.returned .nullptr) + others = others := zero_add others
    rw [hzero]
    exact hothers.mono (Nat.le_succ _)
  | release conn answer =>
    have hzero : held Frame.object (.returned .released) + others = others := zero_add others
    rw [Owned, hzero, Pool.objects, List.map_append, ← Multiset.coe_add, add_assoc]
    exact h

def AllOwned (σ : Config Pool Frame) : Prop :=
  Owned σ.shared (Program.weight (held Frame.object) σ.frames)

theorem allOwned_step {σ τ : Config Pool Frame} {e : Event Call Answer}
    (hstep : program.step σ e = some (τ, actions)) (h : AllOwned σ) : AllOwned τ := by
  apply Program.law_step Owned hstep ?_ ?_ h
  · rintro (_ | _) -
    · rfl
    · rfl
  · intro i answer f s f' _ _ hresume howned
    exact howned.transition (transition_of_resume hresume)

/-! ## The number of connections -/

/-- Nothing is there before the pool is opened, and then as many connections as it was opened
with. -/
structure Conserved (s : Pool) (out : ℕ) : Prop where
  unopened : s.flag = none → s.pool = [] ∧ out = 0
  full : ∀ n, s.flag = some n → (s.pool.length + out : ℤ) = n

def Frame.count (f : Frame) : ℕ := f.connection.isSome.toNat

theorem count_of_connection {conn : Connection} (hf : f.connection = some conn) : f.count = 1 := by
  rw [Frame.count, hf]
  rfl

theorem count_of_none (hf : f.connection = none) : f.count = 0 := by
  rw [Frame.count, hf]
  rfl

/-- A connection is out only while the pool is open. -/
theorem Conserved.opened {out : ℕ} (h : Conserved s (1 + out)) : ∃ n, s.flag = some n := by
  rcases hflag : s.flag with _ | n
  · have := (h.unopened hflag).2
    omega
  · exact ⟨n, rfl⟩

theorem Conserved.attempt {others : ℕ} (h : Conserved s others) {a : Attempt}
    (hclean : s.flag = none → if a.Fails then a.connects 0 = false else 0 ≤ a.maxsize) :
    Conserved (s.attempt a) others := by
  rcases hflag : s.flag with _ | n
  · obtain ⟨hempty, hothers⟩ := h.unopened hflag
    obtain ⟨hpool, hflag', -⟩ := attempt_eq (a := a) hflag
    have hclean := hclean hflag
    rw [hempty, List.nil_append] at hpool
    split at hflag'
    · next hfails =>
      rw [if_pos hfails] at hclean
      rw [(Attempt.opened_eq_zero_iff hfails).mpr hclean] at hpool
      exact ⟨fun _ ↦ ⟨hpool, hothers⟩, by rw [hflag']; nofun⟩
    · next hsucceeds =>
      rw [if_neg hsucceeds] at hclean
      constructor
      · rw [hflag']
        nofun
      · intro n hn
        rw [hflag', Option.some_inj] at hn
        rw [hpool, length_newConnections, Attempt.opened_of_not_fails hsucceeds, hothers, ← hn]
        omega
  · rwa [attempt_of_flag hflag]

/-- A transition that opens the pool cleanly, if at all, and loses no connection. -/
theorem Conserved.transition {others : ℕ} (h : Conserved s (f.count + others))
    (ht : Transition s f answer s' f')
    (hclean : ∀ maxsize args, f = .init maxsize args → s.flag = none →
      if (Attempt.mk maxsize args answer.connects).Fails then answer.connects 0 = false
      else 0 ≤ maxsize)
    (hlose : ∀ conn, f = .createConnection conn → answer.connects 0 = true) :
    Conserved s' (f'.count + others) := by
  cases ht with
  | init maxsize args answer result =>
    rw [count_of_none rfl] at h ⊢
    exact h.attempt (hclean maxsize args rfl)
  | pass f f' answer hf hf' => rwa [count_of_none hf', ← count_of_none hf]
  | take f answer conn rest hf hpool =>
    rw [count_of_none hf] at h
    constructor
    · intro hflag
      have hempty := (h.unopened hflag).1
      rw [hpool] at hempty
      cases hempty
    · intro n hn
      have hfull := h.full n hn
      rw [hpool, List.length_cons] at hfull
      rw [count_of_connection rfl]
      change (rest.length + (1 + others : ℕ) : ℤ) = n
      omega
  | verify conn answer f' hf' => rwa [count_of_connection hf']
  | replace conn answer hconnects => exact ⟨h.unopened, h.full⟩
  | lose conn answer hconnects =>
    have hconnected := hlose conn rfl
    rw [hconnects] at hconnected
    cases hconnected
  | release conn answer =>
    obtain ⟨n, hn⟩ := h.opened
    constructor
    · intro hflag
      exact absurd (hn.symm.trans hflag) nofun
    · intro m hm
      have hfull := h.full m hm
      rw [count_of_connection rfl] at hfull
      rw [count_of_none rfl]
      change ((s.pool ++ [conn]).length + (0 + others : ℕ) : ℤ) = m
      rw [List.length_append, List.length_singleton]
      omega

def AllConserved (σ : Config Pool Frame) : Prop :=
  Conserved σ.shared (Program.weight Frame.count σ.frames)

theorem allConserved_empty : AllConserved empty where
  unopened _ := ⟨rfl, rfl⟩
  full n hn := absurd hn (by nofun)

theorem clean_of_opensUncleanly {σ : Config Pool Frame} {i : ℕ} {maxsize : ℤ}
    {args : AsyncPool.Parameters} (hf : σ.frames[i]? = some (.init maxsize args))
    (h : opensUncleanly σ (.resume i answer) = false) (hflag : σ.shared.flag = none) :
    if (Attempt.mk maxsize args answer.connects).Fails then answer.connects 0 = false
    else 0 ≤ maxsize := by
  simp only [opensUncleanly, hf, hflag, Option.isNone_none, Bool.true_and] at h
  split at h
  · next hfails => rwa [if_pos hfails]
  · next hsucceeds =>
    rw [if_neg hsucceeds]
    exact not_lt.mp (of_decide_eq_false h)

theorem connected_of_losesConnection {σ : Config Pool Frame} {i : ℕ} {conn : Connection}
    (hf : σ.frames[i]? = some (.createConnection conn))
    (h : losesConnection σ (.resume i answer) = false) : answer.connects 0 = true := by
  simp only [losesConnection, hf, Bool.not_eq_false'] at h
  exact h

theorem allConserved_step {σ τ : Config Pool Frame} {e : Event Call Answer}
    (hstep : program.step σ e = some (τ, actions)) (hclean : opensUncleanly σ e = false)
    (hlose : losesConnection σ e = false) (h : AllConserved σ) : AllConserved τ := by
  apply Program.law_step Conserved hstep ?_ ?_ h
  · rintro (_ | _) -
    · rfl
    · rfl
  · rintro i answer f s f' rfl hf hresume hconserved
    apply hconserved.transition (transition_of_resume hresume)
    · rintro maxsize args rfl
      exact clean_of_opensUncleanly hf hclean
    · rintro conn rfl
      exact connected_of_losesConnection hf hlose

theorem weight_count (frames : List Frame) :
    Program.weight Frame.count frames = frames.countP (·.connection.isSome) := by
  induction frames with
  | nil => rfl
  | cons f frames ih =>
    rw [Program.weight_cons, ih, Frame.count, List.countP_cons, Nat.add_comm]
    cases f.connection <;> rfl

/-! ## Runs -/

theorem resume_ne_none (s : Pool) (f : Frame) (answer : Answer) : resume s f answer ≠ none := by
  cases f <;> nofun

theorem run_allOwned (es : List (Event Call Answer)) :
    ∃ σ actions, program.run empty es = some (σ, actions) ∧ AllOwned σ := by
  have hok : program.Along (fun _ _ ↦ True) empty es :=
    Program.along_of_mem empty fun _ _ _ ↦ trivial
  apply Program.run_defined AllOwned ?_ ?_ hok
  · intro σ e h _
    obtain ⟨⟨τ, actions⟩, hstep⟩ := Option.ne_none_iff_exists'.mp
      (Program.step_ne_none (P := program) (σ := σ) (e := e)
        fun _ answer f _ _ ↦ resume_ne_none σ.shared f answer)
    exact ⟨τ, actions, hstep, allOwned_step hstep h⟩
  · exact distinct_zero 0

/-- **One place.** In every run no connection is pooled twice, or pooled and with a thread, or with
two threads. -/
theorem exclusive (es : List (Event Call Answer)) :
    ∃ σ actions, program.run empty es = some (σ, actions) ∧
      Exclusive σ.shared.objects Frame.object σ.frames := by
  obtain ⟨σ, actions, hrun, howned⟩ := run_allOwned es
  exact ⟨σ, actions, hrun, Exclusive.of_nodup howned.nodup⟩

/-- **Conservation.** As long as the pool is opened cleanly and no `get` is refused a new
connection, the pooled connections and those with the threads are as many as the pool was opened
with, and each has one place. -/
theorem conservation (es : List (Event Call Answer))
    (hok : program.Along
      (fun σ e ↦ opensUncleanly σ e = false ∧ losesConnection σ e = false) empty es) :
    ∃ σ actions, program.run empty es = some (σ, actions) ∧
      Exclusive σ.shared.objects Frame.object σ.frames ∧
      ∀ maxsize, σ.shared.flag = some maxsize →
        (σ.shared.pool.length + σ.frames.countP (·.connection.isSome) : ℤ) = maxsize := by
  obtain ⟨σ, actions, hrun, hexclusive⟩ := exclusive es
  have hconserved : AllConserved σ :=
    Program.run_keeps AllConserved (fun _ _ _ _ h ⟨hclean, hlose⟩ hstep ↦
      allConserved_step hstep hclean hlose h) allConserved_empty hok hrun
  refine ⟨σ, actions, hrun, hexclusive, ?_⟩
  intro maxsize hflag
  rw [← weight_count]
  exact hconserved.full maxsize hflag

/-- A pool of one connection that is dead when it is taken out, and is replaced. -/
theorem conservation_replaced :
    ∃ σ actions, program.run empty
        [.call (.init 1 ⟨[], [], [], [], none, none⟩), .resume 0 {}, .call .get, .resume 1 {},
          .resume 1 { alive := false }, .resume 1 {}] = some (σ, actions) ∧
      Exclusive σ.shared.objects Frame.object σ.frames ∧
      ∀ maxsize, σ.shared.flag = some maxsize →
        (σ.shared.pool.length + σ.frames.countP (·.connection.isSome) : ℤ) = maxsize :=
  conservation _ (by decide)

/-- The same, but the database cannot be reached when the connection is to be replaced. -/
theorem not_conserved_unreachable :
    ∃ σ actions, program.run empty
        [.call (.init 1 ⟨[], [], [], [], none, none⟩), .resume 0 {}, .call .get, .resume 1 {},
          .resume 1 { alive := false }, .resume 1 { connects := fun _ ↦ false }]
          = some (σ, actions) ∧
      σ.shared.flag = some 1 ∧
      (σ.shared.pool.length + σ.frames.countP (·.connection.isSome) : ℤ) ≠ 1 :=
  ⟨_, _, rfl, rfl, by decide⟩

end SyncPool

end Ormpp
