import Ormpp.AsyncPool.Phase
import Ormpp.Data.Ownership

/-!
# Exclusive ownership

A connection object is in the deque or is held by one frame, and nowhere else. A segment moves an
object from the one to the other, lets go of one, or makes a new one.
-/

namespace Ormpp

namespace AsyncPool

/-- The connection that the frame alone holds. -/
def Holding.connection : Holding → Option Connection
  | .opening _ _ c | .fixed _ c | .failed c | .dynamic _ c | .dropped c
  | .walking (some c) _ => some c
  | .nothing | .starting | .stopping | .closing | .walking none _ => none

/-- Every connection object is in the deque once, or has one holder. -/
structure ExclusiveOwnership (σ : Config Pool Frame) : Prop where
  pooledOnce : (σ.shared.availableConnections.map Connection.id).Nodup
  notPooled : ∀ (i : ℕ) (f : Frame) (c : Connection), σ.frames[i]? = some f →
    f.holding.connection = some c → c.id ∉ σ.shared.availableConnections.map Connection.id
  oneHolder : ∀ (i j : ℕ) (f g : Frame) (c d : Connection), σ.frames[i]? = some f →
    σ.frames[j]? = some g → f.holding.connection = some c → g.holding.connection = some d →
    c.id = d.id → i = j

/-! ## The objects of a pool and its frames -/

def Holding.objects (h : Holding) : Multiset ℕ :=
  match h.connection with
  | some c => {c.id}
  | none => 0

def objects (available : List Connection) : Multiset ℕ := ↑(available.map Connection.id)

@[simp] theorem objects_cons (c : Connection) (available : List Connection) :
    objects (c :: available) = {c.id} + objects available := rfl

@[simp] theorem objects_append (available : List Connection) (c : Connection) :
    objects (available ++ [c]) = objects available + {c.id} := by
  rw [objects, List.map_append, ← Multiset.coe_add]
  rfl

/-- The objects are distinct, and all have been made. -/
structure Owned (s : Pool) (m : Multiset ℕ) : Prop where
  nodup : (objects s.availableConnections + m).Nodup
  made : ∀ i ∈ objects s.availableConnections + m, i < s.created

variable {options : PoolOptions} {s s' : Pool} {h h' : Holding} {actions : List Action}
  {m m' others : Multiset ℕ}

theorem Owned.distinct (howned : Owned s m) :
    Distinct s.created (objects s.availableConnections + m) := ⟨howned.nodup, howned.made⟩

/-- Objects may be moved and let go. -/
theorem Owned.of_le (howned : Owned s m)
    (hle : objects s'.availableConnections + m' ≤ objects s.availableConnections + m)
    (hcreated : s'.created = s.created) : Owned s' m' := by
  have hdistinct := howned.distinct.of_le hle
  rw [← hcreated] at hdistinct
  exact ⟨hdistinct.nodup, hdistinct.made⟩

/-- A new object is none of the old ones. -/
theorem Owned.make (howned : Owned s m)
    (heq : objects s'.availableConnections + m'
      = {s.created} + (objects s.availableConnections + m))
    (hcreated : s'.created = s.created + 1) : Owned s' m' := by
  have hdistinct := howned.distinct.make
  rw [← heq, ← hcreated] at hdistinct
  exact ⟨hdistinct.nodup, hdistinct.made⟩

/-- A transition keeps the objects apart. -/
theorem Owned.transition (howned : Owned s (h.objects + others))
    (ht : Transition options s h s' h' actions) : Owned s' (h'.objects + others) := by
  have hforget (c : Connection) : objects s.availableConnections + (0 + others)
      ≤ objects s.availableConnections + ({c.id} + others) :=
    add_le_add_right (add_le_add_left (Multiset.zero_le _) others) _
  -- Whoever walked the deque to its end also lets go of what it held.
  have hclear (m : Multiset ℕ) : objects [] + (0 + others)
      ≤ objects s.availableConnections + (m + others) :=
    add_le_add (Multiset.zero_le _) (add_le_add_left (Multiset.zero_le _) others)
  have hnew : objects s.availableConnections + ({s.created} + others)
      = {s.created} + (objects s.availableConnections + (0 + others)) := by
    rw [zero_add, add_left_comm]
  cases ht with
  | store poolSize parameters => exact howned.make hnew rfl
  | push parameters i c =>
    have hpush : objects s.availableConnections + {c.id} + ({s.created} + others)
        = {s.created} + (objects s.availableConnections + ({c.id} + others)) := by
      rw [add_left_comm, add_assoc]
    refine howned.make ?_ rfl
    rw [objects_append]
    exact hpush
  | finish parameters i c =>
    refine howned.of_le (le_of_eq ?_) rfl
    rw [objects_append, add_assoc]
    exact congrArg _ (congrArg _ (zero_add others))
  | failNone parameters i c => exact howned.of_le (hclear _) rfl
  | walkEnd failed c =>
    cases failed
    · exact howned.of_le (hclear _) rfl
    · exact howned.of_le (hclear _) rfl
  | closeNone => exact howned.of_le (hclear _) rfl
  | walkNext failed => cases failed <;> exact howned
  | take c behind hinit hclosing ha =>
    have htake : objects behind + ({c.id} + others) = {c.id} + objects behind + (0 + others) := by
      rw [zero_add, add_left_comm, add_assoc]
    refine howned.of_le (le_of_eq ?_) rfl
    rw [ha, objects_cons]
    exact htake
  | pool c =>
    refine howned.of_le (le_of_eq ?_) rfl
    rw [objects_append, add_assoc]
    exact congrArg _ (congrArg _ (zero_add others))
  | forget c | destroy c | giveUp c | destroyDynamic c => exact howned.of_le (hforget c) rfl
  | expand => exact howned.make hnew rfl
  -- The others leave every object where it is.
  | _ => exact ⟨howned.nodup, howned.made⟩

/-! ## The objects of a configuration -/

def AllOwned (σ : Config Pool Frame) : Prop :=
  Owned σ.shared (Program.weight (·.holding.objects) σ.frames)

theorem allOwned_empty : AllOwned empty where
  nodup := Multiset.nodup_zero
  made i hi := absurd hi (Multiset.notMem_zero i)

theorem allOwned_step {σ τ : Config Pool Frame} {e : Event Call Bool}
    (hstep : (program options).step σ e = some (τ, actions)) (h : AllOwned σ) : AllOwned τ :=
  law_step Owned Holding.objects hstep (fun c _ ↦ by cases c <;> rfl)
    (fun _ _ _ _ _ _ _ ht howned ↦ howned.transition ht) h

theorem objects_of_connection {c : Connection} (hc : h.connection = some c) :
    h.objects = {c.id} := by
  rw [Holding.objects, hc]

theorem mem_objects_of_connection {c : Connection} (hc : h.connection = some c) :
    c.id ∈ h.objects := by
  rw [objects_of_connection hc]
  exact Multiset.mem_singleton_self _

/-- What a frame holds is among the objects of the frames. -/
theorem mem_objects {σ : Config Pool Frame} {j : ℕ} {f : Frame}
    (hf : σ.frames[j]? = some f) {id : ℕ}
    (hid : id ∈ f.holding.objects) : id ∈ Program.weight (·.holding.objects) σ.frames :=
  Program.mem_weight.mpr ⟨f, List.mem_of_getElem? hf, hid⟩

/-- The deque and the frames have no object in common. -/
theorem AllOwned.disjoint {σ : Config Pool Frame} (howned : AllOwned σ) {id : ℕ}
    (hpooled : id ∈ σ.shared.availableConnections.map Connection.id) :
    id ∉ Program.weight (·.holding.objects) σ.frames :=
  Multiset.disjoint_left.mp (Multiset.nodup_add.mp howned.nodup).2.2 hpooled

/-- Neither have two frames. -/
theorem AllOwned.disjoint_frames {σ : Config Pool Frame} (howned : AllOwned σ) {i : ℕ} {f : Frame}
    (hf : σ.frames[i]? = some f) {id : ℕ} (hid : id ∈ f.holding.objects) :
    id ∉ Program.weight (·.holding.objects) (σ.frames.eraseIdx i) := by
  have hnodup := (Multiset.nodup_add.mp howned.nodup).2.1
  rw [Program.weight_eraseIdx _ hf] at hnodup
  exact Multiset.disjoint_left.mp (Multiset.nodup_add.mp hnodup).2.2 hid

theorem AllOwned.exclusive {σ : Config Pool Frame} (h : AllOwned σ) : ExclusiveOwnership σ := by
  let holds (f : Frame) : Option ℕ := f.holding.connection.map Connection.id
  have hholds {f : Frame} {c : Connection} (hc : f.holding.connection = some c) :
      holds f = some c.id := congrArg (Option.map Connection.id) hc
  have hheld : held holds = fun f ↦ f.holding.objects := by
    funext f
    rw [held, Holding.objects]
    rcases hc : f.holding.connection with _ | c
    · rw [show holds f = none from congrArg (Option.map Connection.id) hc]
      rfl
    · rw [hholds hc]
      rfl
  have hexclusive : Exclusive (σ.shared.availableConnections.map Connection.id) holds σ.frames := by
    apply Exclusive.of_nodup
    rw [hheld]
    exact h.nodup
  constructor
  · exact hexclusive.storedOnce
  · exact fun i f c hf hc ↦ hexclusive.notStored i f c.id hf (hholds hc)
  · intro i j f g c d hf hg hc hd hid
    exact hexclusive.oneHolder i j f g c.id hf hg (hholds hc) (hid ▸ hholds hd)

/-! ## One call of `init` -/

/-- The frame is an `init` that has not returned. -/
def Holding.isInit : Holding → Bool
  | .starting | .opening .. | .walking (some _) _ => true
  | _ => false

/-- How many calls of `init` have not returned. -/
def initCount (frames : List Frame) : ℕ := Program.weight (·.holding.isInit.toNat) frames

theorem isInit_of_inFlight {f : Frame} (hf : f.initInFlight = true) :
    f.holding.isInit = true ∧ f.holding ≠ .starting := by
  cases f with
  | initConnecting | initDisconnecting => exact ⟨rfl, nofun⟩
  | _ => cases hf

theorem exists_init_of_startsInit {σ : Config Pool Frame} {e : Event Call Bool}
    (hstart : startsInit σ e = true) :
    ∃ (i : ℕ) (f : Frame), σ.frames[i]? = some f ∧ f.holding = .starting := by
  rw [startsInit] at hstart
  split at hstart
  · next poolSize parameters hf =>
    cases e with
    | call c => cases hf
    | resume i answer => exact ⟨i, _, hf, rfl⟩
  · cases hstart

theorem sequential_of_initCount {σ : Config Pool Frame} (e : Event Call Bool)
    (hcount : initCount σ.frames ≤ 1) : Sequential σ e := by
  intro hstart g hg
  obtain ⟨i, f, hf, hholding⟩ := exists_init_of_startsInit hstart
  by_contra hflight
  rw [Bool.not_eq_false] at hflight
  obtain ⟨hinit, hne⟩ := isInit_of_inFlight hflight
  -- The `init` in flight is another frame than the one that begins, and both are counted.
  have hothers : g ∈ σ.frames.eraseIdx i := by
    obtain ⟨j, hj⟩ := List.mem_iff_getElem?.mp hg
    refine List.mem_eraseIdx_iff_getElem?.mpr ⟨j, ?_, hj⟩
    rintro rfl
    cases hf.symm.trans hj
    exact hne hholding
  obtain ⟨j, hj⟩ := List.mem_iff_getElem?.mp hothers
  rw [initCount, Program.weight_eraseIdx _ hf, Program.weight_eraseIdx _ hj, hholding,
    hinit] at hcount
  simp only [Holding.isInit, Bool.toNat_true] at hcount
  omega

/-- Only a call of `init` makes an `init`. -/
theorem isInit_transition (ht : Transition options s h s' h' actions) :
    h'.isInit.toNat ≤ h.isInit.toNat := by
  cases ht with
  | walkNext failed => cases failed <;> exact le_rfl
  | pass | store | push | failStart => exact le_rfl
  | _ => exact Nat.zero_le _

theorem initCount_step {σ τ : Config Pool Frame} {e : Event Call Bool}
    (hstep : (program options).step σ e = some (τ, actions)) :
    initCount τ.frames ≤ initCount σ.frames + (isInitCall e).toNat := by
  obtain ⟨c, rfl, rfl, -⟩ | ⟨i, answer, rfl, -, rfl, -⟩ | ⟨i, answer, f, s, f', rfl, hf, hs, rfl⟩ :=
    Program.step_cases hstep
  · rw [initCount, Program.weight_append, Program.weight_cons, Program.weight_nil, add_zero]
    cases c <;> exact le_rfl
  · exact Nat.le_add_right _ _
  · have hle := isInit_transition (transition_of_resume hs)
    rw [initCount, initCount, Program.weight_set _ hf, Program.weight_eraseIdx _ hf]
    omega

theorem along_sequential {σ : Config Pool Frame} {es : List (Event Call Bool)}
    (hcount : initCount σ.frames + es.countP isInitCall ≤ 1) :
    (program options).Along Sequential σ es := by
  induction es generalizing σ with
  | nil => trivial
  | cons e es ih =>
    rw [List.countP_cons] at hcount
    refine ⟨sequential_of_initCount e (by omega), ?_⟩
    split
    · trivial
    · next τ actions hstep =>
      -- A call that is made is counted among the frames, and no longer among the calls to come.
      apply ih
      have hle := initCount_step hstep
      rcases he : isInitCall e with _ | _
      · rw [he, Bool.toNat_false] at hle
        omega
      · rw [he, Bool.toNat_true] at hle
        rw [he, if_pos rfl] at hcount
        omega

/-- **Exclusive ownership.** However one `init` and any number of other coroutines interleave, no
step is undefined, every connection object is in the deque at most once, and one that a frame holds
is not in the deque and is held by no other frame. -/
theorem exclusiveOwnership (options : PoolOptions) (es : List (Event Call Bool))
    (hone : es.countP isInitCall ≤ 1) :
    ∃ σ actions, (program options).run empty es = some (σ, actions) ∧ ExclusiveOwnership σ := by
  have hseq : (program options).Along Sequential empty es :=
    along_sequential (by rwa [initCount, empty, Program.weight_nil, Nat.zero_add])
  obtain ⟨σ, actions, hrun, -⟩ := run_sequential inPhase_empty hseq
  have howned : AllOwned σ :=
    Program.run_keeps AllOwned (fun _ _ _ _ h _ hstep ↦ allOwned_step hstep h) allOwned_empty hseq
      hrun
  exact ⟨σ, actions, hrun, howned.exclusive⟩

/-- A `get` between its ping and its last check, when `close_all` runs to its end. -/
theorem exclusiveOwnership_closeDuringGet :
    ∃ σ actions, (program {}).run empty
        [.call (.init 1 ⟨[], [], [], [], none, none⟩), .resume 0 true, .resume 0 true, .call .get,
          .resume 1 true, .resume 1 true, .call (.closeAll false), .resume 2 true, .resume 2 true,
          .resume 2 true, .resume 1 true, .resume 1 true] = some (σ, actions) ∧
      ExclusiveOwnership σ :=
  exclusiveOwnership {} _ (by decide)

end AsyncPool

end Ormpp
