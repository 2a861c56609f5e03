import Ormpp.AsyncPool.Transition

/-!
# Accounting

The two counters of the pool count frames: those that have a pooled connection checked out, and
those that have a dynamic one, from the increment to the decrement of the counter.
-/

namespace Ormpp

namespace AsyncPool

/-- Client handles, posted returns, and check-outs and dynamic connections in progress whose
connection has not been dropped. -/
def Frame.countsInUse : Frame → Bool
  | .handle _ _ | .returning _ _ => true
  | .getPinging _ | .getReconnecting _ | .getFailed _ | .getVerified _ => true
  | .dynamicConnecting _ | .dynamicFailed _ | .dynamicConnected _ => true
  | _ => false

/-- Those of them that are dynamic. -/
def Frame.countsDynamic : Frame → Bool
  | .handle _ dynamic | .returning _ dynamic => dynamic
  | .dynamicConnecting _ | .dynamicFailed _ | .dynamicConnected _ => true
  | _ => false

structure Accounted (options : PoolOptions) (σ : Config Pool Frame) : Prop where
  inUse : σ.shared.inUseCount = σ.frames.countP Frame.countsInUse
  dynamic : σ.shared.dynamicConnectionCount = σ.frames.countP Frame.countsDynamic
  bound : σ.shared.dynamicConnectionCount ≤ options.maxDynamicConnections

/-- No decrement has found a counter at zero. -/
def NoUnderflow (actions : List Action) : Prop :=
  ∀ counter found, .decrement counter found ∈ actions → 0 < found

/-! ## What a frame counts for -/

/-- In use, and dynamic. -/
def Holding.counts : Holding → ℕ × ℕ
  | .fixed _ _ | .failed _ => (1, 0)
  | .dynamic _ _ => (1, 1)
  | _ => 0

structure Counted (options : PoolOptions) (s : Pool) (n : ℕ × ℕ) : Prop where
  inUse : s.inUseCount = n.1
  dynamic : s.dynamicConnectionCount = n.2
  bound : s.dynamicConnectionCount ≤ options.maxDynamicConnections

variable {options : PoolOptions} {s s' : Pool} {h h' : Holding} {actions : List Action}
  {n others : ℕ × ℕ}

theorem decrementGuarded_succ (n : ℕ) : decrementGuarded (1 + n) = n := by
  rw [decrementGuarded, if_pos (by omega), Nat.add_sub_cancel_left]

theorem decrement_succ (n : ℕ) : decrement (1 + n) = n := by
  rw [decrement, if_neg (by omega), Nat.add_sub_cancel_left]

theorem noUnderflow_nil : NoUnderflow [] := nofun

theorem noUnderflow_disconnect (c : Connection) : NoUnderflow [.disconnect c] := by
  intro counter found hmem
  cases List.mem_singleton.mp hmem

theorem NoUnderflow.append {actions later : List Action} (h : NoUnderflow actions)
    (hlater : NoUnderflow later) : NoUnderflow (actions ++ later) := by
  intro counter found hmem
  rcases List.mem_append.mp hmem with hmem | hmem
  · exact h counter found hmem
  · exact hlater counter found hmem

theorem noUnderflow_inUse (hs : 0 < s.inUseCount) : NoUnderflow s.decrementsInUse := by
  intro counter found hmem
  cases List.mem_singleton.mp hmem
  exact hs

theorem noUnderflow_dynamic (hs : 0 < s.inUseCount) (hd : 0 < s.dynamicConnectionCount) :
    NoUnderflow s.decrementsDynamic := by
  intro counter found hmem
  rcases List.mem_cons.mp hmem with hmem | hmem
  · cases hmem
    exact hd
  · cases List.mem_singleton.mp hmem
    exact hs

/-- The counters as long as they are not touched. -/
theorem Counted.congr (hcounted : Counted options s n) (hinUse : s'.inUseCount = s.inUseCount)
    (hdynamic : s'.dynamicConnectionCount = s.dynamicConnectionCount) : Counted options s' n where
  inUse := hinUse.trans hcounted.inUse
  dynamic := hdynamic.trans hcounted.dynamic
  bound := hdynamic ▸ hcounted.bound

/-- A pooled connection is no longer counted. -/
theorem Counted.release (hcounted : Counted options s ((1, 0) + others)) :
    Counted options s.releaseGuarded (0 + others) ∧ NoUnderflow s.decrementsInUse := by
  have hinUse : s.inUseCount = 1 + others.1 := hcounted.inUse
  have hdynamic : s.dynamicConnectionCount = 0 + others.2 := hcounted.dynamic
  refine ⟨⟨?_, ?_, hcounted.bound⟩, noUnderflow_inUse (by omega)⟩
  · rw [Pool.releaseGuarded, hinUse, decrementGuarded_succ, zero_add]
  · exact hdynamic

/-- A dynamic connection is no longer counted, whether or not the decrements are guarded. -/
theorem Counted.releaseDynamic (hcounted : Counted options s ((1, 1) + others)) :
    Counted options s.releaseDynamic (0 + others) ∧
      Counted options s.releaseDynamicGuarded (0 + others) ∧ NoUnderflow s.decrementsDynamic := by
  have hinUse : s.inUseCount = 1 + others.1 := hcounted.inUse
  have hdynamic : s.dynamicConnectionCount = 1 + others.2 := hcounted.dynamic
  have hle : others.2 ≤ options.maxDynamicConnections := by
    have hbound := hcounted.bound
    omega
  refine ⟨⟨?_, ?_, ?_⟩, ⟨?_, ?_, ?_⟩, noUnderflow_dynamic (by omega) (by omega)⟩
  · rw [Pool.releaseDynamic, hinUse, decrement_succ, zero_add]
  · rw [Pool.releaseDynamic, hdynamic, decrement_succ, zero_add]
  · rw [Pool.releaseDynamic, hdynamic, decrement_succ]
    exact hle
  · rw [Pool.releaseDynamicGuarded, hinUse, decrementGuarded_succ, zero_add]
  · rw [Pool.releaseDynamicGuarded, hdynamic, decrementGuarded_succ, zero_add]
  · rw [Pool.releaseDynamicGuarded, hdynamic, decrementGuarded_succ]
    exact hle

/-- A transition moves a counter exactly when its frame begins or ceases to count. -/
theorem Counted.transition (hcounted : Counted options s (h.counts + others))
    (ht : Transition options s h s' h' actions) :
    Counted options s' (h'.counts + others) ∧ NoUnderflow actions := by
  cases ht with
  | pass | refuse | store | storeNone | push | finish | keepOut | close =>
    exact ⟨hcounted.congr rfl rfl, noUnderflow_nil⟩
  | verify | reconnect | miss | handOut | release | forget => exact ⟨hcounted, noUnderflow_nil⟩
  | verifyDynamic | handOutDynamic | releaseDynamic => exact ⟨hcounted, noUnderflow_nil⟩
  | failNone => exact ⟨hcounted.congr rfl rfl, noUnderflow_nil⟩
  | failStart | closeStart | walkNext => exact ⟨hcounted.congr rfl rfl, noUnderflow_disconnect _⟩
  | closeNone => exact ⟨hcounted.congr rfl rfl, noUnderflow_nil⟩
  | walkEnd failed =>
    cases failed
    · exact ⟨hcounted.congr rfl rfl, noUnderflow_nil⟩
    · exact ⟨hcounted.congr rfl rfl, noUnderflow_nil⟩
  -- The frame begins to count.
  | take c behind =>
    have hinUse : s.inUseCount = 0 + others.1 := hcounted.inUse
    have hdynamic : s.dynamicConnectionCount = 0 + others.2 := hcounted.dynamic
    refine ⟨⟨?_, hdynamic, hcounted.bound⟩, noUnderflow_nil⟩
    change s.inUseCount + 1 = 1 + others.1
    omega
  | expand hinit hclosing hroom =>
    have hinUse : s.inUseCount = 0 + others.1 := hcounted.inUse
    have hdynamic : s.dynamicConnectionCount = 0 + others.2 := hcounted.dynamic
    refine ⟨⟨?_, ?_, hroom⟩, noUnderflow_nil⟩
    · change s.inUseCount + 1 = 1 + others.1
      omega
    · change s.dynamicConnectionCount + 1 = 1 + others.2
      omega
  -- The frame ceases to count, and so its decrement found at least this one.
  | lose c | drop c =>
    obtain ⟨hcounted, hactions⟩ := hcounted.release
    exact ⟨hcounted, hactions.append (noUnderflow_disconnect c)⟩
  | pool c =>
    obtain ⟨hcounted, hactions⟩ := hcounted.release
    exact ⟨hcounted.congr rfl rfl, hactions⟩
  | destroy c => exact hcounted.release
  | giveUp c =>
    obtain ⟨hcounted, -, hactions⟩ := hcounted.releaseDynamic
    exact ⟨hcounted, hactions⟩
  | dropDynamic c =>
    obtain ⟨-, hcounted, hactions⟩ := hcounted.releaseDynamic
    exact ⟨hcounted, hactions.append (noUnderflow_disconnect c)⟩
  | destroyDynamic c =>
    obtain ⟨-, hcounted, hactions⟩ := hcounted.releaseDynamic
    exact ⟨hcounted, hactions⟩

/-! ## Runs -/

theorem counts_holding (f : Frame) :
    f.holding.counts = (f.countsInUse.toNat, f.countsDynamic.toNat) := by
  cases f with
  | handle c dynamic | returning c dynamic => cases dynamic <;> rfl
  | _ => rfl

theorem weight_counts (frames : List Frame) :
    Program.weight (·.holding.counts) frames
      = (frames.countP Frame.countsInUse, frames.countP Frame.countsDynamic) := by
  induction frames with
  | nil => rfl
  | cons f frames ih =>
    rw [Program.weight_cons, ih, counts_holding, List.countP_cons, List.countP_cons]
    cases f.countsInUse <;> cases f.countsDynamic <;> simp [Nat.add_comm]

theorem counted_step {σ τ : Config Pool Frame} {e : Event Call Bool}
    (hstep : (program options).step σ e = some (τ, actions))
    (h : Counted options σ.shared (Program.weight (·.holding.counts) σ.frames)) :
    Counted options τ.shared (Program.weight (·.holding.counts) τ.frames) ∧
      NoUnderflow actions := by
  refine ⟨law_step (Counted options) Holding.counts hstep (fun c _ ↦ by cases c <;> rfl)
    (fun _ _ _ _ _ _ _ ht hc ↦ (hc.transition ht).1) h, ?_⟩
  obtain ⟨c, -, -, rfl⟩ | ⟨i, answer, -, -, -, rfl⟩ | ⟨i, answer, f, s, f', -, hf, hs, -⟩ :=
    Program.step_cases hstep
  · exact noUnderflow_nil
  · exact noUnderflow_nil
  · rw [Program.weight_eraseIdx _ hf] at h
    exact (h.transition (transition_of_resume hs)).2

/-- **Accounting.** In every run the counters are the numbers of connections that are out, the
dynamic ones do not exceed their bound, and no decrement finds its counter at zero. -/
theorem accounted (options : PoolOptions) (es : List (Event Call Bool)) (σ : Config Pool Frame)
    (actions : List Action) (hrun : (program options).run empty es = some (σ, actions)) :
    Accounted options σ ∧ NoUnderflow actions := by
  have hok : (program options).Along (fun _ _ ↦ True) empty es :=
    Program.along_of_mem empty fun _ _ _ ↦ trivial
  have hinv := Program.run_invariant
    (fun σ done ↦ Counted options σ.shared (Program.weight (·.holding.counts) σ.frames) ∧
      NoUnderflow done)
    (fun _ _ _ _ _ h _ hstep ↦
      ⟨(counted_step hstep h.1).1, h.2.append (counted_step hstep h.1).2⟩)
    [] ⟨⟨rfl, rfl, Nat.zero_le _⟩, noUnderflow_nil⟩ hok hrun
  obtain ⟨hcounted, hactions⟩ := hinv
  rw [weight_counts] at hcounted
  exact ⟨⟨hcounted.inUse, hcounted.dynamic, hcounted.bound⟩, hactions⟩

/-- A dynamic connection cannot be connected while the pooled one is out. -/
def dynamicFailure : List (Event Call Bool) :=
  [.call (.init 1 ⟨[], [], [], [], none, none⟩), .resume 0 true, .resume 0 true, .call .get,
    .resume 1 true, .resume 1 true, .resume 1 true, .resume 1 true, .call .get, .resume 2 true,
    .resume 2 true, .resume 2 true, .resume 2 false, .resume 2 true]

theorem accounted_dynamicFailure :
    ∃ σ actions, (program { enableDynamicExpansion := true }).run empty dynamicFailure
        = some (σ, actions) ∧
      Accounted { enableDynamicExpansion := true } σ ∧ NoUnderflow actions :=
  ⟨_, _, rfl, accounted { enableDynamicExpansion := true } dynamicFailure _ _ rfl⟩

end AsyncPool

end Ormpp
