import Ormpp.SyncPool.Pool

/-!
# Attempts to open the pool

An `init_impl` that throws leaves the connections behind that it has opened, and the next attempt
adds its own to them.
-/

namespace Ormpp

namespace SyncPool

open AsyncPool (Parameters)

/-- A call of `init`, with the answers of the database to its calls of `connect`. -/
structure Attempt where
  maxsize : ℤ
  args : Parameters
  connects : ℕ → Bool

/-- A connection that the attempt asks for is refused. -/
def Attempt.Fails (a : Attempt) : Prop := ∃ i < a.maxsize.toNat, a.connects i = false

instance (a : Attempt) : Decidable a.Fails :=
  inferInstanceAs (Decidable (∃ i < _, _))

def Pool.attempt (s : Pool) (a : Attempt) : Pool := (s.init a.maxsize a.args a.connects).1

/-- The pool after the attempts. -/
def Pool.attempts (s : Pool) (as : List Attempt) : Pool := as.foldl Pool.attempt s

/-! ## One attempt -/

/-- The connections that the loop opens, with `left` turns left and from the `i`-th answer on. -/
def opened (connects : ℕ → Bool) : ℕ → ℕ → ℕ
  | 0, _ => 0
  | left + 1, i => if connects i then opened connects left (i + 1) + 1 else 0

theorem opened_le (connects : ℕ → Bool) (left i : ℕ) : opened connects left i ≤ left := by
  induction left generalizing i with
  | zero => rfl
  | succ left ih =>
    rw [opened]
    split
    · exact Nat.succ_le_succ (ih (i + 1))
    · exact Nat.zero_le _

/-- The loop runs to its end when no answer is a refusal. -/
theorem opened_lt_iff (connects : ℕ → Bool) (left i : ℕ) :
    opened connects left i < left ↔ ∃ k < left, connects (i + k) = false := by
  induction left generalizing i with
  | zero => simp
  | succ left ih =>
    rw [opened]
    rcases hi : connects i with _ | _
    · exact iff_of_true (Nat.succ_pos left) ⟨0, Nat.succ_pos left, hi⟩
    · rw [if_pos rfl, Nat.succ_lt_succ_iff, ih]
      constructor
      · rintro ⟨k, hk, hrefused⟩
        exact ⟨k + 1, Nat.succ_lt_succ hk, by rwa [Nat.add_right_comm, Nat.add_assoc] at hrefused⟩
      · rintro ⟨k, hk, hrefused⟩
        cases k with
        | zero => simp [hi] at hrefused
        | succ k =>
          exact ⟨k, Nat.lt_of_succ_lt_succ hk, by rwa [Nat.add_right_comm, Nat.add_assoc]⟩

theorem opened_eq_zero_iff (connects : ℕ → Bool) {left : ℕ} (hleft : left ≠ 0) (i : ℕ) :
    opened connects left i = 0 ↔ connects i = false := by
  obtain ⟨left, rfl⟩ := Nat.exists_eq_succ_of_ne_zero hleft
  rw [opened]
  cases connects i <;> simp

/-- The connections that an attempt opens, in their order. -/
def newConnections (s : Pool) (n : ℕ) : List Connection :=
  (List.range' s.created n).map fun id ↦ ⟨id, s.args⟩

/-- What the loop does to the pool. -/
theorem initLoop_spec (connects : ℕ → Bool) (left i : ℕ) (s : Pool) :
    (Pool.initLoop connects left i s).1.pool
        = s.pool ++ newConnections s (opened connects left i) ∧
      (Pool.initLoop connects left i s).1.flag = s.flag ∧
      s.created + opened connects left i ≤ (Pool.initLoop connects left i s).1.created ∧
      (Pool.initLoop connects left i s).2 = decide (opened connects left i = left) := by
  induction left generalizing i s with
  | zero => exact ⟨(List.append_nil _).symm, rfl, le_rfl, rfl⟩
  | succ left ih =>
    rw [Pool.initLoop, opened]
    split
    · obtain ⟨hpool, hflag, hcreated, hend⟩ :=
        ih (i + 1) { s.make with pool := s.pool ++ [s.newConnection] }
      refine ⟨?_, hflag, ?_, ?_⟩
      · rw [hpool, List.append_assoc, newConnections, newConnections, List.range'_succ,
          List.map_cons]
        rfl
      · rwa [Nat.add_comm (opened _ _ _), ← Nat.add_assoc]
      · rw [hend, decide_eq_decide, Nat.succ_inj]
    · exact ⟨(List.append_nil _).symm, rfl, Nat.le_succ _, rfl⟩

variable {s : Pool} {a : Attempt}

/-- The connections that the attempt opens. -/
def Attempt.opened (a : Attempt) : ℕ := SyncPool.opened a.connects a.maxsize.toNat 0

theorem Attempt.fails_iff (a : Attempt) : a.Fails ↔ a.opened < a.maxsize.toNat := by
  rw [Attempt.opened, opened_lt_iff]
  simp only [Nat.zero_add]
  rfl

theorem Attempt.opened_of_not_fails (h : ¬a.Fails) : a.opened = a.maxsize.toNat :=
  le_antisymm (opened_le _ _ _) (not_lt.mp (mt a.fails_iff.mpr h))

/-- An attempt that fails has opened nothing when its first connection is refused. -/
theorem Attempt.opened_eq_zero_iff (h : a.Fails) : a.opened = 0 ↔ a.connects 0 = false := by
  have hne : a.maxsize.toNat ≠ 0 := Nat.ne_zero_of_lt (a.fails_iff.mp h)
  exact SyncPool.opened_eq_zero_iff a.connects hne 0

/-- What an attempt does to a pool that was not opened before. -/
theorem attempt_eq (hflag : s.flag = none) :
    (s.attempt a).pool = s.pool ++ newConnections { s with args := a.args } a.opened ∧
      ((s.attempt a).flag = if a.Fails then none else some a.maxsize) ∧
      s.created + a.opened ≤ (s.attempt a).created := by
  obtain ⟨hpool, hf, hcreated, hend⟩ :=
    initLoop_spec a.connects a.maxsize.toNat 0 { s with args := a.args }
  have hinit : (s.initImpl a.maxsize a.args a.connects).2 = decide ¬a.Fails := by
    rw [Pool.initImpl, hend, decide_eq_decide, a.fails_iff, not_lt]
    exact ⟨Eq.ge, le_antisymm (opened_le _ _ _)⟩
  rw [Pool.attempt, Pool.init, hflag, Option.isSome_none, if_neg Bool.false_ne_true]
  rw [← Pool.initImpl] at hpool hf hcreated
  rcases hpair : s.initImpl a.maxsize a.args a.connects with ⟨t, ended⟩
  rw [hpair] at hpool hf hcreated hinit
  cases ended with
  | true =>
    rw [if_neg (of_decide_eq_true hinit.symm)]
    exact ⟨hpool, rfl, hcreated⟩
  | false =>
    rw [if_pos (not_not.mp (of_decide_eq_false hinit.symm))]
    exact ⟨hpool, hf.trans hflag, hcreated⟩

/-- `std::call_once` does nothing once the flag is set. -/
theorem attempt_of_flag {n : ℤ} (hflag : s.flag = some n) : s.attempt a = s := by
  rw [Pool.attempt, Pool.init, hflag]
  rfl

/-! ## A series of attempts -/

theorem length_newConnections (s : Pool) (n : ℕ) : (newConnections s n).length = n := by
  rw [newConnections, List.length_map, List.length_range']

theorem args_of_mem_newConnections {n : ℕ} {conn : Connection} (h : conn ∈ newConnections s n) :
    conn.args = s.args := by
  obtain ⟨id, -, rfl⟩ := List.mem_map.mp h
  rfl

theorem attempts_append (s : Pool) (as : List Attempt) (a : Attempt) :
    s.attempts (as ++ [a]) = (s.attempts as).attempt a := by
  rw [Pool.attempts, List.foldl_append]
  rfl

theorem flag_attempts {failed : List Attempt} (hflag : s.flag = none)
    (hfailed : ∀ a ∈ failed, a.Fails) : (s.attempts failed).flag = none := by
  induction failed generalizing s with
  | nil => exact hflag
  | cons a failed ih =>
    obtain ⟨ha, hfailed⟩ := List.forall_mem_cons.mp hfailed
    apply ih _ hfailed
    rw [(attempt_eq hflag).2.1, if_pos ha]

theorem pool_attempt_of_refused (hflag : s.flag = none) (ha : a.Fails)
    (hrefused : a.connects 0 = false) : (s.attempt a).pool = s.pool := by
  rw [(attempt_eq hflag).1, (Attempt.opened_eq_zero_iff ha).mpr hrefused]
  exact List.append_nil _

theorem pool_attempts_of_refused {failed : List Attempt} (hflag : s.flag = none)
    (hfailed : ∀ a ∈ failed, a.Fails) (hrefused : ∀ a ∈ failed, a.connects 0 = false) :
    (s.attempts failed).pool = s.pool := by
  induction failed generalizing s with
  | nil => rfl
  | cons a failed ih =>
    obtain ⟨ha, hfailed⟩ := List.forall_mem_cons.mp hfailed
    obtain ⟨hra, hrefused⟩ := List.forall_mem_cons.mp hrefused
    have hnext : (s.attempt a).flag = none := by
      rw [(attempt_eq hflag).2.1, if_pos ha]
    exact (ih hnext hfailed hrefused).trans (pool_attempt_of_refused hflag ha hra)

/-- What is expected of `init` after attempts that have failed and one that has succeeded. -/
structure CleanInit (failed : List Attempt) (last : Attempt) : Prop where
  nothingLeft : ∀ tried, tried <+: failed → (Pool.empty.attempts tried).pool = []
  size : ((Pool.empty.attempts (failed ++ [last])).pool.length : ℤ) = last.maxsize
  args : ∀ conn ∈ (Pool.empty.attempts (failed ++ [last])).pool, conn.args = last.args

/-- An attempt that leaves an empty pool as it is has been refused at once. -/
theorem refused_of_nothingLeft {failed : List Attempt} (hfailed : ∀ a ∈ failed, a.Fails)
    (h : ∀ tried, tried <+: failed → (Pool.empty.attempts tried).pool = []) (ha : a ∈ failed) :
    a.connects 0 = false := by
  obtain ⟨before, behind, rfl⟩ := List.append_of_mem ha
  have hbefore : ∀ b ∈ before, b.Fails := fun b hb ↦ hfailed b (List.mem_append_left _ hb)
  have hpool : (Pool.empty.attempts (before ++ [a])).pool = [] :=
    h _ ⟨behind, by rw [List.append_assoc, List.singleton_append]⟩
  rw [attempts_append, (attempt_eq (flag_attempts rfl hbefore)).1, List.append_eq_nil_iff] at hpool
  have hopened := congrArg List.length hpool.2
  rw [length_newConnections] at hopened
  exact (Attempt.opened_eq_zero_iff (hfailed a ha)).mp hopened

/-- **Clean opening.** However many attempts have failed, the pool holds what the successful one has
opened and nothing else exactly when none of them was refused behind its first connection. -/
theorem cleanInit_iff (failed : List Attempt) (last : Attempt) (hfailed : ∀ a ∈ failed, a.Fails)
    (hlast : ¬last.Fails) :
    CleanInit failed last ↔ 0 ≤ last.maxsize ∧ ∀ a ∈ failed, a.connects 0 = false := by
  have hflag : (Pool.empty.attempts failed).flag = none := flag_attempts rfl hfailed
  have hpool := (attempt_eq (a := last) hflag).1
  rw [← attempts_append, Attempt.opened_of_not_fails hlast] at hpool
  constructor
  · intro h
    constructor
    · have hsize := h.size
      omega
    · intro a ha
      exact refused_of_nothingLeft hfailed h.nothingLeft ha
  · rintro ⟨hmaxsize, hrefused⟩
    have hempty (tried : List Attempt) (htried : tried <+: failed) :
        (Pool.empty.attempts tried).pool = [] :=
      pool_attempts_of_refused rfl (fun a ha ↦ hfailed a (htried.subset ha))
        fun a ha ↦ hrefused a (htried.subset ha)
    rw [hempty failed List.prefix_rfl, List.nil_append] at hpool
    constructor
    · exact hempty
    · rw [hpool, length_newConnections]
      exact Int.toNat_of_nonneg hmaxsize
    · intro conn hconn
      rw [hpool] at hconn
      exact args_of_mem_newConnections hconn

/-- A database that cannot be reached at first, and two connections to it afterwards. -/
theorem cleanInit_iff_unreachable :
    CleanInit [⟨2, ⟨[], [], [], [], none, none⟩, fun _ ↦ false⟩]
        ⟨2, ⟨[], [], [], [], none, none⟩, fun _ ↦ true⟩ ↔
      0 ≤ (2 : ℤ) ∧
        ∀ a ∈ [Attempt.mk 2 ⟨[], [], [], [], none, none⟩ fun _ ↦ false], a.connects 0 = false :=
  cleanInit_iff _ _ (by decide) (by decide)

/-- The second of two connections is refused, and `init` is called again for another database. -/
theorem not_cleanInit_halfOpened :
    (∀ a ∈ [Attempt.mk 2 ⟨[], [], [], ascii "a", none, none⟩ (· = 0)], a.Fails) ∧
      ¬(Attempt.mk 2 ⟨[], [], [], ascii "b", none, none⟩ fun _ ↦ true).Fails ∧
      ¬CleanInit [⟨2, ⟨[], [], [], ascii "a", none, none⟩, (· = 0)⟩]
        ⟨2, ⟨[], [], [], ascii "b", none, none⟩, fun _ ↦ true⟩ := by
  refine ⟨by decide, by decide, ?_⟩
  intro h
  exact absurd h.size (by decide)

end SyncPool

end Ormpp
