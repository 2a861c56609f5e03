import Mathlib.Tactic

/-!
# Programs that hold native handles

A program makes calls that may fail, in whatever pattern, and some of them hand out a handle: to a
connection, or to a statement or a result. What happens to the handles is recorded, and the books
say at every moment which of them are held, and whether nothing has been given back that was not.

A program is balanced if it gives back every statement it obtains and has no dealings with
connections. Sequences and guards of balanced programs are balanced: a guard gives its handle back
at the end of its scope, so that between obtaining a handle and its guard nothing may return.
-/

namespace Ormpp

namespace Handle

/-! ## Books -/

inductive Event
  /-- A statement or a result is handed out. -/
  | obtained (h : ℕ)
  | released (h : ℕ)
  /-- A connection is handed out. -/
  | opened (h : ℕ)
  | closed (h : ℕ)
  deriving DecidableEq

/-- The handles that are held. -/
structure Books where
  statements : List ℕ
  connections : List ℕ
  /-- Every handle that was given back was held. -/
  sound : Bool
  deriving DecidableEq

def Books.empty : Books := ⟨[], [], true⟩

def Books.enter (b : Books) : Event → Books
  | .obtained h => { b with statements := h :: b.statements }
  | .released h => { b with
      statements := b.statements.erase h
      sound := b.sound && b.statements.contains h }
  | .opened h => { b with connections := h :: b.connections }
  | .closed h => { b with
      connections := b.connections.erase h
      sound := b.sound && b.connections.contains h }

def Books.enterAll (b : Books) (es : List Event) : Books := es.foldl enter b

theorem Books.enterAll_append (b : Books) (xs ys : List Event) :
    b.enterAll (xs ++ ys) = (b.enterAll xs).enterAll ys := List.foldl_append

/-- The event is about a statement. -/
def Event.IsStatement : Event → Prop
  | .obtained _ | .released _ => True
  | .opened _ | .closed _ => False

/-- Statements come and go without a connection. -/
theorem Books.connections_enterAll {b : Books} {es : List Event} (h : ∀ e ∈ es, e.IsStatement) :
    (b.enterAll es).connections = b.connections := by
  induction es generalizing b with
  | nil => rfl
  | cons e es ih =>
    obtain ⟨he, hes⟩ := List.forall_mem_cons.mp h
    refine (ih (b := b.enter e) hes).trans ?_
    obtain h | h | h | h := e
    · rfl
    · rfl
    · exact he.elim
    · exact he.elim

/-! ## Programs -/

/-- What a program runs in: whether the next calls succeed, the connection that the object has
stored, and what has happened to the handles. -/
structure World where
  outcomes : ℕ → Bool
  clock : ℕ := 0
  connection : Option ℕ := none
  events : List Event := []

abbrev Prog := StateM World

def World.books (w : World) : Books := Books.empty.enterAll w.events

/-- A native call. -/
def call : Prog Bool := fun w ↦ (w.outcomes w.clock, { w with clock := w.clock + 1 })

def emit (e : Event) : Prog Unit := fun w ↦ ((), { w with events := w.events ++ [e] })

/-- A native call that hands out a statement or a result, or a null pointer. -/
def acquire : Prog (Option ℕ) := fun w ↦
  if w.outcomes w.clock then
    (some w.clock, { w with clock := w.clock + 1, events := w.events ++ [.obtained w.clock] })
  else (none, { w with clock := w.clock + 1 })

/-- A native call that hands out a connection, or a null pointer, which the object stores. -/
def openConnection : Prog (Option ℕ) := fun w ↦
  if w.outcomes w.clock then
    (some w.clock, { w with
      clock := w.clock + 1, connection := some w.clock, events := w.events ++ [.opened w.clock] })
  else (none, { w with clock := w.clock + 1, connection := none })

/-- The connection that the object has stored. -/
def stored : Prog (Option ℕ) := fun w ↦ (w.connection, w)

/-- The object forgets its connection. -/
def forget : Prog Unit := fun w ↦ ((), { w with connection := none })

/-- A handle is given back, unless it is a null pointer. -/
def release : Option ℕ → Prog Unit
  | none => pure ()
  | some h => emit (.released h)

/-- A connection is closed, unless it is a null pointer. -/
def close : Option ℕ → Prog Unit
  | none => pure ()
  | some h => emit (.closed h)

/-- A scope that gives a handle back at its end. -/
def guard {α : Type} (h : Option ℕ) (body : Prog α) : Prog α := do
  let a ← body
  release h
  pure a

/-- A number of calls, up to the first that fails. -/
def callAll : ℕ → Prog Bool
  | 0 => pure true
  | n + 1 => call <&&> callAll n

/-- A number of calls, whether they fail or not. -/
def callEach : ℕ → Prog Unit
  | 0 => pure ()
  | n + 1 => do
    let _ ← call
    callEach n

/-- A loop that is left with the first item for which its body fails. -/
def forAll {β : Type} (body : β → Prog Bool) : List β → Prog Bool
  | [] => pure true
  | b :: bs => body b <&&> forAll body bs

theorem acquire_of_true {w : World} (h : w.outcomes w.clock = true) : acquire w = (some w.clock,
    { w with clock := w.clock + 1, events := w.events ++ [.obtained w.clock] }) := if_pos h

theorem acquire_of_false {w : World} (h : ¬w.outcomes w.clock = true) :
    acquire w = (none, { w with clock := w.clock + 1 }) := if_neg h

/-! ## Balanced programs -/

variable {α β : Type}

/-- The program adds these events, and keeps the connection that the object has stored. -/
structure Adds (m : Prog α) (w : World) (es : List Event) : Prop where
  events : (m w).2.events = w.events ++ es
  connection : (m w).2.connection = w.connection
  isStatement : ∀ e ∈ es, e.IsStatement

/-- The program gives back what it obtains. -/
def Balanced (m : Prog α) : Prop :=
  ∀ w, ∃ es, Adds m w es ∧ ∀ b : Books, b.enterAll es = b

/-- The program gives back what it obtains, and a handle that is held before. -/
def Releases (h : ℕ) (m : Prog α) : Prop :=
  ∀ w, ∃ es, Adds m w es ∧ ∀ b : Books, (b.enter (.obtained h)).enterAll es = b

theorem Adds.bind {m : Prog α} {f : α → Prog β} {w : World} {xs ys : List Event}
    (hm : Adds m w xs) (hf : Adds (f (m w).1) (m w).2 ys) : Adds (m >>= f) w (xs ++ ys) where
  events := by
    change (f (m w).1 (m w).2).2.events = _
    rw [hf.events, hm.events, List.append_assoc]
  connection := hf.connection.trans hm.connection
  isStatement := List.forall_mem_append.mpr ⟨hm.isStatement, hf.isStatement⟩

theorem balanced_pure (a : α) : Balanced (pure a : Prog α) := fun w ↦
  ⟨[], ⟨(List.append_nil w.events).symm, rfl, nofun⟩, fun _ ↦ rfl⟩

theorem balanced_call : Balanced call := fun w ↦
  ⟨[], ⟨(List.append_nil w.events).symm, rfl, nofun⟩, fun _ ↦ rfl⟩

theorem Balanced.bind {m : Prog α} {f : α → Prog β} (hm : Balanced m) (hf : ∀ a, Balanced (f a)) :
    Balanced (m >>= f) := by
  intro w
  obtain ⟨xs, hxs, hx⟩ := hm w
  obtain ⟨ys, hys, hy⟩ := hf (m w).1 (m w).2
  exact ⟨xs ++ ys, hxs.bind hys, fun b ↦ by rw [Books.enterAll_append, hx, hy]⟩

theorem Balanced.ite {c : Bool} {x y : Prog α} (hx : Balanced x) (hy : Balanced y) :
    Balanced (if c then x else y) := by
  cases c
  · exact hy
  · exact hx

theorem Balanced.bind_releases {h : ℕ} {m : Prog α} {f : α → Prog β} (hm : Balanced m)
    (hf : ∀ a, Releases h (f a)) : Releases h (m >>= f) := by
  intro w
  obtain ⟨xs, hxs, hx⟩ := hm w
  obtain ⟨ys, hys, hy⟩ := hf (m w).1 (m w).2
  exact ⟨xs ++ ys, hxs.bind hys, fun b ↦ by rw [Books.enterAll_append, hx, hy]⟩

/-- The program adds one event about a statement. -/
theorem Adds.singleton {m : Prog α} {w : World} {e : Event}
    (hevents : (m w).2.events = w.events ++ [e]) (hconnection : (m w).2.connection = w.connection)
    (he : e.IsStatement) : Adds m w [e] :=
  ⟨hevents, hconnection, List.forall_mem_singleton.mpr he⟩

/-- A guard gives its handle back, whatever the body does. -/
theorem releases_guard {h : ℕ} {body : Prog α} (hbody : Balanced body) :
    Releases h (guard (some h) body) := by
  intro w
  obtain ⟨xs, hxs, hx⟩ := hbody w
  have hrest : Adds (release (some h) >>= fun _ ↦ (pure (body w).1 : Prog α)) (body w).2
      [.released h] := .singleton rfl rfl trivial
  refine ⟨xs ++ [.released h], hxs.bind hrest, fun b ↦ ?_⟩
  rw [Books.enterAll_append, hx]
  simp [Books.enterAll, Books.enter]

/-- A guard of a null pointer has nothing to give back. -/
theorem Balanced.guard_none {body : Prog α} (hbody : Balanced body) : Balanced (guard none body) :=
  hbody.bind fun a ↦ balanced_pure a

/-- What is obtained and then given back. -/
theorem balanced_acquire {k : Option ℕ → Prog α} (hnone : Balanced (k none))
    (hsome : ∀ h, Releases h (k (some h))) : Balanced (acquire >>= k) := by
  intro w
  by_cases houtcome : w.outcomes w.clock = true
  · have hacquire := acquire_of_true houtcome
    obtain ⟨xs, hxs, hx⟩ := hsome w.clock (acquire w).2
    have hfirst : Adds acquire w [.obtained w.clock] :=
      .singleton (by rw [hacquire]) (by rw [hacquire]) trivial
    have hrest : Adds (k (acquire w).1) (acquire w).2 xs := by
      rwa [show (acquire w).1 = some w.clock by rw [hacquire]]
    exact ⟨_, hfirst.bind hrest, hx⟩
  · have hacquire := acquire_of_false houtcome
    obtain ⟨xs, hxs, hx⟩ := hnone (acquire w).2
    have hfirst : Adds acquire w [] :=
      ⟨by rw [hacquire, List.append_nil], by rw [hacquire], nofun⟩
    have hrest : Adds (k (acquire w).1) (acquire w).2 xs := by
      rwa [show (acquire w).1 = none by rw [hacquire]]
    exact ⟨_, hfirst.bind hrest, hx⟩

theorem Balanced.and {x y : Prog Bool} (hx : Balanced x) (hy : Balanced y) :
    Balanced (x <&&> y) := by
  refine hx.bind fun b ↦ ?_
  cases b
  · exact balanced_pure false
  · exact hy

/-- A program whose failure is followed by another program. -/
theorem Balanced.orElse {x y : Prog Bool} (hx : Balanced x) (hy : Balanced y) :
    Balanced (x >>= fun ok ↦ if ok then pure true else y >>= fun _ ↦ pure false) :=
  hx.bind fun _ ↦ (balanced_pure true).ite (hy.bind fun _ ↦ balanced_pure false)

theorem balanced_callAll (n : ℕ) : Balanced (callAll n) := by
  induction n with
  | zero => exact balanced_pure true
  | succ n ih => exact balanced_call.and ih

theorem balanced_callEach (n : ℕ) : Balanced (callEach n) := by
  induction n with
  | zero => exact balanced_pure ()
  | succ n ih => exact balanced_call.bind fun _ ↦ ih

theorem balanced_forAll {body : β → Prog Bool} (hbody : ∀ b, Balanced (body b)) (bs : List β) :
    Balanced (forAll body bs) := by
  induction bs with
  | nil => exact balanced_pure true
  | cons b bs ih => exact (hbody b).and ih

/-! ## Holding one connection -/

/-- No statement is held and only the given connection, everything that was given back was held,
and never was more than one connection held at a time. -/
structure Holds (c : Option ℕ) (w : World) : Prop where
  books : w.books = ⟨[], c.toList, true⟩
  moments : ∀ es, es <+: w.events → (Books.empty.enterAll es).connections.length ≤ 1

/-- The object holds the connection that it has stored. -/
def Owns (w : World) : Prop := Holds w.connection w

theorem Holds.append {c c' : Option ℕ} {w v : World} {es : List Event} (h : Holds c w)
    (hv : v.events = w.events ++ es)
    (hbooks : (⟨[], c.toList, true⟩ : Books).enterAll es = ⟨[], c'.toList, true⟩)
    (hmoments : ∀ xs, xs <+: es →
      ((⟨[], c.toList, true⟩ : Books).enterAll xs).connections.length ≤ 1) : Holds c' v := by
  have hw : Books.empty.enterAll w.events = ⟨[], c.toList, true⟩ := h.books
  refine ⟨?_, ?_⟩
  · rw [World.books, hv, Books.enterAll_append, hw, hbooks]
  · intro xs hxs
    rw [hv] at hxs
    obtain hpre | ⟨ys, rfl⟩ := List.prefix_or_prefix_of_prefix hxs (List.prefix_append w.events es)
    · exact h.moments xs hpre
    · rw [Books.enterAll_append, hw]
      exact hmoments ys ((List.prefix_append_right_inj w.events).mp hxs)

theorem Holds.snoc {c c' : Option ℕ} {w v : World} {e : Event} (h : Holds c w)
    (hv : v.events = w.events ++ [e])
    (hbooks : (⟨[], c.toList, true⟩ : Books).enter e = ⟨[], c'.toList, true⟩) : Holds c' v := by
  refine h.append hv hbooks fun xs hxs ↦ ?_
  obtain rfl | ⟨ys, rfl, hys⟩ := List.prefix_cons_iff.mp hxs
  · exact Option.length_toList_le
  · have hone : (⟨[], c.toList, true⟩ : Books).enterAll [e] = ⟨[], c'.toList, true⟩ := hbooks
    rw [List.prefix_nil.mp hys, hone]
    exact Option.length_toList_le

theorem Holds.of_events_eq {c : Option ℕ} {w v : World} (h : Holds c w)
    (hv : v.events = w.events) : Holds c v :=
  ⟨by rw [World.books, hv]; exact h.books, by rw [hv]; exact h.moments⟩

/-- A program that is started where the first condition holds ends where the second does. -/
def Leads (P Q : World → Prop) (m : Prog α) : Prop := ∀ w, P w → Q (m w).2

theorem Leads.bind {P Q R : World → Prop} {m : Prog α} {f : α → Prog β} (hm : Leads P Q m)
    (hf : ∀ a, Leads Q R (f a)) : Leads P R (m >>= f) :=
  fun w hw ↦ hf (m w).1 (m w).2 (hm w hw)

theorem leads_pure {P : World → Prop} (a : α) : Leads P P (pure a : Prog α) := fun _ hw ↦ hw

theorem Leads.ite {P Q : World → Prop} {c : Bool} {x y : Prog α} (hx : Leads P Q x)
    (hy : Leads P Q y) : Leads P Q (if c then x else y) := by
  cases c
  · exact hy
  · exact hx

/-- A balanced program changes nothing about who holds what. -/
theorem Balanced.holds {m : Prog α} (hm : Balanced m) (c : Option ℕ) :
    Leads (Holds c) (Holds c) m := by
  intro w hw
  obtain ⟨es, hes, hbooks⟩ := hm w
  refine hw.append hes.events (hbooks _) fun xs hxs ↦ ?_
  rw [Books.connections_enterAll fun e he ↦ hes.isStatement e (hxs.subset he)]
  exact Option.length_toList_le

theorem Balanced.owns {m : Prog α} (hm : Balanced m) : Leads Owns Owns m := by
  intro w hw
  obtain ⟨es, hes, -⟩ := hm w
  rw [Owns, hes.connection]
  exact hm.holds w.connection w hw

/-- What depends on the connection that the object has stored. -/
theorem leads_stored {Q : World → Prop} {k : Option ℕ → Prog α}
    (hk : ∀ c, Leads (Holds c) Q (k c)) : Leads Owns Q (stored >>= k) :=
  fun w hw ↦ hk w.connection w hw

/-- What does nothing if the object has stored no connection. -/
theorem leads_stored_of_some {k : Option ℕ → Prog α} (hnone : ∀ w, (k none w).2 = w)
    (hsome : ∀ h, Leads (Holds (some h)) Owns (k (some h))) : Leads Owns Owns (stored >>= k) := by
  intro w hw
  change Owns (k w.connection w).2
  rcases hconnection : w.connection with _ | h
  · rwa [hnone]
  · rw [Owns, hconnection] at hw
    exact hsome h w hw

theorem leads_forget : Leads (Holds none) Owns forget := fun _ hw ↦ hw.of_events_eq rfl

/-- A connection is stored where none is held. -/
theorem leads_openConnection : Leads (Holds none) Owns openConnection := by
  intro w hw
  by_cases houtcome : w.outcomes w.clock = true
  · have hopen : openConnection w = (some w.clock, { w with
        clock := w.clock + 1, connection := some w.clock,
        events := w.events ++ [.opened w.clock] }) := if_pos houtcome
    rw [hopen]
    exact hw.snoc rfl rfl
  · have hopen : openConnection w = (none, { w with clock := w.clock + 1, connection := none }) :=
      if_neg houtcome
    rw [hopen]
    exact hw.of_events_eq rfl

/-- The connection that is held is closed. -/
theorem leads_close (c : Option ℕ) : Leads (Holds c) (Holds none) (close c) := by
  intro w hw
  obtain _ | k := c
  · exact hw
  · refine hw.snoc (show (close (some k) w).2.events = w.events ++ [.closed k] from rfl) ?_
    simp [Books.enter]

end Handle

end Ormpp
