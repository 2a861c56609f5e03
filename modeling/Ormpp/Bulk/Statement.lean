import Ormpp.Bulk.Action

/-!
# Bulk operations with a statement handle

What SQLite and MySQL have in common. Their calls reset the error before they send a statement, and
a `guard_statment` closes the prepared statement at the end of its scope, which is another way to
store an error.
-/

namespace Ormpp

namespace Bulk

open Traced

variable {α : Type}

/-! ## The calls -/

/-- A call that returns `false`, and stores the last error, where its statement is refused. Its
caller returns then. -/
def checked (statement : Verdict → Action α) : Option Refusal → Traced (Action α) Unit
  | none => emit [.resetError, statement .accepted]
  | some refusal =>
    leave [.resetError, statement (.refused refusal.ended), .setLastError refusal.message]

theorem checked_of_value {statement : Verdict → Action α} {answer : Option Refusal}
    (h : (checked statement answer).2 = some ()) :
    answer = none ∧ (checked statement answer).1 = [.resetError, statement .accepted] := by
  cases answer with
  | none => exact ⟨rfl, rfl⟩
  | some refusal => exact absurd h (by simp [checked, leave])

theorem checked_of_left {statement : Verdict → Action α} {answer : Option Refusal}
    (h : (checked statement answer).2 = none) :
    ∃ refusal, answer = some refusal ∧ (checked statement answer).1
      = [.resetError, statement (.refused refusal.ended), .setLastError refusal.message] := by
  cases answer with
  | none => exact absurd h (by simp [checked, emit])
  | some refusal => exact ⟨refusal, rfl, rfl⟩

/-- `rollback`, whose result is not used. -/
def rollback (answer : Option Bytes) : Traced (Action α) Unit :=
  emit (.resetError :: .rollback :: answer.toList.map .setLastError)

def closeError (status : ℤ) : Bytes := ascii "close statment error code " ++ intText status

/-- The destructor of `guard_statment`, where closing the statement gives `status`. -/
def closeStatement (status : ℤ) : List (Action α) :=
  if status ≠ 0 then [.setLastError (closeError status)] else []

/-- A statement is prepared and used. The constructor of its `guard_statment` resets the error, and
the destructor closes the statement. -/
def withStatement (prepare : Traced (Action α) Unit) (close : ℤ) (work : Traced (Action α) Unit)
    (value : ℤ) : Traced (Action α) ℤ := do
  prepare
  andFinally (closeStatement close) do
    emit [.resetError]
    work
    pure value

section Transaction

variable {db : DBType} {t : Transaction}

theorem Transaction.after_rollback (answer : Option Bytes) :
    t.after db (rollback (α := α) answer).1 = .none := by
  cases answer <;> rfl

theorem Transaction.after_closeStatement (status : ℤ) :
    t.after db (closeStatement (α := α) status) = t := by
  rw [closeStatement]
  split <;> rfl

end Transaction

/-! ## The ways through an operation -/

/-- The ways through an operation that uses a statement in a transaction. -/
inductive Path (prepare : Traced (Action α) Unit) (close : ℤ) (begin commit : Option Refusal)
    (loop : Traced (Action α) Unit) (value : ℤ) : Traced (Action α) ℤ → Prop
  | unprepared (hprepare : prepare.2 = none) :
    Path prepare close begin commit loop value (leave prepare.1)
  | notBegun (refusal : Refusal) (hprepare : prepare.2 = some ()) (hbegin : begin = some refusal) :
    Path prepare close begin commit loop value (leave (prepare.1 ++ (.resetError :: .resetError ::
      .begin (.refused refusal.ended) :: .setLastError refusal.message :: closeStatement close)))
  | left (hprepare : prepare.2 = some ()) (hbegin : begin = none) (hloop : loop.2 = none) :
    Path prepare close begin commit loop value (leave (prepare.1 ++ (.resetError :: .resetError ::
      .begin .accepted :: (loop.1 ++ closeStatement close))))
  | notCommitted (refusal : Refusal) (hprepare : prepare.2 = some ()) (hbegin : begin = none)
    (hloop : loop.2 = some ()) (hcommit : commit = some refusal) :
    Path prepare close begin commit loop value (leave (prepare.1 ++ (.resetError :: .resetError ::
      .begin .accepted :: (loop.1 ++ (.resetError :: .commit (.refused refusal.ended) ::
        .setLastError refusal.message :: closeStatement close)))))
  | done (hprepare : prepare.2 = some ()) (hbegin : begin = none) (hloop : loop.2 = some ())
    (hcommit : commit = none) :
    Path prepare close begin commit loop value (prepare.1 ++ (.resetError :: .resetError ::
      .begin .accepted :: (loop.1 ++ (.resetError :: .commit .accepted :: closeStatement close))),
        some value)

theorem withStatement_of_prepared {prepare work : Traced (Action α) Unit} {close value : ℤ}
    (hprepare : prepare.2 = some ()) :
    withStatement prepare close work value
      = (prepare.1 ++ (.resetError :: (work.1 ++ closeStatement close)),
        work.2.map fun _ ↦ value) := by
  rw [withStatement, bind_of_value (eq_of_snd hprepare), bind_pure]
  rfl

theorem path (prepare : Traced (Action α) Unit) (close : ℤ) (begin commit : Option Refusal)
    (loop : Traced (Action α) Unit) (value : ℤ) :
    Path prepare close begin commit loop value
      (withStatement prepare close
        (bracket true (checked .begin begin) (checked .commit commit) loop) value) := by
  cases hprepare : prepare.2 with
  | none =>
    rw [withStatement, bind_of_left (eq_of_snd hprepare)]
    exact .unprepared hprepare
  | some u =>
    rw [withStatement_of_prepared hprepare]
    have hexit := exit_of_bracket (checked .begin begin) (checked .commit commit) loop
    generalize bracket true (checked .begin begin) (checked .commit commit) loop = x at hexit ⊢
    cases hexit with
    | notBegun hbegin =>
      obtain ⟨refusal, hrefused, hactions⟩ := checked_of_left hbegin
      rw [hactions]
      exact .notBegun refusal hprepare hrefused
    | left hbegin hloop =>
      obtain ⟨hbegun, hactions⟩ := checked_of_value hbegin
      rw [hactions]
      exact .left hprepare hbegun hloop
    | notCommitted u hbegin hloop hcommit =>
      obtain ⟨hbegun, hactions⟩ := checked_of_value hbegin
      obtain ⟨refusal, hrefused, hcommitted⟩ := checked_of_left hcommit
      rw [hactions, hcommitted]
      simp only [List.append_assoc, List.cons_append, List.nil_append]
      exact .notCommitted refusal hprepare hbegun hloop hrefused
    | done u hbegin hloop hcommit =>
      obtain ⟨hbegun, hactions⟩ := checked_of_value hbegin
      obtain ⟨haccepted, hcommitted⟩ := checked_of_value hcommit
      rw [hactions, hcommitted]
      simp only [List.append_assoc, List.cons_append, List.nil_append]
      exact .done hprepare hbegun hloop haccepted

/-! ## The loop over the items -/

section Loop

variable {body : ℕ → α → Unit → Traced (Action α) Unit} {taken : ℕ → Bool} {v : List α}

/-- The body executes an item that is taken, and nothing else. -/
theorem forEach_rows
    (hbody : ∀ k item u, taken k = true → body k item u = ([.row item .accepted], some ()))
    (h : ∀ k < v.length, taken k = true) : forEach body 0 v () = (rows v, some ()) := by
  have hloop : ∃ u, forEach body 0 v () = (v.flatMap fun item ↦ [.row item .accepted], some u) :=
    forEach_of_taken (fun k _ ↦ taken k) (fun k item u hk ↦ ⟨(), hbody k item u hk⟩) h
  obtain ⟨_, hdone⟩ := hloop
  exact hdone

/-- The items before the first that is not taken are executed. -/
theorem forEach_rows_of_firstRefused
    (hbody : ∀ k item u, taken k = true → body k item u = ([.row item .accepted], some ()))
    (hleft : ∀ k item u, taken k = false → (body k item u).2 = none) {n : ℕ}
    (h : FirstRefused (fun k _ ↦ taken k) v n) :
    forEach body 0 v () = (rows (v.take n) ++ (body n h.item ()).1, none) := by
  have hloop : ∃ u, forEach body 0 v ()
      = ((v.take n).flatMap (fun item ↦ [.row item .accepted]) ++ (body n h.item u).1, none) :=
    forEach_of_firstRefused (fun k item u hk ↦ ⟨(), hbody k item u hk⟩) h (hleft n)
  obtain ⟨_, hleft⟩ := hloop
  exact hleft

theorem forEach_rows_iff
    (hbody : ∀ k item u, taken k = true → body k item u = ([.row item .accepted], some ()))
    (hleft : ∀ k item u, taken k = false → (body k item u).2 = none) :
    (forEach body 0 v ()).2 = some () ↔ ∀ k < v.length, taken k = true := by
  have hunit {o : Option Unit} : o = some () ↔ o.isSome := by
    rcases o with _ | ⟨⟩ <;> simp
  exact hunit.trans (isSome_forEach_iff (fun k _ ↦ taken k)
    (fun k item u hk ↦ ⟨(), hbody k item u hk⟩) hleft)

theorem firstRefused_of_forEach_rows
    (hbody : ∀ k item u, taken k = true → body k item u = ([.row item .accepted], some ()))
    (h : (forEach body 0 v ()).2 = none) : ∃ n, FirstRefused (fun k _ ↦ taken k) v n := by
  rcases taken_or_firstRefused (fun k _ ↦ taken k) v with htaken | hfirst
  · rw [forEach_rows hbody htaken] at h
    exact absurd h nofun
  · exact hfirst

end Loop

end Bulk

end Ormpp
