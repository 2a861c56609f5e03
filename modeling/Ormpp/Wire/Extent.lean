import Ormpp.Wire.ResultSet

/-!
# How far an answer is read

The packets that come in answer to a command may be anything: several responses in a row, or one
that does not parse. `readsAll` says of a list of packets that `readQueryResponse` does not stop
before the last of them, in terms of the classification and the parsers of single packets. It is
what decides whether something is left unread, whatever the outcome was.
-/

namespace Ormpp

open PacketReader

/-! ## The packet at which the reader stops -/

/-- A packet after which no more rows are read: an error, the end of the rows, or no row at all. -/
def endsRows (columns : ℕ) (p : Bytes) : Bool :=
  isErrPacket p || looksLikeEofPacket p || !(parseTextRow p columns).isOk

/-- No packet but the last ends the rows. -/
def readsAllRows (columns : ℕ) : List Bytes → Bool
  | [] => true
  | p :: ps => if endsRows columns p then ps.isEmpty else readsAllRows columns ps

/-- No packet but the last is a column definition that does not parse, and what comes after the
definitions is read to its end. -/
def readsAllColumns (columns : ℕ) : ℕ → List Bytes → Bool
  | 0, ps => readsAllRows columns ps
  | _ + 1, [] => true
  | columnCount + 1, p :: ps =>
    if (parseColumnDefinition p).isOk then readsAllColumns columns columnCount ps else ps.isEmpty

/-- The first packet is the last, or it is a column count and what follows is read to its end. -/
def readsAll : List Bytes → Bool
  | [] => true
  | p :: ps =>
    if isErrPacket p || isOkPacket p then ps.isEmpty
    else
      match StateT.run' readLenencInt p with
      | .error _ => ps.isEmpty
      | .ok columnCount => readsAllColumns columnCount columnCount ps

/-! ## Reading it -/

theorem keeps_orThrow {α τ : Type} {g : MysqlAsync → τ} (r : Except Exn α) :
    Effect.Keeps g (orThrow r) := by
  cases r with
  | ok a => exact Effect.keeps_pure a
  | error e => exact Effect.keeps_throw e

/-- What an OK packet does not set. -/
theorem keeps_applyOk {τ : Type} {g : MysqlAsync → τ} (hg : ∀ s ok, g (s.withOk ok) = g s)
    (ok : OkPacket) : Effect.Keeps g (applyOk ok) :=
  Effect.keeps_modify fun s ↦ hg s ok

/-- The branch of an OK packet. -/
theorem keeps_takeOk {α τ : Type} {g : MysqlAsync → τ} (hg : ∀ s ok, g (s.withOk ok) = g s)
    (payload : Bytes) (f : OkPacket → α) :
    Effect.Keeps g (do
      let ok ← orThrow (parseOkPacket payload)
      applyOk ok
      pure (f ok) : Async α) :=
  (keeps_orThrow _).bind fun ok ↦ (keeps_applyOk hg ok).bind fun _ ↦ Effect.keeps_pure _

theorem keeps_throwServerError {α τ : Type} {g : MysqlAsync → τ} (what payload : Bytes) :
    Effect.Keeps g (throwServerError (α := α) what payload) :=
  (keeps_orThrow _).bind fun _ ↦ Effect.keeps_throw _

theorem keeps_finishRows {τ : Type} {g : MysqlAsync → τ}
    (hg : ∀ s affected, g { s with lastAffectRows := affected } = g s)
    (columns : List ColumnDefinition) (rows : List TextRow) :
    Effect.Keeps g (finishRows columns rows) := by
  rw [finishRows]
  generalize castInt rows.length = affected
  refine Effect.Keeps.bind ?_ fun _ ↦ Effect.keeps_pure _
  exact Effect.keeps_modify fun s ↦ hg s affected

/-- A failed parse ends a sequence of actions where it stands. -/
theorem orThrow_of_error {α : Type} {r : Except Exn α} {e : Exn} (h : r = .error e)
    (s : MysqlAsync) : orThrow r s = .error e s := by
  rw [h]
  rfl

theorem upTo_input_eq_nil {s : MysqlAsync} {q : Byte} {ps : List Bytes} :
    (s.upTo q ps []).input = [] ↔ ps.isEmpty = true := by
  cases ps with
  | nil => simp [MysqlAsync.upTo, wireStream]
  | cons p ps =>
    have := length_le_length_wireStream (p :: ps) q
    rw [List.length_cons] at this
    refine iff_of_false (fun h ↦ ?_) (by simp)
    change wireStream q (p :: ps) ++ [] = [] at h
    rw [List.append_nil] at h
    rw [h, List.length_nil] at this
    omega

/-- On an empty stream a packet does not arrive. -/
theorem readPacket_upTo_nil {s : MysqlAsync} (hopen : s.socketOpen = true) (q : Byte) :
    readPacket (s.upTo q [] []) = .error .endOfStream { s with input := [], sequenceId := q } := by
  have hread : readPacketLoop 1 [] (s.upTo q [] [])
      = .error .endOfStream { s with input := [], sequenceId := q } := rfl
  have hsocket : requireSocket (s.upTo q [] []) = .ok () (s.upTo q [] []) :=
    requireSocket_of_open hopen
  rw [readPacket, Effect.bind_of_ok hsocket, Effect.get_bind]
  exact hread

theorem readRowsLoop_extent {s : MysqlAsync} (hopen : s.socketOpen = true) (columns : ℕ)
    (ps : List Bytes) (q : Byte) (fuel : ℕ) (hfuel : ps.length < fuel) (acc : List TextRow) :
    (Effect.final (readRowsLoop fuel columns acc) (s.upTo q ps [])).input = [] ↔
      readsAllRows columns ps = true := by
  induction ps generalizing q fuel acc with
  | nil =>
    obtain ⟨fuel, rfl⟩ : ∃ k, fuel = k + 1 := ⟨fuel - 1, by rw [List.length_nil] at hfuel; omega⟩
    rw [readRowsLoop, Effect.final_bind_of_error (readPacket_upTo_nil hopen q)]
    simp [readsAllRows]
  | cons p ps ih =>
    obtain ⟨fuel, rfl⟩ : ∃ k, fuel = k + 1 := ⟨fuel - 1, by rw [List.length_cons] at hfuel; omega⟩
    rw [List.length_cons] at hfuel
    rw [readRowsLoop, Effect.final_bind_of_ok (readPacket_upTo hopen q p ps []), readsAllRows,
      endsRows]
    -- An error and the end of the rows stop the loop, and so does a row that cannot be parsed.
    cases herr : isErrPacket p with
    | true =>
      simp only [Bool.true_or, if_true]
      rw [keeps_throwServerError (g := MysqlAsync.input), upTo_input_eq_nil]
    | false =>
      cases heof : looksLikeEofPacket p with
      | true =>
        simp only [Bool.false_eq_true, if_false, Bool.false_or, Bool.true_or, if_true]
        rw [keeps_takeOk (g := MysqlAsync.input) (fun _ _ ↦ rfl) p fun _ ↦ acc, upTo_input_eq_nil]
      | false =>
        simp only [Bool.false_eq_true, if_false, Bool.false_or]
        cases hrow : parseTextRow p columns with
        | ok row =>
          rw [Effect.final_bind_of_ok (orThrow_of_ok rfl _)]
          exact ih (sequenceIdAfter q p) fuel (by omega) (acc ++ [row])
        | error e =>
          rw [Effect.final_bind_of_error (orThrow_of_error rfl _)]
          exact upTo_input_eq_nil

theorem readRows_extent {s : MysqlAsync} (hopen : s.socketOpen = true)
    (columns : List ColumnDefinition) (ps : List Bytes) (q : Byte) :
    (Effect.final (readRows columns) (s.upTo q ps [])).input = [] ↔
      readsAllRows columns.length ps = true := by
  have hfuel : ps.length < (s.upTo q ps []).input.length + 1 := by
    have := length_le_length_wireStream ps q
    simp only [MysqlAsync.upTo, List.append_nil]
    omega
  rw [readRows, Effect.final_get_bind,
    Effect.final_bind_of_keeps (g := MysqlAsync.input) (keeps_finishRows (fun _ _ ↦ rfl) columns)]
  exact readRowsLoop_extent hopen columns.length ps q _ hfuel []

/-- The column loop with what comes after it; `f` is the rest of the reading, given the columns. -/
theorem readColumns_extent {s : MysqlAsync} (hopen : s.socketOpen = true) (total columnCount : ℕ)
    (ps : List Bytes) (q : Byte) (f : List ColumnDefinition → Async QueryResult)
    (hf : ∀ columns, columns.length = columnCount → ∀ ps q,
      (Effect.final (f columns) (s.upTo q ps [])).input = [] ↔ readsAllRows total ps = true) :
    (Effect.final (readColumns columnCount >>= f) (s.upTo q ps [])).input = [] ↔
      readsAllColumns total columnCount ps = true := by
  induction columnCount generalizing ps q f with
  | zero => exact hf [] rfl ps q
  | succ columnCount ih =>
    rw [readColumns, bind_assoc]
    cases ps with
    | nil =>
      rw [Effect.final_bind_of_error (readPacket_upTo_nil hopen q)]
      simp [readsAllColumns]
    | cons p ps =>
      rw [Effect.final_bind_of_ok (readPacket_upTo hopen q p ps []), bind_assoc, readsAllColumns]
      cases hcolumn : parseColumnDefinition p with
      | error e =>
        rw [Effect.final_bind_of_error (orThrow_of_error rfl _)]
        exact upTo_input_eq_nil
      -- What comes after the loop is given the column that has been read.
      | ok column =>
        rw [Effect.final_bind_of_ok (orThrow_of_ok rfl _), bind_assoc]
        simp only [pure_bind]
        refine ih ps _ (fun columns ↦ f (column :: columns)) fun columns hlen ↦ hf _ ?_
        rw [List.length_cons, hlen]

/-- **The extent of a response.** Nothing of an answer is left unread exactly when the reader does
not stop before its last packet. -/
theorem readQueryResponse_extent {s : MysqlAsync} (hopen : s.socketOpen = true) (q : Byte)
    (ps : List Bytes) :
    (Effect.final readQueryResponse (s.upTo q ps [])).input = [] ↔ readsAll ps = true := by
  rw [readQueryResponse]
  cases ps with
  | nil =>
    rw [Effect.final_bind_of_error (readPacket_upTo_nil hopen q)]
    simp [readsAll]
  | cons p ps =>
    rw [Effect.final_bind_of_ok (readPacket_upTo hopen q p ps []), readsAll]
    cases herr : isErrPacket p with
    | true =>
      simp only [Bool.true_or, if_true]
      rw [keeps_throwServerError (g := MysqlAsync.input), upTo_input_eq_nil]
    | false =>
      cases hok : isOkPacket p with
      | true =>
        simp only [Bool.false_eq_true, if_false, Bool.or_true, if_true]
        rw [keeps_takeOk (g := MysqlAsync.input) (fun _ _ ↦ rfl) p
          fun ok ↦ ({ ok } : QueryResult),
          upTo_input_eq_nil]
      | false =>
        simp only [Bool.false_eq_true, if_false, Bool.or_false]
        cases hcount : StateT.run' readLenencInt p with
        | error e =>
          rw [Effect.final_bind_of_error (orThrow_of_error rfl _)]
          exact upTo_input_eq_nil
        | ok columnCount =>
          rw [Effect.final_bind_of_ok (orThrow_of_ok rfl _)]
          apply readColumns_extent hopen columnCount columnCount ps _ readRows
          intro columns hlen ps q
          rw [readRows_extent hopen, hlen]

end Ormpp
