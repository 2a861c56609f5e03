import Ormpp.Wire.Extent

/-!
# Answers

What a server sends in answer to one command: a response for each statement of the command's text,
all but the last marked by a status flag. An answer is read to its end exactly when it is a single
response, as long as the reader can tell where each response ends.
-/

namespace Ormpp

open PacketReader Decoder

/-! ## Responses -/

/-- The fields of an error packet. -/
structure ErrorFields where
  code : UInt16 := 0
  sqlState : Bytes := ascii "HY000"
  message : Bytes := []

def ErrorFields.packet (err : ErrorFields) : Bytes :=
  0xff :: (leBytes 2 err.code.toNat ++ 0x23 :: (err.sqlState ++ err.message))

/-- The response to one statement. -/
inductive Reply
  | ok (fields : OkFields)
  | error (err : ErrorFields)
  | resultSet (rs : ResultSet) (fin : OkFields)
  /-- A result set that fails on the way; `mid` fills in the EOF packet after the definitions. -/
  | failedResultSet (rs : ResultSet) (mid : OkFields) (err : ErrorFields)

namespace Reply

def packets (capabilities : UInt32) : Reply → List Bytes
  | .ok fields => [fields.packet 0x00]
  | .error err => [err.packet]
  | .resultSet rs fin => rs.packets capabilities (fin.packet 0xfe) fin.eofPacket
  | .failedResultSet rs mid err =>
    if deprecatesEof capabilities then rs.headPackets ++ (rs.rowPackets ++ [err.packet])
    else rs.headPackets ++ (mid.eofPacket :: (rs.rowPackets ++ [err.packet]))

/-- `SERVER_MORE_RESULTS_EXISTS`. -/
def serverMoreResultsExists : UInt16 := 0x0008

/-- Whether another response follows. -/
def moreResults : Reply → Bool
  | .ok fields => fields.statusFlags &&& serverMoreResultsExists != 0
  | .resultSet _ fin => fin.statusFlags &&& serverMoreResultsExists != 0
  | .error _ | .failedResultSet _ _ _ => false

/-- The reader can tell where the response ends. -/
def Delimited (capabilities : UInt32) : Reply → Prop
  | .ok _ | .error _ => True
  | .resultSet _ fin => deprecatesEof capabilities = true ∧ (fin.packet 0xfe).length < 9
  | .failedResultSet _ _ _ => deprecatesEof capabilities = true

theorem packets_ne_nil (capabilities : UInt32) (r : Reply) : r.packets capabilities ≠ [] := by
  cases r with
  | ok | error => exact List.cons_ne_nil _ _
  | resultSet | failedResultSet =>
    rw [packets]
    try rw [ResultSet.packets]
    split <;> exact List.cons_ne_nil _ _

end Reply

/-! ## Reading to the end -/

theorem readsAllColumns_packets (total : ℕ) (columns : List ColumnSpec) (ps : List Bytes) :
    readsAllColumns total columns.length (columns.map ColumnSpec.packet ++ ps)
      = readsAllRows total ps := by
  induction columns with
  | nil => rfl
  | cons c columns ih =>
    obtain ⟨column, hcolumn⟩ := exists_parseColumnDefinition c
    rw [List.length_cons, List.map_cons, List.cons_append, readsAllColumns, hcolumn]
    exact ih

theorem readsAllRows_packets {columns : ℕ} (hcolumns : columns ≠ 0) (rows : List WireRow)
    (hrows : ∀ row ∈ rows, row.length = columns) (ps : List Bytes) :
    readsAllRows columns (rows.map WireRow.packet ++ ps) = readsAllRows columns ps := by
  induction rows with
  | nil => rfl
  | cons row rows ih =>
    obtain ⟨hrow, hrows⟩ := List.forall_mem_cons.mp hrows
    have hne : row ≠ [] := by
      rintro rfl
      exact hcolumns hrow.symm
    obtain ⟨herr, heof⟩ := row_packet_distinct hne
    have hends : endsRows columns row.packet = false := by
      rw [endsRows, herr, heof, ← hrow, parseTextRow_packet]
      rfl
    rw [List.map_cons, List.cons_append, readsAllRows, hends]
    exact ih hrows

/-- The reader gets past the head and the rows of a result set. -/
theorem readsAll_resultSet (rs : ResultSet) (ps : List Bytes) :
    readsAll (rs.headPackets ++ (rs.rowPackets ++ ps)) = readsAllRows rs.columns.length ps := by
  have hpos : 0 < rs.columns.length := List.length_pos_iff.mpr rs.columns_ne_nil
  obtain ⟨b, bs, heq, -, hff, -⟩ := exists_appendLenencInt_eq rs.columns_length_lt []
  have herr : isErrPacket (appendLenencInt rs.columns.length) = false :=
    isErrPacket_of_head (by rw [heq, List.head?_cons]) hff
  have hparse : StateT.run' readLenencInt (appendLenencInt rs.columns.length)
      = .ok rs.columns.length := by
    rw [StateT.run'_eq, (decodes_readLenencInt rs.columns_length_lt).run_self]
    rfl
  rw [ResultSet.headPackets, List.cons_append, readsAll, herr, isOkPacket_appendLenencInt hpos,
    hparse]
  simp only [Bool.or_self, Bool.false_eq_true, if_false]
  rw [readsAllColumns_packets, ResultSet.rowPackets,
    readsAllRows_packets (by omega) rs.rows rs.row_length]

theorem isErrPacket_packet (err : ErrorFields) : isErrPacket err.packet = true := rfl

/-- The reader gets to the end of a response and no further. -/
theorem readsAll_reply {capabilities : UInt32} {r : Reply} (h : r.Delimited capabilities)
    (ps : List Bytes) : readsAll (r.packets capabilities ++ ps) = ps.isEmpty := by
  cases r with
  | ok fields => rfl
  | error err => rfl
  | resultSet rs fin =>
    obtain ⟨hcaps, hshort⟩ := h
    have heof := (looksLikeEofPacket_iff (p := fin.packet 0xfe) rfl).mpr hshort
    rw [Reply.packets, ResultSet.packets, if_pos hcaps, List.append_assoc, List.append_assoc,
      readsAll_resultSet, List.cons_append, readsAllRows, endsRows, heof]
    simp
  | failedResultSet rs mid err =>
    have hcaps : deprecatesEof capabilities = true := h
    rw [Reply.packets, if_pos hcaps, List.append_assoc, List.append_assoc, readsAll_resultSet,
      List.cons_append, readsAllRows, endsRows, isErrPacket_packet]
    simp

/-! ## Answers -/

/-- The responses to the statements of one command. All but the last announce another. -/
structure Answer where
  leading : List Reply
  last : Reply
  leading_more : ∀ r ∈ leading, r.moreResults = true
  last_more : last.moreResults = false

namespace Answer

def replies (answer : Answer) : List Reply := answer.leading ++ [answer.last]

def packets (capabilities : UInt32) (answer : Answer) : List Bytes :=
  answer.replies.flatMap (Reply.packets capabilities)

/-- The answer to a single statement. -/
def single (r : Reply) (h : r.moreResults = false) : Answer where
  leading := []
  last := r
  leading_more := by simp
  last_more := h

theorem leading_eq_nil_iff (answer : Answer) :
    answer.leading = [] ↔ ∀ r ∈ answer.replies, r.moreResults = false := by
  constructor
  · intro hnil r hr
    rw [replies, hnil, List.nil_append, List.mem_singleton] at hr
    rw [hr, answer.last_more]
  · intro h
    rw [List.eq_nil_iff_forall_not_mem]
    intro r hr
    have hmore := answer.leading_more r hr
    rw [h r (List.mem_append_left _ hr)] at hmore
    cases hmore

/-- **Answers read to their end.** Nothing of an answer is left unread exactly when it is a single
response. -/
theorem readsAll_packets {capabilities : UInt32} {answer : Answer}
    (h : ∀ r ∈ answer.replies, r.Delimited capabilities) :
    readsAll (answer.packets capabilities) = true ↔
      ∀ r ∈ answer.replies, r.moreResults = false := by
  rw [← leading_eq_nil_iff, packets]
  rw [replies] at h ⊢
  generalize answer.leading = leading at h ⊢
  cases leading with
  | nil =>
    have hlast := readsAll_reply (h answer.last (by simp)) []
    rw [List.append_nil] at hlast
    simpa using hlast
  | cons r rs =>
    have hr := readsAll_reply (h r (by simp))
      ((rs ++ [answer.last]).flatMap (Reply.packets capabilities))
    have hne := answer.last.packets_ne_nil capabilities
    rw [List.cons_append, List.flatMap_cons, hr, List.flatMap_append]
    simp [hne]

end Answer

end Ormpp
