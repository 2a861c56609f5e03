import Ormpp.Wire.Robustness
import Ormpp.Wire.Server

/-!
# Length-encoded integers and rows

A length-encoded integer has four forms, the first of which is the byte itself as long as that is
none of those that begin something else. The writer takes the shortest one. The two sides are
written by hand, the one with shifts and masks over machine integers and the other over memory; a
value goes from the one to the other and leaves what stands behind it.
-/

namespace Ormpp

open PacketReader

/-! ## The four forms -/

inductive LenencForm
  | one
  | two
  | three
  | eight

namespace LenencForm

/-- The numbers that a form can hold. -/
def bound : LenencForm → ℕ
  | one => 0xfb
  | two => 2 ^ 16
  | three => 2 ^ 24
  | eight => 2 ^ 64

def bytes (n : ℕ) : LenencForm → Bytes
  | one => leBytes 1 n
  | two => 0xfc :: leBytes 2 n
  | three => 0xfd :: leBytes 3 n
  | eight => 0xfe :: leBytes 8 n

/-- The shortest form that can hold a number. -/
def shortest (n : ℕ) : LenencForm :=
  if n < bound one then one else if n < bound two then two else if n < bound three then three
  else eight

theorem lt_bound_shortest {n : ℕ} (h : n < bound eight) : n < bound (shortest n) := by
  rw [shortest]
  split_ifs with h1 h2 h3
  · exact h1
  · exact h2
  · exact h3
  · exact h

theorem length_shortest_le {n : ℕ} {form : LenencForm} (h : n < form.bound) :
    ((shortest n).bytes n).length ≤ (form.bytes n).length := by
  have hlength : ∀ form : LenencForm, (form.bytes n).length
      = match form with
        | one => 1
        | two => 3
        | three => 4
        | eight => 9 := by
    rintro (_ | _ | _ | _) <;> rfl
  have hbounds : bound one ≤ bound two ∧ bound two ≤ bound three := by decide
  rw [hlength, hlength, shortest]
  split_ifs with h1 h2 h3
  · rcases form with _ | _ | _ | _ <;> decide
  · rcases form with _ | _ | _ | _
    · exact absurd h h1
    all_goals decide
  · rcases form with _ | _ | _ | _
    · exact absurd h h1
    · exact absurd h h2
    all_goals decide
  · rcases form with _ | _ | _ | _
    · exact absurd h h1
    · exact absurd h h2
    · exact absurd h h3
    · decide

end LenencForm

/-- The bytes are those of the shortest form that can hold the number. -/
def IsShortest (n : ℕ) (encoding : Bytes) : Prop :=
  ∃ form : LenencForm, n < form.bound ∧ encoding = form.bytes n ∧
    ∀ form' : LenencForm, n < form'.bound → encoding.length ≤ (form'.bytes n).length

theorem isShortest_shortest {n : ℕ} (h : n < LenencForm.bound .eight) :
    IsShortest n ((LenencForm.shortest n).bytes n) :=
  ⟨LenencForm.shortest n, LenencForm.lt_bound_shortest h, rfl,
    fun _ h' ↦ LenencForm.length_shortest_le h'⟩

/-- The cascade of the writer compares with the largest number of a form, and not with the bound. -/
theorem appendLenencInt_eq_shortest (n : ℕ) :
    appendLenencInt n = (LenencForm.shortest n).bytes n := by
  have htwo : n ≤ 0xffff ↔ n < LenencForm.bound .two := Nat.lt_succ_iff.symm
  have hthree : n ≤ 0xffffff ↔ n < LenencForm.bound .three := Nat.lt_succ_iff.symm
  rw [appendLenencInt, LenencForm.shortest, LenencForm.bound]
  simp only [htwo, hthree]
  split_ifs with h1 h2 h3
  · rw [LenencForm.bytes, leBytes, leBytes, Nat.mod_eq_of_lt (Nat.lt_trans h1 (by decide))]
  · rfl
  · rfl
  · rfl

/-! ## The writers over machine integers -/

namespace PacketCursor

/-- `append_lenenc_int`. -/
def appendLenencInt (value : UInt64) : Bytes :=
  if value < 0xfb then [value.toUInt8]
  else if value ≤ 0xffff then 0xfc :: appendLe16 value.toUInt16
  else if value ≤ 0xffffff then 0xfd :: appendLe24 value.toUInt32
  else 0xfe :: appendLe64 value

/-- `append_lenenc_string`. -/
def appendLenencString (value : WireString) : Bytes :=
  appendLenencInt (UInt64.ofNat value.bytes.length) ++ value.bytes

/-- A row of optional strings on the wire. -/
def appendRow (row : WireRow) : Bytes :=
  row.flatMap fun value ↦
    match value with
    | none => [0xfb]
    | some value => appendLenencString value

theorem appendLenencInt_eq (value : UInt64) :
    appendLenencInt value = Ormpp.appendLenencInt value.toNat := by
  have h1 : value < 0xfb ↔ value.toNat < 0xfb := UInt64.lt_iff_toNat_lt
  have h2 : value ≤ 0xffff ↔ value.toNat ≤ 0xffff := UInt64.le_iff_toNat_le
  have h3 : value ≤ 0xffffff ↔ value.toNat ≤ 0xffffff := UInt64.le_iff_toNat_le
  rw [appendLenencInt, Ormpp.appendLenencInt]
  simp only [h1, h2, h3]
  split_ifs with hone htwo hthree
  · have hbyte : value.toUInt8 = UInt8.ofNat value.toNat := rfl
    rw [hbyte]
  · have hlow : value.toUInt16.toNat = value.toNat := by
      rw [UInt64.toNat_toUInt16]
      exact Nat.mod_eq_of_lt (Nat.lt_succ_of_le htwo)
    rw [appendLe16_eq, hlow]
  · have hlow : value.toUInt32.toNat = value.toNat := by
      rw [UInt64.toNat_toUInt32]
      exact Nat.mod_eq_of_lt (Nat.lt_of_le_of_lt hthree (by decide))
    rw [appendLe24_eq, hlow]
  · rw [appendLe64_eq]

theorem appendLenencString_eq (value : WireString) :
    appendLenencString value = Ormpp.appendLenencString value.bytes := by
  have hlength : (UInt64.ofNat value.bytes.length).toNat = value.bytes.length :=
    UInt64.toNat_ofNat_of_lt' value.length_lt
  rw [appendLenencString, appendLenencInt_eq, hlength]
  rfl

theorem appendRow_eq (row : WireRow) : appendRow row = row.packet := by
  rw [appendRow, WireRow.packet, WireRow.toText, List.flatMap_map]
  congr 1
  funext value
  obtain _ | value := value
  · rfl
  · exact appendLenencString_eq value

/-! ## Round trips -/

/-- What the writers write, the readers read back. -/
structure RoundTrips : Prop where
  lenencInt : ∀ (n : UInt64) (suffix : Bytes) (beyond : ℕ → Byte),
    ∃ c, readLenencInt ⟨appendLenencInt n ++ suffix, beyond⟩ {} = .ok n.toNat c ∧
      c.cur = (appendLenencInt n).length ∧ (appendLenencInt n ++ suffix).drop c.cur = suffix
  textRow : ∀ (row : WireRow) (beyond : ℕ → Byte) (maxSize : ℕ), row.length ≤ maxSize →
    ∃ c, parseTextRow ⟨appendRow row, beyond⟩ maxSize row.length {} = .ok row.toText c
  shortest : ∀ n : UInt64, IsShortest n.toNat (appendLenencInt n)

theorem readLenencInt_appendLenencInt (n : UInt64) (suffix : Bytes) (beyond : ℕ → Byte) :
    ∃ c, readLenencInt ⟨appendLenencInt n ++ suffix, beyond⟩ {} = .ok n.toNat c ∧
      c.cur = (appendLenencInt n).length ∧ (appendLenencInt n ++ suffix).drop c.cur = suffix := by
  rw [appendLenencInt_eq]
  have hdecoder := PacketReader.decodes_readLenencInt n.toNat_lt suffix
  obtain ⟨c, hread, hreach, hdrop⟩ :=
    (follows_readLenencInt (m := ⟨_, beyond⟩)).exists_ok (Cursor.within_start _) hdecoder
  have hcur : c.cur ≤ (Ormpp.appendLenencInt n.toNat ++ suffix).length := hreach.within.cur
  have hrest := congrArg List.length hdrop
  rw [List.length_append] at hcur
  rw [List.length_drop, List.length_append] at hrest
  exact ⟨c, hread, by omega, hdrop⟩

theorem parseTextRow_appendRow (row : WireRow) (beyond : ℕ → Byte) {maxSize : ℕ}
    (h : row.length ≤ maxSize) :
    ∃ c, parseTextRow ⟨appendRow row, beyond⟩ maxSize row.length {} = .ok row.toText c := by
  rw [appendRow_eq, parseTextRow_of_le h]
  have hdecoder := row.decodes.run_self
  obtain ⟨c, hread, -, -⟩ := (follows_readColumns (m := ⟨row.packet, beyond⟩) row.length).exists_ok
    (Cursor.within_start _) hdecoder
  exact ⟨c, hread⟩

/-- **Length encoding.** Integers and rows go through the wire unchanged, and an integer takes no
more bytes than it must. -/
theorem roundTrips : RoundTrips where
  lenencInt := readLenencInt_appendLenencInt
  textRow := fun row beyond _ h ↦ parseTextRow_appendRow row beyond h
  shortest := by
    intro n
    rw [appendLenencInt_eq, appendLenencInt_eq_shortest]
    exact isShortest_shortest n.toNat_lt

end PacketCursor

end Ormpp
