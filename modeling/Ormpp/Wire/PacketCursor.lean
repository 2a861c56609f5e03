import Ormpp.Data.Memory
import Ormpp.Wire.Handshake
import Ormpp.Wire.LittleEndian

/-!
# The cursor of a packet

`packet_reader` as the code has it: three pointers into a payload, and reads of memory behind a
check of what remains. The difference of the two pointers is a `std::size_t`, so that a cursor past
the end would leave very much to read. Every reader here follows the decoder of the same name.
-/

namespace Ormpp

/-- What the parsers of a payload can throw. -/
inductive ReaderExn
  /-- `make_protocol_error`. -/
  | protocolError (msg : Bytes)
  /-- The `std::length_error` of a container that cannot have so many elements. -/
  | lengthError
  deriving DecidableEq

namespace ReaderExn

/-- The exception of the decoders. -/
def toExn : ReaderExn → Option Exn
  | protocolError msg => some (makeProtocolError msg)
  | lengthError => none

theorem exists_of_toExn_eq_some {e : ReaderExn} {e' : Exn} (h : e.toExn = some e') :
    ∃ msg, e = protocolError msg := by
  obtain msg | _ := e
  · exact ⟨msg, rfl⟩
  · exact absurd h nofun

end ReaderExn

namespace PacketCursor

open CursorReader

/-- A reader of a payload. -/
abbrev Reader (α : Type) := CursorReader ReaderExn α

variable (m : Memory Byte)

/-! ## The members of `packet_reader` -/

/-- `remaining`. -/
def remaining : Reader ℕ := fun c ↦
  .ok (if c.cur ≤ m.content.length then m.content.length - c.cur
    else 2 ^ 64 - (c.cur - m.content.length)) c

/-- `empty`. -/
def empty : Reader Bool := fun c ↦ .ok (c.cur == m.content.length) c

/-- `require`. -/
def require (size : ℕ) : Reader Unit := do
  let left ← remaining m
  if left < size then throw (.protocolError (ascii "truncated packet")) else pure ()

/-- `read_byte`. -/
def readByte : Reader Byte := do
  require m 1
  let b ← loadAt m 0
  advance 1
  pure b

/-- `read_u16`. -/
def readU16 : Reader ℕ := do
  require m 2
  let data ← loads m 2
  advance 2
  pure (readLe16 data).toNat

/-- `read_u24`. -/
def readU24 : Reader ℕ := do
  require m 3
  let data ← loads m 3
  advance 3
  pure (readLe24 data).toNat

/-- `read_u32`. -/
def readU32 : Reader ℕ := do
  require m 4
  let data ← loads m 4
  advance 4
  pure (readLe32 data).toNat

/-- `read_u64`. -/
def readU64 : Reader ℕ := do
  require m 8
  let data ← loads m 8
  advance 8
  pure (readLe64 data).toNat

/-- `skip`. -/
def skip (size : ℕ) : Reader Unit := do
  require m size
  advance size

/-- `read_string`. -/
def readString (size : ℕ) : Reader Bytes := do
  require m size
  let out ← loads m size
  advance size
  pure out

/-- The loop of `std::find(cur, last, 0)`, with what is left to look at and how far it has come. -/
def findNul : ℕ → ℕ → Reader ℕ
  | 0, pos => pure pos
  | left + 1, pos => do
    let b ← loadAt m pos
    if b = 0 then pure pos else findNul left (pos + 1)

/-- `read_null_terminated_string`. -/
def readNullTerminatedString : Reader Bytes := do
  let left ← remaining m
  let pos ← findNul m left 0
  if pos = left then throw (.protocolError (ascii "missing null terminator"))
  else do
    let out ← loads m pos
    advance (pos + 1)
    pure out

/-- The length that a first byte announces. -/
def readLenencLength (firstByte : Byte) (invalid : Bytes) : Reader ℕ :=
  if firstByte < 0xfb then pure firstByte.toNat
  else if firstByte = 0xfc then readU16 m
  else if firstByte = 0xfd then readU24 m
  else if firstByte = 0xfe then readU64 m
  else throw (.protocolError invalid)

/-- `read_lenenc_int`. -/
def readLenencInt : Reader ℕ := do
  let firstByte ← readByte m
  readLenencLength m firstByte (ascii "invalid lenenc integer")

/-- The rest of a length-encoded string, once its length is known. -/
def readLenencBody (len : ℕ) : Reader Bytes := do
  let left ← remaining m
  if len > left then throw (.protocolError (ascii "lenenc string overflow"))
  else readString m len

/-- `read_lenenc_string_optional`. -/
def readLenencStringOptional : Reader (Option Bytes) := do
  let firstByte ← readByte m
  if firstByte = 0xfb then pure none
  else do
    let len ← readLenencLength m firstByte (ascii "invalid lenenc string")
    some <$> readLenencBody m len

/-- `read_lenenc_string`. -/
def readLenencString : Reader Bytes := (fun value ↦ value.getD []) <$> readLenencStringOptional m

/-! ## Following the decoders -/

variable {m}

theorem remaining_of_within {c : Cursor} (hc : c.Within m) :
    remaining m c = .ok (m.content.drop c.cur).length c := by
  rw [remaining, if_pos hc.cur, List.length_drop]

theorem require_of_le {c : Cursor} (hc : c.Within m) {size : ℕ}
    (h : c.cur + size ≤ m.content.length) : require m size c = .ok () c := by
  have hleft : ¬(m.content.drop c.cur).length < size := by
    rw [List.length_drop]
    omega
  rw [require, Effect.bind_of_ok (remaining_of_within hc), if_neg hleft]
  rfl

theorem require_of_lt {c : Cursor} (hc : c.Within m) {size : ℕ}
    (h : m.content.length < c.cur + size) :
    require m size c = .error (.protocolError (ascii "truncated packet")) c := by
  have hleft : (m.content.drop c.cur).length < size := by
    have hcur := hc.cur
    rw [List.length_drop]
    omega
  rw [require, Effect.bind_of_ok (remaining_of_within hc), if_pos hleft]
  rfl

/-- A read of so many bytes behind a check, whatever is made of them. -/
theorem follows_read {α : Type} {size : ℕ} {x : Reader α} {g : Bytes → α}
    (hx : ∀ c : Cursor, c.Within m → c.cur + size ≤ m.content.length →
      ∃ c', x c = .ok (g ((m.content.drop c.cur).take size)) c' ∧ c.Reaches m c' ∧
        c'.cur = c.cur + size) :
    Follows m ReaderExn.toExn (do require m size; x) (g <$> PacketReader.readString size) := by
  intro c hc
  by_cases h : c.cur + size ≤ m.content.length
  · obtain ⟨c', hread, hreach, hcur⟩ := hx c hc h
    have hlength : size ≤ (m.content.drop c.cur).length := by
      rw [List.length_drop]
      omega
    rw [Effect.bind_of_ok (require_of_le hc h), hread, StateT.run_map,
      PacketReader.readString_of_le hlength]
    have hdrop : (m.content.drop c.cur).drop size = m.content.drop c'.cur := by
      rw [List.drop_drop, hcur]
    change Agree m _ c _ (.ok (_, (m.content.drop c.cur).drop size))
    rw [hdrop]
    exact .ok hreach
  · have hlt : m.content.length < c.cur + size := Nat.lt_of_not_le h
    have hshort : (m.content.drop c.cur).length < size := by
      have hcur := hc.cur
      rw [List.length_drop]
      omega
    have hdecoder : (PacketReader.readString size).run (m.content.drop c.cur)
        = .error (makeProtocolError (ascii "truncated packet")) := if_pos hshort
    rw [Effect.bind_of_error (require_of_lt hc hlt), StateT.run_map, hdecoder]
    exact .error hc.reaches rfl

/-- The bytes are copied, and the cursor moves behind them. -/
theorem follows_loads {α : Type} {size : ℕ} {g g' : Bytes → α}
    (h : ∀ data : Bytes, data.length = size → g data = g' data) :
    Follows m ReaderExn.toExn
      (do
        require m size
        let data ← loads m size
        advance size
        pure (g data))
      (g' <$> PacketReader.readString size) := by
  apply follows_read
  intro c hc hsize
  have hlength : ((m.content.drop c.cur).take size).length = size := by
    rw [List.length_take, List.length_drop]
    omega
  refine ⟨past c size, ?_, reaches_past hc hsize, rfl⟩
  rw [loads_advance, map_load_range hsize, h _ hlength]

theorem follows_readString (size : ℕ) :
    Follows m ReaderExn.toExn (readString m size) (PacketReader.readString size) := by
  have hread : Follows m ReaderExn.toExn (readString m size)
      (id <$> PacketReader.readString size) := follows_loads fun data _ ↦ rfl
  rwa [id_map] at hread

theorem follows_readU16 : Follows m ReaderExn.toExn (readU16 m) PacketReader.readU16 :=
  follows_loads fun _ h ↦ toNat_readLe16 h

theorem follows_readU24 : Follows m ReaderExn.toExn (readU24 m) PacketReader.readU24 :=
  follows_loads fun _ h ↦ toNat_readLe24 h

theorem follows_readU32 : Follows m ReaderExn.toExn (readU32 m) PacketReader.readU32 :=
  follows_loads fun _ h ↦ toNat_readLe32 h

theorem follows_readU64 : Follows m ReaderExn.toExn (readU64 m) PacketReader.readU64 :=
  follows_loads fun _ h ↦ toNat_readLe64 h

theorem follows_skip (size : ℕ) :
    Follows m ReaderExn.toExn (skip m size) (PacketReader.skip size) := by
  apply follows_read
  intro c hc hsize
  exact ⟨_, rfl, reaches_advance hc hsize, rfl⟩

theorem load_eq_headD {i : ℕ} (h : i < m.content.length) :
    m.load i = ((m.content.drop i).take 1).headD 0 := by
  rw [Memory.load_of_lt h, List.drop_eq_getElem_cons h]
  rfl

theorem follows_readByte : Follows m ReaderExn.toExn (readByte m) PacketReader.readByte := by
  apply follows_read
  intro c hc hsize
  have hload := reaches_loadAt hc (i := 0) hsize
  refine ⟨_, ?_, hload.trans (reaches_advance hload.within hsize), rfl⟩
  rw [← load_eq_headD hsize]
  rfl

/-! ## Strings up to a zero -/

/-- The loop stops at the first zero, or at the end, and looks at nothing behind either. -/
theorem exists_findNul {c : Cursor} (hc : c.Within m) {left pos : ℕ}
    (h : c.cur + pos + left = m.content.length) :
    ∃ c', findNul m left pos c = .ok (pos + ((m.content.drop (c.cur + pos)).takeWhile
      fun b ↦ b != 0).length) c' ∧ c.Reaches m c' ∧ c'.cur = c.cur := by
  induction left generalizing c pos with
  | zero =>
    have hnil : m.content.drop (c.cur + pos) = [] := List.drop_eq_nil_of_le (by omega)
    rw [hnil]
    exact ⟨c, rfl, hc.reaches, rfl⟩
  | succ left ih =>
    have hlt : c.cur + pos < m.content.length := by omega
    have hload := reaches_loadAt hc hlt
    rw [List.drop_eq_getElem_cons hlt, findNul]
    by_cases hzero : m.content[c.cur + pos] = 0
    · refine ⟨_, ?_, hload, rfl⟩
      rw [Effect.bind_of_ok (loadAt_eq m pos c), Memory.load_of_lt hlt, if_pos hzero, hzero]
      rfl
    · have hnext : c.cur + (pos + 1) + left = m.content.length := by omega
      obtain ⟨c', hfind, hreach, hcur⟩ := ih hload.within hnext
      refine ⟨c', ?_, hload.trans hreach, hcur⟩
      have hcons : (m.content[c.cur + pos] :: m.content.drop (c.cur + pos + 1)).takeWhile
          (fun b ↦ b != 0) = m.content[c.cur + pos] :: (m.content.drop (c.cur + pos + 1)).takeWhile
            fun b ↦ b != 0 := List.takeWhile_cons_of_pos (bne_iff_ne.mpr hzero)
      rw [Effect.bind_of_ok (loadAt_eq m pos c), Memory.load_of_lt hlt, if_neg hzero, hfind, hcons,
        List.length_cons, add_assoc pos 1, add_comm 1]
      rfl

theorem follows_readNullTerminatedString :
    Follows m ReaderExn.toExn (readNullTerminatedString m) Ormpp.readNullTerminatedString := by
  intro c hc
  have hsum : c.cur + 0 + (m.content.drop c.cur).length = m.content.length := by
    have hcur := hc.cur
    rw [List.length_drop]
    omega
  obtain ⟨c', hfind, hreach, hcur⟩ := exists_findNul hc hsum
  rw [add_zero, zero_add] at hfind
  rw [readNullTerminatedString, Effect.bind_of_ok (remaining_of_within hc),
    Effect.bind_of_ok hfind, Ormpp.readNullTerminatedString, Decoder.run_get_bind]
  generalize htext : (m.content.drop c.cur).takeWhile (fun b ↦ b != 0) = text
  have hprefix : text <+: m.content.drop c.cur := htext ▸ List.takeWhile_prefix _
  by_cases hlong : text.length = (m.content.drop c.cur).length
  · rw [if_pos hlong, if_pos hlong]
    exact .error hreach rfl
  · have hle := hprefix.length_le
    have hsize : c'.cur + (text.length + 1) ≤ m.content.length := by
      have hcur' := hc.cur
      rw [List.length_drop] at hlong hle
      omega
    have htake : (m.content.drop c'.cur).take text.length = text := by
      rw [hcur]
      exact (List.prefix_iff_eq_take.mp hprefix).symm
    have hcopy := reaches_loads hreach.within (k := text.length) (by omega)
    have hmove := reaches_advance hcopy.within hsize
    have hskip : (PacketReader.skip (text.length + 1)).run (m.content.drop c.cur)
        = .ok ((), m.content.drop (c'.cur + (text.length + 1))) := by
      have hlength : text.length + 1 ≤ (m.content.drop c.cur).length := by omega
      have hdrop : (m.content.drop c.cur).drop (text.length + 1)
          = m.content.drop (c.cur + (text.length + 1)) := List.drop_drop
      rw [PacketReader.skip, StateT.run_map, PacketReader.readString_of_le hlength, hcur, hdrop]
      rfl
    rw [if_neg hlong, if_neg hlong, Decoder.run_bind_ok hskip]
    change Agree m ReaderExn.toExn c
      (.ok ((List.range text.length).map fun i ↦ m.load (c'.cur + i)) _) _
    rw [map_load_range (by omega), htake]
    exact .ok (hreach.trans (hcopy.trans hmove))

/-! ## Length-encoded reads -/

/-- What remains is asked for where the decoder looks at what is left. -/
theorem follows_remaining_bind {α : Type} {x : ℕ → Reader α} {d : Bytes → PacketReader α}
    (h : ∀ rest : Bytes, Follows m ReaderExn.toExn (x rest.length) (d rest)) :
    Follows m ReaderExn.toExn (remaining m >>= x) (get >>= d) := by
  intro c hc
  rw [Effect.bind_of_ok (remaining_of_within hc)]
  exact h (m.content.drop c.cur) c hc

theorem follows_readLenencLength (firstByte : Byte) (invalid : Bytes) :
    Follows m ReaderExn.toExn (readLenencLength m firstByte invalid)
      (PacketReader.readLenencLength firstByte invalid) :=
  .ite (.pure _) (.ite follows_readU16 (.ite follows_readU24 (.ite follows_readU64 (.throw rfl))))

theorem follows_readLenencInt :
    Follows m ReaderExn.toExn (readLenencInt m) PacketReader.readLenencInt :=
  follows_readByte.bind fun firstByte ↦ follows_readLenencLength firstByte _

theorem follows_readLenencBody (len : ℕ) :
    Follows m ReaderExn.toExn (readLenencBody m len) (PacketReader.readLenencBody len) :=
  follows_remaining_bind fun _ ↦ .ite (.throw rfl) (follows_readString len)

theorem follows_readLenencStringOptional :
    Follows m ReaderExn.toExn (readLenencStringOptional m)
      PacketReader.readLenencStringOptional := by
  refine follows_readByte.bind fun firstByte ↦ .ite (.pure none) ?_
  exact (follows_readLenencLength firstByte _).bind fun len ↦ (follows_readLenencBody len).map some

theorem follows_readLenencString :
    Follows m ReaderExn.toExn (readLenencString m) PacketReader.readLenencString :=
  follows_readLenencStringOptional.map _

/-! ## The cursor goes on -/

theorem cur_readByte {c c' : Cursor} {b : Byte} (hc : c.Within m)
    (h : readByte m c = .ok b c') : c'.cur = c.cur + 1 := by
  obtain ⟨_, t, hrequire, hread⟩ := Effect.bind_eq_ok h
  have hsize : c.cur + 1 ≤ m.content.length := by
    by_contra hlt
    exact absurd ((require_of_lt hc (Nat.lt_of_not_le hlt)).symm.trans hrequire) nofun
  rw [require_of_le hc hsize] at hrequire
  cases hrequire
  cases hread
  rfl

/-- A value takes at least its first byte. -/
theorem lt_of_readLenencStringOptional {c c' : Cursor} {value : Option Bytes} (hc : c.Within m)
    (h : readLenencStringOptional m c = .ok value c') : c.cur < c'.cur := by
  obtain ⟨firstByte, t, hbyte, hrest⟩ := Effect.bind_eq_ok h
  have ht : t.Within m := (follows_readByte.of_ok hc hbyte).1.within
  have hcur : t.cur = c.cur + 1 := cur_readByte hc hbyte
  have hle : t.cur ≤ c'.cur := by
    have hfollows : Follows m ReaderExn.toExn
        (if firstByte = 0xfb then pure none else do
          let len ← readLenencLength m firstByte (ascii "invalid lenenc string")
          some <$> readLenencBody m len)
        (if firstByte = 0xfb then pure none else do
          let len ← PacketReader.readLenencLength firstByte (ascii "invalid lenenc string")
          some <$> PacketReader.readLenencBody len) :=
      .ite (.pure none) ((follows_readLenencLength firstByte _).bind
        fun len ↦ (follows_readLenencBody len).map some)
    exact (hfollows.of_ok ht hrest).1.le
  omega

end PacketCursor

end Ormpp
