import Ormpp.Data.Chunk
import Ormpp.Wire.Connection

/-!
# Packet framing

A packet travels as one or more frames. A frame is a three-byte length, a one-byte sequence id and
at most `0xffffff` bytes; a frame of exactly `0xffffff` bytes is continued by the next one. The
frames of a packet are therefore its `chunks`, numbered consecutively modulo `256`.

`writePacket` and `readPacket` are two loops written separately. Both are related to the same
description of the frames, `wireFrames`, and the round trip follows.
-/

namespace Ormpp

/-! ## The two loops -/

def maxPacketChunk : ℕ := 0x00ffffff

/-- The read of a frame's content. -/
def readChunk (payloadSize : ℕ) : Async Bytes :=
  if payloadSize > 0 then asyncRead payloadSize else pure []

/-- The loop of `read_packet`. One round reads a frame. -/
def readPacketLoop : ℕ → Bytes → Async Bytes
  | 0, _ => throw .outOfFuel
  | fuel + 1, payload => do
    let headerBuf ← asyncRead 4
    let payloadSize := leValue (headerBuf.take 3)
    modify fun s ↦ { s with sequenceId := headerBuf.getD 3 0 + 1 }
    let chunk ← readChunk payloadSize
    if payloadSize ≠ maxPacketChunk then pure (payload ++ chunk)
    else readPacketLoop fuel (payload ++ chunk)

/-- `read_packet`. Every round takes at least the four bytes of a header, so the number of bytes
that will ever arrive bounds the rounds. -/
def readPacket : Async Bytes := do
  requireSocket
  let s ← get
  readPacketLoop (s.input.length + 1) []

/-- The empty frame that closes a payload which ends on a full frame. -/
def writeEmptyFrame (payload : Bytes) (offset chunkSize : ℕ) : Async Unit :=
  if chunkSize = maxPacketChunk ∧ offset = payload.length then do
    let sequenceId ← nextSequenceId
    asyncWrite [0, 0, 0, sequenceId]
  else pure ()

/-- The loop of `write_packet`, from the given offset on. One round writes a frame. -/
def writePacketLoop : ℕ → Bytes → ℕ → Async Unit
  | 0, _, _ => throw .outOfFuel
  | fuel + 1, payload, offset => do
    let remaining := payload.length - offset
    let chunkSize := min remaining maxPacketChunk
    let sequenceId ← nextSequenceId
    asyncWrite (leBytes 3 chunkSize ++ [sequenceId] ++ (payload.drop offset).take chunkSize)
    writeEmptyFrame payload (offset + chunkSize) chunkSize
    if offset + chunkSize < payload.length then writePacketLoop fuel payload (offset + chunkSize)
    else pure ()

/-- `write_packet`. -/
def writePacket (payload : Bytes) : Async Unit := do
  requireSocket
  writePacketLoop (payload.length + 1) payload 0

/-! ## The frames of a packet -/

/-- Frames as they appear on the wire, numbered from the given sequence id. -/
def wireFrames (sequenceId : Byte) : List Bytes → Bytes
  | [] => []
  | c :: cs => leBytes 3 c.length ++ [sequenceId] ++ c ++ wireFrames (sequenceId + 1) cs

/-- The frames that carry a payload. -/
def packetChunks (payload : Bytes) : List Bytes := chunks 0xfffffe payload

/-- The bytes of a packet whose first frame has the given sequence id. -/
def wirePacket (sequenceId : Byte) (payload : Bytes) : Bytes :=
  wireFrames sequenceId (packetChunks payload)

/-- The sequence id after the frames of a packet. -/
def sequenceIdAfter (sequenceId : Byte) (payload : Bytes) : Byte :=
  sequenceId + UInt8.ofNat (packetChunks payload).length

theorem wireFrames_cons (sequenceId : Byte) (c : Bytes) (cs : List Bytes) :
    wireFrames sequenceId (c :: cs)
      = wireFrames sequenceId [c] ++ wireFrames (sequenceId + 1) cs := by
  simp only [wireFrames, List.append_nil]

theorem length_le_length_wireFrames (cs : List Bytes) (sequenceId : Byte) :
    cs.length ≤ (wireFrames sequenceId cs).length := by
  induction cs generalizing sequenceId with
  | nil => exact Nat.zero_le _
  | cons c cs ih =>
    have := ih (sequenceId + 1)
    simp only [wireFrames, List.length_cons, List.length_append, length_leBytes]
    omega

theorem add_one_add_ofNat (b : Byte) (n : ℕ) :
    b + 1 + UInt8.ofNat n = b + UInt8.ofNat (n + 1) := by
  rw [UInt8.ofNat_add, UInt8.add_assoc, UInt8.add_comm 1]
  rfl

/-! ## Reading -/

theorem readChunk_of_append {s : MysqlAsync} {c rest : Bytes} (hin : s.input = c ++ rest) :
    readChunk c.length s = .ok c { s with input := rest } := by
  rw [readChunk]
  by_cases hpos : c.length > 0
  · rw [if_pos hpos]
    exact asyncRead_of_append hin rfl
  · rw [if_neg hpos]
    have hnil : c = [] := List.eq_nil_of_length_eq_zero (by omega)
    subst hnil
    rw [List.nil_append] at hin
    rw [← hin]
    rfl

/-- One round of the reading loop, on a frame. -/
theorem readPacketLoop_frame {s : MysqlAsync} {sequenceId : Byte} {c rest : Bytes}
    (hc : c.length ≤ maxPacketChunk)
    (hin : s.input = leBytes 3 c.length ++ [sequenceId] ++ c ++ rest) (fuel : ℕ) (acc : Bytes) :
    readPacketLoop (fuel + 1) acc s
      = (if c.length ≠ maxPacketChunk then pure (acc ++ c) else readPacketLoop fuel (acc ++ c))
          { s with input := rest, sequenceId := sequenceId + 1 } := by
  have hsize : leValue (leBytes 3 c.length) = c.length :=
    leValue_leBytes (lt_of_le_of_lt hc (by decide))
  have htake : (leBytes 3 c.length ++ [sequenceId]).take 3 = leBytes 3 c.length := by
    rw [List.take_append_of_le_length (by simp), List.take_of_length_le (by simp)]
  have hseq : (leBytes 3 c.length ++ [sequenceId]).getD 3 0 = sequenceId := by
    rw [List.getD_eq_getElem?_getD, List.getElem?_append_right (by simp), length_leBytes]
    rfl
  rw [List.append_assoc] at hin
  rw [readPacketLoop, Effect.bind_of_ok (asyncRead_of_append hin (by simp)), htake, hseq, hsize]
  rw [Effect.modify_bind, Effect.bind_of_ok (readChunk_of_append rfl)]

/-- The reading loop takes exactly the frames of a packet, given a round for each. -/
theorem readPacketLoop_wirePacket (payload : Bytes) :
    ∀ (fuel : ℕ) (acc : Bytes) (s : MysqlAsync) (sequenceId : Byte) (rest : Bytes),
      (packetChunks payload).length ≤ fuel → s.input = wirePacket sequenceId payload ++ rest →
      readPacketLoop fuel acc s = .ok (acc ++ payload)
        { s with input := rest, sequenceId := sequenceIdAfter sequenceId payload } := by
  unfold wirePacket sequenceIdAfter packetChunks
  induction payload using chunks_induction (M := 0xfffffe) with
  | short l h =>
    intro fuel acc s sequenceId rest hfuel hin
    rw [chunks_of_lt h] at hfuel hin ⊢
    obtain ⟨fuel, rfl⟩ : ∃ k, fuel = k + 1 := ⟨fuel - 1, by simp at hfuel; omega⟩
    rw [wireFrames, wireFrames, List.append_nil] at hin
    rw [readPacketLoop_frame (by rw [maxPacketChunk]; omega) hin,
      if_pos (by rw [maxPacketChunk]; omega)]
    rfl
  | long l h ih =>
    intro fuel acc s sequenceId rest hfuel hin
    rw [chunks_of_le h] at hfuel hin ⊢
    obtain ⟨fuel, rfl⟩ : ∃ k, fuel = k + 1 := ⟨fuel - 1, by simp at hfuel; omega⟩
    have hfull : (l.take (0xfffffe + 1)).length = maxPacketChunk := by
      rw [List.length_take, maxPacketChunk]
      omega
    rw [wireFrames, List.append_assoc] at hin
    rw [readPacketLoop_frame (le_of_eq hfull) hin, if_neg (by rw [hfull]; simp),
      ih fuel _ _ (sequenceId + 1) rest (by simpa using hfuel) rfl, List.append_assoc,
      List.take_append_drop, add_one_add_ofNat, List.length_cons]

/-- **Reading a packet** takes its payload off the stream and nothing behind it. -/
theorem readPacket_wirePacket {s : MysqlAsync} {sequenceId : Byte} {payload rest : Bytes}
    (hopen : s.socketOpen = true) (hin : s.input = wirePacket sequenceId payload ++ rest) :
    readPacket s = .ok payload
      { s with input := rest, sequenceId := sequenceIdAfter sequenceId payload } := by
  have hfuel : (packetChunks payload).length ≤ s.input.length + 1 := by
    have := length_le_length_wireFrames (packetChunks payload) sequenceId
    rw [hin, List.length_append, wirePacket]
    omega
  rw [readPacket, Effect.bind_of_ok (requireSocket_of_open hopen), Effect.get_bind,
    readPacketLoop_wirePacket payload _ [] s sequenceId rest hfuel hin, List.nil_append]

theorem asyncRead_cases (size : ℕ) (s : MysqlAsync) :
    (∃ buf t, asyncRead size s = .ok buf t ∧ t.input.length + size = s.input.length) ∨
      ∃ t, asyncRead size s = .error .endOfStream t := by
  rw [asyncRead]
  split_ifs with hshort
  · exact Or.inr ⟨_, rfl⟩
  · refine Or.inl ⟨_, _, rfl, ?_⟩
    rw [List.length_drop]
    omega

theorem readChunk_cases (payloadSize : ℕ) (s : MysqlAsync) :
    (∃ buf t, readChunk payloadSize s = .ok buf t ∧ t.input.length ≤ s.input.length) ∨
      ∃ t, readChunk payloadSize s = .error .endOfStream t := by
  rw [readChunk]
  split_ifs
  · obtain ⟨buf, t, hread, hlength⟩ | hend := asyncRead_cases payloadSize s
    · exact Or.inl ⟨buf, t, hread, by omega⟩
    · exact Or.inr hend
  · exact Or.inl ⟨[], s, rfl, Nat.le_refl _⟩

/-- The loop does not run out of rounds: each of them takes a header off the stream. -/
theorem readPacketLoop_cases {fuel : ℕ} {payload : Bytes} {s : MysqlAsync}
    (hfuel : s.input.length < fuel) :
    (∃ p t, readPacketLoop fuel payload s = .ok p t ∧ t.input.length < s.input.length) ∨
      ∃ t, readPacketLoop fuel payload s = .error .endOfStream t := by
  induction fuel generalizing payload s with
  | zero => exact absurd hfuel (Nat.not_lt_zero _)
  | succ fuel ih =>
    rw [readPacketLoop]
    obtain ⟨headerBuf, t, hheader, hlength⟩ | ⟨t, hheader⟩ := asyncRead_cases 4 s
    · rw [Effect.bind_of_ok hheader, Effect.modify_bind]
      obtain ⟨chunk, u, hchunk, hle⟩ | ⟨u, hchunk⟩ := readChunk_cases (leValue (headerBuf.take 3))
        { t with sequenceId := headerBuf.getD 3 0 + 1 }
      · have hlt : u.input.length < s.input.length := by
          have hle' : u.input.length ≤ t.input.length := hle
          omega
        rw [Effect.bind_of_ok hchunk]
        split_ifs
        · exact Or.inl ⟨_, u, rfl, hlt⟩
        · have hsize : u.input.length < fuel := by omega
          obtain ⟨p, v, hrest, hlt'⟩ | hend :
              (∃ p v, readPacketLoop fuel (payload ++ chunk) u = .ok p v ∧
                v.input.length < u.input.length) ∨
                ∃ v, readPacketLoop fuel (payload ++ chunk) u = .error .endOfStream v := ih hsize
          · exact Or.inl ⟨p, v, hrest, Nat.lt_trans hlt' hlt⟩
          · exact Or.inr hend
      · exact Or.inr ⟨u, Effect.bind_of_error hchunk⟩
    · exact Or.inr ⟨t, Effect.bind_of_error hheader⟩

/-- A packet is read, or the stream ends. -/
theorem readPacket_cases {s : MysqlAsync} (hopen : s.socketOpen = true) :
    (∃ p t, readPacket s = .ok p t ∧ t.input.length < s.input.length) ∨
      ∃ t, readPacket s = .error .endOfStream t := by
  rw [readPacket, Effect.bind_of_ok (requireSocket_of_open hopen), Effect.get_bind]
  exact readPacketLoop_cases (Nat.lt_succ_self _)

/-! ## Writing -/

theorem writeEmptyFrame_of_full {s : MysqlAsync} {payload : Bytes} {offset chunkSize : ℕ}
    (h : chunkSize = maxPacketChunk ∧ offset = payload.length) :
    writeEmptyFrame payload offset chunkSize s = .ok ()
      { s with
        output := s.output ++ wireFrames s.sequenceId [[]]
        sequenceId := s.sequenceId + 1 } := by
  rw [writeEmptyFrame, if_pos h]
  rfl

theorem writeEmptyFrame_of_not {s : MysqlAsync} {payload : Bytes} {offset chunkSize : ℕ}
    (h : ¬(chunkSize = maxPacketChunk ∧ offset = payload.length)) :
    writeEmptyFrame payload offset chunkSize s = .ok () s := by
  rw [writeEmptyFrame, if_neg h]
  rfl

/-- One round of the writing loop, short of the closing frame and the next round. -/
theorem writePacketLoop_round {s : MysqlAsync} {payload c : Bytes} {offset chunkSize : ℕ}
    (hsize : min (payload.length - offset) maxPacketChunk = chunkSize)
    (hc : (payload.drop offset).take chunkSize = c) (hlen : c.length = chunkSize) (fuel : ℕ) :
    writePacketLoop (fuel + 1) payload offset s
      = (do
          writeEmptyFrame payload (offset + chunkSize) chunkSize
          if offset + chunkSize < payload.length then
            writePacketLoop fuel payload (offset + chunkSize)
          else pure () : Async Unit)
          { s with
            output := s.output ++ wireFrames s.sequenceId [c]
            sequenceId := s.sequenceId + 1 } := by
  rw [writePacketLoop]
  simp only [hsize, hc, wireFrames, hlen, List.append_nil]
  rfl

/-- The writing loop emits the frames of what is left of the payload. -/
theorem writePacketLoop_wirePacket (payload left : Bytes) :
    ∀ (offset fuel : ℕ) (s : MysqlAsync), offset ≤ payload.length →
      payload.drop offset = left → left.length < fuel →
      writePacketLoop fuel payload offset s = .ok ()
        { s with
          output := s.output ++ wirePacket s.sequenceId left
          sequenceId := sequenceIdAfter s.sequenceId left } := by
  unfold wirePacket sequenceIdAfter packetChunks
  induction left using chunks_induction (M := 0xfffffe) with
  | short l h =>
    intro offset fuel s hoff hdrop hfuel
    obtain ⟨fuel, rfl⟩ : ∃ k, fuel = k + 1 := ⟨fuel - 1, by omega⟩
    have hlen : payload.length - offset = l.length := by rw [← hdrop, List.length_drop]
    have hmin : min (payload.length - offset) maxPacketChunk = l.length := by
      rw [hlen, maxPacketChunk]
      omega
    rw [writePacketLoop_round hmin (by rw [hdrop, List.take_length]) rfl,
      Effect.bind_of_ok (writeEmptyFrame_of_not (by rw [maxPacketChunk]; omega)),
      if_neg (by omega), chunks_of_lt h]
    rfl
  | long l h ih =>
    intro offset fuel s hoff hdrop hfuel
    obtain ⟨fuel, rfl⟩ : ∃ k, fuel = k + 1 := ⟨fuel - 1, by omega⟩
    have hlen : payload.length - offset = l.length := by rw [← hdrop, List.length_drop]
    have hmin : min (payload.length - offset) maxPacketChunk = 0xfffffe + 1 := by
      rw [hlen, maxPacketChunk]
      omega
    have hnext : payload.drop (offset + (0xfffffe + 1)) = l.drop (0xfffffe + 1) := by
      rw [← hdrop, List.drop_drop]
    rw [writePacketLoop_round hmin (by rw [hdrop]) (by rw [List.length_take]; omega),
      chunks_of_le h]
    by_cases hend : offset + (0xfffffe + 1) = payload.length
    · -- the payload ends on a full frame: the loop stops after the empty one
      have hnil : l.drop (0xfffffe + 1) = [] := by
        rw [← hnext, List.drop_eq_nil_iff]
        omega
      have hfull : 0xfffffe + 1 = maxPacketChunk ∧ offset + (0xfffffe + 1) = payload.length :=
        ⟨rfl, hend⟩
      rw [Effect.bind_of_ok (writeEmptyFrame_of_full hfull),
        if_neg (by omega), hnil, chunks_of_lt (by simp), wireFrames_cons _ _ [[]],
        ← List.append_assoc, List.length_cons, ← add_one_add_ofNat]
      rfl
    · rw [Effect.bind_of_ok (writeEmptyFrame_of_not fun hc ↦ hend hc.2), if_pos (by omega),
        ih _ _ _ (by omega) hnext (by rw [List.length_drop]; omega),
        wireFrames_cons _ _ (chunks _ _), ← List.append_assoc, List.length_cons, add_one_add_ofNat]

/-- **Writing a packet** appends its frames to the stream. -/
theorem writePacket_wirePacket {s : MysqlAsync} (hopen : s.socketOpen = true) (payload : Bytes) :
    writePacket payload s = .ok ()
      { s with
        output := s.output ++ wirePacket s.sequenceId payload
        sequenceId := sequenceIdAfter s.sequenceId payload } := by
  rw [writePacket, Effect.bind_of_ok (requireSocket_of_open hopen)]
  exact writePacketLoop_wirePacket payload payload 0 _ s (Nat.zero_le _) List.drop_zero
    (Nat.lt_succ_self _)

/-! ## The round trip -/

/-- **Framing round trip.** What `writePacket` puts on the wire is a list of frames numbered
consecutively, and `readPacket` takes exactly those frames and returns the payload, with the same
sequence id on both sides. -/
theorem readPacket_writePacket (payload rest : Bytes) (w r : MysqlAsync)
    (hw : w.socketOpen = true) (hr : r.socketOpen = true) :
    ∃ (frames : List Bytes) (w' r' : MysqlAsync),
      writePacket payload w = .ok () w' ∧
        w'.output = w.output ++ wireFrames w.sequenceId frames ∧
        frames.flatten = payload ∧ (∀ c ∈ frames, c.length ≤ maxPacketChunk) ∧
        w'.sequenceId = w.sequenceId + UInt8.ofNat frames.length ∧
        readPacket { r with input := wireFrames w.sequenceId frames ++ rest } = .ok payload r' ∧
        r'.input = rest ∧ r'.sequenceId = w'.sequenceId := by
  refine ⟨packetChunks payload, _, _, writePacket_wirePacket hw payload, rfl, flatten_chunks _ _,
    length_le_of_mem_chunks, rfl, readPacket_wirePacket hr rfl, rfl, rfl⟩

theorem readPacket_writePacket_singleton :
    ∃ (frames : List Bytes) (w' r' : MysqlAsync),
      writePacket [7] { socketOpen := true, sequenceId := 255 } = .ok () w' ∧
        w'.output = [] ++ wireFrames 255 frames ∧
        frames.flatten = [7] ∧ (∀ c ∈ frames, c.length ≤ maxPacketChunk) ∧
        w'.sequenceId = 255 + UInt8.ofNat frames.length ∧
        readPacket { socketOpen := true, input := wireFrames 255 frames ++ [1, 2] } = .ok [7] r' ∧
        r'.input = [1, 2] ∧ r'.sequenceId = w'.sequenceId :=
  readPacket_writePacket [7] [1, 2] { socketOpen := true, sequenceId := 255 }
    { socketOpen := true } rfl rfl

end Ormpp
