import Ormpp.Data.Bytes

/-!
# Shifts and masks

The functions that write and read little-endian integers, of the widths that the protocol has. Each
is written out by hand, a shift and a mask for each byte; they agree with `leBytes` and `leValue`.
-/

namespace Ormpp

/-! ## Writing -/

/-- `append_le16`. -/
def appendLe16 (value : UInt16) : Bytes :=
  [(value &&& 0xff).toUInt8, ((value >>> 8) &&& 0xff).toUInt8]

/-- `append_le24`. -/
def appendLe24 (value : UInt32) : Bytes :=
  [(value &&& 0xff).toUInt8, ((value >>> 8) &&& 0xff).toUInt8, ((value >>> 16) &&& 0xff).toUInt8]

/-- `append_le32`. -/
def appendLe32 (value : UInt32) : Bytes :=
  [(value &&& 0xff).toUInt8, ((value >>> 8) &&& 0xff).toUInt8, ((value >>> 16) &&& 0xff).toUInt8,
    ((value >>> 24) &&& 0xff).toUInt8]

/-- `append_le64`. -/
def appendLe64 (value : UInt64) : Bytes :=
  (List.range 8).map fun i ↦ ((value >>> UInt64.ofNat (i * 8)) &&& 0xff).toUInt8

theorem mod_and_mask (n : ℕ) : n % 256 &&& 255 = n % 256 := by
  have hmask : n % 256 &&& 255 = n % 256 % 256 := Nat.and_two_pow_sub_one_eq_mod _ 8
  rw [hmask, Nat.mod_mod]

theorem appendLe16_eq (value : UInt16) : appendLe16 value = leBytes 2 value.toNat := by
  simp [appendLe16, leBytes, ← UInt8.toNat_inj, Nat.shiftRight_eq_div_pow, mod_and_mask]

theorem appendLe24_eq (value : UInt32) : appendLe24 value = leBytes 3 value.toNat := by
  simp [appendLe24, leBytes, ← UInt8.toNat_inj, Nat.shiftRight_eq_div_pow, mod_and_mask,
    Nat.div_div_eq_div_mul]

theorem appendLe32_eq (value : UInt32) : appendLe32 value = leBytes 4 value.toNat := by
  simp [appendLe32, leBytes, ← UInt8.toNat_inj, Nat.shiftRight_eq_div_pow, mod_and_mask,
    Nat.div_div_eq_div_mul]

theorem appendLe64_eq (value : UInt64) : appendLe64 value = leBytes 8 value.toNat := by
  simp [appendLe64, leBytes, List.range_succ, ← UInt8.toNat_inj, Nat.shiftRight_eq_div_pow,
    mod_and_mask, Nat.div_div_eq_div_mul]

/-! ## Reading -/

/-- `read_le16`. -/
def readLe16 (data : Bytes) : UInt16 := (data.getD 0 0).toUInt16 ||| (data.getD 1 0).toUInt16 <<< 8

/-- `read_le24`. -/
def readLe24 (data : Bytes) : UInt32 :=
  (data.getD 0 0).toUInt32 ||| (data.getD 1 0).toUInt32 <<< 8 ||| (data.getD 2 0).toUInt32 <<< 16

/-- `read_le32`. -/
def readLe32 (data : Bytes) : UInt32 :=
  (data.getD 0 0).toUInt32 ||| (data.getD 1 0).toUInt32 <<< 8 ||| (data.getD 2 0).toUInt32 <<< 16
    ||| (data.getD 3 0).toUInt32 <<< 24

/-- `read_le64`. -/
def readLe64 (data : Bytes) : UInt64 :=
  (List.range 8).foldl (fun value i ↦ value ||| (data.getD i 0).toUInt64 <<< UInt64.ofNat (i * 8)) 0

theorem leValue_lt (bs : Bytes) : leValue bs < 256 ^ bs.length := by
  induction bs with
  | nil => exact Nat.one_pos
  | cons b bs ih =>
    have hb : b.toNat < 256 := b.toNat_lt
    rw [leValue, List.length_cons, pow_succ]
    omega

theorem leValue_append (bs : Bytes) (b : Byte) :
    leValue (bs ++ [b]) = leValue bs + 256 ^ bs.length * b.toNat := by
  induction bs with
  | nil =>
    have hone : leValue [b] = b.toNat := rfl
    have hnil : leValue [] = 0 := rfl
    rw [List.nil_append, hone, hnil, List.length_nil, pow_zero, one_mul, zero_add]
  | cons c bs ih =>
    rw [List.cons_append, leValue, leValue, ih, List.length_cons, pow_succ]
    ring

/-- A byte that is shifted past the others is added to them. -/
theorem or_shiftLeft (bs : Bytes) (b : Byte) :
    leValue bs ||| b.toNat <<< (8 * bs.length) = leValue (bs ++ [b]) := by
  have hlt : leValue bs < 2 ^ (8 * bs.length) := by
    rw [pow_mul]
    exact leValue_lt bs
  rw [Nat.or_comm, ← Nat.shiftLeft_add_eq_or_of_lt hlt, leValue_append, Nat.shiftLeft_eq, pow_mul,
    add_comm, mul_comm]
  rfl

/-- No bit of a byte is shifted out. -/
theorem shiftLeft_mod (b : Byte) {k w : ℕ} (h : k + 8 ≤ w) :
    b.toNat <<< k % 2 ^ w = b.toNat <<< k := by
  apply Nat.mod_eq_of_lt
  calc b.toNat <<< k = b.toNat * 2 ^ k := Nat.shiftLeft_eq _ _
    _ < 2 ^ 8 * 2 ^ k := Nat.mul_lt_mul_of_pos_right b.toNat_lt (Nat.two_pow_pos k)
    _ = 2 ^ (k + 8) := by rw [← pow_add, add_comm]
    _ ≤ 2 ^ w := Nat.pow_le_pow_right (by decide) h

theorem toNat_readLe16 {data : Bytes} (h : data.length = 2) :
    (readLe16 data).toNat = leValue data := by
  obtain ⟨b0, b1, rfl⟩ := List.length_eq_two.mp h
  have hshift : (b1.toUInt16 <<< 8).toNat = b1.toNat <<< 8 := by
    rw [UInt16.toNat_shiftLeft, UInt8.toNat_toUInt16]
    exact shiftLeft_mod b1 (by decide)
  have hor : leValue [b0] ||| b1.toNat <<< 8 = leValue [b0, b1] := or_shiftLeft [b0] b1
  change (b0.toUInt16 ||| b1.toUInt16 <<< 8).toNat = _
  rw [UInt16.toNat_or, hshift, UInt8.toNat_toUInt16, ← hor]
  rfl

theorem toNat_shiftLeft_toUInt32 (b : Byte) {k : ℕ} (h : k ≤ 24) :
    (b.toUInt32 <<< UInt32.ofNat k).toNat = b.toNat <<< k := by
  have hk : (UInt32.ofNat k).toNat % 32 = k := by
    rw [UInt32.toNat_ofNat_of_lt' (by change k < 2 ^ 32; omega)]
    omega
  rw [UInt32.toNat_shiftLeft, UInt8.toNat_toUInt32, hk]
  exact shiftLeft_mod b (by omega)

theorem toNat_readLe24 {data : Bytes} (h : data.length = 3) :
    (readLe24 data).toNat = leValue data := by
  obtain ⟨b0, b1, b2, rfl⟩ := List.length_eq_three.mp h
  have h1 : leValue [b0] ||| b1.toNat <<< 8 = leValue [b0, b1] := or_shiftLeft [b0] b1
  have h2 : leValue [b0, b1] ||| b2.toNat <<< 16 = leValue [b0, b1, b2] := or_shiftLeft [b0, b1] b2
  have hs1 : (b1.toUInt32 <<< 8).toNat = b1.toNat <<< 8 := toNat_shiftLeft_toUInt32 b1 (by decide)
  have hs2 : (b2.toUInt32 <<< 16).toNat = b2.toNat <<< 16 := toNat_shiftLeft_toUInt32 b2 (by decide)
  change (b0.toUInt32 ||| b1.toUInt32 <<< 8 ||| b2.toUInt32 <<< 16).toNat = _
  rw [UInt32.toNat_or, UInt32.toNat_or, hs1, hs2, UInt8.toNat_toUInt32, ← h2, ← h1]
  rfl

theorem toNat_readLe32 {data : Bytes} (h : data.length = 4) :
    (readLe32 data).toNat = leValue data := by
  obtain ⟨b0, rest, rfl⟩ := List.exists_cons_of_length_eq_add_one h
  obtain ⟨b1, b2, b3, rfl⟩ := List.length_eq_three.mp (Nat.succ.inj h)
  have h3 : leValue [b0, b1, b2] ||| b3.toNat <<< 24 = leValue [b0, b1, b2, b3] :=
    or_shiftLeft [b0, b1, b2] b3
  have hs3 : (b3.toUInt32 <<< 24).toNat = b3.toNat <<< 24 := toNat_shiftLeft_toUInt32 b3 (by decide)
  have hfront : (readLe24 [b0, b1, b2]).toNat = leValue [b0, b1, b2] := toNat_readLe24 rfl
  change (readLe24 [b0, b1, b2] ||| b3.toUInt32 <<< 24).toNat = _
  rw [UInt32.toNat_or, hs3, hfront, h3]

/-- The loop of `read_le64`, as far as it has come. -/
theorem toNat_foldl_readLe64 (data : Bytes) {k : ℕ} (hk : k ≤ 8) (hdata : k ≤ data.length) :
    ((List.range k).foldl
        (fun value i ↦ value ||| (data.getD i 0).toUInt64 <<< UInt64.ofNat (i * 8)) 0).toNat
      = leValue (data.take k) := by
  induction k with
  | zero => rfl
  | succ k ih =>
    have hlength : (data.take k).length = k := by
      rw [List.length_take]
      omega
    have hshift : ((data.getD k 0).toUInt64 <<< UInt64.ofNat (k * 8)).toNat
        = (data.getD k 0).toNat <<< (8 * k) := by
      have hk : (UInt64.ofNat (k * 8)).toNat % 64 = 8 * k := by
        rw [UInt64.toNat_ofNat_of_lt' (by change k * 8 < 2 ^ 64; omega)]
        omega
      rw [UInt64.toNat_shiftLeft, UInt8.toNat_toUInt64, hk]
      exact shiftLeft_mod _ (by omega)
    have hor := or_shiftLeft (data.take k) (data.getD k 0)
    rw [hlength] at hor
    have htake : data.take (k + 1) = data.take k ++ [data.getD k 0] := by
      rw [List.take_add_one, List.getElem?_eq_getElem (by omega), Option.toList_some,
        List.getD_eq_getElem?_getD, List.getElem?_eq_getElem (by omega), Option.getD_some]
    rw [List.range_succ, List.foldl_append, List.foldl_cons, List.foldl_nil, UInt64.toNat_or,
      ih (by omega) (by omega), hshift, hor, htake]

theorem toNat_readLe64 {data : Bytes} (h : data.length = 8) :
    (readLe64 data).toNat = leValue data := by
  have htake : data.take 8 = data := List.take_of_length_le h.le
  exact (toNat_foldl_readLe64 data (Nat.le_refl 8) h.ge).trans (congrArg leValue htake)

end Ormpp
