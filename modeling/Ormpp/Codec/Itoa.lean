import Ormpp.Data.Cast
import Ormpp.Data.Digits

/-!
# Writing integers

`itoa_fwd` writes an unsigned integer of two or four bytes by halves: it cuts the last digits off by
a multiplication and a shift, and goes on with the parts, down to pairs of digits from a table.
`xtoa` writes 64 bits digit by digit from the back. Both write the decimal notation.

A level `l` stands for `2 ^ l` bytes, which are split behind as many digits.
-/

namespace Ormpp

namespace Itoa

/-! ## Division by multiplication -/

/-- `MulInv`. -/
structure MulInv where
  a : ℕ
  m : ℕ
  s : ℕ

/-- `MI`. -/
def mulInv : ℕ → MulInv
  | 0 => ⟨0, 205, 11⟩
  | 1 => ⟨1, 41943, 22⟩
  | 2 => ⟨0, 3518437209, 45⟩
  | _ => ⟨0, 12379400392853802749, 90⟩

/-- The number of digits that are cut off, and of bytes. -/
def size (l : ℕ) : ℕ := 2 ^ l

/-- The conversion to an unsigned integer of a number of bytes. -/
def toBytes (bytes u : ℕ) : ℕ := u % 2 ^ (8 * bytes)

/-- `split`. -/
def split (l u : ℕ) : ℕ × ℕ :=
  let mi := mulInv l
  let q := toBytes (size l)
    (toBytes (2 * size l) (mi.m * (toBytes (2 * size l) u + mi.a)) / 2 ^ mi.s)
  (q, toBytes (size l / 2) (u - q * 10 ^ size l))

/-- The level is split right. -/
def Splits (l : ℕ) : Prop :=
  ∀ u < 2 ^ (8 * size l), split l u = (u / 10 ^ size l, u % 10 ^ size l)

theorem toBytes_of_lt {bytes u : ℕ} (h : u < 2 ^ (8 * bytes)) : toBytes bytes u = u :=
  Nat.mod_eq_of_lt h

theorem splits_one : Splits 1 := by
  intro u hu
  change u < 65536 at hu
  have hwide : toBytes (2 * size 1) u = u := toBytes_of_lt (by change u < 4294967296; omega)
  have hproduct : toBytes (2 * size 1) ((mulInv 1).m * (u + (mulInv 1).a)) = 41943 * (u + 1) :=
    toBytes_of_lt (by change 41943 * (u + 1) < 4294967296; omega)
  have hdiv : 41943 * (u + 1) / 2 ^ (mulInv 1).s = u / 100 := by
    change 41943 * (u + 1) / 4194304 = u / 100
    omega
  have hq : toBytes (size 1) (u / 100) = u / 100 :=
    toBytes_of_lt (by change u / 100 < 65536; omega)
  have hr : toBytes (size 1 / 2) (u - u / 100 * 10 ^ size 1) = u % 100 := by
    have hrest : u - u / 100 * 10 ^ size 1 = u % 100 := by
      change u - u / 100 * 100 = u % 100
      omega
    rw [hrest]
    exact toBytes_of_lt (by change u % 100 < 256; omega)
  simp only [split, hwide, hproduct, hdiv, hq, hr]
  rfl

theorem splits_two : Splits 2 := by
  intro u hu
  change u < 4294967296 at hu
  have hwide : toBytes (2 * size 2) u = u :=
    toBytes_of_lt (by change u < 18446744073709551616; omega)
  have hproduct : toBytes (2 * size 2) ((mulInv 2).m * (u + (mulInv 2).a)) = 3518437209 * u :=
    toBytes_of_lt (by change 3518437209 * u < 18446744073709551616; omega)
  have hdiv : 3518437209 * u / 2 ^ (mulInv 2).s = u / 10000 := by
    change 3518437209 * u / 35184372088832 = u / 10000
    omega
  have hq : toBytes (size 2) (u / 10000) = u / 10000 :=
    toBytes_of_lt (by change u / 10000 < 4294967296; omega)
  have hr : toBytes (size 2 / 2) (u - u / 10000 * 10 ^ size 2) = u % 10000 := by
    have hrest : u - u / 10000 * 10 ^ size 2 = u % 10000 := by
      change u - u / 10000 * 10000 = u % 10000
      omega
    rw [hrest]
    exact toBytes_of_lt (by change u % 10000 < 65536; omega)
  simp only [split, hwide, hproduct, hdiv, hq, hr]
  rfl

/-! ## Writing by halves -/

/-- `digits`, the pairs of digits one behind the other. -/
def digits (i : ℕ) : Byte :=
  UInt8.ofNat (0x30 + if i % 2 = 0 then i / 2 / 10 else i / 2 % 10)

/-- `dd`. -/
def dd (u : ℕ) : Bytes := [digits (2 * u), digits (2 * u + 1)]

/-- `tail`, which writes all digits. -/
def tail : ℕ → ℕ → Bytes
  | 0, u => dd u
  | l + 1, u =>
    let x := split (l + 1) u
    tail l (toBytes (size l) x.1) ++ tail l x.2

/-- `head`, which leaves out the zeros in front. -/
def head : ℕ → ℕ → Bytes
  | 0, u => if u < 10 then [digit u] else dd u
  | l + 1, u =>
    if u < 10 ^ size (l + 1) then head l (toBytes (size l) u)
    else
      let x := split (l + 1) u
      head l (toBytes (size l) x.1) ++ tail l x.2

/-- `itoa`, of an unsigned integer of two bytes or more. -/
def itoa (l u : ℕ) : Bytes :=
  if u < 10 ^ size (l + 1) then head l (toBytes (size l) u)
  else
    let x := split (l + 1) u
    if u < 10 ^ (2 * size (l + 1)) then head l (toBytes (size l) x.1) ++ tail l x.2
    else
      let y := split (l + 1) x.1
      head l (toBytes (size l) y.1) ++ tail l y.2 ++ tail l x.2

theorem dd_eq {u : ℕ} (h : u < 100) : dd u = lastDigits 2 u := by
  have hfirst : digits (2 * u) = digit (u / 10 % 10) := by
    rw [digits, if_pos (by omega), digit, Nat.mul_div_cancel_left u (by norm_num),
      Nat.mod_eq_of_lt (by omega)]
  have hsecond : digits (2 * u + 1) = digit (u % 10) := by
    rw [digits, if_neg (by omega), digit]
    congr 3
    omega
  rw [dd, hfirst, hsecond]
  rfl

theorem size_succ (l : ℕ) : size (l + 1) = 2 * size l := by rw [size, size, pow_succ']

/-- A number of as many digits as a level has bytes fits half of the bits. -/
theorem lt_of_lt_pow {l u : ℕ} (h : u < 10 ^ size (l + 1)) : u < 2 ^ (8 * size l) := by
  calc u < 10 ^ size (l + 1) := h
    _ = 100 ^ size l := by rw [size_succ, pow_mul]; norm_num
    _ ≤ 256 ^ size l := Nat.pow_le_pow_left (by norm_num) _
    _ = 2 ^ (8 * size l) := by rw [pow_mul]; norm_num

theorem lt_of_lt_pow_two {l u : ℕ} (h : u < 10 ^ (2 * size l)) : u < 2 ^ (8 * size l) := by
  rw [← size_succ] at h
  exact lt_of_lt_pow h

theorem div_pow_lt {n u : ℕ} (h : u < 10 ^ (2 * n)) : u / 10 ^ n < 10 ^ n := by
  rw [two_mul, pow_add] at h
  exact Nat.div_lt_of_lt_mul h

theorem mod_pow_lt (n u : ℕ) : u % 10 ^ n < 10 ^ n := Nat.mod_lt u (by positivity)

/-- The halves of a level below which all levels are split right. -/
theorem tail_eq (l : ℕ) (hl : ∀ k, k < l → Splits (k + 1)) {u : ℕ} (h : u < 10 ^ size (l + 1)) :
    tail l u = lastDigits (size (l + 1)) u := by
  induction l generalizing u with
  | zero => exact dd_eq h
  | succ l ih =>
    have ih' {v : ℕ} (hv : v < 10 ^ size (l + 1)) : tail l v = lastDigits (size (l + 1)) v :=
      ih (fun k hk ↦ hl k (by omega)) hv
    rw [size_succ] at h
    have hsplit : split (l + 1) u = (u / 10 ^ size (l + 1), u % 10 ^ size (l + 1)) :=
      hl l (by omega) u (lt_of_lt_pow_two h)
    have hq : u / 10 ^ size (l + 1) < 10 ^ size (l + 1) := div_pow_lt h
    have hr : u % 10 ^ size (l + 1) < 10 ^ size (l + 1) := mod_pow_lt _ u
    simp only [tail, hsplit, toBytes_of_lt (lt_of_lt_pow hq)]
    rw [ih' hq, ih' hr, size_succ (l + 1), two_mul, lastDigits_add]

/-- What is in front of the last digits and these. -/
theorem head_eq (l : ℕ) (hl : ∀ k, k < l → Splits (k + 1)) {u : ℕ} (h : u < 10 ^ size (l + 1)) :
    head l u = natText u := by
  induction l generalizing u with
  | zero =>
    rw [head]
    split_ifs with hten
    · exact (natText_of_lt hten).symm
    · have htens : u / 10 < 10 := Nat.div_lt_of_lt_mul h
      rw [dd_eq h, natText_of_le (by omega), natText_of_lt htens]
      simp [lastDigits, Nat.mod_eq_of_lt htens]
  | succ l ih =>
    have hl' : ∀ k, k < l → Splits (k + 1) := fun k hk ↦ hl k (by omega)
    rw [head]
    split_ifs with hsmall
    · rw [toBytes_of_lt (lt_of_lt_pow hsmall), ih hl' hsmall]
    · rw [size_succ] at h
      have hsplit : split (l + 1) u = (u / 10 ^ size (l + 1), u % 10 ^ size (l + 1)) :=
        hl l (by omega) u (lt_of_lt_pow_two h)
      have hq : u / 10 ^ size (l + 1) < 10 ^ size (l + 1) := div_pow_lt h
      have hpos : 0 < u / 10 ^ size (l + 1) := Nat.div_pos (by omega) (by positivity)
      simp only [hsplit, toBytes_of_lt (lt_of_lt_pow hq)]
      rw [ih hl' hq, tail_eq l hl' (mod_pow_lt _ u), ← natText_eq_append _ hpos]

/-- **`itoa` writes the decimal notation.** -/
theorem itoa_eq (l : ℕ) (hl : ∀ k, k ≤ l → Splits (k + 1)) {u : ℕ}
    (h : u < 2 ^ (8 * size (l + 1))) : itoa l u = natText u := by
  have hl' : ∀ k, k < l → Splits (k + 1) := fun k hk ↦ hl k hk.le
  have hsplit : split (l + 1) u = (u / 10 ^ size (l + 1), u % 10 ^ size (l + 1)) :=
    hl l le_rfl u h
  rw [itoa]
  split_ifs with hsmall hmiddle
  · rw [toBytes_of_lt (lt_of_lt_pow hsmall), head_eq l hl' hsmall]
  · have hq : u / 10 ^ size (l + 1) < 10 ^ size (l + 1) := div_pow_lt hmiddle
    have hpos : 0 < u / 10 ^ size (l + 1) := Nat.div_pos (by omega) (by positivity)
    simp only [hsplit, toBytes_of_lt (lt_of_lt_pow hq)]
    rw [head_eq l hl' hq, tail_eq l hl' (mod_pow_lt _ u), ← natText_eq_append _ hpos]
  · -- three parts, of which the front has the digits that are left of 256 to the power of the size
    have htwo : u / 10 ^ size (l + 1) / 10 ^ size (l + 1) = u / 10 ^ (2 * size (l + 1)) := by
      rw [Nat.div_div_eq_div_mul, ← pow_add, two_mul]
    have hsecond : split (l + 1) (u / 10 ^ size (l + 1))
        = (u / 10 ^ size (l + 1) / 10 ^ size (l + 1),
          u / 10 ^ size (l + 1) % 10 ^ size (l + 1)) :=
      hl l le_rfl _ ((Nat.div_le_self u _).trans_lt h)
    have hq : u / 10 ^ size (l + 1) / 10 ^ size (l + 1) < 10 ^ size (l + 1) := by
      rw [htwo]
      refine Nat.div_lt_of_lt_mul (h.trans_le ?_)
      calc 2 ^ (8 * size (l + 1)) = 256 ^ size (l + 1) := by rw [pow_mul]; norm_num
        _ ≤ 1000 ^ size (l + 1) := Nat.pow_le_pow_left (by norm_num) _
        _ = 10 ^ (2 * size (l + 1)) * 10 ^ size (l + 1) := by
          rw [pow_mul, ← mul_pow]
          norm_num
    have hpos : 0 < u / 10 ^ size (l + 1) / 10 ^ size (l + 1) := by
      rw [htwo]
      exact Nat.div_pos (by omega) (by positivity)
    have hfront : 0 < u / 10 ^ size (l + 1) := Nat.pos_of_div_pos hpos
    simp only [hsplit, hsecond, toBytes_of_lt (lt_of_lt_pow hq)]
    rw [head_eq l hl' hq, tail_eq l hl' (mod_pow_lt _ _), tail_eq l hl' (mod_pow_lt _ u),
      ← natText_eq_append _ hpos, ← natText_eq_append _ hfront]

/-- Two and four bytes. -/
theorem itoa_zero_eq {u : ℕ} (h : u < 2 ^ 16) : itoa 0 u = natText u := by
  refine itoa_eq 0 (fun k hk ↦ ?_) h
  obtain rfl : k = 0 := Nat.le_zero.mp hk
  exact splits_one

theorem itoa_one_eq {u : ℕ} (h : u < 2 ^ 32) : itoa 1 u = natText u := by
  refine itoa_eq 1 (fun k hk ↦ ?_) h
  obtain rfl | rfl : k = 0 ∨ k = 1 := by omega
  · exact splits_one
  · exact splits_two

/-! ## Signs -/

/-- The absolute value as `itoa` computes it, without a branch on the sign. -/
def magnitude (w : ℕ) (i : ℤ) : ℕ :=
  let u := BitVec.ofInt w i
  let mask := if i < 0 then BitVec.allOnes w else 0#w
  (((2#w * u) &&& ~~~mask) - u).toNat

/-- `itoa_fwd` of a signed integer of two or four bytes. -/
def itoaSigned (l : ℕ) (i : ℤ) : Bytes :=
  (if i < 0 then [0x2d] else []) ++ itoa l (magnitude (8 * size (l + 1)) i)

theorem magnitude_eq {w : ℕ} (hw : 0 < w) {i : ℤ} (h : Cast.FitsSigned w i) :
    magnitude w i = i.natAbs := by
  have hpow : (2 : ℤ) ^ w = 2 * 2 ^ (w - 1) := Cast.two_pow_eq hw
  have hhalf : (0 : ℤ) < 2 ^ (w - 1) := by positivity
  obtain ⟨hlow, hhigh⟩ := h
  rw [magnitude]
  by_cases hneg : i < 0
  · have hmod : -i % ((2 ^ w : ℕ) : ℤ) = -i :=
      Int.emod_eq_of_lt (by omega) (by push_cast; omega)
    rw [if_pos hneg, BitVec.not_allOnes, BitVec.and_zero, BitVec.zero_sub, ← BitVec.ofInt_neg,
      BitVec.toNat_ofInt, hmod]
    omega
  · have hmod : i % ((2 ^ w : ℕ) : ℤ) = i :=
      Int.emod_eq_of_lt (by omega) (by push_cast; omega)
    rw [if_neg hneg, BitVec.not_zero, BitVec.and_allOnes, BitVec.two_mul, BitVec.add_sub_cancel,
      BitVec.toNat_ofInt, hmod]
    omega

theorem intText_eq (i : ℤ) : intText i = (if i < 0 then [0x2d] else []) ++ natText i.natAbs := by
  obtain n | n := i
  · have hn : ¬Int.ofNat n < 0 := Int.not_lt.mpr (Int.natCast_nonneg n)
    rw [if_neg hn]
    rfl
  · rw [if_pos (Int.negSucc_lt_zero n)]
    rfl

theorem itoaSigned_zero_eq {i : ℤ} (h : Cast.FitsSigned 16 i) : itoaSigned 0 i = intText i := by
  have hmagnitude : magnitude (8 * size 1) i = i.natAbs := magnitude_eq (by decide) h
  have hlt : i.natAbs < 2 ^ 16 := by
    obtain ⟨hlow, hhigh⟩ := h
    omega
  rw [itoaSigned, hmagnitude, itoa_zero_eq hlt, ← intText_eq]

theorem itoaSigned_one_eq {i : ℤ} (h : Cast.FitsSigned 32 i) : itoaSigned 1 i = intText i := by
  have hmagnitude : magnitude (8 * size 2) i = i.natAbs := magnitude_eq (by decide) h
  have hlt : i.natAbs < 2 ^ 32 := by
    obtain ⟨hlow, hhigh⟩ := h
    omega
  rw [itoaSigned, hmagnitude, itoa_one_eq hlt, ← intText_eq]

/-! ## Writing digit by digit -/

/-- The loop of `xtoa`, which writes the last digit first. -/
def xtoaLoop (uval : ℕ) : Bytes :=
  digit (uval % 10) :: if _h : uval / 10 = 0 then [] else xtoaLoop (uval / 10)
termination_by uval
decreasing_by omega

/-- `xtoa`, of a `long long` in base ten; the negation is one of 64 bits. -/
def xtoa (sval : ℤ) (signedp : Bool) : Bytes :=
  if signedp ∧ sval < 0 then 0x2d :: (xtoaLoop (Cast.toUnsigned 64 (-sval)).toNat).reverse
  else (xtoaLoop (Cast.toUnsigned 64 sval).toNat).reverse

theorem reverse_xtoaLoop (n : ℕ) : (xtoaLoop n).reverse = natText n := by
  induction n using Nat.strongRecOn with
  | ind n ih =>
    rw [xtoaLoop, List.reverse_cons]
    split_ifs with h
    · have hlt : n < 10 := by omega
      rw [natText_of_lt hlt, Nat.mod_eq_of_lt hlt]
      rfl
    · have hten : 10 ≤ n := by omega
      rw [ih (n / 10) (by omega), ← natText_of_le hten]

theorem xtoa_signed_eq {n : ℤ} (h : Cast.FitsSigned 64 n) : xtoa n true = intText n := by
  obtain ⟨hlow, hhigh⟩ := h
  rw [xtoa, intText_eq]
  by_cases hneg : n < 0
  · have hnegated : Cast.toUnsigned 64 (-n) = -n :=
      Cast.toUnsigned_eq_self_iff.mpr ⟨by omega, by omega⟩
    rw [if_pos ⟨rfl, hneg⟩, if_pos hneg, hnegated, reverse_xtoaLoop]
    congr 2
    omega
  · have hself : Cast.toUnsigned 64 n = n := Cast.toUnsigned_eq_self_iff.mpr ⟨by omega, by omega⟩
    rw [if_neg fun h ↦ hneg h.2, if_neg hneg, hself, reverse_xtoaLoop]
    congr 1
    omega

/-- A number without a sign goes through the `long long`. -/
theorem xtoa_unsigned_eq {n : ℤ} (h : Cast.FitsUnsigned 64 n) :
    xtoa (Cast.toSigned 64 n) false = intText n := by
  have hself : Cast.toUnsigned 64 (Cast.toSigned 64 n) = n := by
    rw [Cast.toUnsigned_toSigned le_rfl, Cast.toUnsigned_eq_self_iff.mpr h]
  rw [xtoa, if_neg fun h ↦ Bool.false_ne_true h.1, hself, reverse_xtoaLoop, intText_eq,
    if_neg (Int.not_lt.mpr h.1), List.nil_append]
  congr 1
  have hnonneg := h.1
  omega

end Itoa

end Ormpp
