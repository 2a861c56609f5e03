import Mathlib.Tactic

/-!
# Byte strings

Every string and buffer of the library is a finite sequence of bytes: a `std::string` and a
`std::vector<std::uint8_t>` are both modelled by `Bytes`. Source literals are written with `ascii`.

## Integers on the wire

The protocol writes its fixed-width integers least significant byte first. `leBytes k n` keeps the
low `k` bytes of `n`, exactly as the shift-and-mask sequences of the source do, and `leValue` reads
them back; on `k` bytes the two are inverse below `256 ^ k`.
-/

namespace Ormpp

abbrev Byte := UInt8

abbrev Bytes := List Byte

/-- The bytes of an ASCII literal. -/
def ascii (s : String) : Bytes := s.toList.map fun c ↦ UInt8.ofNat c.toNat

instance : LawfulBEq Bytes := inferInstance

/-- What is said of every byte of a text is decided along the text, not over all bytes there are. -/
instance decidableForallMem (p : Byte → Prop) [DecidablePred p] (text : Bytes) :
    Decidable (∀ b ∈ text, p b) :=
  List.decidableBAll p text

/-! ## Little-endian integers -/

/-- The low `k` bytes of a number, least significant first. -/
def leBytes : ℕ → ℕ → Bytes
  | 0, _ => []
  | k + 1, n => UInt8.ofNat (n % 256) :: leBytes k (n / 256)

/-- The number whose bytes, least significant first, are given. -/
def leValue : Bytes → ℕ
  | [] => 0
  | b :: bs => b.toNat + 256 * leValue bs

@[simp] theorem length_leBytes (k n : ℕ) : (leBytes k n).length = k := by
  induction k generalizing n with
  | zero => rfl
  | succ k ih => rw [leBytes, List.length_cons, ih]

theorem leValue_leBytes {k n : ℕ} (h : n < 256 ^ k) : leValue (leBytes k n) = n := by
  induction k generalizing n with
  | zero =>
    rw [pow_zero] at h
    rw [leBytes, leValue]
    omega
  | succ k ih =>
    have hdiv : n / 256 < 256 ^ k := by
      rw [Nat.div_lt_iff_lt_mul (by decide)]
      rwa [pow_succ] at h
    rw [leBytes, leValue, ih hdiv, UInt8.toNat_ofNat']
    omega

end Ormpp
