import Throughput.Proofs.Der.Integer
import Mathlib.Data.Nat.Digits.Lemmas

/-! Integers and their magnitudes: the bytes of a value without its sign, and how many binary
digits they hold. An integer is known by its value alone, and every question asked of it is
answered from the value. -/
namespace Throughput

theorem Bytes.toNat_ofNat (width n : Nat) : toNat (ofNat width n) = n % 256 ^ width := by
  induction width generalizing n with
  | zero => simp [ofNat, Nat.mod_one]
  | succ width ih =>
    have low : toNat [UInt8.ofNat n] = n % 256 := by simp [toNat]
    rw [ofNat, toNat_append, ih, low, List.length_singleton, pow_one, pow_succ', Nat.mod_mul]
    ring

namespace Der

open Bytes (toNat_cons toNat_lt toInt_cons signed)

/-- These bytes spell what `content` spells, and nothing shorter does; no bytes at all do not
count. -/
structure Shortest (content bytes : Bytes) : Prop where
  some : bytes ≠ []
  value : bytes.toInt = content.toInt
  least : ∀ other ≠ [], Bytes.toInt other = content.toInt → bytes.length ≤ other.length

/-- No zero byte is in front, but that a zero is a single byte. -/
def Trimmed (m : Bytes) : Prop := m = [0] ∨ ∃ lead rest, m = lead :: rest ∧ lead ≠ 0

theorem shortest_iff {content bytes : Bytes} :
    Shortest content bytes ↔ bytes = dropRedundant content := by
  constructor
  · intro shortest
    have minimal : Minimal bytes := by
      apply minimal_of_shortest shortest.some
      intro other some same
      exact shortest.least other some (same.trans shortest.value)
    apply eq_of_minimal minimal (minimal_dropRedundant content)
    rw [shortest.value, toInt_dropRedundant]
  · rintro rfl
    refine ⟨dropRedundant_ne_nil content, toInt_dropRedundant content, ?_⟩
    intro other some same
    apply length_le_of_minimal (minimal_dropRedundant content) some
    rw [same, toInt_dropRedundant]

namespace Integer

theorem toInt_ofUnsigned (m : Bytes) : (ofUnsigned m).toInt = m.toNat := by
  rw [ofUnsigned, toInt_ofSigned, toInt_cons]
  simp [signed]

theorem toInt_ofUInt64 (value : UInt64) : (ofUInt64 value).toInt = value.toNat := by
  have fits : value.toNat < 256 ^ 8 := value.toNat_lt
  rw [ofUInt64, toInt_ofUnsigned, Bytes.toNat_ofNat, Nat.mod_eq_of_lt fits]

theorem eq_iff_toInt_eq (x y : Integer) : x = y ↔ x.toInt = y.toInt := by
  constructor
  · rintro rfl
    rfl
  · exact toInt_injective

theorem trimmed_of_magnitude {x : Integer} {m : Bytes} (magnitude : x.magnitude? = some m) :
    Trimmed m := by
  obtain ⟨_, lead, rest, rfl, leading⟩ := magnitude?_spec magnitude
  by_cases zero : lead = 0
  · left
    rw [zero, leading zero]
  · exact .inr ⟨lead, rest, rfl, zero⟩

/-- A sign byte is added to a trimmed magnitude only where its first byte would be taken for
a negative one. -/
theorem bytes_ofUnsigned {m : Bytes} (trimmed : Trimmed m) :
    (ofUnsigned m).bytes = if 0x80 ≤ m.headD 0 then 0 :: m else m := by
  change dropRedundant (0 :: m) = _
  rcases trimmed with rfl | ⟨lead, rest, rfl, nonzero⟩
  · rfl
  rw [List.headD_cons]
  by_cases high : 0x80 ≤ lead
  · have needed : Minimal (0 :: lead :: rest) := by simp [Minimal, redundant, UInt8.not_lt.mpr high]
    rw [if_pos high, dropRedundant_of_minimal needed]
  · have low : lead < 0x80 := UInt8.not_le.mp high
    have repeated : redundant 0 lead = true := by simp [redundant, low]
    have minimal : Minimal (lead :: rest) := by
      cases rest with
      | nil => trivial
      | cons next rest =>
        have small : lead ≠ 0xff := by
          rintro rfl
          exact absurd low (by decide)
        simp [Minimal, redundant, nonzero, small]
    rw [if_neg high, dropRedundant, if_pos repeated, dropRedundant_of_minimal minimal]

theorem magnitude?_ofUnsigned {m : Bytes} (trimmed : Trimmed m) :
    (ofUnsigned m).magnitude? = some m := by
  have bytes := bytes_ofUnsigned trimmed
  rcases trimmed with rfl | ⟨lead, rest, rfl, nonzero⟩
  · rfl
  rw [List.headD_cons] at bytes
  by_cases high : 0x80 ≤ lead
  · rw [if_pos high] at bytes
    simp [magnitude?, isNegative, bytes]
  · rw [if_neg high] at bytes
    simp [magnitude?, isNegative, bytes, high, nonzero]

theorem magnitude?_eq_some_iff (x : Integer) (m : Bytes) :
    x.magnitude? = some m ↔ ofUnsigned m = x ∧ Trimmed m := by
  constructor
  · intro magnitude
    have value := (magnitude?_spec magnitude).1
    refine ⟨toInt_injective ?_, trimmed_of_magnitude magnitude⟩
    rw [toInt_ofUnsigned, value]
  · rintro ⟨rfl, trimmed⟩
    exact magnitude?_ofUnsigned trimmed

theorem exists_magnitude {x : Integer} (nonneg : 0 ≤ x.toInt) :
    ∃ m, x.magnitude? = some m ∧ (m.toNat : Int) = x.toInt := by
  cases magnitude : x.magnitude? with
  | none =>
    have negative := x.magnitude?_eq_none_iff.mp magnitude
    omega
  | some m => exact ⟨m, rfl, (magnitude?_spec magnitude).1⟩

end Integer

theorem digits_eq_log2 {n : Nat} (positive : n ≠ 0) : (Nat.digits 2 n).length = n.log2 + 1 := by
  rw [Nat.length_digits 2 n (by decide) positive, Nat.log2_eq_log_two]

theorem digits_shift {high low width : Nat} (positive : high ≠ 0) (small : low < 2 ^ width) :
    (Nat.digits 2 (high * 2 ^ width + low)).length = (Nat.digits 2 high).length + width := by
  have some : high * 2 ^ width + low ≠ 0 := by
    have power := Nat.two_pow_pos width
    have product := Nat.mul_pos (Nat.pos_of_ne_zero positive) power
    omega
  obtain ⟨least, most⟩ := (Nat.log2_eq_iff positive).mp rfl
  have above := Nat.mul_le_mul_right (2 ^ width) least
  have below := Nat.mul_le_mul_right (2 ^ width) (Nat.succ_le_of_lt most)
  have log : (high * 2 ^ width + low).log2 = high.log2 + width := by
    rw [Nat.log2_eq_iff some]
    rw [← pow_add] at above below
    rw [Nat.succ_mul] at below
    rw [show high.log2 + width + 1 = high.log2 + 1 + width by omega]
    omega
  rw [digits_eq_log2 some, digits_eq_log2 positive, log]
  omega

/-- Every byte after the first counts eight digits. -/
theorem digits_of_trimmed {lead : UInt8} {rest : Bytes} (trimmed : Trimmed (lead :: rest)) :
    (Nat.digits 2 (Bytes.toNat (lead :: rest))).length =
      (Nat.digits 2 lead.toNat).length + 8 * rest.length := by
  have power : 256 ^ rest.length = 2 ^ (8 * rest.length) := (pow_mul 2 8 rest.length).symm
  rcases trimmed with zero | ⟨_, _, same, nonzero⟩
  · obtain ⟨rfl, rfl⟩ := List.cons.inj zero
    rfl
  · obtain ⟨rfl, rfl⟩ := List.cons.inj same
    rw [toNat_cons, power]
    have positive : lead.toNat ≠ 0 := fun zero => nonzero (UInt8.toNat_inj.mp zero)
    exact digits_shift positive (power ▸ toNat_lt rest)

/-- What stands above the highest bit of a byte does not count. -/
theorem digits_byte {b : UInt8} (nonzero : b ≠ 0) :
    (Nat.digits 2 b.toNat).length = 8 - b.toBitVec.clz.toNat := by
  have set : b.toBitVec ≠ 0#8 := fun zero => nonzero (UInt8.toBitVec_inj.mp zero)
  have positive : b.toNat ≠ 0 := fun zero => nonzero (UInt8.toNat_inj.mp zero)
  have above : b.toBitVec.clz.toNat < 8 := BitVec.lt_def.mp (BitVec.clz_lt_iff_ne_zero.mpr set)
  have least := BitVec.two_pow_sub_clz_le_toNat_of_ne_zero (by decide) set
  have most := BitVec.toNat_lt_two_pow_sub_clz (x := b.toBitVec)
  have log : b.toNat.log2 = 7 - b.toBitVec.clz.toNat := by
    rw [Nat.log2_eq_iff positive, show 7 - b.toBitVec.clz.toNat + 1 = 8 - b.toBitVec.clz.toNat by omega]
    exact ⟨least, most⟩
  rw [digits_eq_log2 positive, log]
  omega

namespace Integer

theorem bitLength_of_magnitude {x : Integer} {m : Bytes} (magnitude : x.magnitude? = some m) :
    x.bitLength = (Nat.digits 2 m.toNat).length := by
  rcases trimmed_of_magnitude magnitude with rfl | ⟨lead, rest, rfl, nonzero⟩
  · rw [bitLength, magnitude]
    rfl
  · have first : (lead :: rest).dropWhile (· == 0) = lead :: rest := by simp [nonzero]
    rw [digits_of_trimmed (trimmed_of_magnitude magnitude), digits_byte nonzero, Nat.add_comm]
    simp only [bitLength, magnitude, first]

theorem bitLength_of_nonneg {x : Integer} (nonneg : 0 ≤ x.toInt) :
    x.bitLength = (Nat.digits 2 x.toInt.toNat).length := by
  obtain ⟨m, magnitude, value⟩ := exists_magnitude nonneg
  have same : x.toInt.toNat = m.toNat := by omega
  rw [same, bitLength_of_magnitude magnitude]

/-- An integer is the one shortest spelling of its value, and what is asked of it is answered
from the value: its sign, its magnitude, the word it fits and its binary digits. -/
theorem known_by_value :
    (∀ content bytes : Bytes, Shortest content bytes ↔ bytes = (ofSigned content).bytes) ∧
    (∀ content : Bytes, (ofSigned content).toInt = content.toInt) ∧
    (∀ x y : Integer, x = y ↔ x.toInt = y.toInt) ∧
    (∀ m : Bytes, (ofUnsigned m).toInt = m.toNat) ∧
    (∀ value : UInt64, (ofUInt64 value).toInt = value.toNat) ∧
    ∀ x : Integer,
      (x.isNegative = true ↔ x.toInt < 0) ∧
      (x.magnitude? = none ↔ x.toInt < 0) ∧
      (∀ m, x.magnitude? = some m ↔ ofUnsigned m = x ∧ Trimmed m) ∧
      (∀ value, x.toUInt64? = some value ↔ x.toInt = value.toNat) ∧
      (0 ≤ x.toInt → x.bitLength = (Nat.digits 2 x.toInt.toNat).length) ∧
      ∀ lead rest, x.magnitude? = some (lead :: rest) →
        x.bitLength = (Nat.digits 2 lead.toNat).length + 8 * rest.length := by
  refine ⟨fun _ _ => shortest_iff, toInt_ofSigned, eq_iff_toInt_eq, toInt_ofUnsigned, toInt_ofUInt64, ?_⟩
  intro x
  refine ⟨x.isNegative_iff, x.magnitude?_eq_none_iff, x.magnitude?_eq_some_iff,
    x.toUInt64?_eq_some_iff, bitLength_of_nonneg, ?_⟩
  intro lead rest magnitude
  have value := (magnitude?_spec magnitude).1
  have nonneg : 0 ≤ x.toInt := value ▸ Int.natCast_nonneg _
  rw [bitLength_of_nonneg nonneg, ← value, Int.toNat_natCast]
  exact digits_of_trimmed (trimmed_of_magnitude magnitude)

/-- The first number of 64 digits, padded: the sign byte stays and the padding goes. -/
def padded : Bytes := [0, 0, 0x80, 0, 0, 0, 0, 0, 0, 0]

theorem known_by_value_of_padded :
    0 ≤ (ofSigned padded).toInt ∧ (ofSigned padded).magnitude? = some (0x80 :: List.replicate 7 0) ∧
      Shortest padded (0 :: 0x80 :: List.replicate 7 0) ∧
      (ofSigned padded).bitLength = (Nat.digits 2 (ofSigned padded).toInt.toNat).length ∧
      (ofSigned padded).bitLength = (Nat.digits 2 0x80).length + 8 * 7 := by
  have nonneg : 0 ≤ (ofSigned padded).toInt := by decide
  have magnitude : (ofSigned padded).magnitude? = some (0x80 :: List.replicate 7 0) := by decide
  obtain ⟨shortest, _, _, _, _, asked⟩ := known_by_value
  obtain ⟨_, _, _, _, digits, byBytes⟩ := asked (ofSigned padded)
  exact ⟨nonneg, magnitude, (shortest _ _).mpr rfl, digits nonneg, byBytes _ _ magnitude⟩

end Integer
end Der
end Throughput
