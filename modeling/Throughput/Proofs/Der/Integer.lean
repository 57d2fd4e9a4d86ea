import Throughput.Der.Integer
import Throughput.Proofs.Bytes

/-! Shortest two's complement bytes are unique: they stand for their value, and no
other bytes of that value take less room. -/
namespace Throughput.Der

open Bytes (toNat_cons toNat_lt toInt_cons toInt_bounds signed signed_bounds)

theorem redundant_iff (lead next : UInt8) : redundant lead next = true ↔
    (lead = 0x00 ∧ next < 0x80) ∨ (lead = 0xff ∧ 0x80 ≤ next) := by
  simp [redundant]

theorem dropRedundant_ne_nil (bytes : Bytes) : dropRedundant bytes ≠ [] := by
  intro empty
  have minimal := minimal_dropRedundant bytes
  rw [empty] at minimal
  exact minimal

theorem length_dropRedundant_le {bytes : Bytes} (nonempty : bytes ≠ []) :
    (dropRedundant bytes).length ≤ bytes.length := by
  fun_induction dropRedundant bytes with
  | case1 => contradiction
  | case2 => exact Nat.le_refl _
  | case3 a b rest _ ih => exact Nat.le_succ_of_le (ih (by simp))
  | case4 => exact Nat.le_refl _

theorem dropRedundant_eq_self_iff {bytes : Bytes} :
    dropRedundant bytes = bytes ↔ Minimal bytes :=
  ⟨fun h => h ▸ minimal_dropRedundant bytes, dropRedundant_of_minimal⟩

/-- A byte that only repeats the sign carries no value. -/
theorem toInt_of_redundant {lead next : UInt8} (repeated : redundant lead next = true)
    (rest : Bytes) : Bytes.toInt (lead :: next :: rest) = Bytes.toInt (next :: rest) := by
  rw [toInt_cons, toInt_cons, toNat_cons, List.length_cons, pow_succ]
  rcases (redundant_iff lead next).mp repeated with ⟨rfl, small⟩ | ⟨rfl, large⟩
  · simp [signed, small]
  · have notSmall : ¬ next < 0x80 := UInt8.not_lt.mpr large
    simp only [signed, notSmall, UInt8.reduceLT, UInt8.reduceToNat, if_false]
    push_cast
    ring

@[simp] theorem toInt_dropRedundant (bytes : Bytes) :
    Bytes.toInt (dropRedundant bytes) = Bytes.toInt bytes := by
  fun_induction dropRedundant bytes with
  | case1 => rfl
  | case2 => rfl
  | case3 a b rest repeated ih => rw [ih, toInt_of_redundant repeated]
  | case4 => rfl

/-- What fits into a number of bytes after the first. -/
theorem toInt_range (lead : UInt8) (rest : Bytes) :
    -(128 * 256 ^ rest.length) ≤ Bytes.toInt (lead :: rest) ∧
      Bytes.toInt (lead :: rest) < 128 * 256 ^ rest.length := by
  have power : (0 : Int) < 256 ^ rest.length := Int.pow_pos (by decide)
  obtain ⟨low, high⟩ := signed_bounds lead
  obtain ⟨below, above⟩ := toInt_bounds lead rest
  have least := Int.mul_le_mul_of_nonneg_right low (Int.le_of_lt power)
  have most := Int.mul_le_mul_of_nonneg_right (show signed lead + 1 ≤ 128 by omega)
    (Int.le_of_lt power)
  constructor <;> omega

/-- Shortest bytes do not fit into one byte less. -/
theorem toInt_of_minimal {lead next : UInt8} {rest : Bytes}
    (minimal : Minimal (lead :: next :: rest)) :
    Bytes.toInt (lead :: next :: rest) < -(128 * 256 ^ rest.length) ∨
      128 * 256 ^ rest.length ≤ Bytes.toInt (lead :: next :: rest) := by
  have power : (0 : Int) < 256 ^ rest.length := Int.pow_pos (by decide)
  have tail : (Bytes.toNat rest : Int) < 256 ^ rest.length := by exact_mod_cast toNat_lt rest
  have needed := (redundant_iff lead next).not.mp (by simpa [Minimal] using minimal)
  have value : Bytes.toInt (lead :: next :: rest) =
      (256 * signed lead + next.toNat) * 256 ^ rest.length + Bytes.toNat rest := by
    rw [toInt_cons, toNat_cons, List.length_cons, pow_succ]
    push_cast
    ring
  have apart : 256 * signed lead + next.toNat < -128 ∨ 128 ≤ 256 * signed lead + next.toNat := by
    have boundLead := lead.toNat_lt
    have boundNext := next.toNat_lt
    simp only [← UInt8.toNat_inj, UInt8.lt_iff_toNat_lt, UInt8.le_iff_toNat_le,
      UInt8.reduceToNat] at needed
    simp only [signed, UInt8.lt_iff_toNat_lt, UInt8.reduceToNat]
    split <;> omega
  rw [value]
  rcases apart with negative | positive
  · left
    have most := Int.mul_le_mul_of_nonneg_right
      (show 256 * signed lead + next.toNat ≤ -129 by omega) (Int.le_of_lt power)
    omega
  · right
    have least := Int.mul_le_mul_of_nonneg_right positive (Int.le_of_lt power)
    omega

theorem length_le_of_minimal {bytes other : Bytes} (minimal : Minimal bytes)
    (nonempty : other ≠ []) (same : Bytes.toInt other = Bytes.toInt bytes) :
    bytes.length ≤ other.length := by
  match bytes, other, minimal with
  | [_], x :: xs, _ => simp
  | a :: b :: rest, x :: xs, minimal =>
    by_contra longer
    simp only [List.length_cons, Nat.not_le] at longer
    have powers : (256 : Int) ^ xs.length ≤ 256 ^ rest.length := by
      exact_mod_cast Nat.pow_le_pow_right (show 0 < 256 by decide)
        (show xs.length ≤ rest.length by omega)
    obtain ⟨low, high⟩ := toInt_range x xs
    rcases toInt_of_minimal minimal with small | large <;> omega

theorem eq_of_minimal {a b : Bytes} (minimalA : Minimal a) (minimalB : Minimal b)
    (same : Bytes.toInt a = Bytes.toInt b) : a = b := by
  have nonemptyA : a ≠ [] := by rintro rfl; exact minimalA
  have nonemptyB : b ≠ [] := by rintro rfl; exact minimalB
  have lengths := Nat.le_antisymm (length_le_of_minimal minimalA nonemptyB same.symm)
    (length_le_of_minimal minimalB nonemptyA same)
  exact Bytes.eq_of_toInt_eq lengths same

/-- Bytes are minimal when no shorter bytes have their value. -/
theorem minimal_of_shortest {bytes : Bytes} (nonempty : bytes ≠ [])
    (shortest : ∀ other ≠ [], Bytes.toInt other = Bytes.toInt bytes →
      bytes.length ≤ other.length) : Minimal bytes := by
  have lengths := Nat.le_antisymm (length_dropRedundant_le nonempty)
    (shortest _ (dropRedundant_ne_nil bytes) (toInt_dropRedundant bytes))
  exact dropRedundant_eq_self_iff.mp (Bytes.eq_of_toInt_eq lengths (toInt_dropRedundant bytes))

namespace Integer

@[simp] theorem toInt_ofSigned (bytes : Bytes) : (ofSigned bytes).toInt = bytes.toInt :=
  toInt_dropRedundant bytes

theorem toInt_injective {x y : Integer} (same : x.toInt = y.toInt) : x = y :=
  ext (eq_of_minimal x.minimal y.minimal same)

theorem bytes_ne_nil (x : Integer) : x.bytes ≠ [] := by
  intro empty
  have minimal := x.minimal
  rw [empty] at minimal
  exact minimal

theorem ofSigned_bytes (x : Integer) : ofSigned x.bytes = x :=
  ext (dropRedundant_of_minimal x.minimal)

/-- `x` is what `content` spells, in bytes that no other spelling undercuts. -/
def CanonicalForm (x : Integer) (content : Bytes) : Prop :=
  x.bytes.toInt = content.toInt ∧
    ∀ other ≠ [], Bytes.toInt other = content.toInt → x.bytes.length ≤ other.length

theorem canonicalForm_iff {x : Integer} {content : Bytes} :
    x.CanonicalForm content ↔ x = ofSigned content := by
  constructor
  · intro canonical
    exact toInt_injective (canonical.1.trans (toInt_ofSigned content).symm)
  · rintro rfl
    refine ⟨toInt_ofSigned content, fun other nonempty same => ?_⟩
    exact length_le_of_minimal (ofSigned content).minimal nonempty
      (same.trans (toInt_ofSigned content).symm)

theorem isNegative_iff (x : Integer) : x.isNegative = true ↔ x.toInt < 0 := by
  obtain ⟨lead, rest, bytes⟩ := List.exists_cons_of_ne_nil x.bytes_ne_nil
  have power : (0 : Int) < 256 ^ rest.length := Int.pow_pos (by decide)
  obtain ⟨low, high⟩ := toInt_bounds lead rest
  have sign : 0x80 ≤ lead ↔ signed lead < 0 := by
    have bound := lead.toNat_lt
    simp only [signed, UInt8.le_iff_toNat_le, UInt8.lt_iff_toNat_lt, UInt8.reduceToNat]
    split <;> omega
  rw [isNegative, toInt, bytes, List.headD_cons, decide_eq_true_iff, sign]
  constructor
  · intro negative
    have most := Int.mul_le_mul_of_nonneg_right (show signed lead + 1 ≤ 0 by omega)
      (Int.le_of_lt power)
    omega
  · intro negative
    by_contra nonneg
    have least := Int.mul_le_mul_of_nonneg_right (show 0 ≤ signed lead by omega)
      (Int.le_of_lt power)
    omega

theorem magnitude?_eq_none_iff (x : Integer) : x.magnitude? = none ↔ x.toInt < 0 := by
  rw [← isNegative_iff, magnitude?]
  split
  · simp_all
  · split <;> simp_all

/-- A magnitude spells the value, with no zero byte in front of others. -/
theorem magnitude?_spec {x : Integer} {m : Bytes} (h : x.magnitude? = some m) :
    (m.toNat : Int) = x.toInt ∧ ∃ lead rest, m = lead :: rest ∧ (lead = 0 → rest = []) := by
  have nonneg : x.isNegative = false := by
    cases negative : x.isNegative <;> simp_all [magnitude?]
  simp only [magnitude?, nonneg, Bool.false_eq_true, if_false] at h
  have minimal := x.minimal
  split at h
  · rename_i b rest bytes
    cases h
    rw [bytes] at minimal
    have high : ¬ b < 0x80 := by simpa [Minimal, redundant] using minimal
    refine ⟨?_, b, rest, rfl, fun zero => absurd (zero ▸ (by decide)) high⟩
    rw [toInt, bytes, toInt_cons]
    simp [signed]
  · rename_i bytes other
    cases h
    obtain ⟨lead, rest, split⟩ := List.exists_cons_of_ne_nil x.bytes_ne_nil
    have small : lead < 0x80 := by
      simpa [isNegative, split, UInt8.not_le] using nonneg
    refine ⟨?_, lead, rest, split, fun zero => ?_⟩
    · rw [toInt, split, toInt_cons, toNat_cons, signed, if_pos small]
      push_cast
      rfl
    · cases rest with
      | nil => rfl
      | cons b rest => exact absurd (zero ▸ split) (other b rest)

theorem toUInt64?_eq_some_iff (x : Integer) (value : UInt64) :
    x.toUInt64? = some value ↔ x.toInt = value.toNat := by
  have bound := value.toNat_lt
  cases magnitude : x.magnitude? with
  | none =>
    have negative := x.magnitude?_eq_none_iff.mp magnitude
    simp only [toUInt64?, magnitude, reduceCtorEq, false_iff]
    omega
  | some m =>
    obtain ⟨spells, lead, rest, rfl, leading⟩ := magnitude?_spec magnitude
    simp only [toUInt64?, magnitude, Option.ite_none_right_eq_some, Option.some.injEq,
      ← UInt64.toNat_inj, UInt64.toNat_ofNat', ← spells]
    constructor
    · rintro ⟨fits, same⟩
      have small : Bytes.toNat (lead :: rest) < 256 ^ 8 :=
        Nat.lt_of_lt_of_le (toNat_lt _) (Nat.pow_le_pow_right (by decide) fits)
      omega
    · intro same
      have value_eq : Bytes.toNat (lead :: rest) = value.toNat := by exact_mod_cast same
      refine ⟨?_, by omega⟩
      by_contra wide
      simp only [List.length_cons, Nat.not_le] at wide
      have positive : 0 < lead.toNat := by
        apply Nat.pos_of_ne_zero
        intro zero
        simp [leading (UInt8.toNat_inj.mp zero)] at wide
      have power : 256 ^ 8 ≤ 256 ^ rest.length := Nat.pow_le_pow_right (by decide) (by omega)
      have least := Nat.mul_le_mul positive power
      rw [toNat_cons] at value_eq
      omega

theorem toUInt64?_eq_zero_iff (x : Integer) : x.toUInt64? = some 0 ↔ x.toInt = 0 :=
  x.toUInt64?_eq_some_iff 0

end Integer
end Throughput.Der
