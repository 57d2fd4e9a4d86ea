import Throughput.Der.Strict
import Throughput.Proofs.Der.Integer
import Throughput.Proofs.Der.Length

/-! What strict reading takes from the front of canonical elements: nothing but the content
that was written. Long contents are refused, and are not misread. -/
namespace Throughput.Der.Strict

open Bytes (toNat_cons toInt_cons signed)

variable {tag wanted : UInt8} {content inside rest after : Bytes}

theorem longLength?_digits {least n : Nat} {digits : Bytes}
    (read : longLength? digits.length least (digits ++ rest) = some (n, after)) :
    n = digits.toNat ∧ after = rest := by
  simp only [longLength?, List.take_left, List.drop_left, Option.ite_none_right_eq_some,
    Option.some.injEq, Prod.mk.injEq] at read
  exact ⟨read.2.1.symm, read.2.2.symm⟩

theorem length?_encodeLength {n found : Nat} (fits : n < 2 ^ 32)
    (read : length? (encodeLength n ++ rest) = some (found, after)) : found = n ∧ after = rest := by
  by_cases small : n < 0x80
  · have byte : (UInt8.ofNat n).toNat = n := by
      rw [UInt8.toNat_ofNat']
      omega
    have short : UInt8.ofNat n < 0x80 := by
      rw [UInt8.lt_iff_toNat_lt, byte]
      exact small
    rw [encodeLength_short small, List.singleton_append, length?, if_pos short, byte] at read
    cases read
    exact ⟨rfl, rfl⟩
  · have width : (Bytes.ofNatMinimal n).length ≤ 4 := Bytes.length_ofNatMinimal_le fits
    have first : (UInt8.ofNat (0x80 + (Bytes.ofNatMinimal n).length)).toNat =
        0x80 + (Bytes.ofNatMinimal n).length := by
      rw [UInt8.toNat_ofNat']
      omega
    have value := Bytes.toNat_ofNatMinimal n
    rw [encodeLength_long small, List.cons_append, length?] at read
    generalize UInt8.ofNat (0x80 + (Bytes.ofNatMinimal n).length) = lead at first read
    have long : ¬ lead < 0x80 := by
      rw [UInt8.lt_iff_toNat_lt, first]
      exact Nat.not_lt.mpr (Nat.le_add_right ..)
    rw [if_neg long] at read
    split at read
    case isTrue one =>
      have single : 1 = (Bytes.ofNatMinimal n).length := by
        rw [one] at first
        exact Nat.add_left_cancel first
      rw [single] at read
      rw [← value]
      exact longLength?_digits read
    case isFalse =>
      split at read
      case isTrue two =>
        have double : 2 = (Bytes.ofNatMinimal n).length := by
          rw [two] at first
          exact Nat.add_left_cancel first
        rw [double] at read
        rw [← value]
        exact longLength?_digits read
      case isFalse => cases read

section

variable (fits : content.length < 2 ^ 32)
include fits

theorem next?_encodeElement {found : UInt8}
    (read : next? (encodeElement tag content ++ rest) = some (found, inside, after)) :
    found = tag ∧ inside = content ∧ after = rest := by
  rw [encodeElement, List.cons_append, List.cons_append, List.append_assoc, next?] at read
  split at read
  · cases read
  · split at read
    · cases read
    · rename_i n left lengthRead
      obtain ⟨rfl, rfl⟩ := length?_encodeLength fits lengthRead
      rw [if_pos (by simp), List.take_left, List.drop_left] at read
      cases read
      exact ⟨rfl, rfl, rfl⟩

theorem element?_encodeElement
    (read : element? wanted (encodeElement tag content ++ rest) = some (inside, after)) :
    tag = wanted ∧ inside = content ∧ after = rest := by
  rw [element?] at read
  split at read
  · rename_i found within left taken
    obtain ⟨rfl, rfl, rfl⟩ := next?_encodeElement fits taken
    simp only [Option.ite_none_right_eq_some, Option.some.injEq, Prod.mk.injEq] at read
    exact ⟨read.1, read.2.1.symm, read.2.2.symm⟩
  · cases read

theorem only?_encodeElement (read : only? wanted (encodeElement tag content) = some inside) :
    inside = content := by
  rw [only?] at read
  split at read
  · rename_i within taken
    cases read
    rw [← List.append_nil (encodeElement tag content)] at taken
    exact (element?_encodeElement fits taken).2.1
  · cases read

end

section

variable {x : Integer} (fits : x.bytes.length < 2 ^ 32)
include fits

theorem magnitude?_encode {m : Bytes} (read : magnitude? (x.encode ++ rest) = some (m, after)) :
    (m.toNat : Int) = x.toInt ∧ after = rest := by
  have bytes {within left : Bytes} (taken : element? 0x02 (x.encode ++ rest) = some (within, left)) :
      within = x.bytes ∧ left = rest := (element?_encodeElement fits taken).2
  rw [magnitude?] at read
  split at read
  · rename_i left taken
    obtain ⟨spelled, rfl⟩ := bytes taken
    cases read
    rw [Integer.toInt, ← spelled]
    exact ⟨rfl, rfl⟩
  · rename_i b others left taken
    obtain ⟨spelled, rfl⟩ := bytes taken
    simp only [Option.ite_none_right_eq_some, Option.some.injEq, Prod.mk.injEq] at read
    obtain ⟨_, rfl, rfl⟩ := read
    rw [Integer.toInt, ← spelled, toInt_cons]
    simp [signed]
  · rename_i b others left _ _ taken
    obtain ⟨spelled, rfl⟩ := bytes taken
    simp only [Option.ite_none_right_eq_some, Option.some.injEq, Prod.mk.injEq] at read
    obtain ⟨small, rfl, rfl⟩ := read
    rw [Integer.toInt, ← spelled, toInt_cons, toNat_cons, signed, if_pos small]
    push_cast
    exact ⟨rfl, rfl⟩
  · cases read

theorem natural?_encode {n : Nat} (read : natural? (x.encode ++ rest) = some (n, after)) :
    x.toInt = n ∧ after = rest := by
  simp only [natural?, Option.map_eq_some_iff, Prod.exists, Prod.mk.injEq] at read
  obtain ⟨m, left, taken, rfl, rfl⟩ := read
  obtain ⟨value, same⟩ := magnitude?_encode fits taken
  exact ⟨value.symm, same⟩

theorem small?_encode {b : UInt8} (read : small? (x.encode ++ rest) = some (b, after)) :
    after = rest := by
  rw [small?] at read
  split at read
  · rename_i taken
    cases read
    exact (magnitude?_encode fits taken).2
  · cases read

end

end Throughput.Der.Strict
