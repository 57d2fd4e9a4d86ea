import Throughput.Bytes
import Mathlib.Tactic.Ring

/-! What byte strings spell, unsigned and in two's complement, and which strings spell
the same. Values of strings of one length are distinct; across lengths only leading
bytes that repeat the sign make a difference. -/
namespace Throughput.Bytes

@[simp] theorem toNat_nil : toNat [] = 0 := rfl

theorem foldl_shift (bytes : Bytes) (n : Nat) :
    bytes.foldl (fun n b => n * 256 + b.toNat) n = n * 256 ^ bytes.length + toNat bytes := by
  induction bytes generalizing n with
  | nil => simp
  | cons b rest ih =>
    have tail : toNat (b :: rest) = b.toNat * 256 ^ rest.length + toNat rest := by
      rw [toNat, List.foldl_cons, ih]
      simp
    rw [List.foldl_cons, ih, tail, List.length_cons, pow_succ]
    ring

theorem toNat_cons (b : UInt8) (rest : Bytes) :
    toNat (b :: rest) = b.toNat * 256 ^ rest.length + toNat rest := by
  rw [toNat, List.foldl_cons, foldl_shift]
  simp

theorem toNat_append (front back : Bytes) :
    toNat (front ++ back) = toNat front * 256 ^ back.length + toNat back := by
  rw [toNat, List.foldl_append, foldl_shift]
  rfl

theorem toNat_lt (bytes : Bytes) : toNat bytes < 256 ^ bytes.length := by
  induction bytes with
  | nil => simp
  | cons b rest ih =>
    have bound : b.toNat + 1 ≤ 256 := b.toNat_lt
    have grow := Nat.mul_le_mul_right (256 ^ rest.length) bound
    rw [toNat_cons, List.length_cons, pow_succ, Nat.mul_comm _ 256]
    rw [Nat.add_mul] at grow
    omega

theorem eq_of_toNat_eq {a b : Bytes} (sameLength : a.length = b.length)
    (sameValue : toNat a = toNat b) : a = b := by
  induction a generalizing b with
  | nil => exact (List.length_eq_zero_iff.mp sameLength.symm).symm
  | cons x xs ih =>
    cases b with
    | nil => simp at sameLength
    | cons y ys =>
      have tails : xs.length = ys.length := by simpa using sameLength
      rw [toNat_cons, toNat_cons, tails] at sameValue
      have boundX : toNat xs < 256 ^ ys.length := tails ▸ toNat_lt xs
      have boundY := toNat_lt ys
      have heads : x.toNat = y.toNat := by
        have quotients := congrArg (· / 256 ^ ys.length) sameValue
        simpa [Nat.mul_comm, Nat.mul_add_div, Nat.div_eq_of_lt boundX, Nat.div_eq_of_lt boundY]
          using quotients
      rw [heads] at sameValue
      rw [UInt8.toNat_inj.mp heads, ih tails (by omega)]

theorem ofNatMinimal_zero : ofNatMinimal 0 = [] := by rw [ofNatMinimal]; rfl

theorem ofNatMinimal_pos {n : Nat} (positive : n ≠ 0) :
    ofNatMinimal n = ofNatMinimal (n / 256) ++ [UInt8.ofNat n] := by
  rw [ofNatMinimal, if_neg positive]

@[simp] theorem toNat_ofNatMinimal (n : Nat) : toNat (ofNatMinimal n) = n := by
  fun_induction ofNatMinimal n with
  | case1 => rfl
  | case2 n positive ih =>
    rw [toNat_append, ih]
    simp [toNat]
    omega

theorem length_ofNatMinimal_le {n width : Nat} (fits : n < 256 ^ width) :
    (ofNatMinimal n).length ≤ width := by
  induction width generalizing n with
  | zero =>
    have zero : n = 0 := by simpa using fits
    simp [zero, ofNatMinimal_zero]
  | succ width ih =>
    by_cases zero : n = 0
    · simp [zero, ofNatMinimal_zero]
    · have shorter : n / 256 < 256 ^ width := by
        rw [pow_succ] at fits
        exact Nat.div_lt_of_lt_mul (Nat.mul_comm .. ▸ fits)
      rw [ofNatMinimal_pos zero]
      simpa using ih shorter

theorem ofNatMinimal_ne_nil {n : Nat} (positive : n ≠ 0) : ofNatMinimal n ≠ [] := by
  simp [ofNatMinimal_pos positive]

/-- No bytes spell a number in less room. -/
theorem length_ofNatMinimal_toNat_le (bytes : Bytes) :
    (ofNatMinimal (toNat bytes)).length ≤ bytes.length :=
  length_ofNatMinimal_le (toNat_lt bytes)

/-- The value of a first byte, with its sign. -/
def signed (lead : UInt8) : Int := if lead < 0x80 then lead.toNat else lead.toNat - 256

theorem signed_bounds (lead : UInt8) : -128 ≤ signed lead ∧ signed lead < 128 := by
  have bound := lead.toNat_lt
  simp only [signed, UInt8.lt_iff_toNat_lt, UInt8.reduceToNat]
  split <;> omega

theorem signed_injective {a b : UInt8} (h : signed a = signed b) : a = b := by
  have boundA := a.toNat_lt
  have boundB := b.toNat_lt
  apply UInt8.toNat_inj.mp
  simp only [signed, UInt8.lt_iff_toNat_lt, UInt8.reduceToNat] at h
  split at h <;> split at h <;> omega

theorem toInt_cons (lead : UInt8) (rest : Bytes) :
    toInt (lead :: rest) = signed lead * 256 ^ rest.length + toNat rest := by
  have power : (Nat.pow 256 (lead :: rest).length : Int) = 256 * 256 ^ rest.length := by
    change ((256 ^ (rest.length + 1) : Nat) : Int) = _
    push_cast
    ring
  simp only [toInt, signed]
  split
  · rw [toNat_cons]
    push_cast
    rfl
  · rw [toNat_cons, power]
    push_cast
    ring

theorem toInt_bounds (lead : UInt8) (rest : Bytes) :
    signed lead * 256 ^ rest.length ≤ toInt (lead :: rest) ∧
      toInt (lead :: rest) < (signed lead + 1) * 256 ^ rest.length := by
  have bound : (toNat rest : Int) < 256 ^ rest.length := by exact_mod_cast toNat_lt rest
  rw [toInt_cons, Int.add_mul]
  omega

theorem eq_of_toInt_eq {a b : Bytes} (sameLength : a.length = b.length)
    (sameValue : toInt a = toInt b) : a = b := by
  cases a with
  | nil => exact (List.length_eq_zero_iff.mp sameLength.symm).symm
  | cons x xs =>
    cases b with
    | nil => simp at sameLength
    | cons y ys =>
      have tails : xs.length = ys.length := by simpa using sameLength
      have power : (0 : Int) < 256 ^ ys.length := Int.pow_pos (by decide)
      obtain ⟨lowX, highX⟩ := toInt_bounds x xs
      obtain ⟨lowY, highY⟩ := toInt_bounds y ys
      rw [tails, sameValue] at lowX highX
      have heads : signed x = signed y := by
        have up := Int.lt_of_mul_lt_mul_right (Int.lt_of_le_of_lt lowX highY) (Int.le_of_lt power)
        have down := Int.lt_of_mul_lt_mul_right (Int.lt_of_le_of_lt lowY highX) (Int.le_of_lt power)
        omega
      rw [toInt_cons, toInt_cons, heads, tails] at sameValue
      have values : toNat xs = toNat ys := by exact_mod_cast add_left_cancel sameValue
      rw [signed_injective heads, eq_of_toNat_eq tails values]

end Throughput.Bytes
