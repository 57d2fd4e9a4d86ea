import Mathlib.Algebra.Ring.Nat
import Mathlib.Data.List.Induction
import Throughput.Text.Digits

/-! Decimal digits of naturals: which characters they are, what zeros at their end say, and which
texts are read as a number. -/
namespace Throughput.Text

theorem isDigit_of_mem_toDigits {c : Char} {n : Nat} (member : c ∈ Nat.toDigits 10 n) :
    isDigit c = true :=
  Nat.isDigit_of_mem_toDigits (by decide) (by decide) member

theorem toDigits_eq_cons (n : Nat) : ∃ c rest, Nat.toDigits 10 n = c :: rest :=
  List.exists_cons_of_ne_nil Nat.toDigits_ne_nil

/-- Digits of a positive number do not start with a zero. -/
theorem toDigits_head_ne {n : Nat} (positive : 0 < n) {c : Char} {rest : List Char}
    (digits : Nat.toDigits 10 n = c :: rest) : c ≠ '0' := by
  induction n using Nat.base_induction 10 (by decide) generalizing c rest with
  | single m small =>
    rw [Nat.toDigits_of_lt_base small, List.cons.injEq] at digits
    rw [← digits.1, Ne, Nat.digitChar_eq_zero]
    omega
  | digit m k bound leads ih =>
    obtain ⟨d, tail, front⟩ := toDigits_eq_cons m
    rw [← Nat.toDigits_append_toDigits (by decide) leads bound, front, List.cons_append,
      List.cons.injEq] at digits
    exact digits.1 ▸ ih leads front

theorem toDigits_zero_head {n : Nat} (zero : (Nat.toDigits 10 n).head? = some '0') :
    Nat.toDigits 10 n = ['0'] := by
  rcases Nat.eq_zero_or_pos n with rfl | positive
  · rfl
  · obtain ⟨c, rest, front⟩ := toDigits_eq_cons n
    rw [front] at zero
    exact absurd (Option.some.inj zero) (toDigits_head_ne positive front)

/-- Ten times a positive number has one zero more. -/
theorem toDigits_mul_pow {n : Nat} (positive : 0 < n) (k : Nat) :
    Nat.toDigits 10 (n * 10 ^ k) = Nat.toDigits 10 n ++ List.replicate k '0' := by
  induction k with
  | zero => simp
  | succ k ih =>
    have more := Nat.toDigits_append_toDigits (b := 10) (d := 0) (by decide)
      (Nat.mul_pos positive (Nat.pow_pos (n := k) (by decide : 0 < 10))) (by decide)
    have times : 10 * (n * 10 ^ k) + 0 = n * 10 ^ (k + 1) := by
      rw [Nat.add_zero, Nat.pow_succ, Nat.mul_left_comm, Nat.mul_comm 10]
    rw [times, ih, Nat.toDigits_zero] at more
    rw [← more, List.append_assoc, List.replicate_succ']

/-- What digits add to a number does not lower it. -/
theorem le_ofDigitChars (digits : List Char) (n : Nat) : n ≤ Nat.ofDigitChars 10 digits n := by
  rw [Nat.ofDigitChars_eq_ofDigitChars_zero]
  exact Nat.le_trans (Nat.le_mul_of_pos_left n (Nat.pow_pos (by decide))) (Nat.le_add_right _ _)

/-- Digits end where something else follows. -/
theorem takeWhile_digits {digits rest : List Char} (all : ∀ c ∈ digits, isDigit c = true)
    (ends : ∀ c ∈ rest.head?, isDigit c = false) :
    (digits ++ rest).takeWhile isDigit = digits ∧ (digits ++ rest).dropWhile isDigit = rest := by
  have first : rest.takeWhile isDigit = [] ∧ rest.dropWhile isDigit = rest := by
    cases rest with
    | nil => exact ⟨rfl, rfl⟩
    | cons c rest =>
      have other := ends c rfl
      exact ⟨List.takeWhile_cons_of_neg (by simp [other]), List.dropWhile_cons_of_neg (by simp [other])⟩
  rw [List.takeWhile_append_of_pos all, List.dropWhile_append_of_pos all, first.1, first.2,
    List.append_nil]
  exact ⟨rfl, rfl⟩

theorem isDigit_iff {c : Char} : isDigit c = true ↔ 48 ≤ c.toNat ∧ c.toNat ≤ 57 := by
  simp [isDigit, Char.le_def, UInt32.le_iff_toNat_le]

theorem digitValue_of_isDigit {c : Char} (digit : isDigit c = true) :
    digitValue c < 10 ∧ Nat.toDigits 10 (digitValue c) = [c] := by
  obtain ⟨low, high⟩ := isDigit_iff.mp digit
  have small : digitValue c < 10 := by
    unfold digitValue
    omega
  refine ⟨small, ?_⟩
  rw [Nat.toDigits_of_lt_base small, List.cons.injEq, ← Char.toNat_inj, Nat.toNat_digitChar_of_lt_ten small, digitValue]
  exact ⟨by omega, rfl⟩

theorem ofDigits_eq (digits : List Char) : ofDigits digits = Nat.ofDigitChars 10 digits 0 := by
  simp only [ofDigits, Nat.ofDigitChars_eq_foldl, Nat.mul_comm 10]
  rfl

theorem ofDigits_concat (digits : List Char) (c : Char) :
    ofDigits (digits ++ [c]) = 10 * ofDigits digits + digitValue c := by
  rw [ofDigits, List.foldl_append, ← ofDigits, Nat.mul_comm]
  rfl

/-- The digits of a number after any zeros. -/
def padded (zeros n : Nat) : List Char := List.replicate zeros '0' ++ Nat.toDigits 10 n

theorem isDigit_of_mem_padded {zeros n : Nat} {c : Char} (member : c ∈ padded zeros n) : isDigit c = true := by
  rcases List.mem_append.mp member with zero | digit
  · rw [List.eq_of_mem_replicate zero]
    rfl
  · exact isDigit_of_mem_toDigits digit

theorem ofDigits_padded (zeros n : Nat) : ofDigits (padded zeros n) = n := by
  rw [ofDigits_eq, padded, Nat.ofDigitChars_append, Nat.ofDigitChars_replicate_zero, Nat.mul_zero]
  exact Nat.ofDigitChars_ten_toDigits

/-- One digit or more are those of the number that they spell, after some zeros. -/
theorem exists_padded {digits : List Char} (some : digits ≠ []) (all : ∀ c ∈ digits, isDigit c = true) :
    ∃ zeros, digits = padded zeros (ofDigits digits) := by
  induction digits using List.reverseRecOn with
  | nil => exact absurd rfl some
  | append_singleton front c ih =>
    obtain ⟨small, last⟩ := digitValue_of_isDigit (all c (by simp))
    rw [ofDigits_concat]
    by_cases first : front = []
    · subst first
      exact ⟨0, by simp [padded, ofDigits, last]⟩
    · obtain ⟨zeros, spelled⟩ := ih first fun d member => all d (by simp [member])
      rw [padded] at spelled
      rcases Nat.eq_zero_or_pos (ofDigits front) with zero | positive
      -- the number's own digit so far is one more zero before the last one
      · rw [zero, Nat.toDigits_zero, ← List.replicate_succ'] at spelled
        exact ⟨zeros + 1, by rw [zero, Nat.mul_zero, Nat.zero_add, padded, last, ← spelled]⟩
      · refine ⟨zeros, ?_⟩
        rw [padded, ← Nat.toDigits_append_toDigits (by decide) positive small, last, ← List.append_assoc, ← spelled]

theorem natural?_eq_some {digits : List Char} {n : Nat} :
    natural? digits = some n ↔ ∃ zeros, digits = padded zeros n := by
  constructor
  · intro read
    rw [natural?] at read
    split at read
    case isTrue => cases read
    case isFalse proper =>
      obtain ⟨some, all⟩ : digits ≠ [] ∧ ∀ c ∈ digits, isDigit c = true := by simpa using proper
      obtain rfl : ofDigits digits = n := Option.some.inj read
      exact exists_padded some all
  · rintro ⟨zeros, rfl⟩
    have some : padded zeros n ≠ [] := by simp [padded, Nat.toDigits_ne_nil]
    have all : ∀ c ∈ padded zeros n, isDigit c = true := fun c => isDigit_of_mem_padded
    rw [natural?, if_neg (by simpa [some] using all), ofDigits_padded]

/-- The digits of a number after any zeros, perhaps behind a plus. -/
inductive SpelledNatural (n : Nat) : List Char → Prop
  | bare (zeros : Nat) : SpelledNatural n (padded zeros n)
  | plus (zeros : Nat) : SpelledNatural n ('+' :: padded zeros n)

theorem below?_eq_some {bound n : Nat} {cs : List Char} :
    below? bound cs = some n ↔ SpelledNatural n cs ∧ n < bound := by
  have reads (digits : List Char) : (natural? digits).filter (· < bound) = some n ↔
      (∃ zeros, digits = padded zeros n) ∧ n < bound := by
    rw [Option.filter_eq_some_iff, natural?_eq_some, decide_eq_true_eq]
  constructor
  · intro read
    unfold below? at read
    split at read
    case h_1 digits =>
      obtain ⟨⟨zeros, rfl⟩, small⟩ := (reads digits).mp read
      exact ⟨.plus zeros, small⟩
    case h_2 =>
      obtain ⟨⟨zeros, rfl⟩, small⟩ := (reads _).mp read
      exact ⟨.bare zeros, small⟩
  · rintro ⟨spelled, small⟩
    cases spelled with
    | plus zeros => exact (reads _).mpr ⟨⟨zeros, rfl⟩, small⟩
    | bare zeros =>
      unfold below?
      split
      case h_1 digits plus =>
        have digit : isDigit '+' = true := isDigit_of_mem_padded (plus ▸ List.mem_cons_self)
        exact absurd digit (by decide)
      case h_2 => exact (reads _).mpr ⟨⟨zeros, rfl⟩, small⟩

end Throughput.Text
