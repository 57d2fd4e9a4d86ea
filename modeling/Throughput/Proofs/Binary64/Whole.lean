import Throughput.Binary64.Notation
import Throughput.Proofs.Text.Digits

/-! Whole numbers of at most 53 bits as floating point: they are held exactly, quotients that
are whole come out exactly, and they are written with their own digits. -/
namespace Throughput.Binary64

/-- The value is the whole number. -/
def Whole (x : Binary64) (n : Nat) : Prop :=
  ∃ places : Nat, x = finite false (n * 2 ^ places) (-(places : Int))

/-- The binary places that a whole number leaves of 53. -/
def places (n : Nat) : Nat := 52 - n.log2

theorem places_spec {n : Nat} (positive : 0 < n) (small : n < 2 ^ 53) :
    n.log2 + places n = 52 ∧ 2 ^ 52 ≤ n * 2 ^ places n ∧ n * 2 ^ places n < 2 ^ 53 := by
  have nonzero : n ≠ 0 := Nat.pos_iff_ne_zero.mp positive
  have bits : n.log2 < 53 := (Nat.log2_lt nonzero).mpr small
  have sum : n.log2 + places n = 52 := by
    rw [places]
    omega
  have least : 2 ^ n.log2 ≤ n := Nat.log2_self_le nonzero
  have most : n < 2 ^ (n.log2 + 1) := Nat.lt_log2_self
  refine ⟨sum, ?_, ?_⟩
  · calc 2 ^ 52 = 2 ^ n.log2 * 2 ^ places n := by rw [← Nat.pow_add, sum]
      _ ≤ n * 2 ^ places n := Nat.mul_le_mul_right _ least
  · calc n * 2 ^ places n < 2 ^ (n.log2 + 1) * 2 ^ places n :=
          Nat.mul_lt_mul_of_pos_right most (Nat.two_pow_pos _)
      _ = 2 ^ 53 := by rw [← Nat.pow_add, Nat.add_right_comm, sum]

theorem log2_mul_bounds {v d : Nat} (positive : 0 < v) (unit : 0 < d) :
    v.log2 + d.log2 ≤ (v * d).log2 ∧ (v * d).log2 ≤ v.log2 + d.log2 + 1 := by
  have first : v ≠ 0 := Nat.pos_iff_ne_zero.mp positive
  have second : d ≠ 0 := Nat.pos_iff_ne_zero.mp unit
  have product : v * d ≠ 0 := Nat.mul_ne_zero first second
  constructor
  · rw [Nat.le_log2 product, Nat.pow_add]
    exact Nat.mul_le_mul (Nat.log2_self_le first) (Nat.log2_self_le second)
  · rw [← Nat.lt_succ_iff, Nat.log2_lt product]
    calc v * d < 2 ^ (v.log2 + 1) * 2 ^ (d.log2 + 1) := Nat.mul_lt_mul'' Nat.lt_log2_self Nat.lt_log2_self
      _ = 2 ^ (v.log2 + d.log2 + 1).succ := by
        rw [← Nat.pow_add]
        congr 1
        omega

theorem divHalfEven_mul (q : Nat) {d : Nat} (unit : 0 < d) : divHalfEven (q * d) d = q := by
  simp [divHalfEven, Nat.mul_div_cancel q unit, unit]

section

variable {v d : Nat} (positive : 0 < v) (small : v < 2 ^ 53) (unit : 0 < d)
include positive small unit

/-- The guess from the sizes is right, or one too much. -/
theorem fittingExponent_mul : fittingExponent (v * d) d = -(places v : Int) := by
  obtain ⟨sum, least, most⟩ := places_spec positive small
  obtain ⟨low, high⟩ := log2_mul_bounds positive unit
  have guess : max minExponent (((v * d).log2 : Int) - d.log2 - 52) = -(places v : Int) ∨
      max minExponent (((v * d).log2 : Int) - d.log2 - 52) = -(places v : Int) + 1 := by
    simp only [minExponent]
    omega
  have half : significandBound / 2 = 2 ^ 52 := by decide
  have order (n : Nat) : v * d * n = v * n * d := Nat.mul_right_comm v d n
  simp only [fittingExponent, scaleBy, half, Nat.pow_eq]
  rcases guess with right | above
  · have enough : v * d * 2 ^ places v / d = v * 2 ^ places v := by
      rw [order, Nat.mul_div_cancel _ unit]
    have up : (- -(places v : Int)).toNat = places v := by omega
    have down : (-(places v : Int)).toNat = 0 := by omega
    rw [right, up, down, Nat.pow_zero, Nat.mul_one, enough, if_neg (by omega)]
  · -- With no place left the guess is 1, which halves the number.
    have few : v * d * 2 ^ (-(-(places v : Int) + 1)).toNat / (d * 2 ^ (-(places v : Int) + 1).toNat) <
        2 ^ 52 := by
      cases none : places v with
      | zero =>
        rw [none, Nat.pow_zero, Nat.mul_one] at most
        have up : (-(-((0 : Nat) : Int) + 1)).toNat = 0 := rfl
        have down : (-((0 : Nat) : Int) + 1).toNat = 1 := rfl
        rw [up, down, Nat.pow_zero, Nat.mul_one, Nat.pow_one, Nat.mul_comm d 2,
          Nat.mul_div_mul_right _ _ unit]
        omega
      | succ k =>
        rw [none, Nat.pow_succ, ← Nat.mul_assoc] at most
        have up : (-(-((k + 1 : Nat) : Int) + 1)).toNat = k := by omega
        have down : (-((k + 1 : Nat) : Int) + 1).toNat = 0 := by omega
        rw [up, down, Nat.pow_zero, Nat.mul_one, order, Nat.mul_div_cancel _ unit]
        omega
    have next : max minExponent (-(places v : Int) + 1 - 1) = -(places v : Int) := by
      simp only [minExponent]
      omega
    rw [above, if_pos few, next]

/-- A quotient that is whole is rounded to itself. -/
theorem ofRatio_mul : ofRatio false (v * d) d = finite false (v * 2 ^ places v) (-(places v : Int)) := by
  obtain ⟨sum, least, most⟩ := places_spec positive small
  have nonzero : ¬ v * d = 0 := Nat.pos_iff_ne_zero.mp (Nat.mul_pos positive unit)
  have up : (- -(places v : Int)).toNat = places v := by omega
  have down : (-(places v : Int)).toNat = 0 := by omega
  have exact_ : divHalfEven (v * d * 2 ^ places v) d = v * 2 ^ places v := by
    rw [Nat.mul_right_comm, divHalfEven_mul _ unit]
  have fits : ¬ v * 2 ^ places v = significandBound := by
    simp only [significandBound]
    omega
  have finite_ : ¬ maxExponent < -(places v : Int) := by
    simp only [maxExponent]
    omega
  simp only [ofRatio, if_neg nonzero, fittingExponent_mul positive small unit, scaleBy, Nat.pow_eq, up,
    down, Nat.pow_zero, Nat.mul_one, exact_, if_neg fits, if_neg finite_]

end

theorem ofNat_eq {n : Nat} (positive : 0 < n) (small : n < 2 ^ 53) :
    ofNat n = finite false (n * 2 ^ places n) (-(places n : Int)) := by
  have quotient := ofRatio_mul positive small (d := 1) (by decide)
  rwa [Nat.mul_one] at quotient

theorem ofNat_zero : ofNat 0 = zero false := rfl

/-- Nothing of a whole number is lost. -/
theorem whole_ofNat {n : Nat} (small : n < 2 ^ 53) : (ofNat n).Whole n := by
  rcases Nat.eq_zero_or_pos n with rfl | positive
  · obtain ⟨k, least⟩ : ∃ k : Nat, minExponent = -(k : Int) := ⟨1074, rfl⟩
    exact ⟨k, by rw [ofNat_zero, zero, Nat.zero_mul, least]⟩
  · exact ⟨places n, ofNat_eq positive small⟩

/-- One value is one whole number. -/
theorem Whole.unique {x : Binary64} {n k : Nat} (first : x.Whole n) (second : x.Whole k) : n = k := by
  obtain ⟨a, rfl⟩ := first
  obtain ⟨b, same⟩ := second
  simp only [finite.injEq, true_and] at same
  obtain ⟨significands, exponents⟩ := same
  have places : a = b := by omega
  rw [places] at significands
  exact Nat.eq_of_mul_eq_mul_right (Nat.two_pow_pos b) significands

/-- Division undoes multiplication by a whole number. -/
theorem divMagnitude_ofNat {v b : Nat} (unit : 0 < b) (small : v * b < 2 ^ 53) (few : b < 2 ^ 53) :
    (ofNat (v * b)).divMagnitude (ofNat b) = ofNat v := by
  have nonzero (t : Nat) : ¬ b * 2 ^ t = 0 :=
    Nat.pos_iff_ne_zero.mp (Nat.mul_pos unit (Nat.two_pow_pos t))
  rcases Nat.eq_zero_or_pos v with rfl | positive
  · rw [Nat.zero_mul, ofNat_eq unit few, ofNat_zero, zero, divMagnitude, if_neg (nonzero _),
      Nat.zero_mul, ofRatio, if_pos rfl]
    rfl
  · have low : v < 2 ^ 53 := Nat.lt_of_le_of_lt (Nat.le_mul_of_pos_right v unit) small
    rw [ofNat_eq (Nat.mul_pos positive unit) small, ofNat_eq unit few, ofNat_eq positive low,
      divMagnitude, if_neg (nonzero _)]
    generalize places (v * b) = s
    generalize places b = t
    -- The exponents differ by as much as one of the two sides is shifted.
    have shifts : s + (-(s : Int) - -(t : Int)).toNat = t + (-(t : Int) - -(s : Int)).toNat := by
      omega
    generalize (-(s : Int) - -(t : Int)).toNat = k at shifts
    generalize (-(t : Int) - -(s : Int)).toNat = l at shifts
    have times : v * b * 2 ^ s * Nat.pow 2 k = v * (b * 2 ^ t * Nat.pow 2 l) := by
      rw [Nat.pow_eq, Nat.pow_eq, Nat.mul_assoc (v * b), ← Nat.pow_add, shifts, Nat.pow_add,
        Nat.mul_assoc v, Nat.mul_assoc b]
    have den : 0 < b * 2 ^ t * Nat.pow 2 l :=
      Nat.mul_pos (Nat.mul_pos unit (Nat.two_pow_pos t)) (Nat.two_pow_pos l)
    rw [times, ofRatio_mul positive low den]

theorem Interval.has_of_lt {i : Interval} {n d : Nat} (above : i.low * d < n)
    (below : n < i.high * d) : i.has n d = true := by
  unfold Interval.has
  split <;> simp [above, below, Nat.le_of_lt]

theorem Interval.le_of_has {i : Interval} {n d : Nat} (inside : i.has n d = true) :
    i.low * d ≤ n ∧ n ≤ i.high * d := by
  unfold Interval.has at inside
  split at inside
  · simpa using inside
  · simp only [Bool.and_eq_true, decide_eq_true_eq] at inside
    exact ⟨Nat.le_of_lt inside.1, Nat.le_of_lt inside.2⟩

section

variable {v : Nat} (positive : 0 < v)
include positive

/-- In the units of an interval around a whole number, another one is four away at least, and
the ends are two away at most. -/
theorem has_interval_iff (s w : Nat) :
    (interval (v * 2 ^ s) (-(s : Int))).has (w * 2 ^ (s + 2)) 1 = true ↔ w = v := by
  have unit : 4 ≤ 2 ^ (s + 2) := by
    rw [Nat.pow_add]
    exact Nat.le_mul_of_pos_left 4 (Nat.two_pow_pos s)
  have value : 4 * (v * 2 ^ s) = v * 2 ^ (s + 2) := by
    rw [Nat.pow_add, Nat.mul_comm 4, Nat.mul_assoc]
  have most : 2 ^ (s + 2) ≤ v * 2 ^ (s + 2) := Nat.le_mul_of_pos_left _ positive
  obtain ⟨low, near, less, high⟩ : ∃ low, v * 2 ^ (s + 2) ≤ low + 2 ∧ low < v * 2 ^ (s + 2) ∧
      interval (v * 2 ^ s) (-(s : Int)) =
        ⟨low, v * 2 ^ (s + 2), v * 2 ^ (s + 2) + 2, v * 2 ^ s % 2 == 0⟩ := by
    refine ⟨_, ?_, ?_, by rw [interval, value]⟩ <;> split <;> omega
  rw [high]
  constructor
  · intro inside
    have ends := Interval.le_of_has inside
    simp only [Nat.mul_one] at ends
    rcases Nat.lt_trichotomy w v with below | same | above
    · have apart := Nat.mul_le_mul_right (2 ^ (s + 2)) below
      rw [Nat.succ_mul] at apart
      omega
    · exact same
    · have apart := Nat.mul_le_mul_right (2 ^ (s + 2)) above
      rw [Nat.succ_mul] at apart
      omega
  · rintro rfl
    apply Interval.has_of_lt <;> simp only [Nat.mul_one] <;> omega

/-- On a grid of a power of ten, only the number itself can be found. -/
theorem onGrid?_interval (s : Nat) (tie : Tie) {p : Nat} (power : 0 < p) :
    (interval (v * 2 ^ s) (-(s : Int))).onGrid? tie (p * 2 ^ (s + 2)) 1 =
      if p ∣ v then some (v / p) else none := by
  have found (k : Nat) : (k != 0 && (interval (v * 2 ^ s) (-(s : Int))).has (k * (p * 2 ^ (s + 2))) 1) =
      decide (k * p = v) := by
    rw [← Nat.mul_assoc, Bool.eq_iff_iff, Bool.and_eq_true, has_interval_iff positive,
      decide_eq_true_iff, bne_iff_ne, and_iff_right_iff_imp]
    rintro same rfl
    rw [Nat.zero_mul] at same
    exact absurd same (Nat.ne_of_lt positive)
  have below : (interval (v * 2 ^ s) (-(s : Int))).value * 1 / (p * 2 ^ (s + 2)) = v / p := by
    have value : (interval (v * 2 ^ s) (-(s : Int))).value = v * 2 ^ (s + 2) := by
      rw [interval, Nat.pow_add, Nat.mul_comm 4, Nat.mul_assoc]
    rw [value, Nat.mul_one, Nat.mul_div_mul_right _ _ (Nat.two_pow_pos _)]
  simp only [Interval.onGrid?, below, found]
  by_cases divides : p ∣ v
  · have itself : v / p * p = v := Nat.div_mul_cancel divides
    have next : ¬ (v / p + 1) * p = v := by
      rw [Nat.succ_mul, itself]
      omega
    simp [itself, next, divides]
  · have other (k : Nat) : ¬ k * p = v := fun same => divides (same ▸ Nat.dvd_mul_left p k)
    simp [other, divides]

/-- A search from a power of ten downwards finds the number at the first power that divides it. -/
theorem search_interval (s : Nat) (tie : Tie) {fuel k : Nat} (enough : k < fuel) :
    ∃ j : Nat, 10 ^ j ∣ v ∧
      search (interval (v * 2 ^ s) (-(s : Int))) tie (-(s : Int) - 2) fuel k = ⟨v / 10 ^ j, (j : Int)⟩ := by
  induction fuel generalizing k with
  | zero => exact absurd enough (Nat.not_lt_zero k)
  | succ fuel ih =>
    have grid : Nat.pow 10 ((k : Int).toNat) * Nat.pow 2 (-(-(s : Int) - 2)).toNat =
        10 ^ k * 2 ^ (s + 2) := by
      have unit : (-(-(s : Int) - 2)).toNat = s + 2 := by omega
      rw [unit, Int.toNat_natCast, Nat.pow_eq, Nat.pow_eq]
    have one : Nat.pow 10 (-(k : Int)).toNat * Nat.pow 2 (-(s : Int) - 2).toNat = 1 := by
      have none : (-(k : Int)).toNat = 0 ∧ (-(s : Int) - 2).toNat = 0 := by omega
      rw [none.1, none.2]
    simp only [search, grid, one, onGrid?_interval positive s tie (Nat.pow_pos (by decide : 0 < 10))]
    by_cases divides : 10 ^ k ∣ v
    · exact ⟨k, divides, by rw [if_pos divides]⟩
    · rw [if_neg divides]
      cases k with
      | zero => exact absurd (Nat.one_dvd v) divides
      | succ k =>
        have next : ((k + 1 : Nat) : Int) - 1 = k := by omega
        rw [next]
        exact ih (by omega)

variable (small : v < 2 ^ 53)
include small

theorem shortest_places (tie : Tie) : ∃ j : Nat, 10 ^ j ∣ v ∧
    shortest tie (v * 2 ^ places v) (-(places v : Int)) = ⟨v / 10 ^ j, (j : Int)⟩ := by
  obtain ⟨sum, least, most⟩ := places_spec positive small
  have bits : (v * 2 ^ places v).log2 = 52 := by
    have nonzero : v * 2 ^ places v ≠ 0 := by omega
    have low := (Nat.le_log2 nonzero).mpr least
    have high := (Nat.log2_lt nonzero).mpr most
    omega
  obtain ⟨k, first⟩ : ∃ k : Nat, (-(places v : Int) + 52 + 1) * 30103 / 100000 + 1 = k :=
    Int.eq_ofNat_of_zero_le (by omega)
  have enough : k < 20 := by omega
  obtain ⟨j, divides, found⟩ := search_interval positive (places v) tie enough
  refine ⟨j, divides, ?_⟩
  have start : (-(places v : Int) + ((52 : Nat) : Int) + 1) * 30103 / 100000 + 1 = k := first
  simp only [shortest, bits, start, found]

end

/-- A whole number is written with its own digits, and a zero after the point. -/
theorem pointedText_ofNat {v : Nat} (small : v < 2 ^ 53) :
    (ofNat v).pointedText.toList = Nat.toDigits 10 v ++ ['.', '0'] := by
  rcases Nat.eq_zero_or_pos v with rfl | positive
  · rfl
  · obtain ⟨sum, least, most⟩ := places_spec positive small
    obtain ⟨j, divides, found⟩ := shortest_places positive small .even
    have quotient : 0 < v / 10 ^ j := Nat.div_pos (Nat.le_of_dvd positive divides) (Nat.pow_pos (by decide))
    have digits : Nat.toDigits 10 (v / 10 ^ j) ++ List.replicate j '0' = Nat.toDigits 10 v := by
      rw [← Text.toDigits_mul_pow quotient, Nat.div_mul_cancel divides]
    have length : (Nat.toDigits 10 v).length ≤ 16 :=
      (Nat.length_toDigits_le_iff (by decide) (by decide)).mpr (Nat.lt_trans small (by decide))
    have point : ((Nat.toDigits 10 (v / 10 ^ j)).length : Int) + (j : Int) ≤ 16 := by
      have sizes := congrArg List.length digits
      rw [List.length_append, List.length_replicate] at sizes
      omega
    have nonzero : ¬ v * 2 ^ places v = 0 := by omega
    have whole : (0 : Int) ≤ j := by omega
    rw [ofNat_eq positive small, pointedText, if_neg nonzero, found]
    simp only [digitChars, point, whole, decide_true, Bool.and_self, if_true, Bool.false_eq_true,
      if_false, positional, signed, zeros, Int.toNat_natCast, digits, String.toList_ofList]

end Throughput.Binary64
