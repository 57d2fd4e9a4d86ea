import Throughput.Proofs.Rate.Window
import Mathlib.Algebra.Order.Floor.Semifield
import Mathlib.Data.Rat.Floor
import Mathlib.Tactic.FieldSimp
import Mathlib.Tactic.Linarith
import Mathlib.Tactic.Push

/-! Rates and exact quotients. A rate depends on requests and seconds through their quotient
alone and grows with it, so what is known of quotients is known of rates. -/
namespace Throughput.Rate

/-- The nearest whole number, and of two the greater. -/
def halfUp (x : ℚ) : ℕ := ⌊x + 1 / 2⌋₊

/-- The rate of a quotient: rounded, at least one if there is anything, and within 32 bits. -/
def rateOf (x : ℚ) : ℕ := if x ≤ 0 then 0 else min (2 ^ 32 - 1) (max 1 (halfUp x))

/-- The seconds of a window, of which there is at least one. -/
def seconds (elapsed : UInt64) : ℕ := max elapsed.toNat 1

/-- Requests per second, neither rounded nor bounded. -/
def quotient (delta elapsed : UInt64) : ℚ := delta.toNat / seconds elapsed

theorem seconds_pos (elapsed : UInt64) : 0 < seconds elapsed := Nat.lt_of_lt_of_le Nat.one_pos (le_max_right ..)

theorem halfUp_div (n : ℕ) {m : ℕ} (positive : 0 < m) : halfUp ((n : ℚ) / m) = (2 * n + m) / (2 * m) := by
  have some : (m : ℚ) ≠ 0 := by exact_mod_cast positive.ne'
  have whole : (n : ℚ) / m + 1 / 2 = ((2 * n + m : ℕ) : ℚ) / ((2 * m : ℕ) : ℚ) := by
    push_cast
    field_simp
  rw [halfUp, whole, Nat.floor_div_eq_div]

theorem halfUp_mono {x y : ℚ} (le : x ≤ y) : halfUp x ≤ halfUp y :=
  Nat.floor_le_floor (by linarith)

theorem rateOf_mono {x y : ℚ} (le : x ≤ y) : rateOf x ≤ rateOf y := by
  by_cases idle : x ≤ 0
  · rw [rateOf, if_pos idle]
    exact Nat.zero_le _
  · have busy : ¬ y ≤ 0 := fun none => idle (le.trans none)
    have rounded := halfUp_mono le
    rw [rateOf, rateOf, if_neg idle, if_neg busy]
    omega

theorem quotient_le_zero_iff (delta elapsed : UInt64) : quotient delta elapsed ≤ 0 ↔ delta = 0 := by
  have some : (0 : ℚ) < seconds elapsed := by exact_mod_cast seconds_pos elapsed
  rw [quotient, div_le_iff₀ some, zero_mul, ← UInt64.toNat_inj]
  norm_cast
  exact Nat.le_zero

theorem toNat_perSecond (delta elapsed : UInt64) :
    (perSecond delta elapsed).toNat = rateOf (quotient delta elapsed) := by
  rw [rateOf]
  by_cases idle : delta = 0
  · rw [if_pos ((quotient_le_zero_iff delta elapsed).mpr idle), perSecond, if_pos idle]
    rfl
  · rw [if_neg (mt (quotient_le_zero_iff delta elapsed).mp idle), perSecond, if_neg idle,
      quotient, halfUp_div _ (seconds_pos elapsed), UInt32.toNat_ofNat']
    simp only [seconds, UInt32.size]
    omega

/-- The rounded quotient in words of 128 bits. -/
def roundedWord (delta elapsed : UInt64) : BitVec 128 :=
  (2#128 * .ofNat 128 delta.toNat + .ofNat 128 (seconds elapsed)) /
    (2#128 * .ofNat 128 (seconds elapsed))

theorem seconds_lt (elapsed : UInt64) : seconds elapsed < 2 ^ 64 :=
  max_lt elapsed.toNat_lt (by decide)

theorem toNat_roundedWord (delta elapsed : UInt64) :
    (roundedWord delta elapsed).toNat = halfUp (quotient delta elapsed) := by
  have small := delta.toNat_lt
  have fits := seconds_lt elapsed
  rw [quotient, halfUp_div _ (seconds_pos elapsed), roundedWord]
  simp only [BitVec.toNat_udiv, BitVec.toNat_add, BitVec.toNat_mul, BitVec.toNat_ofNat]
  simp (disch := omega) only [Nat.mod_eq_of_lt]

/-- Twice the distance of the rounded quotient from the quotient is one at most. -/
theorem halfUp_near (n : ℕ) {m : ℕ} (positive : 0 < m) :
    |2 * ((halfUp ((n : ℚ) / m) : ℤ) * m - n)| ≤ m := by
  have split := Nat.div_add_mod (2 * n + m) (2 * m)
  have bound := Nat.mod_lt (2 * n + m) (show 0 < 2 * m by omega)
  rw [← halfUp_div n positive, Nat.mul_assoc, Nat.mul_comm m] at split
  generalize (2 * n + m) % (2 * m) = left at split bound
  zify at split
  rw [abs_le]
  constructor <;> omega

theorem quotient_mono {d e : UInt64} (le : d ≤ e) (s : UInt64) : quotient d s ≤ quotient e s := by
  have more : (d.toNat : ℚ) ≤ e.toNat := by exact_mod_cast UInt64.le_iff_toNat_le.mp le
  exact div_le_div_of_nonneg_right more (Nat.cast_nonneg _)

theorem quotient_anti (d : UInt64) {s t : UInt64} (le : s ≤ t) : quotient d t ≤ quotient d s := by
  have longer : (seconds s : ℚ) ≤ seconds t := by
    exact_mod_cast max_le_max_right 1 (UInt64.le_iff_toNat_le.mp le)
  have some : (0 : ℚ) < seconds s := by exact_mod_cast seconds_pos s
  exact div_le_div_of_nonneg_left (Nat.cast_nonneg _) some longer

/-- Two quotients taken together lie between them. -/
theorem mediant {a b c d : ℚ} (b_pos : 0 < b) (d_pos : 0 < d) (le : a / b ≤ c / d) :
    a / b ≤ (a + c) / (b + d) ∧ (a + c) / (b + d) ≤ c / d := by
  have both : 0 < b + d := add_pos b_pos d_pos
  rw [div_le_div_iff₀ b_pos d_pos] at le
  rw [div_le_div_iff₀ b_pos both, div_le_div_iff₀ both d_pos]
  constructor <;> linarith

theorem perSecond_mono {d e : UInt64} (le : d ≤ e) (s : UInt64) : perSecond d s ≤ perSecond e s := by
  rw [UInt32.le_iff_toNat_le, toNat_perSecond, toNat_perSecond]
  exact rateOf_mono (quotient_mono le s)

theorem perSecond_anti (d : UInt64) {s t : UInt64} (le : s ≤ t) : perSecond d t ≤ perSecond d s := by
  rw [UInt32.le_iff_toNat_le, toNat_perSecond, toNat_perSecond]
  exact rateOf_mono (quotient_anti d le)

theorem quotient_add {d e s t : UInt64} (some : 1 ≤ s) (other : 1 ≤ t)
    (requests : d.toNat + e.toNat < 2 ^ 64) (time : s.toNat + t.toNat < 2 ^ 64) :
    quotient (d + e) (s + t) = (d.toNat + e.toNat) / (seconds s + seconds t) := by
  have first := UInt64.le_iff_toNat_le.mp some
  have second := UInt64.le_iff_toNat_le.mp other
  have together : seconds (s + t) = seconds s + seconds t := by
    simp only [seconds, UInt64.toNat_add, Nat.mod_eq_of_lt time]
    simp only [UInt64.toNat_one] at first second
    omega
  rw [quotient, together, UInt64.toNat_add, Nat.mod_eq_of_lt requests]
  push_cast
  rfl

theorem quotient_between {d e s t : UInt64} (some : 1 ≤ s) (other : 1 ≤ t)
    (requests : d.toNat + e.toNat < 2 ^ 64) (time : s.toNat + t.toNat < 2 ^ 64) :
    min (quotient d s) (quotient e t) ≤ quotient (d + e) (s + t) ∧
      quotient (d + e) (s + t) ≤ max (quotient d s) (quotient e t) := by
  have first : (0 : ℚ) < seconds s := by exact_mod_cast seconds_pos s
  have second : (0 : ℚ) < seconds t := by exact_mod_cast seconds_pos t
  rw [quotient_add some other requests time]
  rcases le_total (quotient d s) (quotient e t) with le | le
  · rw [min_eq_left le, max_eq_right le]
    exact mediant first second le
  · rw [min_eq_right le, max_eq_left le, add_comm (d.toNat : ℚ), add_comm (seconds s : ℚ)]
    exact mediant second first le

theorem rate_between {d e s t : UInt64} (some : 1 ≤ s) (other : 1 ≤ t)
    (requests : d.toNat + e.toNat < 2 ^ 64) (time : s.toNat + t.toNat < 2 ^ 64) :
    min (perSecond d s).toNat (perSecond e t).toNat ≤ (perSecond (d + e) (s + t)).toNat ∧
      (perSecond (d + e) (s + t)).toNat ≤ max (perSecond d s).toNat (perSecond e t).toNat := by
  have monotone : Monotone rateOf := fun _ _ => rateOf_mono
  obtain ⟨least, most⟩ := quotient_between some other requests time
  rw [toNat_perSecond, toNat_perSecond, toNat_perSecond, ← monotone.map_min, ← monotone.map_max]
  exact ⟨rateOf_mono least, rateOf_mono most⟩

/-- Milliseconds between two times, none if the clock stepped back and none past the largest time. -/
def clamped (previous now : Int64) : ℤ := min (max (now.toInt - previous.toInt) 0) (2 ^ 63 - 1)

theorem toNat_elapsedSeconds (previous now : Int64) :
    ((elapsedSeconds previous now).toNat : ℤ) = max 1 ⌊(clamped previous now : ℚ) / 1000⌋ := by
  have floor : ⌊(clamped previous now : ℚ) / 1000⌋ = clamped previous now / 1000 :=
    Rat.floor_intCast_div_natCast (clamped previous now) 1000
  rw [floor, elapsedSeconds, UInt64.toNat_ofNat', clamped]
  omega

theorem elapsedSeconds_mono (previous : Int64) {now later : Int64} (le : now ≤ later) :
    elapsedSeconds previous now ≤ elapsedSeconds previous later := by
  have forward := Int64.le_iff_toInt_le.mp le
  rw [UInt64.le_iff_toNat_le, elapsedSeconds, elapsedSeconds, UInt64.toNat_ofNat', UInt64.toNat_ofNat']
  omega

/-- Rates are rounded exactly, bounded where that is said, and go up with the requests and down
with the time; a window made of two has a rate between theirs. Whole seconds are counted from
the exact difference of the times. -/
theorem rates_exact :
    (∀ d s : UInt64,
      (perSecond d s = 0 ↔ d = 0) ∧
      (d ≠ 0 → (perSecond d s).toNat = min (2 ^ 32 - 1) (max 1 ⌊quotient d s + 1 / 2⌋₊)) ∧
      (2 * d.toNat + seconds s < 2 ^ 128 ∧ 2 * seconds s < 2 ^ 128 ∧
        (roundedWord d s).toNat = ⌊quotient d s + 1 / 2⌋₊) ∧
      (d = 0 ∨ 1 ≤ ⌊quotient d s + 1 / 2⌋₊ → ⌊quotient d s + 1 / 2⌋₊ ≤ 2 ^ 32 - 1 →
        |2 * (((perSecond d s).toNat : ℤ) * seconds s - d.toNat)| ≤ seconds s) ∧
      (∀ e, d ≤ e → perSecond d s ≤ perSecond e s) ∧
      ∀ t, s ≤ t → perSecond d t ≤ perSecond d s) ∧
    (∀ d e s t : UInt64, 1 ≤ s → 1 ≤ t → d.toNat + e.toNat < 2 ^ 64 → s.toNat + t.toNat < 2 ^ 64 →
      min (perSecond d s).toNat (perSecond e t).toNat ≤ (perSecond (d + e) (s + t)).toNat ∧
        (perSecond (d + e) (s + t)).toNat ≤ max (perSecond d s).toNat (perSecond e t).toNat) ∧
    ∀ previous now : Int64,
      ((elapsedSeconds previous now).toNat : ℤ) = max 1 ⌊(clamped previous now : ℚ) / 1000⌋ ∧
      ∀ later, now ≤ later → elapsedSeconds previous now ≤ elapsedSeconds previous later := by
  refine ⟨?rate, ?merged, ?time⟩
  case rate =>
    intro d s
    refine ⟨perSecond_eq_zero_iff d s, ?rounded, ?wide, ?near, fun e le => perSecond_mono le s,
      fun t le => perSecond_anti d le⟩
    case rounded =>
      intro busy
      rw [toNat_perSecond, rateOf, if_neg (mt (quotient_le_zero_iff d s).mp busy)]
      rfl
    case wide =>
      have small := d.toNat_lt
      have fits := seconds_lt s
      refine ⟨by omega, by omega, toNat_roundedWord d s⟩
    case near =>
      intro least most
      rcases eq_or_ne d 0 with rfl | busy
      · have idle : perSecond 0 s = 0 := (perSecond_eq_zero_iff 0 s).mpr rfl
        simp [idle]
      · have unbounded : (perSecond d s).toNat = halfUp (quotient d s) := by
          rw [toNat_perSecond, rateOf, if_neg (mt (quotient_le_zero_iff d s).mp busy)]
          change min _ (max 1 ⌊quotient d s + 1 / 2⌋₊) = ⌊quotient d s + 1 / 2⌋₊
          have some := least.resolve_left busy
          omega
        rw [unbounded]
        exact halfUp_near d.toNat (seconds_pos s)
  case merged => exact fun d e s t some other requests time => rate_between some other requests time
  case time => exact fun previous now => ⟨toNat_elapsedSeconds previous now, fun later => elapsedSeconds_mono previous⟩

/-- Rounding up, a rate past 32 bits, no seconds at all, windows of one and of three seconds taken
together, and times as far apart as they can be. -/
theorem rates_exact_at_bounds :
    (⌊quotient 149 10 + 1 / 2⌋₊ = 15 ∧ (perSecond 149 10).toNat = min (2 ^ 32 - 1) (max 1 15) ∧
      |2 * (((perSecond 149 10).toNat : ℤ) * seconds 10 - (149 : UInt64).toNat)| ≤ seconds 10) ∧
    (perSecond 149 10 ≤ perSecond 0xffffffffffffffff 10 ∧
      perSecond 0xffffffffffffffff 10 ≤ perSecond 0xffffffffffffffff 0) ∧
    (min (perSecond 1 1).toNat (perSecond 0xfffffffffffffffe 3).toNat ≤
        (perSecond (1 + 0xfffffffffffffffe) (1 + 3)).toNat ∧
      (perSecond (1 + 0xfffffffffffffffe) (1 + 3)).toNat ≤
        max (perSecond 1 1).toNat (perSecond 0xfffffffffffffffe 3).toNat) ∧
    elapsedSeconds Int64.minValue 0 ≤ elapsedSeconds Int64.minValue Int64.maxValue := by
  obtain ⟨rate, merged, time⟩ := rates_exact
  obtain ⟨_, rounded, _, near, mono, _⟩ := rate 149 10
  obtain ⟨_, _, _, _, _, anti⟩ := rate 0xffffffffffffffff 0
  have fifteen : ⌊quotient 149 10 + 1 / 2⌋₊ = 15 := halfUp_div 149 (m := 10) (by decide)
  rw [fifteen] at rounded near
  refine ⟨⟨fifteen, rounded (by decide), near (.inr (by decide)) (by decide)⟩,
    ⟨mono _ (by decide), anti 10 (by decide)⟩, ?_, ?_⟩
  · exact merged 1 0xfffffffffffffffe 1 3 (by decide) (by decide) (by decide) (by decide)
  · exact (time Int64.minValue 0).2 Int64.maxValue (by decide)

end Throughput.Rate
