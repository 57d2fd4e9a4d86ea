import Mathlib.Algebra.Ring.Int.Parity
import Mathlib.Data.Rat.Floor
import Throughput.Main

/-! The rates of the made-up source: those of its range, raised during odd minutes, each of them
for some draw. -/
namespace Throughput.Rate.Synthetic

variable {s : Synthetic} {now earlier later : Int64} {rate : UInt32}

/-- Whole minutes since the epoch, rounded down also before it. -/
def minute (now : Int64) : ℤ := ⌊(now.toInt : ℚ) / 60000⌋

theorem minute_eq (now : Int64) : minute now = now.toInt / 60000 :=
  Rat.floor_intCast_div_natCast now.toInt 60000

theorem oddMinute_iff : oddMinute now = true ↔ Odd (minute now) := by
  rw [minute_eq, Int.odd_iff, oddMinute, decide_eq_true_iff]
  omega

theorem bonus_of_odd (odd : Odd (minute now)) : s.bonus now = s.extra :=
  if_pos (oddMinute_iff.mpr odd)

theorem bonus_of_even (even : Even (minute now)) : s.bonus now = 0 :=
  if_neg fun odd => Int.not_odd_iff_even.mpr even (oddMinute_iff.mp odd)

theorem minute_succ (next : later.toInt = earlier.toInt + 1) :
    minute later = if 60000 ∣ later.toInt then minute earlier + 1 else minute earlier := by
  rw [minute_eq, minute_eq]
  split <;> omega

theorem minute_apart (apart : later.toInt = earlier.toInt + 60000) : minute later = minute earlier + 1 := by
  rw [minute_eq, minute_eq]
  omega

theorem oddMinute_of_eq (same : minute later = minute earlier) : oddMinute later = oddMinute earlier := by
  rw [Bool.eq_iff_iff, oddMinute_iff, oddMinute_iff, same]

theorem oddMinute_of_succ (following : minute later = minute earlier + 1) :
    oddMinute later = !oddMinute earlier := by
  rw [Bool.eq_iff_iff, Bool.not_eq_true', ← Bool.not_eq_true, oddMinute_iff, oddMinute_iff, following,
    odd_add_one, Int.not_odd_iff_even]

theorem toNat_raise (value bonus : UInt32) :
    (raise value bonus).toNat = min (value.toNat + bonus.toNat) (2 ^ 32 - 1) := by
  rw [raise, UInt32.toNat_ofNat', UInt32.size]
  omega

/-- Some value of the range is measured as this rate. -/
def Measures (s : Synthetic) (now : Int64) (rate : UInt32) : Prop :=
  ∃ draw, s.low ≤ draw ∧ draw ≤ s.high ∧ s.measure now draw = .available rate

/-- The rates between the raised bounds are measured, and no others. -/
theorem measures_iff (ordered : s.low ≤ s.high) :
    s.Measures now rate ↔ (s.range now).1 ≤ rate ∧ rate ≤ (s.range now).2 := by
  simp only [range, UInt32.le_iff_toNat_le, toNat_raise] at ordered ⊢
  have bound := rate.toNat_lt
  constructor
  · rintro ⟨draw, least, most, measured⟩
    obtain rfl := Sample.available.inj measured
    rw [UInt32.le_iff_toNat_le] at least most
    rw [toNat_raise]
    omega
  · rintro ⟨least, most⟩
    -- A rate below the raised lower bound is the largest of all, which the lower bound reaches.
    have fits : max s.low.toNat (rate.toNat - (s.bonus now).toNat) < 2 ^ 32 := by
      have least := s.low.toNat_lt
      omega
    obtain ⟨draw, drawn⟩ : ∃ draw : UInt32, draw.toNat = max s.low.toNat (rate.toNat - (s.bonus now).toNat) :=
      ⟨.ofNat _, UInt32.toNat_ofNat_of_lt' fits⟩
    have raised : raise draw (s.bonus now) = rate := by
      rw [← UInt32.toNat_inj, toNat_raise, drawn]
      omega
    refine ⟨draw, ?_, ?_, congrArg Sample.available raised⟩ <;>
    · rw [UInt32.le_iff_toNat_le, drawn]
      omega

theorem toNat_low (a b extra : UInt32) : (between a b extra).low.toNat = min a.toNat b.toNat := by
  change (if a ≤ b then a else b).toNat = _
  split <;> rename_i le <;> rw [UInt32.le_iff_toNat_le] at le <;> omega

theorem toNat_high (a b extra : UInt32) : (between a b extra).high.toNat = max a.toNat b.toNat := by
  change (if a ≤ b then b else a).toNat = _
  split <;> rename_i le <;> rw [UInt32.le_iff_toNat_le] at le <;> omega

theorem between_ordered (a b extra : UInt32) : (between a b extra).low ≤ (between a b extra).high := by
  rw [UInt32.le_iff_toNat_le, toNat_low, toNat_high]
  exact min_le_max

theorem between_comm (a b extra : UInt32) : between a b extra = between b a extra := by
  have low : (between a b extra).low = (between b a extra).low := by
    rw [← UInt32.toNat_inj, toNat_low, toNat_low, min_comm]
  have high : (between a b extra).high = (between b a extra).high := by
    rw [← UInt32.toNat_inj, toNat_high, toNat_high, max_comm]
  exact congrArg₂ (Synthetic.mk · · extra) low high

theorem randNat_bounds {γ : Type} [RandomGen γ] (generator : γ) {low high : ℕ} (ordered : low ≤ high) :
    low ≤ (randNat generator low high).1 ∧ (randNat generator low high).1 ≤ high := by
  have within (v : ℕ) : low + v % (high - low + 1) ≤ high := by
    have below := Nat.mod_lt v (by omega : 0 < high - low + 1)
    omega
  rw [randNat]
  simp only [if_neg (Nat.not_lt.mpr ordered)]
  exact ⟨Nat.le_add_right _ _, within _⟩

/-- The program draws from the range, whatever its generator has come to. -/
theorem source_measures (outside : Console.Outside) : ∃ rate,
    (Console.source.measure outside).1 = .sample (.available rate) ∧
      standard.Measures (.ofNat outside.milliseconds) rate := by
  have ordered : standard.low.toNat ≤ standard.high.toNat :=
    UInt32.le_iff_toNat_le.mp (between_ordered 10 100 100)
  obtain ⟨least, most⟩ := randNat_bounds outside.generator ordered
  have drawn := UInt32.toNat_ofNat_of_lt' (most.trans_lt standard.high.toNat_lt)
  refine ⟨_, rfl, .ofNat (randNat outside.generator standard.low.toNat standard.high.toNat).1, ?_, ?_, rfl⟩
  · rwa [UInt32.le_iff_toNat_le, drawn]
  · rwa [UInt32.le_iff_toNat_le, drawn]

/-- What is measured of a range between two bounds, at any time and for any draw. -/
structure Ranged (a b extra : UInt32) : Prop where
  available : ∀ now draw, ∃ rate, (between a b extra).measure now draw = .available rate
  /-- What is measured lies in the range, and everything in it is measured. -/
  plain : ∀ now rate, Even (minute now) → ((between a b extra).Measures now rate ↔
    min a.toNat b.toNat ≤ rate.toNat ∧ rate.toNat ≤ max a.toNat b.toNat)
  raised : ∀ now rate, Odd (minute now) → ((between a b extra).Measures now rate ↔
    min (min a.toNat b.toNat + extra.toNat) (2 ^ 32 - 1) ≤ rate.toNat ∧
      rate.toNat ≤ min (max a.toNat b.toNat + extra.toNat) (2 ^ 32 - 1))
  exchanged : between b a extra = between a b extra
  /-- From one millisecond to the next the bonus changes where a minute begins and nowhere else. -/
  switched : ∀ earlier later : Int64, later.toInt = earlier.toInt + 1 →
    (oddMinute later ≠ oddMinute earlier ↔ 60000 ∣ later.toInt) ∧
    (between a b extra).bonus later = if 60000 ∣ later.toInt then extra - (between a b extra).bonus earlier
      else (between a b extra).bonus earlier
  alternating : ∀ earlier later : Int64, later.toInt = earlier.toInt + 60000 →
    (Odd (minute later) ↔ Even (minute earlier)) ∧ oddMinute later = !oddMinute earlier

theorem ranged_between (a b extra : UInt32) : Ranged a b extra := by
  have ordered := between_ordered a b extra
  constructor
  case available => exact fun now draw => ⟨_, rfl⟩
  case plain =>
    intro now rate even
    simp only [measures_iff ordered, range, bonus_of_even even, UInt32.le_iff_toNat_le, toNat_raise, toNat_low,
      toNat_high, UInt32.toNat_zero]
    -- Without a bonus no bound is past 32 bits.
    have first := a.toNat_lt
    have second := b.toNat_lt
    omega
  case raised =>
    intro now rate odd
    simp only [measures_iff ordered, range, bonus_of_odd odd, UInt32.le_iff_toNat_le, toNat_raise, toNat_low,
      toNat_high]
    rfl
  case exchanged => exact between_comm b a extra
  case switched =>
    intro earlier later next
    have minutes := minute_succ next
    simp only [bonus]
    split at minutes
    case isTrue starts =>
      rw [oddMinute_of_succ minutes]
      cases oddMinute earlier <;> simp [starts, between]
    case isFalse inside =>
      rw [oddMinute_of_eq minutes]
      simp [inside]
  case alternating =>
    intro earlier later apart
    have following := minute_apart apart
    exact ⟨by rw [following, odd_add_one], oddMinute_of_succ following⟩

/-- Bounds in the wrong order and a bonus past 32 bits, in the odd minute before the epoch and in
the even one before that. -/
theorem ranged_between_before_epoch :
    (between 50 5 0xfffffff0).Measures (-1) 0xffffffff ∧ ¬ (between 50 5 0xfffffff0).Measures (-1) 50 ∧
      (between 50 5 0xfffffff0).Measures (-60001) 50 ∧ oddMinute (-60000) ≠ oddMinute (-60001) := by
  have ranged := ranged_between 50 5 0xfffffff0
  have odd : Odd (minute (-1)) := oddMinute_iff.mp (by decide)
  have even : Even (minute (-60001)) := Int.not_odd_iff_even.mp (oddMinute_iff.not.mp (by decide))
  refine ⟨(ranged.raised _ _ odd).mpr (by decide), ?_, (ranged.plain _ _ even).mpr (by decide), ?_⟩
  · exact (ranged.raised _ _ odd).not.mpr (by decide)
  · exact (ranged.switched (-60001) (-60000) (by decide)).1.mpr (by decide)

end Throughput.Rate.Synthetic
