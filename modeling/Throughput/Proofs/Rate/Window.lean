import Throughput.Rate.Window

/-! What a read of a window tells, in numbers. -/
namespace Throughput.Rate

/-- Only the absence of traffic has the rate zero, however long the window was. -/
theorem perSecond_eq_zero_iff (delta elapsed : UInt64) : perSecond delta elapsed = 0 ↔ delta = 0 := by
  have positive (rounded : Nat) :
      UInt32.ofNat (min (max rounded 1) (UInt32.size - 1)) ≠ 0 := by
    have fits : min (max rounded 1) (UInt32.size - 1) < UInt32.size := by
      simp only [UInt32.size]
      omega
    intro zero
    have value := congrArg UInt32.toNat zero
    rw [UInt32.toNat_ofNat_of_lt' fits, UInt32.toNat_zero] at value
    simp only [UInt32.size] at value
    omega
  unfold perSecond
  by_cases idle : delta = 0
  · simp [idle]
  · rw [if_neg idle]
    exact iff_of_false (positive _) idle

namespace Window

/-- The difference of two words, cut at zero as natural numbers are. -/
theorem delta_eq (previous count : UInt64) :
    (if previous ≤ count then count - previous else 0) =
      UInt64.ofNat (count.toNat - previous.toNat) := by
  by_cases forward : previous ≤ count
  · rw [if_pos forward, ← UInt64.toNat_sub_of_le _ _ forward, UInt64.ofNat_toNat]
  · have backward : count.toNat ≤ previous.toNat :=
      Nat.le_of_lt (Nat.lt_of_not_le (mt UInt64.le_iff_toNat_le.mpr forward))
    rw [if_neg forward, Nat.sub_eq_zero_of_le backward]
    rfl

theorem sample_rate (w : Window) (count : UInt64) (now : Int64) :
    (w.sample count now).1.rate =
      perSecond (.ofNat (count.toNat - w.lastCount.toNat)) (elapsedSeconds w.opened now) := by
  rw [← delta_eq]
  rfl

theorem sample_delta (w : Window) (count : UInt64) (now : Int64) :
    (w.sample count now).1.delta.toNat = count.toNat - w.lastCount.toNat := by
  have fits : count.toNat - w.lastCount.toNat < UInt64.size :=
    Nat.lt_of_le_of_lt (Nat.sub_le ..) count.toNat_lt
  change (if w.lastCount ≤ count then count - w.lastCount else 0).toNat = _
  rw [delta_eq, UInt64.toNat_ofNat_of_lt' fits]

end Window
end Throughput.Rate
