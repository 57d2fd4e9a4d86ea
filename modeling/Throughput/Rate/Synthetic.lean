import Throughput.Rate.Sample

/-! A made-up rate for exercising sinks: any value of a range, raised by a bonus
during odd clock minutes. -/
namespace Throughput.Rate

structure Synthetic where
  low : UInt32
  high : UInt32
  extra : UInt32
  deriving DecidableEq, Repr

namespace Synthetic

def name : String := "synthetic"

/-- The bounds may be given in either order. -/
def between (a b extra : UInt32) : Synthetic := ⟨min a b, max a b, extra⟩

def standard : Synthetic := between 10 100 100

/-- Minutes are counted from the epoch, downwards before it. -/
def oddMinute (now : Int64) : Bool := (now.toInt / 60000) % 2 ≠ 0

def bonus (s : Synthetic) (now : Int64) : UInt32 := if oddMinute now then s.extra else 0

/-- A drawn value plus the bonus, held at the largest 32-bit value. -/
def raise (value bonus : UInt32) : UInt32 := .ofNat (min (value.toNat + bonus.toNat) (UInt32.size - 1))

/-- The sample for one value drawn from `[low, high]`. -/
def measure (s : Synthetic) (now : Int64) (draw : UInt32) : Sample :=
  .available (raise draw (s.bonus now))

def range (s : Synthetic) (now : Int64) : UInt32 × UInt32 :=
  (raise s.low (s.bonus now), raise s.high (s.bonus now))

end Synthetic
end Throughput.Rate
