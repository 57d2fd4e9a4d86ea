import Throughput.Event

/-! Destinations of samples, as the reporter sees them. -/
namespace Throughput

inductive Delivery where
  | delivered
  | failed (reason : String)
  /-- The call did not return in an orderly way. -/
  | aborted
  deriving DecidableEq, Repr

/-- A call of a sink: how it ended, how long it took, and what it left behind. -/
structure Emission (σ : Type) where
  delivery : Delivery
  milliseconds : Nat
  events : List Event
  state : σ

structure Sink (σ : Type) where
  name : String
  emit : σ → (metric : String) → (value : UInt32) → Emission σ

end Throughput
