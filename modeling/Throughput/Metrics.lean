/-! What the agent counts about itself. -/
namespace Throughput

/-- Counts by name; a name that was never counted has none. -/
abbrev Tally := List (String × Nat)

namespace Tally

def get (t : Tally) (name : String) : Nat := (t.lookup name).getD 0

def increment (name : String) : Tally → Tally
  | [] => [(name, 1)]
  | (other, n) :: rest =>
    if other = name then (other, n + 1) :: rest else (other, n) :: increment name rest

end Tally

structure Metrics where
  /-- Ticks that had a sample, and ticks that had none. -/
  ticks : Nat := 0
  skipped : Nat := 0
  emits : Tally := []
  failures : Tally := []
  lastRate : UInt32 := 0
  activeSinks : Nat := 0
  /-- How many durations of ticks were observed. -/
  durations : Nat := 0
  deriving DecidableEq, Repr

namespace Metrics

def empty : Metrics := {}

def countTick (m : Metrics) : Metrics := { m with ticks := m.ticks + 1 }

def countSkip (m : Metrics) : Metrics := { m with skipped := m.skipped + 1 }

def countEmit (m : Metrics) (sink : String) : Metrics :=
  { m with emits := m.emits.increment sink }

def countFailure (m : Metrics) (sink : String) : Metrics :=
  { m with failures := m.failures.increment sink }

def setRate (m : Metrics) (rate : UInt32) : Metrics := { m with lastRate := rate }

/-- The gauge holds a signed word, so greater numbers show as the greatest one. -/
def setActive (m : Metrics) (count : Nat) : Metrics :=
  { m with activeSinks := min count 0x7fffffffffffffff }

def observeDuration (m : Metrics) : Metrics := { m with durations := m.durations + 1 }

def emitsOf (m : Metrics) (sink : String) : Nat := m.emits.get sink

def failuresOf (m : Metrics) (sink : String) : Nat := m.failures.get sink

end Metrics
end Throughput
