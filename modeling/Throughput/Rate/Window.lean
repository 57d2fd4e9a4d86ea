/-! Rates over reading windows. A window counts recorded events and remembers the
last absolute count; each read closes it and opens the next. Counts are 64-bit
words and wrap when recorded, times are signed milliseconds in either direction. -/
namespace Throughput.Rate

/-- Requests per second, rounded half up. Any traffic counts as at least one per
second, and the result stays in 32 bits. A window of no seconds counts as one. -/
def perSecond (delta elapsed : UInt64) : UInt32 :=
  if delta = 0 then 0
  else
    let seconds := max elapsed.toNat 1
    .ofNat (min (max ((2 * delta.toNat + seconds) / (2 * seconds)) 1) (UInt32.size - 1))

/-- Whole seconds from `previous` to `now`, at least one. A difference past the
largest time is cut there, and a clock that stepped back has not moved. -/
def elapsedSeconds (previous now : Int64) : UInt64 :=
  let millis := min (now.toInt - previous.toInt) 0x7fffffffffffffff
  .ofNat (max (millis.toNat / 1000) 1)

structure Reading where
  delta : UInt64
  elapsed : UInt64
  rate : UInt32
  deriving DecidableEq, Repr

def Reading.between (delta : UInt64) (previous now : Int64) : Reading :=
  let elapsed := elapsedSeconds previous now
  ⟨delta, elapsed, perSecond delta elapsed⟩

structure Window where
  /-- Events recorded since the last event read. -/
  pending : UInt64
  /-- Absolute count at the last absolute read. -/
  lastCount : UInt64
  /-- Time of the last read of either kind. -/
  opened : Int64
  deriving DecidableEq, Repr

namespace Window

def startingAt (count : UInt64) (now : Int64) : Window := ⟨0, count, now⟩

def new (now : Int64) : Window := startingAt 0 now

def record (w : Window) : Window := { w with pending := w.pending + 1 }

/-- Reads an absolute count. A count that went backwards reports no requests. -/
def sample (w : Window) (count : UInt64) (now : Int64) : Reading × Window :=
  let delta := if w.lastCount ≤ count then count - w.lastCount else 0
  (.between delta w.opened now, { w with lastCount := count, opened := now })

/-- Reads and clears the recorded events. -/
def sampleEvents (w : Window) (now : Int64) : Reading × Window :=
  (.between w.pending w.opened now, { w with pending := 0, opened := now })

inductive Action where
  | record
  | sample (count : UInt64) (now : Int64)
  | sampleEvents (now : Int64)
  deriving DecidableEq, Repr

def perform (w : Window) : Action → Option Reading × Window
  | .record => (none, w.record)
  | .sample count now => let (r, w) := w.sample count now; (some r, w)
  | .sampleEvents now => let (r, w) := w.sampleEvents now; (some r, w)

/-- The readings of a run, one slot per action, and the window it leaves. -/
def run : List Action → Window → List (Option Reading) × Window
  | [], w => ([], w)
  | a :: rest, w =>
    let (reading, w) := w.perform a
    let (readings, w) := run rest w
    (reading :: readings, w)

end Window
end Throughput.Rate
