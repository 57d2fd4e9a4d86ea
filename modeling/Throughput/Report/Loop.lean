import Throughput.Report.Tick

/-! Ticks at an interval after an initial delay, until a stop is asked for. -/
namespace Throughput.Report

structure Settings where
  /-- Milliseconds between ticks, and before the first one. -/
  interval : Nat := 10000
  initialDelay : Nat := 30000
  metric : String := "custom_throughput"
  deriving DecidableEq, Repr

inductive SettingsError where
  | noSource
  | zeroInterval
  deriving DecidableEq, Repr

def SettingsError.message : SettingsError → String
  | noSource => "Rate source is required"
  | zeroInterval => "Reporting interval must be greater than zero"

structure Scheduler (σ : Type) where
  source : Source σ
  sinks : List (Sink σ)
  settings : Settings
  interval_pos : 0 < settings.interval

namespace Scheduler

def build (source : Option (Source σ)) (sinks : List (Sink σ)) (settings : Settings) :
    Except SettingsError (Scheduler σ) :=
  match source with
  | none => .error .noSource
  | some source =>
    if h : 0 < settings.interval then .ok ⟨source, sinks, settings, h⟩ else .error .zeroInterval

def sinkNames (s : Scheduler σ) : List String := s.sinks.map Sink.name

def tick (s : Scheduler σ) (time : Nat) (state : σ) : Tick σ :=
  Report.tick s.source s.sinks s.settings.metric time state

end Scheduler

/-- A tick this much late is still on time. -/
def tolerance : Nat := 5

/-- Where the loop stands: when it is next free, when its next tick is due, and what the
ticks so far leave behind. -/
structure Course (σ : Type) where
  free : Nat
  deadline : Nat
  state : σ
  history : History

namespace Course

def next (c : Course σ) : Nat := max c.free c.deadline

/-- The deadline after a tick that started at `time`. What was missed is not made up:
after a late tick the next one is due a whole interval later. -/
def following (interval deadline time : Nat) : Nat :=
  if deadline + tolerance < time then time + interval else deadline + interval

def step (s : Scheduler σ) (c : Course σ) : Course σ :=
  let t := s.tick c.next c.state
  { free := t.ends
    deadline := following s.settings.interval c.deadline c.next
    state := t.state
    history := c.history ++ t.history }

theorem deadline_lt_step (s : Scheduler σ) (c : Course σ) : c.deadline < (c.step s).deadline := by
  have := s.interval_pos
  simp only [step, following]
  split <;> omega

/-- Every tick that starts at or before `time`. -/
def runTo (s : Scheduler σ) (time : Nat) (c : Course σ) : Course σ :=
  if c.next ≤ time then runTo s time (c.step s) else c
termination_by time + 1 - c.deadline
decreasing_by
  rename_i h
  have := deadline_lt_step s c
  have : c.deadline ≤ c.next := Nat.le_max_right ..
  omega

end Course

/-- A started loop. Of its course, what lies after `now` is still to come. -/
structure Reporter (σ : Type) where
  scheduler : Scheduler σ
  course : Course σ
  now : Nat
  stopped : Bool

namespace Reporter

/-- Starts the loop and runs what is due at once. Without sinks nothing is started. -/
def start (s : Scheduler σ) (now : Nat) (state : σ) : Option (Reporter σ) :=
  if s.sinks.isEmpty then none
  else
    let course : Course σ :=
      { free := now, deadline := now + s.settings.initialDelay, state, history := [] }
    some { scheduler := s, course := course.runTo s now, now, stopped := false }

/-- Lets time pass. A stopped loop starts no tick; one under way goes on. -/
def advanceTo (r : Reporter σ) (time : Nat) : Reporter σ :=
  { r with
    now := max r.now time
    course := if r.stopped then r.course else r.course.runTo r.scheduler time }

def advance (r : Reporter σ) (milliseconds : Nat) : Reporter σ := r.advanceTo (r.now + milliseconds)

/-- Asks the loop to stop. It ends when it is next free, before any further tick. -/
def signal (r : Reporter σ) : Reporter σ := { r with stopped := true }

/-- Stops the loop and waits for a tick under way. -/
def shutdown (r : Reporter σ) : Reporter σ :=
  { r with stopped := true, now := max r.now r.course.free }

def history (r : Reporter σ) : History := r.course.history.filter fun (time, _) => time ≤ r.now

end Reporter
end Throughput.Report
