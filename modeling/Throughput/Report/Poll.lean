import Throughput.Report.Loop

/-! The loop poll by poll, and the handle that stops it. A poll looks for a stop first and
at the clock only then; while a tick is under way there is nothing to poll. -/
namespace Throughput.Report

def Course.tickAt (s : Scheduler σ) (c : Course σ) (time : Nat) : Course σ :=
  let t := s.tick time c.state
  { free := t.ends
    deadline := following s.settings.interval c.deadline time
    state := t.state
    history := c.history ++ t.history }

/-- The way from the handle to the loop: the signals sent, and whether the handle is gone. -/
structure Channel where
  signals : Nat := 0
  closed : Bool := false
  deriving DecidableEq, Repr

/-- Receiving comes to an end: by a signal, or because none can follow. -/
def Channel.ready (c : Channel) : Bool := 0 < c.signals || c.closed

/-- A loop that was started. Of its course, what lies after `now` is still to come. -/
structure Loop (σ : Type) where
  course : Course σ
  now : Nat
  channel : Channel
  ended : Bool

inductive Act where
  | wait (milliseconds : Nat)
  | poll
  | signal
  | drop
  deriving DecidableEq, Repr

/-- A thread for a loop: none can be had, it has no runtime of its own, or it runs the loop. -/
inductive Thread where
  | refused
  | idle
  | running
  deriving DecidableEq, Repr

inductive Place where
  | runtime
  | outside (thread : Thread)
  deriving DecidableEq, Repr

namespace Loop

def fresh (now : Nat) (initialDelay : Nat) (state : σ) : Loop σ where
  course := { free := now, deadline := now + initialDelay, state, history := [] }
  now := now
  channel := {}
  ended := false

/-- Starts the loop on a thread of its own. Without sinks nothing is started. -/
def startOnThread (s : Scheduler σ) (thread : Thread) (now : Nat) (state : σ) : Option (Loop σ) :=
  if s.sinks.isEmpty then none
  else
    let loop := fresh now s.settings.initialDelay state
    match thread with
    | .refused => none
    | .idle => some { loop with ended := true }
    | .running => some loop

/-- Starts the loop where there is a runtime, else on a thread. Without sinks nothing is
started. -/
def start (s : Scheduler σ) (place : Place) (now : Nat) (state : σ) : Option (Loop σ) :=
  if s.sinks.isEmpty then none
  else match place with
    | .runtime => some (fresh now s.settings.initialDelay state)
    | .outside thread => startOnThread s thread now state

def waits (l : Loop σ) : Bool := !l.ended && l.course.free ≤ l.now

/-- A poll that finds a stop ends the loop, even if a tick is due. -/
def poll (s : Scheduler σ) (l : Loop σ) : Loop σ :=
  if !l.waits then l
  else if l.channel.ready then { l with ended := true }
  else if l.course.deadline ≤ l.now then { l with course := l.course.tickAt s l.now }
  else l

def act (s : Scheduler σ) (l : Loop σ) : Act → Loop σ
  | .wait milliseconds => { l with now := l.now + milliseconds }
  | .poll => l.poll s
  | .signal => { l with channel := { l.channel with signals := l.channel.signals + 1 } }
  | .drop => { l with channel := { l.channel with closed := true } }

def run (s : Scheduler σ) (l : Loop σ) (acts : List Act) : Loop σ := acts.foldl (act s) l

/-- The loop from now on, if it is polled as soon as its next tick may start. -/
def reporter (s : Scheduler σ) (l : Loop σ) : Reporter σ where
  scheduler := s
  course := if l.ended then l.course else l.course.runTo s l.now
  now := l.now
  stopped := l.ended

def history (l : Loop σ) : History := l.course.history.filter fun (time, _) => time ≤ l.now

end Loop
end Throughput.Report
