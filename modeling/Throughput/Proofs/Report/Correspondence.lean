import Throughput.Report.Poll
import Mathlib.Data.List.Forall2

/-! Loops in two worlds. What the worlds have in common is a relation between their states;
where it lasts through measurements and calls of sinks that answer alike, both loops have the
same history for as long as they go on. -/
namespace Throughput

variable {σ τ : Type} {R : σ → τ → Prop}

/-- Two calls that nobody can tell apart, with worlds after them that correspond. -/
structure Emission.Alike (R : σ → τ → Prop) (a : Emission σ) (b : Emission τ) : Prop where
  delivery : a.delivery = b.delivery
  milliseconds : a.milliseconds = b.milliseconds
  events : a.events = b.events
  state : R a.state b.state

structure Sink.Alike (R : σ → τ → Prop) (a : Sink σ) (b : Sink τ) : Prop where
  name : a.name = b.name
  emit : ∀ x y, R x y → ∀ metric value, (a.emit x metric value).Alike R (b.emit y metric value)

namespace Report

structure Source.Alike (R : σ → τ → Prop) (a : Source σ) (b : Source τ) : Prop where
  name : a.name = b.name
  answer : ∀ x y, R x y → (a.measure x).1 = (b.measure y).1
  state : ∀ x y, R x y → R (a.measure x).2 (b.measure y).2

structure Calls.Alike (R : σ → τ → Prop) (a : Calls σ) (b : Calls τ) : Prop where
  succeeded : a.succeeded = b.succeeded
  failed : a.failed = b.failed
  history : a.history = b.history
  ends : a.ends = b.ends
  state : R a.state b.state

structure Tick.Alike (R : σ → τ → Prop) (a : Tick σ) (b : Tick τ) : Prop where
  outcome : a.outcome = b.outcome
  history : a.history = b.history
  ends : a.ends = b.ends
  state : R a.state b.state

structure Scheduler.Alike (R : σ → τ → Prop) (a : Scheduler σ) (b : Scheduler τ) : Prop where
  source : a.source.Alike R b.source
  sinks : List.Forall₂ (Sink.Alike R) a.sinks b.sinks
  settings : a.settings = b.settings

structure Course.Alike (R : σ → τ → Prop) (a : Course σ) (b : Course τ) : Prop where
  free : a.free = b.free
  deadline : a.deadline = b.deadline
  state : R a.state b.state
  history : a.history = b.history

structure Reporter.Alike (R : σ → τ → Prop) (a : Reporter σ) (b : Reporter τ) : Prop where
  scheduler : a.scheduler.Alike R b.scheduler
  course : a.course.Alike R b.course
  now : a.now = b.now
  stopped : a.stopped = b.stopped

theorem emitAll_alike {a : List (Sink σ)} {b : List (Sink τ)}
    (sinks : List.Forall₂ (Sink.Alike R) a b) (metric : String) (value : UInt32) (time : Nat)
    {x : σ} {y : τ} (states : R x y) :
    (emitAll metric value time x a).Alike R (emitAll metric value time y b) := by
  induction sinks generalizing time x y with
  | nil => exact ⟨rfl, rfl, rfl, rfl, states⟩
  | @cons first second _ _ sink _ ih =>
    have emission := sink.emit x y states metric value
    have rest := ih (time + (first.emit x metric value).milliseconds) emission.state
    constructor
    case succeeded => simp only [emitAll, ← emission.milliseconds, ← emission.delivery, rest.succeeded]
    case failed => simp only [emitAll, ← emission.milliseconds, ← emission.delivery, rest.failed]
    case history =>
      simp only [emitAll, ← emission.milliseconds, ← emission.delivery, ← emission.events,
        ← sink.name, rest.history]
    case ends => simpa only [emitAll, ← emission.milliseconds] using rest.ends
    case state => simpa only [emitAll, ← emission.milliseconds] using rest.state

theorem Source.Alike.measureOnce {a : Source σ} {b : Source τ} (source : a.Alike R b) (time : Nat)
    {x : σ} {y : τ} (states : R x y) :
    (measureOnce a time x).1 = (measureOnce b time y).1 ∧
      (measureOnce a time x).2.1 = (measureOnce b time y).2.1 ∧
      R (measureOnce a time x).2.2 (measureOnce b time y).2.2 := by
  have answer := source.answer x y states
  have state := source.state x y states
  unfold Report.measureOnce
  generalize a.measure x = first at answer state
  generalize b.measure y = second at answer state
  obtain ⟨answer₁, state₁⟩ := first
  obtain ⟨answer₂, state₂⟩ := second
  obtain rfl : answer₁ = answer₂ := answer
  cases answer₁ with
  | sample s => exact ⟨rfl, rfl, state⟩
  | aborted => exact ⟨rfl, by rw [source.name], state⟩

theorem tick_alike {a : Source σ} {b : Source τ} (source : a.Alike R b) {s : List (Sink σ)}
    {t : List (Sink τ)} (sinks : List.Forall₂ (Sink.Alike R) s t) (metric : String) (time : Nat)
    {x : σ} {y : τ} (states : R x y) :
    (tick a s metric time x).Alike R (tick b t metric time y) := by
  obtain ⟨rate, told, state⟩ := source.measureOnce time states
  unfold tick
  generalize Report.measureOnce a time x = first at rate told state
  generalize Report.measureOnce b time y = second at rate told state
  obtain ⟨rate₁, told₁, state₁⟩ := first
  obtain ⟨rate₂, told₂, state₂⟩ := second
  obtain rfl : rate₁ = rate₂ := rate
  obtain rfl : told₁ = told₂ := told
  cases rate₁ with
  | none => exact ⟨rfl, by rw [source.name], rfl, state⟩
  | some value =>
    have calls := emitAll_alike sinks metric value time state
    constructor
    case outcome => simp only [calls.succeeded, calls.failed]
    case history => simp only [calls.history, calls.ends, source.name, sinks.length_eq]
    case ends => exact calls.ends
    case state => exact calls.state

theorem Course.Alike.next {c : Course σ} {d : Course τ} (courses : c.Alike R d) : c.next = d.next :=
  congrArg₂ max courses.free courses.deadline

namespace Scheduler.Alike

variable {s : Scheduler σ} {t : Scheduler τ}

theorem step (alike : s.Alike R t) {c : Course σ} {d : Course τ} (courses : c.Alike R d) :
    (c.step s).Alike R (d.step t) := by
  have next := courses.next
  have ticks : (s.tick c.next c.state).Alike R (t.tick d.next d.state) := by
    rw [next, Scheduler.tick, Scheduler.tick, alike.settings]
    exact tick_alike alike.source alike.sinks t.settings.metric d.next courses.state
  constructor
  case free => exact ticks.ends
  case deadline => simp only [Course.step, alike.settings, courses.deadline, next]
  case state => exact ticks.state
  case history => simp only [Course.step, courses.history, ticks.history]

/-- Each loop takes the same turns as the other. -/
theorem runTo (alike : s.Alike R t) (time : Nat) {c : Course σ} {d : Course τ}
    (courses : c.Alike R d) : (c.runTo s time).Alike R (d.runTo t time) := by
  fun_induction Course.runTo s time c generalizing d with
  | case1 c due ih =>
    have alsoDue : d.next ≤ time := courses.next ▸ due
    rw [Course.runTo.eq_def t time d, if_pos alsoDue]
    exact ih (alike.step courses)
  | case2 c later =>
    have alsoLater : ¬d.next ≤ time := courses.next ▸ later
    rw [Course.runTo.eq_def t time d, if_neg alsoLater]
    exact courses

end Scheduler.Alike

/-- On threads that come to the same, both loops are started or none is. -/
theorem Loop.startOnThread_alike {s : Scheduler σ} {t : Scheduler τ} (alike : s.Alike R t)
    (thread : Thread) (now : Nat) {x : σ} {y : τ} (states : R x y) :
    Option.Rel (fun l m => (l.reporter s).Alike R (m.reporter t)) (startOnThread s thread now x)
      (startOnThread t thread now y) := by
  have sinks : s.sinks.isEmpty = t.sinks.isEmpty := by
    rw [Bool.eq_iff_iff, List.isEmpty_iff_length_eq_zero, List.isEmpty_iff_length_eq_zero,
      alike.sinks.length_eq]
  have course : Course.Alike R (fresh now s.settings.initialDelay x).course
      (fresh now t.settings.initialDelay y).course :=
    ⟨rfl, by rw [fresh, fresh, alike.settings], states, rfl⟩
  unfold startOnThread
  rw [sinks]
  split
  · exact .none
  · cases thread with
    | refused => exact .none
    | idle => exact .some ⟨alike, course, rfl, rfl⟩
    | running => exact .some ⟨alike, alike.runTo now course, rfl, rfl⟩

namespace Reporter

namespace Alike

variable {r : Reporter σ} {q : Reporter τ}

theorem advanceTo (alike : r.Alike R q) (time : Nat) :
    (r.advanceTo time).Alike R (q.advanceTo time) := by
  constructor
  case scheduler => exact alike.scheduler
  case course =>
    unfold Reporter.advanceTo
    rw [← alike.stopped]
    cases r.stopped with
    | true => exact alike.course
    | false => exact alike.scheduler.runTo time alike.course
  case now => exact congrArg (max · time) alike.now
  case stopped => exact alike.stopped

theorem advances (alike : r.Alike R q) (times : List Nat) :
    (times.foldl Reporter.advanceTo r).Alike R (times.foldl Reporter.advanceTo q) := by
  induction times generalizing r q with
  | nil => exact alike
  | cons time rest ih => exact ih (alike.advanceTo time)

theorem shutdown (alike : r.Alike R q) : r.shutdown.Alike R q.shutdown where
  scheduler := alike.scheduler
  course := alike.course
  now := congrArg₂ max alike.now alike.course.free
  stopped := rfl

theorem history (alike : r.Alike R q) : r.history = q.history := by
  rw [Reporter.history, Reporter.history, alike.course.history, alike.now]

end Alike

end Reporter
end Report
end Throughput
