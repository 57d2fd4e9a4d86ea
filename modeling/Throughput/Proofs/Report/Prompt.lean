import Throughput.Proofs.Report.Poll

/-! The reporter is the loop that is polled as soon as its next tick may start. -/
namespace Throughput.Report

variable {σ : Type} {s : Scheduler σ}

namespace Course

theorem step_eq_tickAt (s : Scheduler σ) (c : Course σ) : c.step s = c.tickAt s c.next := rfl

theorem next_le_step (s : Scheduler σ) (c : Course σ) : c.next ≤ (c.step s).next :=
  Nat.le_trans (s.tick_time c.next c.state).1 (Nat.le_max_left ..)

/-- What is due by `time` has run, and time did not go back. -/
theorem next_runTo (s : Scheduler σ) (time : Nat) (c : Course σ) :
    time < (c.runTo s time).next ∧ c.next ≤ (c.runTo s time).next := by
  fun_induction Course.runTo s time c with
  | case1 c due ih => exact ⟨ih.1, Nat.le_trans (next_le_step s c) ih.2⟩
  | case2 c later => exact ⟨Nat.lt_of_not_le later, Nat.le_refl _⟩

end Course

namespace Loop

/-- A loop that nobody has stopped, up to its next tick. -/
structure Goes (l : Loop σ) : Prop where
  going : l.ended = false
  silent : l.channel.ready = false
  early : l.now ≤ l.course.next

variable {l : Loop σ}

/-- Waiting until the next tick may start, and polling. -/
theorem run_next (goes : l.Goes) : l.run s [.wait (l.course.next - l.now), .poll] =
    { l with now := l.course.next, course := l.course.step s } := by
  have reached : l.now + (l.course.next - l.now) = l.course.next := Nat.add_sub_of_le goes.early
  have free : l.course.free ≤ l.course.next := Nat.le_max_left ..
  have due : l.course.deadline ≤ l.course.next := Nat.le_max_right ..
  simp [run, act, poll, waits, reached, goes.going, goes.silent, free, due, Course.step_eq_tickAt]

/-- Prompt polls run what is due by a time, and nothing else. -/
theorem run_runTo {c : Course σ} (same : l.course = c) (goes : l.Goes) (time : Nat) :
    ∃ acts, l.run s acts = { l with now := max l.now time, course := c.runTo s time } := by
  -- Each tick that is due takes one wait and one poll; the rest of the time is waited for.
  fun_induction Course.runTo s time c generalizing l with
  | case1 c due ih =>
    subst same
    have after : Goes { l with now := l.course.next, course := l.course.step s } :=
      ⟨goes.going, goes.silent, Course.next_le_step s l.course⟩
    obtain ⟨acts, reached⟩ := ih rfl after
    have last : max l.now time = max l.course.next time := by
      have early := goes.early
      omega
    exact ⟨[.wait (l.course.next - l.now), .poll] ++ acts, by rw [run_append, run_next goes, reached, last]⟩
  | case2 c later =>
    subst same
    have last : l.now + (time - l.now) = max l.now time := by omega
    exact ⟨[.wait (time - l.now)], by rw [run, List.foldl_cons, List.foldl_nil, act, last]⟩

end Loop

namespace Reporter

/-- What is done with a reporter. -/
inductive Use where
  | advanceTo (time : Nat)
  | signal
  | shutdown

def use (r : Reporter σ) : Use → Reporter σ
  | .advanceTo time => r.advanceTo time
  | .signal => r.signal
  | .shutdown => r.shutdown

/-- A reporter that is asked to stop starts nothing more. -/
theorem use_of_stopped {r : Reporter σ} (asked : r.stopped = true) (u : Use) :
    (r.use u).course = r.course ∧ (r.use u).stopped = true := by
  cases u with
  | advanceTo time => simp [use, Reporter.advanceTo, asked]
  | signal => exact ⟨rfl, rfl⟩
  | shutdown => exact ⟨rfl, rfl⟩

theorem uses_of_stopped {r : Reporter σ} (asked : r.stopped = true) (us : List Use) :
    (us.foldl use r).course = r.course := by
  induction us generalizing r with
  | nil => rfl
  | cons u us ih =>
    obtain ⟨same, still⟩ := use_of_stopped asked u
    exact (ih still).trans same

/-- Where the reporter stands, a loop of the same scheduler stands. -/
structure Is (s : Scheduler σ) (r : Reporter σ) (l : Loop σ) : Prop where
  scheduler : r.scheduler = s
  course : l.course = r.course
  now : l.now = r.now
  stopped : l.channel.ready = r.stopped
  goes : r.stopped = false → l.Goes

variable {r : Reporter σ} {l : Loop σ}

theorem Is.history (same : Is s r l) : l.history = r.history := by
  rw [Loop.history, Reporter.history, same.course, same.now]

theorem Is.advanceTo (same : Is s r l) (time : Nat) : ∃ acts, Is s (r.advanceTo time) (l.run s acts) := by
  obtain ⟨rfl, course, now, stopped, goes⟩ := same
  cases asked : r.stopped with
  | true =>
    have last : l.now + (time - l.now) = max r.now time := by omega
    refine ⟨[.wait (time - l.now)], ?_⟩
    simp only [Reporter.advanceTo, asked, if_true]
    exact ⟨rfl, course, last, stopped.trans asked, fun going => by cases going⟩
  | false =>
    obtain ⟨acts, reached⟩ := Loop.run_runTo (s := r.scheduler) course (goes asked) time
    obtain ⟨timely, later⟩ := Course.next_runTo r.scheduler time r.course
    refine ⟨acts, ?_⟩
    rw [reached, now]
    simp only [Reporter.advanceTo, asked, Bool.false_eq_true, if_false]
    refine ⟨rfl, rfl, rfl, stopped.trans asked, fun _ => ⟨(goes asked).going, (goes asked).silent, ?_⟩⟩
    have early := (goes asked).early
    rw [course, now] at early
    exact Nat.max_le.mpr ⟨Nat.le_trans early later, Nat.le_of_lt timely⟩

theorem Is.stop (same : Is s r l) (milliseconds : Nat) :
    Is s { r with stopped := true, now := r.now + milliseconds } (l.run s [.signal, .wait milliseconds]) where
  scheduler := same.scheduler
  course := same.course
  now := congrArg (· + milliseconds) same.now
  stopped := by simp [Loop.run, Loop.act, Channel.ready]
  goes := by simp

/-- Whatever is done with a reporter, polls of the loop do the same. -/
theorem Is.use (same : Is s r l) (u : Use) : ∃ acts, Is s (r.use u) (l.run s acts) := by
  cases u with
  | advanceTo time => exact same.advanceTo time
  | signal => exact ⟨_, same.stop 0⟩
  | shutdown =>
    have last : r.now + (r.course.free - r.now) = max r.now r.course.free := by omega
    have reached := same.stop (r.course.free - r.now)
    rw [last] at reached
    exact ⟨_, reached⟩

theorem Is.uses (same : Is s r l) (us : List Use) : ∃ acts, Is s (us.foldl Reporter.use r) (l.run s acts) := by
  induction us generalizing r l with
  | nil => exact ⟨[], same⟩
  | cons u us ih =>
    obtain ⟨first, reached⟩ := same.use u
    obtain ⟨others, last⟩ := ih reached
    exact ⟨first ++ others, by rwa [Loop.run_append]⟩

theorem start_is {now : Nat} {state : σ} (started : start s now state = some r) :
    ∃ acts, Is s r ((Loop.fresh now s.settings.initialDelay state).run s acts) := by
  unfold start at started
  split at started
  case isTrue => cases started
  case isFalse =>
    cases started
    have goes : (Loop.fresh now s.settings.initialDelay state).Goes := ⟨rfl, rfl, Nat.le_max_left ..⟩
    obtain ⟨acts, reached⟩ := Loop.run_runTo (s := s) rfl goes now
    obtain ⟨timely, -⟩ := Course.next_runTo s now (Loop.fresh now s.settings.initialDelay state).course
    refine ⟨acts, ?_⟩
    rw [reached]
    exact ⟨rfl, rfl, Nat.max_self now, rfl, fun _ => ⟨rfl, rfl, (Nat.max_self now).symm ▸ Nat.le_of_lt timely⟩⟩

/-- A fresh loop can meet what brings it to where the reporter is, and a signal lets nothing
more start. -/
structure Polled (s : Scheduler σ) (now : Nat) (state : σ) (r : Reporter σ) : Prop where
  met : ∃ acts, let loop := (Loop.fresh now s.settings.initialDelay state).run s acts
    Is s r loop ∧ loop.history = r.history
  stays : ∀ later : List Use, (later.foldl use r.signal).course = r.course

theorem polled_of_start {now : Nat} {state : σ} (started : start s now state = some r)
    (us : List Use) : Polled s now state (us.foldl use r) where
  met := by
    obtain ⟨first, reached⟩ := start_is started
    obtain ⟨others, same⟩ := reached.uses us
    rw [← Loop.run_append] at same
    exact ⟨first ++ others, same, same.history⟩
  stays := uses_of_stopped rfl

end Reporter

/-- What a loop started at `now` keeps to, whatever it meets. -/
structure Loop.Timely (s : Scheduler σ) (now : Nat) (l : Loop σ) : Prop where
  paced : ∀ acts, Paced s now (l.turns s acts)
  /-- Everything the loop does, it does in its ticks, each between its start and its end. -/
  told : ∀ acts, (l.run s acts).course.history = (l.turns s acts).flatMap fun t => (t.tick s).history
  inside : ∀ acts, ∀ t ∈ l.turns s acts, ∀ e ∈ (t.tick s).history, t.start ≤ e.1 ∧ e.1 ≤ (t.tick s).ends
  /-- No tick starts after a stop, though one may be due. -/
  silent : ∀ before stop after, stop.stops = true →
    l.turns s (before ++ stop :: after) = l.turns s before
  /-- A tick under way calls all its sinks. -/
  finishes : ∀ before stop after, stop.stops = true →
    (l.run s before).course.free ≤ (l.run s (before ++ stop :: after)).now →
    (l.run s (before ++ stop :: after)).history.calls = (l.turns s before).flatMap (Turn.calls s)
  /-- The next poll, when no tick is under way any more, is the end. -/
  ends : ∀ before stop after, stop.stops = true →
    (l.run s before).course.free ≤ (l.run s (before ++ stop :: after)).now →
    ∀ later, (l.run s (before ++ stop :: after ++ .poll :: later)).ended = true
  goes : ∀ acts, (∀ a ∈ acts, a.stops = false) → (l.run s acts).ended = l.ended

/-- The ticks of a loop, if it was started. -/
def Loop.turnsOf (s : Scheduler σ) (l : Option (Loop σ)) (acts : List Act) : List (Turn σ) :=
  match l with
  | some l => l.turns s acts
  | none => []

theorem Loop.timely_of_fresh {now : Nat} {state : σ} {l : Loop σ}
    (course : l.course = (fresh now s.settings.initialDelay state).course)
    (silent : l.channel.ready = false) : l.Timely s now := by
  have leaves : Paced.Leaves s now [] l.course := course ▸ leaves_fresh s now state
  constructor
  case paced => exact fun acts => (leaves.run acts).paced
  case told => exact fun acts => (leaves.run acts).history
  case inside => exact fun acts t _ => (s.tick_time t.start t.state).2
  case silent => exact fun before stop after stops => (run_of_stops l before stops after).1
  case finishes =>
    intro before stop after stops free
    obtain ⟨turns, same, -⟩ := run_of_stops (s := s) l before stops after
    rw [(leaves.run (before ++ stop :: after)).history_calls (same ▸ free), List.nil_append, turns]
  case ends =>
    intro before stop after stops free later
    obtain ⟨-, same, asked⟩ := run_of_stops (s := s) l before stops after
    rw [run_append]
    exact ended_run (ended_of_ready (s := s) asked (same ▸ free)) later
  case goes => exact fun acts go => (ended_run_of_silent silent go).1

/-- A loop that is started is fresh; on a thread without a runtime it has ended already. -/
theorem Loop.fresh_of_startOnThread {thread : Thread} {now : Nat} {state : σ} {l : Loop σ}
    (started : startOnThread s thread now state = some l) :
    l.course = (fresh now s.settings.initialDelay state).course ∧ l.channel.ready = false := by
  unfold startOnThread at started
  split at started
  case isTrue => cases started
  case isFalse =>
    cases thread with
    | refused => cases started
    | idle => cases started; exact ⟨rfl, rfl⟩
    | running => cases started; exact ⟨rfl, rfl⟩

theorem Loop.fresh_of_start {place : Place} {now : Nat} {state : σ} {l : Loop σ}
    (started : start s place now state = some l) :
    l.course = (fresh now s.settings.initialDelay state).course ∧ l.channel.ready = false := by
  unfold start at started
  split at started
  case isTrue => cases started
  case isFalse =>
    cases place with
    | runtime => cases started; exact ⟨rfl, rfl⟩
    | outside thread => exact fresh_of_startOnThread started

/-- Wherever a loop is started it keeps to its time and stops, without sinks nothing is
measured, and a reporter is such a loop, polled in time. -/
theorem loop_timely (s : Scheduler σ) (place : Place) (thread : Thread) (now : Nat) (state : σ) :
    (∀ l, Loop.start s place now state = some l ∨ Loop.startOnThread s thread now state = some l →
      l.Timely s now) ∧
    (s.sinks = [] → ∀ acts, Loop.turnsOf s (Loop.start s place now state) acts = [] ∧
      Loop.turnsOf s (Loop.startOnThread s thread now state) acts = [] ∧
      Reporter.start s now state = none) ∧
    (s.sinks ≠ [] → Loop.start s .runtime now state = some (.fresh now s.settings.initialDelay state) ∧
      Loop.startOnThread s .running now state = some (.fresh now s.settings.initialDelay state) ∧
      ∃ r, Reporter.start s now state = some r ∧
        ∀ uses : List Reporter.Use, (uses.foldl Reporter.use r).Polled s now state) := by
  refine ⟨?started, ?none, ?some⟩
  case started =>
    rintro l (started | started)
    · obtain ⟨course, silent⟩ := Loop.fresh_of_start started
      exact Loop.timely_of_fresh course silent
    · obtain ⟨course, silent⟩ := Loop.fresh_of_startOnThread started
      exact Loop.timely_of_fresh course silent
  case none =>
    intro none acts
    simp [Loop.start, Loop.startOnThread, Reporter.start, none, Loop.turnsOf]
  case some =>
    intro some
    have sinks : s.sinks.isEmpty = false := List.isEmpty_eq_false_iff.mpr some
    obtain ⟨r, started⟩ : ∃ r, Reporter.start s now state = .some r := by
      simp [Reporter.start, sinks]
    exact ⟨by simp [Loop.start, sinks], by simp [Loop.startOnThread, sinks], r, started,
      Reporter.polled_of_start started⟩

/-- A sink that takes its time. -/
def slow (name : String) (milliseconds : Nat) : Sink Unit where
  name := name
  emit _ _ _ := ⟨.delivered, milliseconds, [], ()⟩

/-- Two sinks are called though the handle is dropped while the first one works; the next tick
is due long before they are done, and does not start. -/
theorem loop_timely_of_drop_in_flight :
    let source : Source Unit := ⟨"steady", fun _ => (.sample (.available 7), ())⟩
    let s : Scheduler Unit := ⟨source, [slow "a" 20, slow "b" 20], ⟨10, 5, "rps"⟩, by decide⟩
    let l := Loop.fresh 0 5 ()
    let before := [Act.poll, .wait 5, .poll, .wait 3]
    let acts := before ++ .drop :: [.wait 40, .poll, .signal, .poll]
    (l.turns s acts).map Turn.start = [5] ∧ (l.run s acts).history.calls = [("a", "rps", 7), ("b", "rps", 7)] ∧
      (l.run s acts).ended = true := by
  intro source s l before acts
  have timely : l.Timely s 0 := (loop_timely s .runtime .running 0 ()).1 l (.inl rfl)
  have silent := timely.silent before .drop [.wait 40, .poll, .signal, .poll] rfl
  have calls := timely.finishes before .drop [.wait 40, .poll, .signal, .poll] rfl (by decide)
  exact ⟨by rw [silent]; rfl, calls, timely.ends before .drop [.wait 40] rfl (by decide) [.signal, .poll]⟩

end Throughput.Report
