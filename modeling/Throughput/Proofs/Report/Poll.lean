import Mathlib.Data.List.Chain
import Throughput.Proofs.Report.Tick
import Throughput.Report.Poll

/-! The loop under any polls. Its ticks keep a distance whatever they take and however late
they are polled, and none starts once a stop was asked for. -/
namespace Throughput.Report

variable {σ : Type}

theorem conclude_time (sink : String) (time : Nat) (events : List Event) (d : Delivery) :
    ∀ e ∈ conclude sink time events d, e.1 = time := by
  intro e member
  cases d <;> simp [conclude] at member <;> rcases member with ⟨_, _, rfl⟩ | rfl | rfl <;> rfl

/-- All that calls leave behind lies between their begin and their end. -/
theorem emitAll_time (metric : String) (value : UInt32) (time : Nat) (state : σ) (sinks : List (Sink σ)) :
    let calls := emitAll metric value time state sinks
    time ≤ calls.ends ∧ ∀ e ∈ calls.history, time ≤ e.1 ∧ e.1 ≤ calls.ends := by
  induction sinks generalizing time state with
  | nil => exact ⟨Nat.le_refl time, fun e none => absurd none List.not_mem_nil⟩
  | cons sink rest ih =>
    obtain ⟨later, inside⟩ := ih (time + (sink.emit state metric value).milliseconds)
      (sink.emit state metric value).state
    have takes : time ≤ time + (sink.emit state metric value).milliseconds := Nat.le_add_right ..
    simp only [emitAll, List.cons_append, List.mem_cons, List.mem_append]
    refine ⟨Nat.le_trans takes later, ?_⟩
    rintro e (rfl | concluded | following)
    · exact ⟨Nat.le_refl time, Nat.le_trans takes later⟩
    · rw [conclude_time _ _ _ _ e concluded]
      exact ⟨takes, later⟩
    · exact ⟨Nat.le_trans takes (inside e following).1, (inside e following).2⟩

theorem measureOnce_time (source : Source σ) (time : Nat) (state : σ) :
    ∀ e ∈ (measureOnce source time state).2.1, e.1 = time := by
  intro e member
  unfold measureOnce at member
  split at member
  · simp at member
  · simp only [List.mem_singleton] at member
    exact congrArg Prod.fst member

/-- All effects of a tick lie between its start and its end. -/
theorem Scheduler.tick_time (s : Scheduler σ) (time : Nat) (state : σ) :
    let t := s.tick time state
    time ≤ t.ends ∧ ∀ e ∈ t.history, time ≤ e.1 ∧ e.1 ≤ t.ends := by
  have measured := measureOnce_time s.source time state
  simp only [tick, Report.tick]
  cases rate : (measureOnce s.source time state).1 with
  | none =>
    refine ⟨Nat.le_refl time, fun e member => ?_⟩
    simp only [List.mem_append, List.mem_cons, List.not_mem_nil, or_false] at member
    have same : e.1 = time := by
      rcases member with first | rfl | rfl
      · exact measured e first
      · rfl
      · rfl
    exact ⟨same.ge, same.le⟩
  | some value =>
    obtain ⟨later, inside⟩ := emitAll_time s.settings.metric value time
      (measureOnce s.source time state).2.2 s.sinks
    refine ⟨later, fun e member => ?_⟩
    simp only [List.mem_append, List.mem_cons, List.not_mem_nil, or_false] at member
    rcases member with ((first | rfl | rfl) | called) | rfl
    · rw [measured e first]
      exact ⟨Nat.le_refl time, later⟩
    · exact ⟨Nat.le_refl time, later⟩
    · exact ⟨Nat.le_refl time, later⟩
    · exact inside e called
    · exact ⟨later, Nat.le_refl _⟩

/-- A tick of a loop: when it was due, when it started, and in which state. -/
structure Turn (σ : Type) where
  due : Nat
  start : Nat
  state : σ

namespace Turn

variable (s : Scheduler σ) (t : Turn σ)

def tick : Tick σ := s.tick t.start t.state

/-- Every sink with the sample, or no sink if there is no sample. -/
def calls : List (String × String × UInt32) :=
  match s.rate? t.state with
  | some value => s.sinks.map fun sink => (sink.name, s.settings.metric, value)
  | none => []

theorem tick_calls : (t.tick s).history.calls = t.calls s := by
  have law := s.tick_isolated t.start t.state
  unfold calls
  cases rate : s.rate? t.state with
  | none => exact (law.skipped rate).2.1
  | some value => exact law.calls value rate

end Turn

/-- A stop: a signal, or the end of the handle. -/
def Act.stops : Act → Bool
  | signal | drop => true
  | wait _ | poll => false

namespace Loop

variable (s : Scheduler σ) (l : Loop σ)

/-- The tick that a poll would start. -/
def turn? : Option (Turn σ) :=
  if l.waits && !l.channel.ready && l.course.deadline ≤ l.now then
    some ⟨l.course.deadline, l.now, l.course.state⟩
  else none

/-- The tick that an act starts. -/
def started (l : Loop σ) : Act → Option (Turn σ)
  | .poll => l.turn?
  | _ => none

/-- The ticks that start while a loop meets what it meets. -/
def turns (l : Loop σ) : List Act → List (Turn σ)
  | [] => []
  | a :: acts => (l.started a).toList ++ turns (l.act s a) acts

theorem run_append (first second : List Act) : l.run s (first ++ second) = (l.run s first).run s second :=
  List.foldl_append

theorem turns_append (first second : List Act) :
    l.turns s (first ++ second) = l.turns s first ++ (l.run s first).turns s second := by
  induction first generalizing l with
  | nil => rfl
  | cons a first ih =>
    rw [List.cons_append, turns, turns, ih, List.append_assoc]
    rfl

/-- What a poll can come to: nothing, the end, or a tick. -/
theorem poll_cases :
    (l.turn? = none ∧ l.poll s = l ∧ (l.waits = true → l.channel.ready = false)) ∨
    (l.turn? = none ∧ l.poll s = { l with ended := true } ∧ l.waits = true ∧ l.channel.ready = true) ∨
    (l.turn? = some ⟨l.course.deadline, l.now, l.course.state⟩ ∧
      l.poll s = { l with course := l.course.tickAt s l.now } ∧
      l.waits = true ∧ l.channel.ready = false ∧ l.course.deadline ≤ l.now) := by
  cases waiting : l.waits with
  | false => exact .inl ⟨by simp [turn?, waiting], by simp [poll, waiting], by simp⟩
  | true =>
    cases ready : l.channel.ready with
    | true => exact .inr (.inl ⟨by simp [turn?, ready], by simp [poll, waiting, ready], rfl, rfl⟩)
    | false =>
      by_cases due : l.course.deadline ≤ l.now
      · exact .inr (.inr ⟨by simp [turn?, waiting, ready, due], by simp [poll, waiting, ready, due], rfl,
          rfl, due⟩)
      · exact .inl ⟨by simp [turn?, due], by simp [poll, waiting, ready, due], fun _ => rfl⟩

theorem free_of_waits (waiting : l.waits = true) : l.ended = false ∧ l.course.free ≤ l.now := by
  simpa [waits] using waiting

/-- An act starts one tick, now, or leaves the course as it is. -/
theorem act_course (a : Act) :
    (l.started a = none ∧ (l.act s a).course = l.course) ∨
    (l.started a = some ⟨l.course.deadline, l.now, l.course.state⟩ ∧
      (l.act s a).course = l.course.tickAt s l.now ∧
      l.course.free ≤ l.now ∧ l.course.deadline ≤ l.now) := by
  cases a with
  | poll =>
    rcases l.poll_cases s with ⟨idle, same, -⟩ | ⟨idle, ends, -⟩ | ⟨starts, ticks, waiting, -, due⟩
    · exact .inl ⟨idle, congrArg Loop.course same⟩
    · exact .inl ⟨idle, by rw [act, ends]⟩
    · exact .inr ⟨starts, congrArg Loop.course ticks, (l.free_of_waits waiting).2, due⟩
  | _ => exact .inl ⟨rfl, rfl⟩

end Loop

/-- A tick and the one after it: what was missed is not made up. -/
structure Turn.Follows (s : Scheduler σ) (a b : Turn σ) : Prop where
  late : a.due + tolerance < a.start → b.due = a.start + s.settings.interval
  onTime : a.start ≤ a.due + tolerance → b.due = a.due + s.settings.interval
  distance : a.start + s.settings.interval ≤ b.start + tolerance

/-- Ticks of a loop that started at `now`, in their order. -/
structure Paced (s : Scheduler σ) (now : Nat) (turns : List (Turn σ)) : Prop where
  warm : ∀ t ∈ turns, now + s.settings.initialDelay ≤ t.start
  due : ∀ t ∈ turns, t.due ≤ t.start
  first : ∀ t ∈ turns.head?, t.due = now + s.settings.initialDelay
  follows : turns.IsChain (Turn.Follows s)
  /-- A tick and all that it does is over before the next one starts. -/
  apart : turns.Pairwise fun a b => (a.tick s).ends ≤ b.start

/-- The course that ticks leave behind. -/
structure Paced.Leaves (s : Scheduler σ) (now : Nat) (turns : List (Turn σ)) (c : Course σ) : Prop where
  paced : Paced s now turns
  warm : now + s.settings.initialDelay ≤ c.deadline
  first : turns = [] → c.deadline = now + s.settings.initialDelay
  next : ∀ t ∈ turns.getLast?, c.deadline = Course.following s.settings.interval t.due t.start
  ends : ∀ t ∈ turns, (t.tick s).ends ≤ c.free
  history : c.history = turns.flatMap fun t => (t.tick s).history
  past : ∀ e ∈ c.history, e.1 ≤ c.free

section

variable {s : Scheduler σ} {now : Nat} {turns : List (Turn σ)} {c : Course σ}

theorem Turn.follows_of_due {a b : Turn σ} (due : b.due = Course.following s.settings.interval a.due a.start)
    (begun : b.due ≤ b.start) : Turn.Follows s a b := by
  unfold Course.following at due
  split at due
  case isTrue late => exact ⟨fun _ => due, fun onTime => absurd late (Nat.not_lt.mpr onTime), by omega⟩
  case isFalse onTime => exact ⟨fun late => absurd late onTime, fun _ => due, by omega⟩

theorem leaves_fresh (s : Scheduler σ) (now : Nat) (state : σ) :
    Paced.Leaves s now [] (Loop.fresh now s.settings.initialDelay state).course where
  paced := ⟨by simp, by simp, by simp, .nil, .nil⟩
  warm := Nat.le_refl _
  first _ := rfl
  next := by simp
  ends := by simp
  history := rfl
  past := by simp [Loop.fresh]

section

variable (leaves : Paced.Leaves s now turns c) {time : Nat} (free : c.free ≤ time) (due : c.deadline ≤ time)
include leaves free due

/-- A tick that starts when the loop is free and the tick is due comes after those before it. -/
theorem Paced.Leaves.paced_tickAt : Paced s now (turns ++ [⟨c.deadline, time, c.state⟩]) := by
  constructor
  case warm =>
    refine List.forall_mem_append.mpr ⟨leaves.paced.warm, List.forall_mem_singleton.mpr ?_⟩
    exact Nat.le_trans leaves.warm due
  case due =>
    exact List.forall_mem_append.mpr ⟨leaves.paced.due, List.forall_mem_singleton.mpr due⟩
  case first =>
    cases turns with
    | nil =>
      rintro t ⟨⟩
      exact leaves.first rfl
    | cons t turns => exact leaves.paced.first
  case follows =>
    refine leaves.paced.follows.append (.singleton _) fun a last b new => ?_
    obtain rfl : ⟨c.deadline, time, c.state⟩ = b := Option.some.inj new
    exact Turn.follows_of_due (leaves.next a last) due
  case apart =>
    refine List.pairwise_append.mpr ⟨leaves.paced.apart, List.pairwise_singleton _ _, fun a old b new => ?_⟩
    obtain rfl := List.mem_singleton.mp new
    exact Nat.le_trans (leaves.ends a old) free

theorem Paced.Leaves.tickAt :
    Paced.Leaves s now (turns ++ [⟨c.deadline, time, c.state⟩]) (c.tickAt s time) := by
  obtain ⟨later, inside⟩ := s.tick_time time c.state
  -- What ended by the time the loop was free has ended by the end of this tick.
  have before : c.free ≤ (s.tick time c.state).ends := Nat.le_trans free later
  constructor
  case paced => exact leaves.paced_tickAt free due
  case warm =>
    have positive := s.interval_pos
    have warm := leaves.warm
    simp only [Course.tickAt, Course.following]
    split <;> omega
  case first => exact fun none => absurd none (List.append_ne_nil_of_right_ne_nil _ (List.cons_ne_nil _ _))
  case next =>
    rintro t last
    rw [List.getLast?_concat] at last
    obtain rfl := Option.some.inj last
    rfl
  case ends =>
    refine List.forall_mem_append.mpr ⟨fun t old => ?_, List.forall_mem_singleton.mpr (Nat.le_refl _)⟩
    exact Nat.le_trans (leaves.ends t old) before
  case history =>
    rw [List.flatMap_append, List.flatMap_singleton, ← leaves.history]
    rfl
  case past =>
    refine List.forall_mem_append.mpr ⟨fun e old => ?_, fun e new => (inside e new).2⟩
    exact Nat.le_trans (leaves.past e old) before

end

theorem Paced.Leaves.act {l : Loop σ} (leaves : Paced.Leaves s now turns l.course) (a : Act) :
    Paced.Leaves s now (turns ++ (l.started a).toList) (l.act s a).course := by
  rcases l.act_course s a with ⟨idle, same⟩ | ⟨starts, ticks, free, due⟩
  · rw [idle, same, Option.toList_none, List.append_nil]
    exact leaves
  · rw [starts, ticks, Option.toList_some]
    exact leaves.tickAt free due

theorem Paced.Leaves.run {l : Loop σ} (leaves : Paced.Leaves s now turns l.course) (acts : List Act) :
    Paced.Leaves s now (turns ++ l.turns s acts) (l.run s acts).course := by
  induction acts generalizing l turns with
  | nil =>
    rw [Loop.turns, List.append_nil]
    exact leaves
  | cons a acts ih =>
    rw [Loop.turns, ← List.append_assoc]
    exact ih (leaves.act a)

/-- Once a loop is free, all calls of its ticks are told. -/
theorem Paced.Leaves.history_calls {l : Loop σ} (leaves : Paced.Leaves s now turns l.course)
    (free : l.course.free ≤ l.now) : l.history.calls = turns.flatMap (Turn.calls s) := by
  have whole : l.history = l.course.history := by
    refine List.filter_eq_self.mpr fun e member => ?_
    exact decide_eq_true (Nat.le_trans (leaves.past e member) free)
  rw [whole, leaves.history, History.calls, List.filterMap_flatMap]
  exact List.flatMap_congr fun t _ => t.tick_calls s

end

namespace Loop

variable {s : Scheduler σ} {l : Loop σ}

theorem ready_of_stops {a : Act} (stops : a.stops = true) : (l.act s a).channel.ready = true := by
  cases a <;> simp [Act.stops, act, Channel.ready] at *

theorem course_of_stops {a : Act} (stops : a.stops = true) :
    l.started a = none ∧ (l.act s a).course = l.course := by
  cases a with
  | wait => cases stops
  | poll => cases stops
  | _ => exact ⟨rfl, rfl⟩

theorem ready_act (asked : l.channel.ready = true) (a : Act) : (l.act s a).channel.ready = true := by
  cases a with
  | poll =>
    rcases l.poll_cases s with ⟨-, same, -⟩ | ⟨-, ends, -⟩ | ⟨-, -, -, silent, -⟩
    · rw [act, same, asked]
    · rw [act, ends, asked]
    · rw [silent] at asked
      cases asked
  | wait => exact asked
  | _ => exact ready_of_stops rfl

theorem started_of_ready (asked : l.channel.ready = true) (a : Act) : l.started a = none := by
  cases a <;> simp [started, turn?, asked]

/-- Nothing starts any more, and the course stays. -/
theorem run_of_ready (asked : l.channel.ready = true) (acts : List Act) :
    l.turns s acts = [] ∧ (l.run s acts).course = l.course ∧ (l.run s acts).channel.ready = true := by
  induction acts generalizing l with
  | nil => exact ⟨rfl, rfl, asked⟩
  | cons a acts ih =>
    have idle := started_of_ready asked a
    obtain ⟨none, course, still⟩ := ih (ready_act (s := s) asked a)
    have same : (l.act s a).course = l.course := by
      rcases l.act_course s a with ⟨-, same⟩ | ⟨starts, -⟩
      · exact same
      · cases idle.symm.trans starts
    exact ⟨by rw [turns, idle, none]; rfl, course.trans same, still⟩

/-- From a stop on nothing starts. -/
theorem run_of_stops (l : Loop σ) (before : List Act) {stop : Act} (stops : stop.stops = true)
    (after : List Act) : l.turns s (before ++ stop :: after) = l.turns s before ∧
      (l.run s (before ++ stop :: after)).course = (l.run s before).course ∧
      (l.run s (before ++ stop :: after)).channel.ready = true := by
  obtain ⟨idle, same⟩ := course_of_stops (s := s) (l := l.run s before) stops
  obtain ⟨none, course, asked⟩ := run_of_ready (s := s) (ready_of_stops (l := l.run s before) stops) after
  refine ⟨?_, ?_, ?_⟩
  · rw [turns_append, turns, idle, none, Option.toList_none, List.append_nil, List.append_nil]
  · rw [run_append]
    exact course.trans same
  · rw [run_append]
    exact asked

/-- The first poll after a tick under way ends a loop that is asked to stop. -/
theorem ended_of_ready (asked : l.channel.ready = true) (free : l.course.free ≤ l.now) :
    (l.act s .poll).ended = true := by
  rcases l.poll_cases s with ⟨-, same, waiting⟩ | ⟨-, ends, -⟩ | ⟨-, -, -, silent, -⟩
  · rw [act, same]
    by_contra going
    -- Waiting with a stop asked for, a poll would not have left the loop as it was.
    have waits : l.waits = true := by simp [waits, Bool.eq_false_iff.mpr going, free]
    rw [waiting waits] at asked
    cases asked
  · rw [act, ends]
  · rw [silent] at asked
    cases asked

theorem ended_act (finished : l.ended = true) (a : Act) : (l.act s a).ended = true := by
  cases a with
  | poll => simp [act, poll, waits, finished]
  | _ => exact finished

theorem ended_run (finished : l.ended = true) (acts : List Act) : (l.run s acts).ended = true := by
  induction acts generalizing l with
  | nil => exact finished
  | cons a acts ih => exact ih (ended_act finished a)

/-- A loop ends because it is asked to. -/
theorem ended_act_of_silent (silent : l.channel.ready = false) {a : Act} (goes : a.stops = false) :
    (l.act s a).ended = l.ended ∧ (l.act s a).channel.ready = false := by
  cases a with
  | poll =>
    rcases l.poll_cases s with ⟨-, same, -⟩ | ⟨-, -, -, asked⟩ | ⟨-, ticks, -⟩
    · exact ⟨by rw [act, same], by rw [act, same, silent]⟩
    · cases silent.symm.trans asked
    · exact ⟨by rw [act, ticks], by rw [act, ticks]; exact silent⟩
  | wait => exact ⟨rfl, silent⟩
  | signal => cases goes
  | drop => cases goes

theorem ended_run_of_silent (silent : l.channel.ready = false) {acts : List Act}
    (go : ∀ a ∈ acts, a.stops = false) : (l.run s acts).ended = l.ended ∧ (l.run s acts).channel.ready = false := by
  induction acts generalizing l with
  | nil => exact ⟨rfl, silent⟩
  | cons a acts ih =>
    obtain ⟨same, still⟩ := ended_act_of_silent (s := s) silent (go a List.mem_cons_self)
    obtain ⟨later, last⟩ := ih still fun b member => go b (List.mem_cons_of_mem a member)
    exact ⟨later.trans same, last⟩

end Loop
end Throughput.Report
