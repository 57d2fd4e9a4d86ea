import Throughput.Proofs.Report.Tick

/-! Ticks one after the other: what they add to the counts, and how little of it depends
on the sinks. A sink that fails changes the split between its own successes and
failures and nothing else. -/
namespace Throughput.Report

theorem credit_frame (m : Metrics) (r : Result) :
    (credit m r).ticks = m.ticks ∧ (credit m r).skipped = m.skipped ∧
      (credit m r).durations = m.durations ∧ (credit m r).lastRate = m.lastRate := by
  unfold credit
  split <;> exact ⟨rfl, rfl, rfl, rfl⟩

/-- How many calls of the sinks with a name ended as `ok` says. -/
def tally (results : List Result) (name : String) (ok : Bool) : Nat :=
  results.countP fun r => r.1 = name ∧ r.ok = ok

theorem tally_cons (r : Result) (rest : List Result) (name : String) (ok : Bool) :
    tally (r :: rest) name ok = tally rest name ok + if r.1 = name ∧ r.ok = ok then 1 else 0 := by
  simp [tally, List.countP_cons]

theorem credit_emits (m : Metrics) (r : Result) (name : String) :
    (credit m r).emitsOf name = m.emitsOf name + if r.1 = name ∧ r.ok = true then 1 else 0 := by
  cases ok : r.ok <;> simp [credit, ok, Metrics.emitsOf, Metrics.countEmit, Metrics.countFailure]

theorem credit_failures (m : Metrics) (r : Result) (name : String) :
    (credit m r).failuresOf name =
      m.failuresOf name + if r.1 = name ∧ r.ok = false then 1 else 0 := by
  cases ok : r.ok <;>
    simp [credit, ok, Metrics.failuresOf, Metrics.countEmit, Metrics.countFailure]

theorem tally_total (results : List Result) (name : String) :
    tally results name true + tally results name false = (results.map Prod.fst).count name := by
  induction results with
  | nil => rfl
  | cons r rest ih =>
    rw [tally_cons, tally_cons, List.map_cons, List.count_cons, ← ih]
    by_cases same : r.1 = name
    · cases r.ok <;> simp [same] <;> omega
    · simp [same]

theorem tally_append (a b : List Result) (name : String) (ok : Bool) :
    tally (a ++ b) name ok = tally a name ok + tally b name ok := List.countP_append

/-- What the counts `before` and `after` some ticks are to each other, given the samples
that were emitted and how the calls of the sinks ended. -/
structure Growth (sinks : List String) (turns : Nat) (emitted : List UInt32)
    (results : List Result) (before after : Metrics) : Prop where
  ticks : after.ticks = before.ticks + emitted.length
  turns : after.ticks + after.skipped = before.ticks + before.skipped + turns
  durations : after.durations = before.durations + emitted.length
  emits : ∀ name, after.emitsOf name = before.emitsOf name + tally results name true
  failures : ∀ name, after.failuresOf name = before.failuresOf name + tally results name false
  calls : ∀ name, after.emitsOf name + after.failuresOf name =
    before.emitsOf name + before.failuresOf name + emitted.length * sinks.count name
  last : after.lastRate = emitted.getLast?.getD before.lastRate

theorem Growth.refl (sinks : List String) (m : Metrics) : Growth sinks 0 [] [] m m := by
  constructor <;> simp [tally]

theorem Growth.trans {sinks : List String} {n k : Nat} {v w : List UInt32} {r q : List Result}
    {a b c : Metrics} (first : Growth sinks n v r a b) (second : Growth sinks k w q b c) :
    Growth sinks (n + k) (v ++ w) (r ++ q) a c where
  ticks := by rw [second.ticks, first.ticks, List.length_append, Nat.add_assoc]
  turns := by rw [second.turns, first.turns, Nat.add_assoc]
  durations := by rw [second.durations, first.durations, List.length_append, Nat.add_assoc]
  emits name := by rw [second.emits, first.emits, tally_append, Nat.add_assoc]
  failures name := by rw [second.failures, first.failures, tally_append, Nat.add_assoc]
  calls name := by
    rw [second.calls, first.calls, List.length_append, Nat.add_mul, Nat.add_assoc]
  last := by
    rw [second.last, first.last, List.getLast?_append]
    cases w.getLast? <;> simp

theorem foldl_credit (results : List Result) (m : Metrics) :
    let after := results.foldl credit m
    (after.ticks = m.ticks ∧ after.skipped = m.skipped ∧ after.durations = m.durations ∧
      after.lastRate = m.lastRate) ∧
    ∀ name, after.emitsOf name = m.emitsOf name + tally results name true ∧
      after.failuresOf name = m.failuresOf name + tally results name false := by
  induction results generalizing m with
  | nil => exact ⟨⟨rfl, rfl, rfl, rfl⟩, fun _ => ⟨rfl, rfl⟩⟩
  | cons r rest ih =>
    obtain ⟨ticks, skipped, durations, last⟩ := credit_frame m r
    obtain ⟨frame, counts⟩ := ih (credit m r)
    simp only [ticks, skipped, durations, last] at frame
    refine ⟨frame, fun name => ?_⟩
    obtain ⟨emits, failures⟩ := counts name
    rw [credit_emits] at emits
    rw [credit_failures] at failures
    rw [List.foldl_cons, emits, failures, tally_cons, tally_cons]
    omega

theorem skip_growth (sinks : List String) (m : Metrics) : Growth sinks 1 [] [] m m.countSkip := by
  constructor <;> simp [Metrics.countSkip, Metrics.emitsOf, Metrics.failuresOf, tally]
  omega

/-- Every call is credited to its sink, however it ended. -/
theorem emit_growth (results : List Result) (value : UInt32) (m : Metrics) :
    Growth (results.map Prod.fst) 1 [value] results m
      (results.foldl credit (m.countTick.setRate value)).observeDuration := by
  obtain ⟨⟨ticks, skipped, durations, last⟩, counts⟩ :=
    foldl_credit results (m.countTick.setRate value)
  generalize results.foldl credit (m.countTick.setRate value) = body
    at ticks skipped durations last counts ⊢
  constructor
  · exact ticks
  · change body.ticks + body.skipped = _
    rw [ticks, skipped]
    exact Nat.add_right_comm ..
  · exact congrArg (· + 1) durations
  · exact fun name => (counts name).1
  · exact fun name => (counts name).2
  · intro name
    obtain ⟨emits, failures⟩ := counts name
    have total := tally_total results name
    change body.emitsOf name + body.failuresOf name = _ + 1 * _
    rw [emits, failures, ← total]
    change (m.emitsOf name + _) + (m.failuresOf name + _) = _
    omega
  · exact last

namespace Scheduler

theorem tick_growth (s : Scheduler σ) (time : Nat) (state : σ) (m : Metrics) :
    Growth s.sinkNames 1 (s.rate? state).toList (s.results state) m
      ((s.tick time state).history.record m) := by
  have names := s.results_names state
  rw [tick_record]
  cases rate : s.rate? state with
  | none =>
    have nothing : s.results state = [] := by rw [results, rate]
    rw [nothing]
    exact skip_growth s.sinkNames m
  | some value =>
    rw [rate, Option.isSome_some, if_pos rfl] at names
    rw [← names]
    exact emit_growth (s.results state) value m

/-- When each tick of a run starts, and in which state: the one the tick before left. -/
def starts (s : Scheduler σ) : List Nat → σ → List (Nat × σ)
  | [], _ => []
  | time :: times, state => (time, state) :: s.starts times (s.tick time state).state

def ticks (s : Scheduler σ) (times : List Nat) (state : σ) : List (Tick σ) :=
  (s.starts times state).map fun (time, state) => s.tick time state

/-- The values of the ticks that emitted. -/
def emitted (s : Scheduler σ) (times : List Nat) (state : σ) : List UInt32 :=
  (s.ticks times state).filterMap fun t => t.outcome.value?

/-- How the calls of a whole run end. -/
def allResults (s : Scheduler σ) (times : List Nat) (state : σ) : List Result :=
  (s.starts times state).flatMap fun (_, state) => s.results state

/-- The counts after a run. -/
def recordRun (s : Scheduler σ) (times : List Nat) (state : σ) (m : Metrics) : Metrics :=
  (s.ticks times state).foldl (fun m t => t.history.record m) m

theorem emitted_cons (s : Scheduler σ) (time : Nat) (times : List Nat) (state : σ) :
    s.emitted (time :: times) state =
      (s.rate? state).toList ++ s.emitted times (s.tick time state).state := by
  rw [emitted, ticks, starts, List.map_cons, List.filterMap_cons, tick_value?]
  cases s.rate? state <;> rfl

theorem run_growth (s : Scheduler σ) (times : List Nat) (state : σ) (m : Metrics) :
    Growth s.sinkNames times.length (s.emitted times state) (s.allResults times state) m
      (s.recordRun times state m) := by
  induction times generalizing state m with
  | nil => exact .refl s.sinkNames m
  | cons time times ih =>
    have growth := (s.tick_growth time state m).trans
      (ih (s.tick time state).state ((s.tick time state).history.record m))
    rw [emitted_cons, List.length_cons, Nat.add_comm]
    exact growth

end Scheduler

section Apart

variable {S T U : Type}

/-- A source that sees nothing of the state that the sinks share. -/
def Source.apart (source : Source S) : Source (S × T) where
  name := source.name
  measure := fun (own, other) =>
    let (answer, own) := source.measure own
    (answer, own, other)

/-- A sink that sees nothing of the state of the source. -/
def Sink.apart (sink : Sink T) : Sink (S × T) where
  name := sink.name
  emit := fun (other, own) metric value =>
    let e := sink.emit own metric value
    ⟨e.delivery, e.milliseconds, e.events, other, e.state⟩

/-- A scheduler whose source and sinks meet nowhere but in its ticks. -/
def Scheduler.apart (source : Source S) (sinks : List (Sink T)) (settings : Settings)
    (positive : 0 < settings.interval) : Scheduler (S × T) :=
  ⟨source.apart, sinks.map Sink.apart, settings, positive⟩

/-- What a tick shows of itself besides how its calls ended. -/
def Tick.shown (t : Tick σ) : List (String × String × UInt32) × Option UInt32 :=
  (t.history.calls, t.outcome.value?)

/-- The counts agree but for how the calls of each sink are split. -/
structure AlikeUpToSplit (a b : Metrics) : Prop where
  ticks : a.ticks = b.ticks
  skipped : a.skipped = b.skipped
  durations : a.durations = b.durations
  lastRate : a.lastRate = b.lastRate
  calls : ∀ name, a.emitsOf name + a.failuresOf name = b.emitsOf name + b.failuresOf name

variable (source : Source S) (sinks : List (Sink T)) (settings : Settings)
  (positive : 0 < settings.interval) (time : Nat) (own : S) (other : T)

theorem foldl_apart (metric : String) (value : UInt32) :
    ((sinks.map (Sink.apart (S := S))).foldl
      (fun state sink => (sink.emit state metric value).state) (own, other)).1 = own := by
  induction sinks generalizing other with
  | nil => rfl
  | cons sink rest ih => exact ih (sink.emit other metric value).state

/-- The source is left as its measurement leaves it, whatever the sinks do. -/
theorem apart_tick_own :
    ((Scheduler.apart source sinks settings positive).tick time (own, other)).state.1 =
      (source.measure own).2 := by
  have law := (Scheduler.apart source sinks settings positive).tick_isolated time (own, other)
  cases rate : (Scheduler.apart source sinks settings positive).rate? (own, other) with
  | none =>
    rw [(law.skipped rate).2.2]
    rfl
  | some value =>
    rw [law.effects value rate]
    exact foldl_apart ..

theorem apart_tick_shown :
    ((Scheduler.apart source sinks settings positive).tick time (own, other)).shown =
      match (source.measure own).1.rate? with
      | none => ([], none)
      | some value =>
        ((sinks.map Sink.name).map fun name => (name, settings.metric, value), some value) := by
  have law := (Scheduler.apart source sinks settings positive).tick_isolated time (own, other)
  have value? := (Scheduler.apart source sinks settings positive).tick_value? time (own, other)
  have same : (Scheduler.apart source sinks settings positive).rate? (own, other) =
    (source.measure own).1.rate? := rfl
  rw [Tick.shown, value?]
  cases rate : (source.measure own).1.rate? with
  | none => rw [(law.skipped (same.trans rate)).2.1, same, rate]
  | some value =>
    rw [law.calls value (same.trans rate), same, rate]
    simp only [Scheduler.apart, List.map_map]
    rfl

end Apart

/-- Runs whose sinks have the same names measure and call alike. -/
theorem apart_runs_alike (source : Source S) {a : List (Sink T)} {b : List (Sink U)}
    (settings : Settings) (positive : 0 < settings.interval)
    (names : a.map Sink.name = b.map Sink.name) {times times' : List Nat}
    (turns : times.length = times'.length) (own : S) (t : T) (u : U) :
    let x := Scheduler.apart source a settings positive
    let y := Scheduler.apart source b settings positive
    ((x.starts times (own, t)).map fun start => start.2.1) =
        ((y.starts times' (own, u)).map fun start => start.2.1) ∧
      (x.ticks times (own, t)).map Tick.shown = (y.ticks times' (own, u)).map Tick.shown := by
  intro x y
  induction times generalizing times' own t u with
  | nil =>
    obtain rfl := List.length_eq_zero_iff.mp turns.symm
    exact ⟨rfl, rfl⟩
  | cons time times ih =>
    cases times' with
    | nil => simp at turns
    | cons time' times' =>
      have ownX := apart_tick_own source a settings positive time own t
      have ownY := apart_tick_own source b settings positive time' own u
      have shown : (x.tick time (own, t)).shown = (y.tick time' (own, u)).shown := by
        rw [apart_tick_shown, apart_tick_shown, names]
      have rest : times.length = times'.length := Nat.succ.inj turns
      have later := ih rest (source.measure own).2
        (x.tick time (own, t)).state.2 (y.tick time' (own, u)).state.2
      have stateX : (x.tick time (own, t)).state =
          ((source.measure own).2, (x.tick time (own, t)).state.2) := Prod.ext ownX rfl
      have stateY : (y.tick time' (own, u)).state =
          ((source.measure own).2, (y.tick time' (own, u)).state.2) := Prod.ext ownY rfl
      rw [← stateX, ← stateY] at later
      obtain ⟨states, shows⟩ := later
      constructor
      · exact congrArg (own :: ·) states
      · exact List.cons_eq_cons.mpr ⟨shown, shows⟩

/-- Whatever their sinks answer, such runs count alike but for the split. -/
theorem apart_counts_alike (source : Source S) {a : List (Sink T)} {b : List (Sink U)}
    (settings : Settings) (positive : 0 < settings.interval)
    (names : a.map Sink.name = b.map Sink.name) {times times' : List Nat}
    (turns : times.length = times'.length) (own : S) (t : T) (u : U) (m : Metrics) :
    AlikeUpToSplit
      ((Scheduler.apart source a settings positive).recordRun times (own, t) m)
      ((Scheduler.apart source b settings positive).recordRun times' (own, u) m) := by
  have growthA := (Scheduler.apart source a settings positive).run_growth times (own, t) m
  have growthB := (Scheduler.apart source b settings positive).run_growth times' (own, u) m
  have emitted : (Scheduler.apart source a settings positive).emitted times (own, t) =
      (Scheduler.apart source b settings positive).emitted times' (own, u) := by
    have shown := (apart_runs_alike source settings positive names turns own t u).2
    have values := congrArg (List.filterMap Prod.snd) shown
    rwa [List.filterMap_map, List.filterMap_map] at values
  have sinks : (Scheduler.apart source a settings positive).sinkNames =
      (Scheduler.apart source b settings positive).sinkNames := by
    simp only [Scheduler.sinkNames, Scheduler.apart, List.map_map]
    exact names
  rw [emitted, sinks, turns] at growthA
  have ticks := growthA.ticks.trans growthB.ticks.symm
  refine ⟨ticks, ?_, ?_, ?_, ?_⟩
  · have both := growthA.turns.trans growthB.turns.symm
    omega
  · exact growthA.durations.trans growthB.durations.symm
  · exact growthA.last.trans growthB.last.symm
  · exact fun name => (growthA.calls name).trans (growthB.calls name).symm

/-- One tick calls every sink or none, a run counts what its ticks do, and how the sinks
answer reaches neither the source nor each other. -/
theorem sinks_isolated :
    (∀ {σ : Type} (s : Scheduler σ) time state, s.Isolated state (s.tick time state)) ∧
    (∀ {σ : Type} (s : Scheduler σ) times state m,
      Growth s.sinkNames times.length (s.emitted times state) (s.allResults times state) m
        (s.recordRun times state m)) ∧
    (∀ {S T U : Type} (source : Source S) (a : List (Sink T)) (b : List (Sink U)) settings
      positive, a.map Sink.name = b.map Sink.name →
      ∀ times times' : List Nat, times.length = times'.length → ∀ own t u m,
        let x := Scheduler.apart source a settings positive
        let y := Scheduler.apart source b settings positive
        ((x.starts times (own, t)).map fun start => start.2.1) =
            ((y.starts times' (own, u)).map fun start => start.2.1) ∧
          (x.ticks times (own, t)).map Tick.shown = (y.ticks times' (own, u)).map Tick.shown ∧
          AlikeUpToSplit (x.recordRun times (own, t) m) (y.recordRun times' (own, u) m)) := by
  refine ⟨fun s => s.tick_isolated, fun s => s.run_growth, ?_⟩
  intro S T U source a b settings positive names times times' turns own t u m x y
  obtain ⟨states, shown⟩ := apart_runs_alike source settings positive names turns own t u
  exact ⟨states, shown, apart_counts_alike source settings positive names turns own t u m⟩

/-- A source that answers as its list says. -/
def scripted : Source (List Measured) where
  name := "scripted"
  measure
    | [] => (.aborted, [])
    | answer :: rest => (answer, rest)

/-- A sink that takes its answers from a list that it shares with others. -/
def answering (name : String) : Sink (List Delivery) where
  name := name
  emit
    | [], _, _ => ⟨.aborted, 0, [], []⟩
    | answer :: rest, _, _ => ⟨answer, 3, [], rest⟩

def slowAborting (name : String) : Sink Unit where
  name := name
  emit _ _ _ := ⟨.aborted, 700, [], ()⟩

theorem sinks_isolated_of_mixed_answers :
    let script : List Measured := [.sample (.available 7), .sample .unavailable, .aborted,
      .sample (.available 9)]
    let answers : List Delivery := [.delivered, .failed "full", .delivered, .aborted]
    let x := Scheduler.apart scripted (["a", "b", "a"].map answering) {} (by decide)
    let y := Scheduler.apart scripted (["a", "b", "a"].map slowAborting) {} (by decide)
    let times := [0, 10, 20, 30]
    (x.recordRun times (script, answers) .empty).emitsOf "a" = 2 ∧
      (x.recordRun times (script, answers) .empty).lastRate = 9 ∧
      AlikeUpToSplit (x.recordRun times (script, answers) .empty)
        (y.recordRun times (script, ()) .empty) := by
  intro script answers x y times
  have alike := (sinks_isolated.2.2 scripted (["a", "b", "a"].map answering)
    (["a", "b", "a"].map slowAborting) {} (by decide) rfl times times rfl script answers ()
    .empty).2.2
  exact ⟨by decide, by decide, alike⟩

end Throughput.Report
