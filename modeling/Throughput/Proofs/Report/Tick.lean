import Throughput.Report.Loop

/-! What one tick does with whatever its source and its sinks answer. The answers are
read off the source and the sinks themselves, not off the history that is checked. -/
namespace Throughput

namespace Tally

theorem get_cons (key : String) (n : Nat) (rest : Tally) (name : String) :
    get ((key, n) :: rest) name = if key = name then n else get rest name := by
  by_cases same : key = name
  · subst key
    simp [get]
  · have other : (name == key) = false := beq_eq_false_iff_ne.mpr (Ne.symm same)
    simp [get, List.lookup_cons, other, same]

@[simp] theorem get_increment (t : Tally) (counted name : String) :
    get (increment counted t) name = get t name + if counted = name then 1 else 0 := by
  induction t with
  | nil =>
    have none : get [] name = 0 := rfl
    rw [increment, get_cons, none, Nat.zero_add]
  | cons entry rest ih =>
    obtain ⟨key, n⟩ := entry
    by_cases found : key = counted
    · subst key
      simp only [increment, if_true, get_cons]
      split <;> rfl
    · simp only [increment, if_neg found, get_cons, ih]
      by_cases here : key = name
      · subst key
        simp [Ne.symm found]
      · simp [here]

end Tally

namespace Report

def Measured.rate? : Measured → Option UInt32
  | sample s => s.rate?
  | aborted => none

/-- The calls that a history tells of: sink, metric and value of each. -/
def History.calls (h : History) : List (String × String × UInt32) :=
  h.filterMap fun (_, e) => match e with
    | .called sink metric value => some (sink, metric, value)
    | _ => none

/-- What sinks answer if each is called once, in order, in the state that the call
before it left. -/
def emissions (metric : String) (value : UInt32) : σ → List (Sink σ) → List (Emission σ)
  | _, [] => []
  | state, sink :: rest =>
    let e := sink.emit state metric value
    e :: emissions metric value e.state rest

/-- How a call of a named sink ended. -/
abbrev Result := String × Delivery

def Result.ok (r : Result) : Bool := r.2 = .delivered

def results (metric : String) (value : UInt32) (state : σ) (sinks : List (Sink σ)) :
    List Result :=
  (sinks.map Sink.name).zip ((emissions metric value state sinks).map Emission.delivery)

/-- A success counts as an emit of its sink, everything else as a failure of it. -/
def credit (m : Metrics) (r : Result) : Metrics :=
  if r.ok then m.countEmit r.1 else m.countFailure r.1

@[simp] theorem History.calls_append (a b : History) : (a ++ b).calls = a.calls ++ b.calls :=
  List.filterMap_append

@[simp] theorem History.record_append (a b : History) (m : Metrics) :
    (a ++ b).record m = b.record (a.record m) := List.foldl_append

theorem emissions_length (metric : String) (value : UInt32) (state : σ) (sinks : List (Sink σ)) :
    (emissions metric value state sinks).length = sinks.length := by
  induction sinks generalizing state with
  | nil => rfl
  | cons sink rest ih => simp [emissions, ih]

theorem results_names (metric : String) (value : UInt32) (state : σ) (sinks : List (Sink σ)) :
    (results metric value state sinks).map Prod.fst = sinks.map Sink.name := by
  rw [results, List.map_fst_zip]
  simp [emissions_length]

theorem results_cons (metric : String) (value : UInt32) (state : σ) (sink : Sink σ)
    (rest : List (Sink σ)) : results metric value state (sink :: rest) =
      (sink.name, (sink.emit state metric value).delivery) ::
        results metric value (sink.emit state metric value).state rest := rfl

theorem logged_calls (time : Nat) (events : List Event) :
    History.calls (events.map fun e => (time, Effect.logged e)) = [] := by
  induction events with
  | nil => rfl
  | cons e rest ih => exact ih

theorem logged_record (time : Nat) (events : List Event) (m : Metrics) :
    History.record (events.map fun e => (time, Effect.logged e)) m = m := by
  induction events with
  | nil => rfl
  | cons e rest ih => exact ih

theorem conclude_calls (sink : String) (time : Nat) (events : List Event) (d : Delivery) :
    (conclude sink time events d).calls = [] := by
  cases d <;> simp only [conclude, History.calls_append, logged_calls] <;> rfl

theorem conclude_record (sink : String) (time : Nat) (events : List Event) (d : Delivery)
    (m : Metrics) : (conclude sink time events d).record m = credit m (sink, d) := by
  cases d <;> simp only [conclude, History.record_append, logged_record] <;> rfl

section EmitAll

variable (metric : String) (value : UInt32) (time : Nat) (state : σ) (sinks : List (Sink σ))

theorem emitAll_history (sink : Sink σ) :
    (emitAll metric value time state (sink :: sinks)).history =
      let e := sink.emit state metric value
      let ends := time + e.milliseconds
      (time, .called sink.name metric value) ::
        (conclude sink.name ends e.events e.delivery ++
          (emitAll metric value ends e.state sinks).history) := rfl

/-- Whatever the sinks answer, each is called once and in its turn. -/
theorem emitAll_calls : (emitAll metric value time state sinks).history.calls =
    sinks.map fun sink => (sink.name, metric, value) := by
  induction sinks generalizing time state with
  | nil => rfl
  | cons sink rest ih =>
    have first (h : History) : History.calls ((time, .called sink.name metric value) :: h) =
        (sink.name, metric, value) :: h.calls := rfl
    rw [emitAll_history, first, History.calls_append, conclude_calls, ih, List.map_cons,
      List.nil_append]

theorem emitAll_record (m : Metrics) : (emitAll metric value time state sinks).history.record m =
    (results metric value state sinks).foldl credit m := by
  induction sinks generalizing time state m with
  | nil => rfl
  | cons sink rest ih =>
    have first (h : History) : History.record ((time, .called sink.name metric value) :: h) m =
        h.record m := rfl
    rw [emitAll_history, first, History.record_append, conclude_record, ih, results_cons,
      List.foldl_cons]

theorem emitAll_succeeded : (emitAll metric value time state sinks).succeeded =
    (results metric value state sinks).countP Result.ok := by
  induction sinks generalizing time state with
  | nil => rfl
  | cons sink rest ih => simp [emitAll, results_cons, List.countP_cons, ih, Result.ok]

theorem emitAll_total : (emitAll metric value time state sinks).succeeded +
    (emitAll metric value time state sinks).failed = sinks.length := by
  induction sinks generalizing time state with
  | nil => rfl
  | cons sink rest ih =>
    have tail := ih (time + (sink.emit state metric value).milliseconds)
      (sink.emit state metric value).state
    simp only [emitAll, List.length_cons]
    split <;> omega

theorem emitAll_state : (emitAll metric value time state sinks).state =
    sinks.foldl (fun state sink => (sink.emit state metric value).state) state := by
  induction sinks generalizing time state with
  | nil => rfl
  | cons sink rest ih => rw [emitAll, List.foldl_cons, ih]

end EmitAll

theorem measureOnce_rate (source : Source σ) (time : Nat) (state : σ) :
    (measureOnce source time state).1 = (source.measure state).1.rate? := by
  unfold measureOnce
  split <;> simp_all [Measured.rate?]

theorem measureOnce_state (source : Source σ) (time : Nat) (state : σ) :
    (measureOnce source time state).2.2 = (source.measure state).2 := by
  unfold measureOnce
  split <;> simp_all

theorem measureOnce_history (source : Source σ) (time : Nat) (state : σ) :
    (measureOnce source time state).2.1.calls = [] ∧
      ∀ m, (measureOnce source time state).2.1.record m = m := by
  unfold measureOnce
  split <;> exact ⟨rfl, fun _ => rfl⟩

def Outcome.value? : Outcome → Option UInt32
  | skipped => none
  | emitted value .. => some value

namespace Scheduler

variable (s : Scheduler σ) (time : Nat) (state : σ)

/-- The rate of a tick that starts in `state`, if the source has one. -/
def rate? : Option UInt32 := (s.source.measure state).1.rate?

/-- The state that the first sink finds. -/
def measured : σ := (s.source.measure state).2

/-- How the calls of a tick that starts in `state` end. -/
def results : List Result :=
  match s.rate? state with
  | none => []
  | some value => Report.results s.settings.metric value (s.measured state) s.sinks

/-- Every sink gets the sample once and in its turn, or no sink is called. -/
structure Isolated (t : Tick σ) : Prop where
  skipped : s.rate? state = none →
    t.outcome = .skipped ∧ t.history.calls = [] ∧ t.state = s.measured state
  calls : ∀ value, s.rate? state = some value →
    t.history.calls = s.sinks.map fun sink => (sink.name, s.settings.metric, value)
  effects : ∀ value, s.rate? state = some value →
    t.state = s.sinks.foldl (fun state sink => (sink.emit state s.settings.metric value).state)
      (s.measured state)
  outcome : ∀ value, s.rate? state = some value → ∃ succeeded failed,
    t.outcome = .emitted value succeeded failed ∧ succeeded + failed = s.sinks.length ∧
      succeeded = (s.results state).countP Result.ok

theorem tick_of_none (none : s.rate? state = none) :
    (s.tick time state).outcome = .skipped ∧ (s.tick time state).history.calls = [] ∧
      (s.tick time state).state = s.measured state ∧
      ∀ m, (s.tick time state).history.record m = m.countSkip := by
  have rate := (measureOnce_rate s.source time state).trans none
  have left := measureOnce_state s.source time state
  obtain ⟨calls, record⟩ := measureOnce_history s.source time state
  simp only [tick, Report.tick, rate, History.calls_append, History.record_append, calls, record]
  exact ⟨trivial, rfl, left, fun _ => rfl⟩

theorem tick_of_some {value : UInt32} (some : s.rate? state = some value) :
    let calls := emitAll s.settings.metric value time (s.measured state) s.sinks
    (s.tick time state).outcome = .emitted value calls.succeeded calls.failed ∧
      (s.tick time state).history.calls = calls.history.calls ∧
      (s.tick time state).state = calls.state ∧
      ∀ m, (s.tick time state).history.record m =
        (calls.history.record (m.countTick.setRate value)).observeDuration := by
  have rate := (measureOnce_rate s.source time state).trans some
  have left : (measureOnce s.source time state).2.2 = s.measured state :=
    measureOnce_state s.source time state
  obtain ⟨calls, record⟩ := measureOnce_history s.source time state
  simp only [tick, Report.tick, rate, left, History.calls_append, History.record_append, calls,
    record]
  refine ⟨trivial, ?_, trivial, fun _ => rfl⟩
  exact List.append_nil _

theorem tick_isolated : s.Isolated state (s.tick time state) where
  skipped none := by
    obtain ⟨outcome, calls, left, _⟩ := s.tick_of_none time state none
    exact ⟨outcome, calls, left⟩
  calls value some := by
    rw [(s.tick_of_some time state some).2.1, emitAll_calls]
  effects value some := by
    rw [(s.tick_of_some time state some).2.2.1, emitAll_state]
  outcome value some := by
    refine ⟨_, _, (s.tick_of_some time state some).1, emitAll_total .., ?_⟩
    rw [emitAll_succeeded, results, some]

theorem tick_value? : (s.tick time state).outcome.value? = s.rate? state := by
  cases rate : s.rate? state with
  | none => rw [(s.tick_of_none time state rate).1, Outcome.value?]
  | some value => rw [(s.tick_of_some time state rate).1, Outcome.value?]

theorem tick_record (m : Metrics) : (s.tick time state).history.record m =
    match s.rate? state with
    | none => m.countSkip
    | some value => ((s.results state).foldl credit (m.countTick.setRate value)).observeDuration := by
  cases rate : s.rate? state with
  | none => exact (s.tick_of_none time state rate).2.2.2 m
  | some value =>
    rw [(s.tick_of_some time state rate).2.2.2 m, emitAll_record, results, rate]

/-- A tick with a sample has one result for each sink. -/
theorem results_names : (s.results state).map Prod.fst =
    if (s.rate? state).isSome then s.sinkNames else [] := by
  cases rate : s.rate? state with
  | none => simp [results, rate]
  | some value => simp [results, rate, Report.results_names, sinkNames]

end Scheduler
end Report
end Throughput
