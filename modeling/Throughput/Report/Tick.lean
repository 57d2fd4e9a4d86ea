import Throughput.Metrics
import Throughput.Rate.Sample
import Throughput.Sink

/-! One tick: a measurement, handed to every sink in order. A tick is told as effects at
times, so that a tick may be looked at while it is under way. -/
namespace Throughput.Report

inductive Measured where
  | sample (s : Rate.Sample)
  /-- The source did not return in an orderly way. -/
  | aborted
  deriving DecidableEq, Repr

structure Source (σ : Type) where
  name : String
  measure : σ → Measured × σ

inductive Effect where
  /-- No sample was there, no sink was called. -/
  | skipped
  | sampled (value : UInt32)
  /-- A call of a sink begins. -/
  | called (sink metric : String) (value : UInt32)
  | delivered (sink : String)
  | failed (sink : String)
  /-- The tick is over. -/
  | observed (milliseconds : Nat)
  | logged (event : Event)
  deriving DecidableEq, Repr

def Effect.record (m : Metrics) : Effect → Metrics
  | skipped => m.countSkip
  | sampled value => m.countTick.setRate value
  | called .. => m
  | delivered sink => m.countEmit sink
  | failed sink => m.countFailure sink
  | observed _ => m.observeDuration
  | logged _ => m

/-- Effects in order, each with its time in milliseconds. -/
abbrev History := List (Nat × Effect)

namespace History

def record (h : History) (m : Metrics) : Metrics := h.foldl (fun m (_, e) => e.record m) m

def events (h : History) : List Event :=
  h.filterMap fun (_, e) => match e with
    | .logged event => some event
    | _ => none

end History

inductive Outcome where
  | skipped
  | emitted (value : UInt32) (succeeded failed : Nat)
  deriving DecidableEq, Repr

/-- What a tick came to, when it ended, and the state it left. -/
structure Tick (σ : Type) where
  outcome : Outcome
  history : History
  ends : Nat
  state : σ

/-- What a call that began at `time` and is over leaves behind. -/
def conclude (sink : String) (time : Nat) (events : List Event) (delivery : Delivery) : History :=
  let logged := events.map fun e => (time, Effect.logged e)
  match delivery with
  | .delivered => logged ++ [(time, .delivered sink)]
  | .failed reason =>
    logged ++ [(time, .logged (.warn "Sink failed to emit sample"
      [("sink", sink), ("error", reason)])), (time, .failed sink)]
  | .aborted =>
    logged ++ [(time, .logged (.error "Sink task aborted" [("sink", sink)])),
      (time, .failed sink)]

/-- Calls in progress: the counts of both ends, and where things stand. -/
structure Calls (σ : Type) where
  succeeded : Nat
  failed : Nat
  history : History
  ends : Nat
  state : σ

/-- Calls every sink, one after the other, with the same sample. -/
def emitAll (metric : String) (value : UInt32) (time : Nat) (state : σ) :
    List (Sink σ) → Calls σ
  | [] => ⟨0, 0, [], time, state⟩
  | sink :: rest =>
    let e := sink.emit state metric value
    let ends := time + e.milliseconds
    let calls := emitAll metric value ends e.state rest
    { calls with
      succeeded := calls.succeeded + (if e.delivery = .delivered then 1 else 0)
      failed := calls.failed + (if e.delivery = .delivered then 0 else 1)
      history := (time, .called sink.name metric value) ::
        conclude sink.name ends e.events e.delivery ++ calls.history }

/-- Measures once; a source that fails counts as one without a sample. -/
def measureOnce (source : Source σ) (time : Nat) (state : σ) : Option UInt32 × History × σ :=
  match source.measure state with
  | (.sample s, state) => (s.rate?, [], state)
  | (.aborted, state) =>
    (none, [(time, .logged (.error "Rate source panicked, treating as unavailable"
      [("source", source.name)]))], state)

def tick (source : Source σ) (sinks : List (Sink σ)) (metric : String) (time : Nat) (state : σ) :
    Tick σ :=
  let (rate, history, state) := measureOnce source time state
  match rate with
  | none =>
    { outcome := .skipped
      history := history ++ [(time, .logged (.info "Request rate not available, skipping tick"
        [("source", source.name)])), (time, .skipped)]
      ends := time
      state }
  | some value =>
    let calls := emitAll metric value time state sinks
    { outcome := .emitted value calls.succeeded calls.failed
      history := history ++ [(time, .logged (.debug "Emitting sample"
        [("source", source.name), ("metric", metric), ("value", toString value.toNat),
          ("sinks", toString sinks.length)])), (time, .sampled value)] ++ calls.history ++
        [(calls.ends, .observed (calls.ends - time))]
      ends := calls.ends
      state := calls.state }

end Throughput.Report
