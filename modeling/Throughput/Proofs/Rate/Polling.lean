import Mathlib.Data.List.Induction
import Throughput.Proofs.Rate.Window
import Throughput.Rate.Polling

/-! Polling over any run of measurements. What a measurement answers depends on the
earlier ones only through the first handle that was found and the last count that was
read through it; both are told here from the turns alone, without the hidden state. -/
namespace Throughput.Rate

variable {σ Handle : Type}

/-- The circumstances of a measurement: what the counters are like, and the time. -/
abbrev Turn (σ : Type) := σ × Int64

namespace Locator

variable (locator : Locator σ Handle)

/-- What looking for the counter comes to, an error being as good as nothing. -/
def found (world : σ) : Option Handle := (locator.locate world).1.toOption.join

/-- The first handle that is ever found. -/
def first (turns : List (Turn σ)) : Option Handle :=
  turns.findSome? fun turn => locator.found turn.1

/-- The count that a turn reads through a handle, with its time. -/
def reading (turn : Turn σ) (handle : Option Handle) : Option (UInt64 × Int64) :=
  handle.bind fun handle => (locator.read turn.1 handle).toOption.map fun count => (count, turn.2)

/-- The successful reads through one handle. -/
def readsOf (handle : Handle) (turns : List (Turn σ)) : List (UInt64 × Int64) :=
  turns.filterMap fun turn => locator.reading turn (some handle)

/-- All successful reads: none before a handle is found, from then on those through it. -/
def reads : List (Turn σ) → List (UInt64 × Int64)
  | [] => []
  | turn :: rest =>
    match locator.found turn.1 with
    | none => reads rest
    | some handle => locator.readsOf handle (turn :: rest)

theorem first_snoc (before : List (Turn σ)) (turn : Turn σ) :
    locator.first (before ++ [turn]) = (locator.first before).or (locator.found turn.1) := by
  rw [first, List.findSome?_append, List.findSome?_singleton]
  rfl

theorem readsOf_snoc (handle : Handle) (before : List (Turn σ)) (turn : Turn σ) :
    locator.readsOf handle (before ++ [turn]) =
      locator.readsOf handle before ++ (locator.reading turn (some handle)).toList := by
  rw [readsOf, List.filterMap_append]
  cases read : locator.reading turn (some handle) <;> simp [readsOf, read]

theorem reads_snoc (before : List (Turn σ)) (turn : Turn σ) :
    locator.reads (before ++ [turn]) =
      locator.reads before ++ (locator.reading turn (locator.first (before ++ [turn]))).toList := by
  induction before with
  | nil =>
    cases found : locator.found turn.1 with
    | none => simp [reads, first, found, reading]
    | some handle =>
      have single := locator.readsOf_snoc handle [] turn
      simpa [reads, first, found, readsOf] using single
  | cons head rest ih =>
    cases found : locator.found head.1 with
    | none => simpa [reads, first, found] using ih
    | some handle => simpa [reads, first, found] using locator.readsOf_snoc handle (head :: rest) turn

/-- The window that a run leaves whose last successful read was `last`. -/
def window (start : Int64) : Option (UInt64 × Int64) → Window
  | none => .new start
  | some (count, time) => .startingAt count time

end Locator

namespace Polling

section Measure

variable (locator : Locator σ Handle) (turn : Turn σ) (s : Polling Handle)

/-- The handle that a measurement has after it looked for one. -/
def held : Option Handle := s.handle.or (locator.found turn.1)

/-- What a turn comes to with a handle or without one. -/
structure Answer (handle : Option Handle) (m : Measurement Handle) : Prop where
  failed : locator.reading turn handle = none →
    m.sample = .unavailable ∧ m.source.baseline = s.baseline ∧ m.source.window = s.window
  read : ∀ read, locator.reading turn handle = some read →
    m.sample = (if s.baseline then .available (s.window.sample read.1 read.2).1.rate
      else .unavailable) ∧
    m.source.baseline = true ∧ m.source.window = (s.window.sample read.1 read.2).2

structure Measured (m : Measurement Handle) : Prop where
  calls : m.calls = (if s.handle.isNone then [.locate] else []) ++
    if (held locator turn s).isSome then [.read] else []
  handle : m.source.handle = held locator turn s
  answer : Answer locator turn s (held locator turn s) m

theorem readHandle_spec (handle : Handle) :
    (readHandle locator turn.1 turn.2 handle s).calls = [.read] ∧
      (readHandle locator turn.1 turn.2 handle s).source.handle = s.handle ∧
      Answer locator turn s (some handle) (readHandle locator turn.1 turn.2 handle s) := by
  unfold readHandle
  cases read : locator.read turn.1 handle with
  | error e =>
    refine ⟨rfl, rfl, ?_⟩
    constructor <;> simp [read, Locator.reading, Except.toOption]
  | ok count =>
    cases baseline : s.baseline <;> refine ⟨rfl, rfl, ?_⟩ <;>
      constructor <;> simp [read, baseline, Locator.reading, Except.toOption]

/-- A turn that finds nothing changes nothing. -/
theorem measured_of_nothing (absent : s.handle = none) (nothing : held locator turn s = none)
    (log : List Event) : Measured locator turn s ⟨.unavailable, s, [.locate], log⟩ := by
  refine ⟨?_, ?_, ?_⟩
  · rw [nothing, absent]
    rfl
  · rw [nothing]
    exact absent
  · rw [nothing]
    exact ⟨fun _ => ⟨rfl, rfl, rfl⟩, fun _ read => by cases read⟩

theorem measure_measured : Measured locator turn s (measure locator turn.1 turn.2 s) := by
  unfold measure
  cases cached : s.handle with
  | some handle =>
    have has : held locator turn s = some handle := by rw [held, cached, Option.some_or]
    obtain ⟨calls, kept, answer⟩ := readHandle_spec locator turn s handle
    refine ⟨?_, ?_, ?_⟩
    · rw [has, cached]
      exact calls
    · rw [has]
      exact kept.trans cached
    · rw [has]
      exact answer
  | none =>
    have found : held locator turn s = (locator.locate turn.1).1.toOption.join := by
      rw [held, cached, Option.none_or, Locator.found]
    rcases located : locator.locate turn.1 with ⟨_ | _ | handle, log⟩ <;> rw [located] at found
    · exact measured_of_nothing locator turn s cached found _
    · exact measured_of_nothing locator turn s cached found _
    · -- The handle stays even if the read through it fails.
      obtain ⟨calls, kept, answer⟩ :=
        readHandle_spec locator turn { s with handle := some handle } handle
      refine ⟨?_, ?_, ?_⟩
      · rw [found, cached]
        exact congrArg (Call.locate :: ·) calls
      · rw [found]
        exact kept
      · rw [found]
        exact ⟨answer.failed, answer.read⟩

end Measure

section Run

variable (locator : Locator σ Handle) (start : Int64)

/-- The measurements of a run, each in the state that the one before it left. -/
def measurements : List (Turn σ) → Polling Handle → List (Measurement Handle)
  | [], _ => []
  | turn :: rest, s =>
    let m := measure locator turn.1 turn.2 s
    m :: measurements rest m.source

/-- The state after a run of a source that was new at `start`. -/
def after (turns : List (Turn σ)) : Polling Handle :=
  turns.foldl (fun s turn => (measure locator turn.1 turn.2 s).source) (.new start)

theorem after_snoc (before : List (Turn σ)) (turn : Turn σ) :
    after locator start (before ++ [turn]) =
      (measure locator turn.1 turn.2 (after locator start before)).source := by
  rw [after, List.foldl_append]
  rfl

theorem measurements_getElem? (before rest : List (Turn σ)) (turn : Turn σ) :
    (measurements locator (before ++ turn :: rest) (.new start))[before.length]? =
      some (measure locator turn.1 turn.2 (after locator start before)) := by
  unfold after
  generalize new start = s
  induction before generalizing s with
  | nil => rfl
  | cons head before ih => exact ih (measure locator head.1 head.2 s).source

/-- The state is what the turns say: the first handle found and the last count read. -/
structure Reached (turns : List (Turn σ)) (s : Polling Handle) : Prop where
  handle : s.handle = locator.first turns
  baseline : s.baseline = (locator.reads turns).getLast?.isSome
  window : s.window = Locator.window start (locator.reads turns).getLast?

theorem reached_after (turns : List (Turn σ)) :
    Reached locator start turns (after locator start turns) := by
  induction turns using List.reverseRecOn with
  | nil => exact ⟨rfl, rfl, rfl⟩
  | append_singleton before turn ih =>
    rw [after_snoc]
    obtain ⟨-, handle, answer⟩ := measure_measured locator turn (after locator start before)
    have has : held locator turn (after locator start before) =
        locator.first (before ++ [turn]) := by
      rw [held, ih.handle, Locator.first_snoc]
    rw [has] at handle answer
    have reads := locator.reads_snoc before turn
    cases reading : locator.reading turn (locator.first (before ++ [turn])) with
    | none =>
      obtain ⟨-, baseline, window⟩ := answer.failed reading
      rw [reading, Option.toList_none, List.append_nil] at reads
      refine ⟨handle, ?_, ?_⟩
      · rw [baseline, ih.baseline, reads]
      · rw [window, ih.window, reads]
    | some read =>
      obtain ⟨-, baseline, window⟩ := answer.read read reading
      rw [reading, Option.toList_some] at reads
      refine ⟨handle, ?_, ?_⟩
      · rw [baseline, reads, List.getLast?_concat, Option.isSome_some]
      · rw [window, ih.window, reads, List.getLast?_concat]
        cases (locator.reads before).getLast? <;> rfl

/-- What the measurement of a turn is after others, told from the turns. -/
structure Follows (before : List (Turn σ)) (turn : Turn σ) (s : Polling Handle)
    (m : Measurement Handle) : Prop where
  calls : m.calls = (if (locator.first before).isNone then [.locate] else []) ++
    if (locator.first (before ++ [turn])).isSome then [.read] else []
  handle : m.source.handle = s.handle.or (locator.found turn.1)
  failed : locator.reading turn (locator.first (before ++ [turn])) = none →
    m.sample = .unavailable ∧ m.source.baseline = s.baseline ∧ m.source.window = s.window
  first : locator.reads before = [] → m.sample = .unavailable
  later : ∀ past last read, locator.reads before = past ++ [last] →
    locator.reading turn (locator.first (before ++ [turn])) = some read →
    m.sample = .available (perSecond (.ofNat (read.1.toNat - last.1.toNat))
      (elapsedSeconds last.2 read.2))

theorem measure_follows (before : List (Turn σ)) (turn : Turn σ) :
    Follows locator before turn (after locator start before)
      (measure locator turn.1 turn.2 (after locator start before)) := by
  have state := reached_after locator start before
  obtain ⟨calls, handle, answer⟩ := measure_measured locator turn (after locator start before)
  have has : held locator turn (after locator start before) =
      locator.first (before ++ [turn]) := by
    rw [held, state.handle, Locator.first_snoc]
  rw [has] at calls answer
  rw [state.handle] at calls
  refine ⟨calls, handle, answer.failed, ?_, ?_⟩
  · intro none
    cases reading : locator.reading turn (locator.first (before ++ [turn])) with
    | none => exact (answer.failed reading).1
    | some read =>
      rw [(answer.read read reading).1, state.baseline, none]
      rfl
  · intro past last read reads reading
    have window := state.window
    rw [reads, List.getLast?_concat] at window
    rw [(answer.read read reading).1, state.baseline, window, Window.sample_rate, reads,
      List.getLast?_concat]
    rfl

/-- However a run goes, each of its measurements is told by the turns up to it. -/
theorem measurements_follow_turns (before rest : List (Turn σ)) (turn : Turn σ) :
    ∃ m, (measurements locator (before ++ turn :: rest) (.new start))[before.length]? = some m ∧
      Reached locator start before (after locator start before) ∧
      Follows locator before turn (after locator start before) m ∧
      m.source = after locator start (before ++ [turn]) := by
  refine ⟨_, measurements_getElem? locator start before rest turn, ?_, ?_, ?_⟩
  · exact reached_after locator start before
  · exact measure_follows locator start before turn
  · exact (after_snoc locator start before turn).symm

end Run

end Polling
end Throughput.Rate
