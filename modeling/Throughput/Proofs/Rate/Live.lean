import Mathlib.Algebra.Ring.Nat
import Mathlib.Data.List.Chain
import Throughput.Proofs.Rate.Window
import Throughput.Rate.Live

/-! A live source over any run: requests, installations and measurements in any order,
under a clock that may step back. The windows it closes lie end to end, each longer than
a second, and every request is in one of them or still to be counted. -/
namespace Throughput.Rate

/-- A window that a measurement closed. -/
structure Span where
  opened : Int64
  closed : Int64
  requests : UInt64
  deriving DecidableEq, Repr

namespace Span

def reading (w : Span) : Reading := .between w.requests w.opened w.closed

def rate (w : Span) : UInt32 := w.reading.rate

def milliseconds (w : Span) : Int := w.closed.toInt - w.opened.toInt

/-- The record that tells of a closed window. -/
def record (w : Span) : Event :=
  .debug "Live request count window closed"
    [("requests", toString w.requests), ("elapsed_secs", toString w.reading.elapsed),
      ("rate", toString w.rate)]

theorem rate_eq_zero_iff (w : Span) : w.rate = 0 ↔ w.requests = 0 :=
  perSecond_eq_zero_iff _ _

end Span

/-- The spans lead from one time to the other, each from where the one before it ended. -/
def Tiles : Int64 → List Span → Int64 → Prop
  | start, [], finish => start = finish
  | start, w :: rest, finish => w.opened = start ∧ Tiles w.closed rest finish

/-- The rate of the last span, or `before` if there is none. -/
def latestRate (before : UInt32) (spans : List Span) : UInt32 := (spans.map Span.rate).getLastD before

theorem Tiles.append {start middle finish : Int64} {a b : List Span} (front : Tiles start a middle)
    (back : Tiles middle b finish) : Tiles start (a ++ b) finish := by
  induction a generalizing start with
  | nil =>
    cases front
    exact back
  | cons w rest ih => exact ⟨front.1, ih front.2⟩

theorem latestRate_cons (before : UInt32) (w : Span) (rest : List Span) :
    latestRate before (w :: rest) = latestRate w.rate rest := List.getLastD_cons

theorem latestRate_append (before : UInt32) (a b : List Span) :
    latestRate before (a ++ b) = latestRate (latestRate before a) b := by
  induction a generalizing before with
  | nil => rfl
  | cons w rest ih => rw [List.cons_append, latestRate_cons, latestRate_cons, ih]

theorem latestRate_of_getLast? {before : UInt32} {spans : List Span} {w : Span}
    (last : spans.getLast? = some w) : latestRate before spans = w.rate := by
  obtain ⟨front, rfl⟩ := List.getLast?_eq_some_iff.mp last
  rw [latestRate_append]
  rfl

theorem Tiles.spaced {start finish : Int64} {spans : List Span} (tiles : Tiles start spans finish)
    (long : ∀ w ∈ spans, 1000 < w.milliseconds) :
    List.IsChain (fun a b : Int64 => a.toInt + 1000 < b.toInt) (start :: spans.map Span.closed) := by
  induction spans generalizing start with
  | nil => exact List.isChain_singleton _
  | cons w rest ih =>
    obtain ⟨rfl, tail⟩ := tiles
    have first : 1000 < w.closed.toInt - w.opened.toInt := long w (List.mem_cons_self ..)
    have later := ih tail fun v member => long v (List.mem_cons_of_mem _ member)
    exact List.isChain_cons_cons.mpr ⟨by omega, later⟩

theorem Tiles.finish_eq {start finish : Int64} {spans : List Span}
    (tiles : Tiles start spans finish) : finish = (spans.map Span.closed).getLastD start := by
  induction spans generalizing start with
  | nil => exact tiles.symm
  | cons w rest ih =>
    rw [List.map_cons, List.getLastD_cons]
    exact ih tiles.2

namespace Live

inductive Action where
  /-- One handled request, told through a handle or through the callback of a hook. -/
  | request
  | install (hook : Hook)
  | measure (now : Int64)

namespace Action

def isRequest : Action → Bool
  | request => true
  | _ => false

/-- A second before the time of a measurement is still a time. -/
def Timely : Action → Prop
  | measure now => Int64.minValue.toInt + 1000 ≤ now.toInt
  | _ => True

instance : DecidablePred Timely
  | request => inferInstanceAs (Decidable True)
  | install _ => inferInstanceAs (Decidable True)
  | measure now => inferInstanceAs (Decidable (Int64.minValue.toInt + 1000 ≤ now.toInt))

end Action

def perform (s : Live) : Action → Live
  | .request => s.count
  | .install hook => (s.install hook).source
  | .measure now => (s.measure now).2.1

def run (actions : List Action) (s : Live) : Live := actions.foldl perform s

def requests (actions : List Action) : Nat := actions.countP Action.isRequest

/-- The window that an action closes, seen from outside: the next one opens later. -/
def closing? (s : Live) (a : Action) : Option Span :=
  let opened := (s.perform a).window.opened
  if opened = s.window.opened then none else some ⟨s.window.opened, opened, s.window.pending⟩

/-- The windows closed in a run, first to last. -/
def closings : List Action → Live → List Span
  | [], _ => []
  | a :: rest, s => (closing? s a).toList ++ closings rest (s.perform a)

theorem requests_append (a b : List Action) : requests (a ++ b) = requests a + requests b :=
  List.countP_append

theorem run_snoc (before : List Action) (a : Action) (s : Live) :
    run (before ++ [a]) s = (run before s).perform a := by
  rw [run, List.foldl_append]
  rfl

theorem closings_snoc (before : List Action) (a : Action) (s : Live) :
    closings (before ++ [a]) s = closings before s ++ (closing? (run before s) a).toList := by
  induction before generalizing s with
  | nil => exact List.append_nil _
  | cons head before ih =>
    have later := ih (s.perform head)
    change (closing? s head).toList ++ closings (before ++ [a]) (s.perform head) = _
    rw [later, ← List.append_assoc]
    rfl

theorem retrofit_frame (s : Live) (hook : Hook) :
    (s.retrofit hook).source.window = s.window ∧ (s.retrofit hook).source.rate = s.rate := by
  unfold retrofit
  cases hook.retrofit with
  | none => exact ⟨rfl, rfl⟩
  | some outcome => cases s.retrofitted <;> exact ⟨rfl, rfl⟩

/-- An installation leaves the counting alone, however the host answers. -/
theorem install_frame (s : Live) (hook : Hook) :
    (s.install hook).source.window = s.window ∧ (s.install hook).source.rate = s.rate := by
  unfold install
  cases s.registered with
  | true => exact retrofit_frame s hook
  | false =>
    cases hook.registration with
    | error e => exact ⟨rfl, rfl⟩
    | ok _ => exact retrofit_frame { s with registered := true } hook

/-- The words of the gate say what the times say. -/
theorem gate_iff {opened now : Int64} (timely : Int64.minValue.toInt + 1000 ≤ now.toInt) :
    opened < now - minimumWindow ↔ 1000 < now.toInt - opened.toInt := by
  have least : Int64.minValue.toInt = -2 ^ 63 := Int64.toInt_minValue
  have most := now.toInt_lt
  have second : minimumWindow.toInt = 1000 := by decide
  have difference : (now - minimumWindow).toInt = now.toInt - 1000 := by
    rw [Int64.toInt_sub, second]
    exact Int.bmod_eq_of_le (by omega) (by omega)
  rw [Int64.lt_iff_toInt_lt, difference]
  omega

/-- The source after the measurement that closed a window. -/
def close (s : Live) (w : Span) : Live :=
  { s with window := { s.window with pending := 0, opened := w.closed }, rate := w.rate }

section Measure

variable (s : Live) {now : Int64} (timely : Int64.minValue.toInt + 1000 ≤ now.toInt)
include timely

theorem measure_of_long (long : 1000 < now.toInt - s.window.opened.toInt) :
    s.measure now =
      let w : Span := ⟨s.window.opened, now, s.window.pending⟩
      (.available w.rate, s.close w, [w.record]) := by
  unfold measure
  rw [if_pos ((gate_iff timely).mpr long)]
  rfl

theorem measure_of_short (short : ¬ 1000 < now.toInt - s.window.opened.toInt) :
    s.measure now = (.available s.rate, s, []) := by
  unfold measure
  rw [if_neg (mt (gate_iff timely).mp short)]

theorem closing?_of_long (long : 1000 < now.toInt - s.window.opened.toInt) :
    s.closing? (.measure now) = some ⟨s.window.opened, now, s.window.pending⟩ := by
  have next : (s.perform (.measure now)).window.opened = now := by
    rw [perform, measure_of_long s timely long]
    rfl
  have moved : now ≠ s.window.opened := by
    rintro rfl
    omega
  rw [closing?, next]
  exact if_neg moved

theorem closing?_of_short (short : ¬ 1000 < now.toInt - s.window.opened.toInt) :
    s.closing? (.measure now) = none := by
  rw [closing?, perform, measure_of_short s timely short]
  exact if_pos rfl

/-- The answer is the rate that the measurement leaves behind. -/
theorem measure_sample : (s.measure now).1 = .available (s.perform (.measure now)).rate := by
  rw [perform]
  by_cases long : 1000 < now.toInt - s.window.opened.toInt
  · rw [measure_of_long s timely long]
    rfl
  · rw [measure_of_short s timely long]

end Measure

/-- All that an action can do to the counting: it closes no window, or it closes one
and starts the next from nothing. -/
inductive Stepped (s : Live) (a : Action) : Option Span → Live → Prop where
  | continued (next : Live) (opened : next.window.opened = s.window.opened) (rate : next.rate = s.rate)
      (pending : next.window.pending = s.window.pending + if a.isRequest then 1 else 0) :
      Stepped s a none next
  | closed (now : Int64) (measured : a.isRequest = false)
      (long : 1000 < now.toInt - s.window.opened.toInt) :
      Stepped s a (some ⟨s.window.opened, now, s.window.pending⟩)
        (s.close ⟨s.window.opened, now, s.window.pending⟩)

theorem perform_stepped (s : Live) (a : Action) (timely : a.Timely) :
    Stepped s a (closing? s a) (s.perform a) := by
  cases a with
  | request =>
    have stays : closing? s .request = none := if_pos rfl
    rw [stays]
    exact .continued _ rfl rfl rfl
  | install hook =>
    obtain ⟨window, rate⟩ := install_frame s hook
    have stays : closing? s (.install hook) = none := if_pos (congrArg Window.opened window)
    rw [stays]
    exact .continued _ (congrArg Window.opened window) rate (by simp [perform, window, Action.isRequest])
  | measure now =>
    by_cases long : 1000 < now.toInt - s.window.opened.toInt
    · rw [closing?_of_long s timely long, perform, measure_of_long s timely long]
      exact .closed now rfl long
    · rw [closing?_of_short s timely long, perform, measure_of_short s timely long]
      exact .continued s rfl rfl (by simp [Action.isRequest])

/-- What a run of a source comes to: the counting before and after it, and the windows it
closed in between. -/
structure Kept (s next : Live) (spans : List Span) (counted : Nat) : Prop where
  requests : (spans.map fun w => w.requests.toNat).sum + next.window.pending.toNat =
    s.window.pending.toNat + counted
  tiles : Tiles s.window.opened spans next.window.opened
  long : ∀ w ∈ spans, 1000 < w.milliseconds
  rate : next.rate = latestRate s.rate spans

theorem Stepped.kept {s next : Live} {a : Action} {closed : Option Span}
    (step : Stepped s a closed next)
    (bounded : s.window.pending.toNat + requests [a] < 2 ^ 64) :
    Kept s next closed.toList (requests [a]) := by
  cases step with
  | continued _ opened rate pending =>
    refine ⟨?_, opened.symm, by simp, rate⟩
    change 0 + next.window.pending.toNat = _
    rw [Nat.zero_add, pending]
    cases request : a.isRequest with
    | false => simp [requests, request]
    | true =>
      have one : requests [a] = 1 := by simp [requests, request]
      rw [one] at bounded ⊢
      rw [if_pos rfl, UInt64.toNat_add]
      exact Nat.mod_eq_of_lt bounded
  | closed now measured long =>
    refine ⟨?_, ⟨rfl, rfl⟩, ?_, rfl⟩
    · have none : requests [a] = 0 := by simp [requests, measured]
      rw [none]
      exact Nat.add_zero _
    · intro w member
      rw [List.mem_singleton.mp member]
      exact long

theorem Kept.trans {s middle next : Live} {a b : List Span} {m n : Nat} (first : Kept s middle a m)
    (later : Kept middle next b n) : Kept s next (a ++ b) (m + n) where
  requests := by
    rw [List.map_append, List.sum_append]
    have before := first.requests
    have after := later.requests
    omega
  tiles := first.tiles.append later.tiles
  long w member := (List.mem_append.mp member).elim (first.long w) (later.long w)
  rate := by rw [later.rate, first.rate, latestRate_append]

theorem run_kept (actions : List Action) (s : Live) (timely : ∀ a ∈ actions, a.Timely)
    (bounded : s.window.pending.toNat + requests actions < 2 ^ 64) :
    Kept s (run actions s) (closings actions s) (requests actions) := by
  induction actions generalizing s with
  | nil => exact ⟨Nat.zero_add _, rfl, by simp [closings], rfl⟩
  | cons a rest ih =>
    have parts : requests (a :: rest) = requests [a] + requests rest := requests_append [a] rest
    rw [parts] at bounded ⊢
    have step := perform_stepped s a (timely a (List.mem_cons_self ..))
    have first := step.kept (by omega)
    have carried := first.requests
    have later := ih (s.perform a) (fun b member => timely b (List.mem_cons_of_mem _ member))
      (by omega)
    exact first.trans later

section Measured

variable (start : Int64) (before : List Action) (now : Int64)

/-- The measurement `m` at `now`, by a source that was new at `start` and went through the
actions `before`. -/
structure Measured (m : Sample × Live × List Event) : Prop where
  /-- It closes the window if that has been open for more than a second, -/
  closes : 1000 < now.toInt - (run before (new start)).window.opened.toInt →
    let s := run before (new start)
    let w : Span := ⟨s.window.opened, now, s.window.pending⟩
    m = (.available w.rate, s.close w, [w.record]) ∧
      closings (before ++ [.measure now]) (new start) = closings before (new start) ++ [w]
  /-- and otherwise it changes nothing. -/
  stays : ¬ 1000 < now.toInt - (run before (new start)).window.opened.toInt →
    m.2 = (run before (new start), []) ∧
      closings (before ++ [.measure now]) (new start) = closings before (new start)
  /-- A window opens when the one before it is closed. -/
  opened : (run before (new start)).window.opened =
    ((closings before (new start)).map Span.closed).getLastD start
  answer : m.1 = .available (latestRate 0 (closings (before ++ [.measure now]) (new start)))
  idle : m.1 = .available 0 → ∀ w,
    (closings (before ++ [.measure now]) (new start)).getLast? = some w → w.requests = 0

theorem requests_snoc_measure : requests (before ++ [.measure now]) = requests before := by
  rw [requests_append]
  rfl

theorem measure_measured (timely : ∀ a ∈ before ++ [.measure now], a.Timely)
    (bounded : requests before < 2 ^ 64) :
    Measured start before now ((run before (new start)).measure now) := by
  have empty : (new start).window.pending.toNat = 0 := rfl
  have earlier := run_kept before (new start)
    (fun a member => timely a (List.mem_append_left _ member)) (by omega)
  have whole := run_kept (before ++ [.measure now]) (new start) timely
    (by rw [requests_snoc_measure]; omega)
  have timelyNow : Action.Timely (.measure now) := timely _ (by simp)
  have answer : ((run before (new start)).measure now).1 =
      .available (latestRate 0 (closings (before ++ [.measure now]) (new start))) := by
    have rate := whole.rate
    rw [run_snoc] at rate
    rw [(run before (new start)).measure_sample timelyNow, rate]
    rfl
  refine ⟨?_, ?_, earlier.tiles.finish_eq, answer, ?_⟩
  · intro long
    refine ⟨measure_of_long _ timelyNow long, ?_⟩
    rw [closings_snoc, closing?_of_long _ timelyNow long]
    rfl
  · intro short
    refine ⟨congrArg Prod.snd (measure_of_short _ timelyNow short), ?_⟩
    rw [closings_snoc, closing?_of_short _ timelyNow short]
    exact List.append_nil _
  · intro zero w last
    rw [answer, latestRate_of_getLast? last] at zero
    exact w.rate_eq_zero_iff.mp (Sample.available.inj zero)

end Measured

/-- What any run comes to of a source that was new at `start`. -/
structure Accounted (start : Int64) (actions : List Action) : Prop where
  /-- Every request is in one closed window or still to be counted. -/
  requests : ((closings actions (new start)).map fun w => w.requests.toNat).sum +
    (run actions (new start)).window.pending.toNat = requests actions
  tiles : Tiles start (closings actions (new start)) (run actions (new start)).window.opened
  spaced : List.IsChain (fun a b : Int64 => a.toInt + 1000 < b.toInt)
    (start :: (closings actions (new start)).map Span.closed)
  measure : ∀ before now rest, actions = before ++ .measure now :: rest →
    Measured start before now ((run before (new start)).measure now)

/-- However requests, installations and measurements follow each other, and whatever the
clock does, the closed windows share out the time and the requests. -/
theorem windows_accounted (start : Int64) (actions : List Action)
    (timely : ∀ a ∈ actions, a.Timely) (bounded : requests actions < 2 ^ 64) :
    Accounted start actions := by
  have empty : (new start).window.pending.toNat = 0 := rfl
  have kept := run_kept actions (new start) timely (by omega)
  refine ⟨?_, kept.tiles, kept.tiles.spaced kept.long, ?_⟩
  · have counted := kept.requests
    rwa [empty, Nat.zero_add] at counted
  · intro before now rest split
    have front : (before ++ [.measure now]) ++ rest = actions := by simp [split]
    have fewer : requests before ≤ requests actions := by
      rw [split, requests_append]
      exact Nat.le_add_right ..
    refine measure_measured start before now (fun a member => timely a ?_) (by omega)
    rw [← front]
    exact List.mem_append_left _ member

/-- A busy window, a clock that steps back, a gate reached exactly, and a quiet window. -/
theorem windows_accounted_of_clock_stepping_back :
    let hook : Hook := ⟨.ok (), some (.ok 2)⟩
    let actions : List Action := [.request, .measure 1000, .install hook, .request,
      .measure 2501, .measure 500, .request, .measure 3501, .measure 3502, .measure 9000]
    (∀ a ∈ actions, a.Timely) ∧ requests actions < 2 ^ 64 ∧
      closings actions (new 0) = [⟨0, 2501, 2⟩, ⟨2501, 3502, 1⟩, ⟨3502, 9000, 0⟩] ∧
      Accounted 0 actions := by
  intro hook actions
  have timely : ∀ a ∈ actions, a.Timely := by decide
  have bounded : requests actions < 2 ^ 64 := by decide
  exact ⟨timely, bounded, by decide, windows_accounted 0 actions timely bounded⟩

end Live
end Throughput.Rate
