import Mathlib.Algebra.Ring.Nat
import Mathlib.Data.List.Induction
import Throughput.Proofs.Rate.Window

/-! Any run of a window, its two modes in any order, with a counter and a clock that may
go backwards. Each answer is told by the actions before it; no event is lost, and none is
read twice. -/
namespace Throughput.Rate.Window

namespace Action

/-- The absolute count that an action reads. -/
def count? : Action → Option UInt64
  | sample count _ => some count
  | _ => none

/-- The time of a read of either kind. -/
def time? : Action → Option Int64
  | record => none
  | sample _ now => some now
  | sampleEvents now => some now

def readsCount (a : Action) : Bool := a.count?.isSome

def readsEvents : Action → Bool
  | sampleEvents _ => true
  | _ => false

end Action

def recorded (actions : List Action) : Nat := actions.count .record

def counts (actions : List Action) : List UInt64 := actions.filterMap Action.count?

/-- The count of the last absolute read, or the initial one if there was none. -/
def previousCount (initial : UInt64) (actions : List Action) : UInt64 :=
  (counts actions).getLastD initial

/-- The time of the last read of either kind, or the start if there was none. -/
def previousTime (start : Int64) (actions : List Action) : Int64 :=
  (actions.filterMap Action.time?).getLastD start

/-- The events recorded since the last event read. -/
def unread (actions : List Action) : Nat :=
  recorded (actions.reverse.takeWhile fun a => !a.readsEvents)

/-- What the reads of one kind found in a run. -/
def deltas (kind : Action → Bool) (actions : List Action) (readings : List (Option Reading)) :
    List Nat :=
  (actions.zip readings).filterMap fun (a, reading) =>
    if kind a then reading.map fun r => r.delta.toNat else none

theorem recorded_append (a b : List Action) : recorded (a ++ b) = recorded a + recorded b :=
  List.count_append

theorem unread_le (actions : List Action) : unread actions ≤ recorded actions := by
  have within : (actions.reverse.takeWhile fun a => !a.readsEvents).Sublist actions.reverse :=
    List.takeWhile_sublist _
  have fewer := within.count_le Action.record
  rwa [List.count_reverse] at fewer

theorem unread_snoc (before : List Action) (a : Action) : unread (before ++ [a]) =
    if a.readsEvents then 0 else unread before + recorded [a] := by
  cases a <;> simp [unread, recorded, Action.readsEvents]

theorem previousCount_snoc (initial : UInt64) (before : List Action) (a : Action) :
    previousCount initial (before ++ [a]) = a.count?.getD (previousCount initial before) := by
  cases a <;> simp [previousCount, counts, Action.count?]

theorem previousTime_snoc (start : Int64) (before : List Action) (a : Action) :
    previousTime start (before ++ [a]) = a.time?.getD (previousTime start before) := by
  cases a <;> simp [previousTime, Action.time?]

theorem previousCount_cons (initial : UInt64) (a : Action) (rest : List Action) :
    previousCount initial (a :: rest) = previousCount (a.count?.getD initial) rest := by
  cases a with
  | sample count now => exact List.getLastD_cons
  | record => rfl
  | sampleEvents now => rfl

theorem run_snoc (before : List Action) (a : Action) (w : Window) :
    (run (before ++ [a]) w).2 = ((run before w).2.perform a).2 := by
  induction before generalizing w with
  | nil => rfl
  | cons head before ih => exact ih (w.perform head).2

theorem run_getElem? (before rest : List Action) (a : Action) (w : Window) :
    (run (before ++ a :: rest) w).1[before.length]? = some ((run before w).2.perform a).1 := by
  induction before generalizing w with
  | nil => rfl
  | cons head before ih => exact ih (w.perform head).2

/-- The cells hold what the actions tell, the number of events as far as a word holds it. -/
theorem run_reaches (initial : UInt64) (start : Int64) (actions : List Action) :
    (run actions (startingAt initial start)).2 =
      ⟨.ofNat (unread actions), previousCount initial actions, previousTime start actions⟩ := by
  induction actions using List.reverseRecOn with
  | nil => rfl
  | append_singleton before a ih =>
    rw [run_snoc, ih, unread_snoc, previousCount_snoc, previousTime_snoc]
    cases a with
    | record => simp [perform, Window.record, recorded, Action.readsEvents, Action.count?, Action.time?]
    | sample count now =>
      simp [perform, sample, recorded, Action.readsEvents, Action.count?, Action.time?]
    | sampleEvents now => rfl

/-- A read of `delta` requests at `now`, after the actions `before`. -/
structure Tells (start : Int64) (before : List Action) (now : Int64) (delta : Nat)
    (r : Reading) : Prop where
  delta : r.delta.toNat = delta
  elapsed : r.elapsed = elapsedSeconds (previousTime start before) now
  rate : r.rate = perSecond r.delta r.elapsed
  idle : r.rate = 0 ↔ r.delta = 0

theorem Tells.empty {start now : Int64} {before : List Action} {delta : Nat} {r : Reading}
    (tells : Tells start before now delta r) (none : delta = 0) : r.delta = 0 ∧ r.rate = 0 := by
  have zero : r.delta = 0 := UInt64.toNat_inj.mp (tells.delta.trans none)
  exact ⟨zero, tells.idle.mpr zero⟩

section Answers

variable (initial : UInt64) (start : Int64) (before rest : List Action)

theorem sample_tells (count : UInt64) (now : Int64) :
    ∃ r, (run (before ++ .sample count now :: rest) (startingAt initial start)).1[before.length]? =
        some (some r) ∧
      Tells start before now (count.toNat - (previousCount initial before).toNat) r := by
  rw [run_getElem?, run_reaches]
  refine ⟨_, rfl, ?_, rfl, rfl, perSecond_eq_zero_iff _ _⟩
  exact sample_delta _ count now

theorem sampleEvents_tells (now : Int64) (bounded : recorded before < 2 ^ 64) :
    ∃ r, (run (before ++ .sampleEvents now :: rest) (startingAt initial start)).1[before.length]? =
        some (some r) ∧ Tells start before now (unread before) r := by
  rw [run_getElem?, run_reaches]
  refine ⟨_, rfl, ?_, rfl, rfl, perSecond_eq_zero_iff _ _⟩
  exact UInt64.toNat_ofNat_of_lt' (Nat.lt_of_le_of_lt (unread_le before) bounded)

end Answers

section Sums

variable (w : Window) (a : Action) (rest : List Action)

theorem deltas_cons (kind : Action → Bool) :
    (deltas kind (a :: rest) (run (a :: rest) w).1).sum =
      (deltas kind [a] [(w.perform a).1]).sum +
        (deltas kind rest (run rest (w.perform a).2).1).sum := by
  have parts : deltas kind (a :: rest) (run (a :: rest) w).1 =
      deltas kind [a] [(w.perform a).1] ++ deltas kind rest (run rest (w.perform a).2).1 :=
    List.filterMap_append (l := [(a, (w.perform a).1)])
  rw [parts, List.sum_append]

/-- One action neither makes nor loses events. -/
theorem perform_balance (bounded : w.pending.toNat + recorded [a] < 2 ^ 64) :
    (deltas Action.readsEvents [a] [(w.perform a).1]).sum + (w.perform a).2.pending.toNat =
      w.pending.toNat + recorded [a] := by
  cases a with
  | record =>
    have next : (w.pending + 1).toNat = w.pending.toNat + 1 := by
      rw [UInt64.toNat_add]
      exact Nat.mod_eq_of_lt bounded
    change 0 + (w.pending + 1).toNat = w.pending.toNat + 1
    rw [next, Nat.zero_add]
  | sample count now => exact Nat.zero_add _
  | sampleEvents now => rfl

theorem run_balance (actions : List Action)
    (bounded : w.pending.toNat + recorded actions < 2 ^ 64) :
    (deltas Action.readsEvents actions (run actions w).1).sum + (run actions w).2.pending.toNat =
      w.pending.toNat + recorded actions := by
  induction actions generalizing w with
  | nil => exact Nat.zero_add _
  | cons a rest ih =>
    have parts : recorded (a :: rest) = recorded [a] + recorded rest := recorded_append [a] rest
    rw [parts] at bounded ⊢
    have first := perform_balance w a (by omega)
    have later := ih (w.perform a).2 (by omega)
    have left : (run (a :: rest) w).2 = (run rest (w.perform a).2).2 := rfl
    rw [deltas_cons, left]
    omega

theorem perform_lastCount : (w.perform a).2.lastCount = a.count?.getD w.lastCount := by
  cases a <;> rfl

/-- An absolute read finds what the count grew by since the last one. -/
theorem perform_growth (forward : ∀ count, a.count? = some count → w.lastCount ≤ count) :
    (deltas Action.readsCount [a] [(w.perform a).1]).sum + w.lastCount.toNat =
      (w.perform a).2.lastCount.toNat := by
  cases a with
  | record => exact Nat.zero_add _
  | sampleEvents now => exact Nat.zero_add _
  | sample count now =>
    have grown : w.lastCount.toNat ≤ count.toNat := UInt64.le_iff_toNat_le.mp (forward count rfl)
    change (w.sample count now).1.delta.toNat + 0 + w.lastCount.toNat = count.toNat
    rw [sample_delta]
    omega

/-- A list of counts that never falls says so of its first action and of the others. -/
theorem rising_cons {initial : UInt64}
    (rising : (initial :: counts (a :: rest)).Pairwise (· ≤ ·)) :
    (∀ count, a.count? = some count → initial ≤ count) ∧
      (a.count?.getD initial :: counts rest).Pairwise (· ≤ ·) := by
  cases read : a.count? with
  | none =>
    have same : counts (a :: rest) = counts rest := List.filterMap_cons_none read
    rw [same] at rising
    exact ⟨fun _ found => (nomatch found), rising⟩
  | some count =>
    have split : counts (a :: rest) = count :: counts rest := List.filterMap_cons_some read
    rw [split] at rising
    obtain ⟨least, tail⟩ := List.pairwise_cons.mp rising
    refine ⟨?_, tail⟩
    rintro _ ⟨⟩
    exact least count (List.mem_cons_self ..)

theorem run_growth (actions : List Action)
    (rising : (w.lastCount :: counts actions).Pairwise (· ≤ ·)) :
    (deltas Action.readsCount actions (run actions w).1).sum + w.lastCount.toNat =
      (previousCount w.lastCount actions).toNat := by
  induction actions generalizing w with
  | nil => exact Nat.zero_add _
  | cons a rest ih =>
    obtain ⟨forward, tail⟩ := rising_cons a rest rising
    rw [← perform_lastCount] at tail
    have first := perform_growth w a forward
    have later := ih (w.perform a).2 tail
    rw [deltas_cons, previousCount_cons, ← perform_lastCount]
    omega

end Sums

/-- What a run of actions answers and leaves, told by the actions. -/
structure Accounted (initial : UInt64) (start : Int64) (actions : List Action)
    (readings : List (Option Reading)) (left : Window) : Prop where
  /-- Every event was read once or is still to be read. -/
  events : (deltas Action.readsEvents actions readings).sum + left.pending.toNat = recorded actions
  growth : (initial :: counts actions).Pairwise (· ≤ ·) →
    (deltas Action.readsCount actions readings).sum + initial.toNat =
      (previousCount initial actions).toNat
  sample : ∀ before count now rest, actions = before ++ .sample count now :: rest →
    ∃ r, readings[before.length]? = some (some r) ∧
      Tells start before now (count.toNat - (previousCount initial before).toNat) r ∧
      (count = previousCount initial before → r.delta = 0 ∧ r.rate = 0)
  sampleEvents : ∀ before now rest, actions = before ++ .sampleEvents now :: rest →
    ∃ r, readings[before.length]? = some (some r) ∧ Tells start before now (unread before) r ∧
      (unread before = 0 → r.delta = 0 ∧ r.rate = 0)

/-- Whatever is done to a window, in whatever order, nothing is lost and nothing is
counted twice. -/
theorem run_accounted (initial : UInt64) (start : Int64) (actions : List Action)
    (bounded : recorded actions < 2 ^ 64) :
    Accounted initial start actions (run actions (startingAt initial start)).1
      (run actions (startingAt initial start)).2 where
  events := by
    have empty : (startingAt initial start).pending.toNat = 0 := rfl
    have balance := run_balance (startingAt initial start) actions (by omega)
    rwa [empty, Nat.zero_add] at balance
  growth rising := run_growth (startingAt initial start) actions rising
  sample before count now rest split := by
    subst split
    obtain ⟨r, found, tells⟩ := sample_tells initial start before rest count now
    refine ⟨r, found, tells, fun same => tells.empty ?_⟩
    rw [same, Nat.sub_self]
  sampleEvents before now rest split := by
    subst split
    rw [recorded_append] at bounded
    obtain ⟨r, found, tells⟩ := sampleEvents_tells initial start before rest now (by omega)
    exact ⟨r, found, tells, tells.empty⟩

/-- A counter that restarts under a clock that steps back, with events in between. -/
theorem run_accounted_of_restart :
    let actions : List Action := [.record, .sample 9 4000, .record, .sampleEvents 1500,
      .sample 2 8000, .sampleEvents 8000]
    recorded actions < 2 ^ 64 ∧
      (run actions (startingAt 5 0)).1 = [none, some ⟨4, 4, 1⟩, none, some ⟨2, 1, 2⟩,
        some ⟨0, 6, 0⟩, some ⟨0, 1, 0⟩] ∧
      Accounted 5 0 actions (run actions (startingAt 5 0)).1 (run actions (startingAt 5 0)).2 := by
  intro actions
  have bounded : recorded actions < 2 ^ 64 := by decide
  exact ⟨bounded, by decide, run_accounted 5 0 actions bounded⟩

end Throughput.Rate.Window
