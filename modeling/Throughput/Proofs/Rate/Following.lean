import Mathlib.Data.List.Chain
import Throughput.Proofs.Counter
import Throughput.Proofs.Rate.Conservation
import Throughput.Proofs.Rate.Polling

/-! Polling the counters of a registry. From the measurement that finds a counter on, a source
reads the cell that was found and no other. What becomes of names, the name of this counter
included, and of other cells does not show in any later sample. -/
namespace Throughput.Rate

open Counter (Registry)

/-- A world that is nothing but the value of one counter. -/
def Locator.lone (cell : Cell) : Locator UInt64 Cell where
  locate _ := (.ok (some cell), [])
  read value _ := .ok value

/-- The record that tells of a reading of a counter. -/
def Reading.polled (r : Reading) : Event :=
  .debug "Polled request counter"
    [("delta", toString r.delta), ("elapsed_secs", toString r.elapsed), ("rate", toString r.rate)]

/-- The reads of absolute counts, each at its time. -/
def Window.samples (counts : List (UInt64 × Int64)) : List Window.Action :=
  counts.map fun count => .sample count.1 count.2

/-- What a window answers to one count after the other. -/
def Window.readings (w : Window) (counts : List (UInt64 × Int64)) : List Reading :=
  (Window.run (samples counts) w).1.filterMap id

/-- What the readings find is what the count grew by. -/
theorem Window.readings_growth (w : Window) (counts : List (UInt64 × Int64))
    (rising : (w.lastCount :: counts.map Prod.fst).Pairwise (· ≤ ·)) :
    ((w.readings counts).map fun r => r.delta.toNat).sum + w.lastCount.toNat =
      ((counts.map Prod.fst).getLastD w.lastCount).toNat := by
  have read : Window.counts (samples counts) = counts.map Prod.fst := by
    rw [Window.counts, samples, List.filterMap_map]
    exact congrFun (List.filterMap_eq_map (f := Prod.fst)) counts
  have found (w : Window) : (w.readings counts).map (fun r => r.delta.toNat) =
      deltas Action.readsCount (samples counts) (run (samples counts) w).1 := by
    clear rising read
    induction counts generalizing w with
    | nil => rfl
    | cons first rest ih => exact congrArg (List.cons _) (ih (w.sample first.1 first.2).2)
  have growth := w.run_growth (samples counts)
  rw [read, previousCount, read] at growth
  rw [found]
  exact growth rising

namespace Polling

theorem measurements_append {σ Handle : Type} (locator : Locator σ Handle) (a b : List (Turn σ))
    (s : Polling Handle) : measurements locator (a ++ b) s = measurements locator a s ++
      measurements locator b (a.foldl (fun s turn => (measure locator turn.1 turn.2 s).source) s) := by
  induction a generalizing s with
  | nil => rfl
  | cons turn a ih => exact congrArg (List.cons _) (ih _)

theorem length_measurements {σ Handle : Type} (locator : Locator σ Handle) (turns : List (Turn σ))
    (s : Polling Handle) : (measurements locator turns s).length = turns.length := by
  induction turns generalizing s with
  | nil => rfl
  | cons turn rest ih => exact congrArg (· + 1) (ih _)

section Located

variable {pattern : String} {cell : Cell} {s : Polling Cell}

/-- A counter that was found is read as if it were all there is. -/
theorem measure_of_located (located : s.handle = some cell) (r : Registry) (now : Int64) :
    measure (.registry pattern) r now s = measure (.lone cell) (r.value cell) now s := by
  unfold measure
  simp only [located]
  rfl

theorem handle_of_located {σ : Type} (locator : Locator σ Cell) (located : s.handle = some cell)
    (turn : Turn σ) : (measure locator turn.1 turn.2 s).source.handle = some cell := by
  rw [(measure_measured locator turn s).handle, held, located, Option.some_or]

theorem measurements_of_located (located : s.handle = some cell) (turns : List (Turn Registry)) :
    measurements (.registry pattern) turns s =
      measurements (.lone cell) (turns.map fun turn => (turn.1.value cell, turn.2)) s := by
  induction turns generalizing s with
  | nil => rfl
  | cons turn rest ih =>
    have kept := handle_of_located (.lone cell) located (turn.1.value cell, turn.2)
    rw [measurements, measure_of_located located, ih kept]
    rfl

/-- Once the baseline is taken, every measurement has a sample and tells of its reading. -/
theorem measurements_of_based (located : s.handle = some cell) (based : s.baseline = true)
    (counts : List (UInt64 × Int64)) :
    ((measurements (.lone cell) counts s).map fun m => (m.sample, m.log)) =
      (s.window.readings counts).map fun r => (.available r.rate, [r.polled]) := by
  induction counts generalizing s with
  | nil => rfl
  | cons first rest ih =>
    obtain ⟨handle, baseline, window⟩ := s
    cases located
    cases based
    have next := ih (s := ⟨some cell, true, (window.sample first.1 first.2).2⟩) rfl rfl
    exact congrArg (List.cons _) next

end Located

end Polling

namespace Following

/-- What happens around a source: to the registry, or to the source itself. -/
inductive Step where
  | operate (op : Registry.Operation)
  | measure (now : Int64)
  deriving DecidableEq, Repr

/-- The registry after steps. -/
def settle : List Step → Registry → Registry
  | [], r => r
  | .operate op :: rest, r => settle rest (r.perform op)
  | .measure _ :: rest, r => settle rest r

/-- The measurements among steps, each with the registry that it finds. -/
def turns : List Step → Registry → List (Turn Registry)
  | [], _ => []
  | .operate op :: rest, r => turns rest (r.perform op)
  | .measure now :: rest, r => (r, now) :: turns rest r

/-- A step as it concerns one cell. -/
inductive Seen where
  | written (value : UInt64)
  | measured (now : Int64)
  deriving DecidableEq, Repr

def Seen.value? : Seen → Option UInt64
  | written value => some value
  | measured _ => none

/-- What is written to a cell and when measurements are made, in order. -/
def seen (cell : Cell) : List Step → Registry → List Seen
  | [], _ => []
  | .operate op :: rest, r =>
    ((r.written? cell op).map .written).toList ++ seen cell rest (r.perform op)
  | .measure now :: rest, r => .measured now :: seen cell rest r

/-- The value at each measurement, with its time, if the value is `value` at first. -/
def counts (value : UInt64) : List Seen → List (UInt64 × Int64)
  | [] => []
  | .written value :: rest => counts value rest
  | .measured now :: rest => (value, now) :: counts value rest

/-- No write to the cell lowers its value. -/
def Grows (cell : Cell) (steps : List Step) (r : Registry) : Prop :=
  List.IsChain (· ≤ ·) (r.value cell :: (seen cell steps r).filterMap Seen.value?)

theorem settle_append (a b : List Step) (r : Registry) : settle (a ++ b) r = settle b (settle a r) := by
  fun_induction settle a r with
  | case1 r => rfl
  | case2 op rest r ih => exact ih
  | case3 now rest r ih => exact ih

theorem turns_append (a b : List Step) (r : Registry) :
    turns (a ++ b) r = turns a r ++ turns b (settle a r) := by
  fun_induction settle a r with
  | case1 r => rfl
  | case2 op rest r ih => exact ih
  | case3 now rest r ih => exact congrArg (List.cons _) ih

/-- The values of a cell at measurements are told by what is written to it. -/
theorem turns_values (cell : Cell) (steps : List Step) (r : Registry) (has : r.Has cell) :
    ((turns steps r).map fun turn => (turn.1.value cell, turn.2)) =
      counts (r.value cell) (seen cell steps r) := by
  fun_induction turns steps r with
  | case1 r => rfl
  | case2 op rest r ih =>
    rw [ih (Registry.has_perform op has), Registry.value_perform op has, seen]
    cases r.written? cell op <;> rfl
  | case3 now rest r ih => exact congrArg (List.cons _) (ih has)

/-- A cell that a measurement can find stays there. -/
theorem turns_grounded (steps : List Step) (r : Registry) (grounded : r.Grounded) :
    ∀ turn ∈ turns steps r, turn.1.Grounded ∧
      ∀ cell, turn.1.Has cell → (settle steps r).Has cell := by
  have remains (rest : List Step) (r : Registry) (cell : Cell) (has : r.Has cell) :
      (settle rest r).Has cell := by
    fun_induction settle rest r with
    | case1 r => exact has
    | case2 op rest r ih => exact ih (Registry.has_perform op has)
    | case3 now rest r ih => exact ih has
  fun_induction turns steps r with
  | case1 r => exact fun _ member => nomatch member
  | case2 op rest r ih => exact ih (Registry.grounded_perform op grounded)
  | case3 now rest r ih =>
    intro turn member
    rcases List.mem_cons.mp member with rfl | later
    · exact ⟨grounded, remains rest r⟩
    · exact ih grounded turn later

theorem counts_rising {value : UInt64} {events : List Seen}
    (rising : (value :: events.filterMap Seen.value?).Pairwise (· ≤ ·)) :
    (value :: (counts value events).map Prod.fst).Pairwise (· ≤ ·) := by
  induction events generalizing value with
  | nil => exact rising
  | cons event rest ih =>
    cases event with
    | written next =>
      obtain ⟨least, tail⟩ := List.pairwise_cons.mp rising
      have first : value ≤ next := least next (List.mem_cons_self ..)
      have later := ih tail
      refine List.pairwise_cons.mpr ⟨fun count member => ?_, (List.pairwise_cons.mp later).2⟩
      exact UInt64.le_trans first ((List.pairwise_cons.mp later).1 count member)
    | measured now =>
      have later := ih rising
      refine List.pairwise_cons.mpr ⟨fun count member => ?_, later⟩
      rcases List.mem_cons.mp member with rfl | read
      · exact UInt64.le_refl _
      · exact (List.pairwise_cons.mp later).1 count read

theorem get?_of_found {pattern : String} {r : Registry} {cell : Cell}
    (found : (Locator.registry pattern).found r = some cell) : ∃ name, r.get? name = some cell := by
  have located : (r.locate pattern).1.map Prod.snd = some cell := found
  obtain ⟨⟨name, _⟩, entry, rfl⟩ := Option.map_eq_some_iff.mp located
  unfold Registry.locate at entry
  split at entry
  · cases entry
  · obtain ⟨cell, get, same⟩ := Option.map_eq_some_iff.mp entry
    cases same
    exact ⟨name, get⟩

section After

variable (pattern : String) (start : Int64) (history : List Step)

/-- A source that was new at `start`, after a history that began with an empty registry. -/
def source : Polling Cell := Polling.after (.registry pattern) start (turns history .empty)

def registry : Registry := settle history .empty

/-- The measurements of steps that come after the history. -/
def later (steps : List Step) : List (Polling.Measurement Cell) :=
  (Polling.measurements (.registry pattern) (turns (history ++ steps) .empty) (.new start)).drop
    (turns history .empty).length

theorem later_eq (steps : List Step) : later pattern start history steps =
    Polling.measurements (.registry pattern) (turns steps (registry history))
      (source pattern start history) := by
  rw [later, turns_append, Polling.measurements_append,
    ← Polling.length_measurements (.registry pattern) (turns history .empty) (.new start),
    List.drop_left]
  rfl

variable {pattern start history} {cell : Cell}
  (located : (source pattern start history).handle = some cell)
include located

theorem has_located : (registry history).Has cell := by
  have first := (Polling.reached_after (.registry pattern) start (turns history .empty)).handle
  rw [source] at located
  rw [located] at first
  obtain ⟨turn, member, found⟩ := List.exists_of_findSome?_eq_some first.symm
  obtain ⟨grounded, remains⟩ := turns_grounded history .empty Registry.grounded_empty turn member
  obtain ⟨name, get⟩ := get?_of_found found
  exact remains cell (Registry.has_of_get? grounded get)

/-- The source goes on as if it had never polled anything but the one counter. -/
theorem later_of_located (steps : List Step) : later pattern start history steps =
    Polling.measurements (.lone cell)
      (counts ((registry history).value cell) (seen cell steps (registry history)))
      (source pattern start history) := by
  rw [later_eq, Polling.measurements_of_located located, turns_values _ _ _ (has_located located)]

/-- A measurement at the end of the history read the value that the cell has after it. -/
theorem based_of_measured {before : List Step} {now : Int64}
    (ends : history = before ++ [.measure now]) :
    (source pattern start history).baseline = true ∧
      (source pattern start history).window.lastCount = (registry history).value cell := by
  subst ends
  have last : turns (before ++ [.measure now]) .empty =
      turns before .empty ++ [(registry before, now)] := turns_append ..
  have same : registry (before ++ [.measure now]) = registry before := settle_append ..
  have reached := Polling.reached_after (.registry pattern) start
    (turns (before ++ [.measure now]) .empty)
  have first : (Locator.registry pattern).first (turns (before ++ [.measure now]) .empty) =
      some cell := reached.handle.symm.trans located
  have reads := (Locator.registry pattern).reads_snoc (turns before .empty) (registry before, now)
  rw [last] at first
  rw [first, ← last] at reads
  have final : ((Locator.registry pattern).reads (turns (before ++ [.measure now]) .empty)).getLast? =
      some ((registry before).value cell, now) := by
    rw [reads]
    exact List.getLast?_concat
  rw [source, reached.baseline, reached.window, final, same]
  exact ⟨rfl, rfl⟩

/-- The cell that was found decides every later measurement. -/
structure Follows (pattern : String) (start : Int64) (history : List Step) (cell : Cell) : Prop where
  /-- Continuations that write the same to the cell and measure alike are not told apart. -/
  alike : ∀ a b, seen cell a (registry history) = seen cell b (registry history) →
    later pattern start history a = later pattern start history b
  /-- From a measurement on, be it the one that found the cell, the readings behind the samples
  add up to what the cell grew by. -/
  growth : ∀ before now steps, history = before ++ [.measure now] →
    Grows cell steps (registry history) →
    ∃ readings : List Reading,
      ((later pattern start history steps).map fun m => (m.sample, m.log)) =
        (readings.map fun r => (.available r.rate, [r.polled])) ∧
      (readings.map fun r => r.delta.toNat).sum + ((registry history).value cell).toNat =
        (((counts ((registry history).value cell) (seen cell steps (registry history))).map
          Prod.fst).getLastD ((registry history).value cell)).toNat

/-- After a history that lets a measurement find a cell, the source follows that cell. -/
theorem follows_located : Follows pattern start history cell := by
  constructor
  case alike =>
    intro a b same
    rw [later_of_located located, later_of_located located, same]
  case growth =>
    intro before now steps ends grows
    obtain ⟨based, count⟩ := based_of_measured located ends
    refine ⟨(source pattern start history).window.readings
      (counts ((registry history).value cell) (seen cell steps (registry history))), ?_, ?_⟩
    · rw [later_of_located located]
      exact Polling.measurements_of_based located based _
    · rw [← count]
      apply Window.readings_growth
      rw [count]
      exact counts_rising (List.isChain_iff_pairwise.mp grows)

end After

/-- The counter that was found loses its name to another one, or sees a smaller name come. -/
theorem follows_located_of_renamed :
    let history : List Step := [.measure 0, .operate (.register "http-8080"),
      .operate (.store ⟨0⟩ 5000), .measure 10000]
    let a : List Step := [.operate (.unregister "http-8080"), .operate (.register "http-8080"),
      .operate (.store ⟨1⟩ 9), .operate (.add ⟨0⟩ 150), .measure 20000, .measure 30000]
    let b : List Step := [.operate (.register "http-1"), .operate (.store ⟨0⟩ 5150),
      .measure 20000, .operate (.add ⟨1⟩ 7), .measure 30000]
    (source "http-*" 0 history).handle = some ⟨0⟩ ∧
      later "http-*" 0 history a = later "http-*" 0 history b ∧
      (later "http-*" 0 history a).map (·.sample) = [.available 15, .available 0] := by
  intro history a b
  have located : (source "http-*" 0 history).handle = some ⟨0⟩ := by decide +kernel
  exact ⟨located, (follows_located located).alike a b (by decide +kernel), by decide +kernel⟩

end Following
end Throughput.Rate
