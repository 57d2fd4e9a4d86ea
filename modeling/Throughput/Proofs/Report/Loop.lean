import Throughput.Proofs.Report.Tick
import Throughput.Report.Poll

/-! What the loop keeps: whatever holds of the world after each measurement and each call
of a sink holds as long as the loop goes on. -/
namespace Throughput.Report

variable {σ : Type} {P : σ → Prop}

/-- No measurement and no call of a sink ends what `P` says. -/
structure Scheduler.Keeps (s : Scheduler σ) (P : σ → Prop) : Prop where
  measure : ∀ x, P x → P (s.source.measure x).2
  emit : ∀ sink ∈ s.sinks, ∀ metric value x, P x → P (sink.emit x metric value).state

theorem Scheduler.Keeps.tick {s : Scheduler σ} (keeps : s.Keeps P) (time : Nat) {state : σ}
    (holds : P state) : P (s.tick time state).state := by
  have isolated := s.tick_isolated time state
  have measured : P (s.measured state) := keeps.measure state holds
  cases rate : s.rate? state with
  | none =>
    rw [(isolated.skipped rate).2.2]
    exact measured
  | some value =>
    rw [isolated.effects value rate]
    refine List.foldlRecOn s.sinks _ measured fun x kept sink member => ?_
    exact keeps.emit sink member s.settings.metric value x kept

theorem Course.runTo_keeps {s : Scheduler σ} (keeps : s.Keeps P) (time : Nat) (c : Course σ)
    (holds : P c.state) : P (c.runTo s time).state := by
  fun_induction Course.runTo s time c with
  | case1 c due ih => exact ih (keeps.tick c.next holds)
  | case2 c later => exact holds

theorem Loop.startOnThread_eq_none_iff {s : Scheduler σ} {thread : Thread} {now : Nat} {state : σ} :
    startOnThread s thread now state = none ↔ s.sinks = [] ∨ thread = .refused := by
  unfold startOnThread
  cases s.sinks <;> cases thread <;> simp

namespace Reporter

/-- A reporter is what a loop comes to on a thread that runs it. -/
theorem start_eq (s : Scheduler σ) (now : Nat) (state : σ) :
    start s now state = (Loop.startOnThread s .running now state).map (Loop.reporter s) := by
  unfold start Loop.startOnThread
  split <;> rfl

theorem start_keeps {s : Scheduler σ} {r : Reporter σ} {now : Nat} {state : σ} (keeps : s.Keeps P)
    (started : start s now state = some r) (holds : P state) :
    r.scheduler = s ∧ P r.course.state := by
  unfold start at started
  split at started
  · cases started
  · cases started
    exact ⟨rfl, Course.runTo_keeps keeps now _ holds⟩

theorem advanceTo_keeps {r : Reporter σ} (keeps : r.scheduler.Keeps P) (time : Nat)
    (holds : P r.course.state) : P (r.advanceTo time).course.state := by
  unfold advanceTo
  cases r.stopped with
  | true => exact holds
  | false => exact Course.runTo_keeps keeps time r.course holds

theorem advances_keep {r : Reporter σ} (keeps : r.scheduler.Keeps P) (times : List Nat)
    (holds : P r.course.state) : P (times.foldl advanceTo r).course.state := by
  induction times generalizing r with
  | nil => exact holds
  | cons time rest ih => exact ih (r := r.advanceTo time) keeps (advanceTo_keeps keeps time holds)

end Reporter
end Throughput.Report
