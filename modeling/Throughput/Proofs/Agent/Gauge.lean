import Throughput.Proofs.Agent.Start
import Mathlib.Data.List.Basic

/-! The gauge of active sinks. It is set as soon as the sinks are built, before the interval
is looked at and a thread is asked for, so a start that fails over one of them leaves it at
sinks that nothing reports to. After any other start it is the number of sinks that are
reported to, and no tick moves it. -/
namespace Throughput

theorem Report.History.record_activeSinks (h : Report.History) (m : Metrics) :
    (h.record m).activeSinks = m.activeSinks := by
  induction h generalizing m with
  | nil => rfl
  | cons entry rest ih =>
    refine (ih (entry.2.record m)).trans ?_
    cases entry.2 <;> rfl

namespace Agent

variable {σ : Type}

/-- What is counted after a start, if `before` was counted until then. -/
def Start.metrics (s : Start σ) (before : Metrics) : Metrics :=
  s.activeSinks.elim before before.setActive

/-- How many sinks a loop reports to. -/
def Outcome.reportedTo : Outcome σ → Nat
  | started agent => agent.reporter.scheduler.sinks.length
  | idle => 0
  | refused _ => 0

/-- Sinks are built, and then no loop is started for them: for want of an interval, or of a
thread. -/
structure Abandoned (settings : Settings) (env : Environment) (fs : FileSystem) (host : Host)
    (x : Identity) : Prop where
  identified : Discovery.identity env = .ok x
  sinks : (prepare settings env fs x).built.destinations ≠ []
  loopless : settings.report.interval = 0 ∨ settings.thread host = .refused

/-- What the gauge says when a start that ends in `outcome` is over. -/
structure Gauged (settings : Settings) (env : Environment) (fs : FileSystem) (host : Host)
    (after : Metrics) (outcome : Outcome σ) : Prop where
  truthful : after.activeSinks = outcome.reportedTo ↔ ¬ ∃ x, Abandoned settings env fs host x
  /-- Sinks that nothing reports to are counted. -/
  counted : ∀ x, Abandoned settings env fs host x → outcome.reportedTo = 0 ∧
    after.activeSinks = (prepare settings env fs x).built.destinations.length
  refused : ∀ x, Abandoned settings env fs host x → settings.report.interval = 0 →
    outcome = .refused .zeroInterval
  idle : ∀ x, Abandoned settings env fs host x → 0 < settings.report.interval → outcome = .idle
  /-- However long the loop goes on, the gauge stays at the number of its sinks. -/
  steady : ∀ agent, outcome = .started agent → ∀ times : List Nat,
    ((times.foldl Report.Reporter.advanceTo agent.reporter).history.record after).activeSinks =
      agent.sinks.length

section Gauge

variable (settings : Settings) (env : Environment) (fs : FileSystem) (w : Http.World σ)
  (source : Report.Source σ) (prepareSource : σ → σ) (now : Nat) (state : σ) (host : Host)
  (before : Metrics)

theorem launch_activeSinks (p : Prepared) :
    (launch settings p w source prepareSource now state host).activeSinks =
      some p.built.destinations.length := by
  by_cases bare : p.built.destinations = []
  · rw [launch_of_bare settings p w source prepareSource now state host bare, bare]
    rfl
  · rcases Nat.eq_zero_or_pos settings.report.interval with zero | positive
    · rw [launch_of_zero settings p w source prepareSource now state host bare zero]
    · rw [launch_of_sinks settings p w source prepareSource now state host bare positive]

/-- There are at most three sinks, so the gauge's own bound is never met. -/
theorem start_gauge {x : Identity} (identified : Discovery.identity env = .ok x) :
    ((start settings env fs w source now state prepareSource host).metrics before).activeSinks =
      (prepare settings env fs x).built.destinations.length := by
  have few : (prepare settings env fs x).built.destinations.length ≤ 3 := by
    simpa [Policy.Built.names] using (prepare_names_sublist settings env fs x).length_le
  rw [start_of_identity identified, Start.metrics, launch_activeSinks]
  show min _ 0x7fffffffffffffff = _
  omega

theorem gauged_of_unidentified {cause : Discovery.Error}
    (unidentified : Discovery.identity env = .error cause) (zero : before.activeSinks = 0) :
    let s := start settings env fs w source now state prepareSource host
    Gauged settings env fs host (s.metrics before) s.outcome := by
  have known (x : Identity) (abandoned : Abandoned settings env fs host x) : False := by
    cases unidentified.symm.trans abandoned.identified
  rw [start_of_unidentified unidentified]
  constructor
  case truthful => exact iff_of_true zero fun ⟨x, abandoned⟩ => known x abandoned
  case counted => exact fun x abandoned => (known x abandoned).elim
  case refused => exact fun x abandoned => (known x abandoned).elim
  case idle => exact fun x abandoned => (known x abandoned).elim
  case steady => exact fun agent outcome => nomatch outcome

theorem Abandoned.outcome {x : Identity} (abandoned : Abandoned settings env fs host x) :
    (start settings env fs w source now state prepareSource host).outcome =
      if settings.report.interval = 0 then .refused .zeroInterval else .idle := by
  rw [start_of_identity abandoned.identified]
  rcases Nat.eq_zero_or_pos settings.report.interval with zero | positive
  · rw [launch_of_zero _ _ w source prepareSource now state host abandoned.sinks zero, if_pos zero]
  · have some : settings.report.interval ≠ 0 := Nat.ne_of_gt positive
    rw [launch_of_refused _ _ w source prepareSource now state host abandoned.sinks positive
      (abandoned.loopless.resolve_left some), if_neg some]

theorem gauged_of_abandoned {x : Identity} (abandoned : Abandoned settings env fs host x) :
    let s := start settings env fs w source now state prepareSource host
    Gauged settings env fs host (s.metrics before) s.outcome := by
  intro s
  have outcome := abandoned.outcome settings env fs w source prepareSource now state host
  have gauge := start_gauge settings env fs w source prepareSource now state host before
    abandoned.identified
  have idle : s.outcome.reportedTo = 0 := by
    rw [outcome]
    split <;> rfl
  constructor
  case truthful =>
    refine iff_of_false (fun same => ?_) fun none => none ⟨x, abandoned⟩
    exact abandoned.sinks (List.length_eq_zero_iff.mp (gauge.symm.trans (same.trans idle)))
  case counted =>
    intro y other
    obtain rfl : x = y := Except.ok.inj (abandoned.identified.symm.trans other.identified)
    exact ⟨idle, gauge⟩
  case refused => exact fun _ _ zero => outcome.trans (if_pos zero)
  case idle => exact fun _ _ positive => outcome.trans (if_neg (Nat.ne_of_gt positive))
  case steady =>
    intro agent started
    rw [outcome] at started
    split at started <;> cases started

theorem gauged_of_kept {x : Identity} (identified : Discovery.identity env = .ok x)
    (kept : ¬ ∃ x, Abandoned settings env fs host x) :
    let s := start settings env fs w source now state prepareSource host
    Gauged settings env fs host (s.metrics before) s.outcome := by
  intro s
  have gauge : (s.metrics before).activeSinks = _ :=
    start_gauge settings env fs w source prepareSource now state host before identified
  have reported : s.outcome.reportedTo = (prepare settings env fs x).built.destinations.length ∧
      ∀ agent, s.outcome = .started agent → agent.sinks.length = s.outcome.reportedTo := by
    simp only [s, start_of_identity identified]
    by_cases bare : (prepare settings env fs x).built.destinations = []
    · rw [launch_of_bare _ _ w source prepareSource now state host bare, bare]
      exact ⟨rfl, fun agent outcome => nomatch outcome⟩
    · have positive : 0 < settings.report.interval :=
        Nat.pos_of_ne_zero fun zero => kept ⟨x, identified, bare, .inl zero⟩
      have able : settings.thread host ≠ .refused := fun refused => kept ⟨x, identified, bare, .inr refused⟩
      obtain ⟨loop, _, launched⟩ := launch_of_thread settings (prepare settings env fs x) w source
        prepareSource now state host bare positive able
      rw [launched]
      refine ⟨List.length_map _, ?_⟩
      rintro _ ⟨⟩
      exact (List.length_map _).trans (List.length_map _).symm
  constructor
  case truthful => exact iff_of_true (gauge.trans reported.1.symm) kept
  case counted => exact fun y abandoned => absurd ⟨y, abandoned⟩ kept
  case refused => exact fun y abandoned => absurd ⟨y, abandoned⟩ kept
  case idle => exact fun y abandoned => absurd ⟨y, abandoned⟩ kept
  case steady =>
    intro agent started times
    rw [Report.History.record_activeSinks, gauge, reported.2 agent started, reported.1]

/-- A start leaves the gauge at the number of sinks that are reported to, unless the sinks are
abandoned: then the gauge tells of sinks that are not. -/
theorem gauge_of_start (zero : before.activeSinks = 0) :
    let s := start settings env fs w source now state prepareSource host
    Gauged settings env fs host (s.metrics before) s.outcome := by
  cases identified : Discovery.identity env with
  | error cause =>
    exact gauged_of_unidentified settings env fs w source prepareSource now state host before
      identified zero
  | ok x =>
    by_cases abandoned : ∃ x, Abandoned settings env fs host x
    · obtain ⟨y, abandoned⟩ := abandoned
      exact gauged_of_abandoned settings env fs w source prepareSource now state host before abandoned
    · exact gauged_of_kept settings env fs w source prepareSource now state host before identified abandoned

end Gauge

/-- An application without any bindings. -/
def unbound : Environment := .ofList
  [("VCAP_APPLICATION", "\x7b\"application_id\":\"app-1\",\"application_name\":\"orders\"," ++
      "\"space_name\":\"dev\",\"organization_name\":\"acme\"\x7d"), ("CF_INSTANCE_INDEX", "1")]

theorem identity_unbound :
    Discovery.identity unbound = .ok ⟨"app-1", 1, "orders", "dev", "acme"⟩ :=
  identity_of_toOption (by decide +kernel)

/-- Settings for the log alone, with a loop on a thread of its own. -/
def threaded : Settings := { log := true, dedicatedThread := true }

/-- Where a thread can be had, the log is reported to and counted; where none can be had, it is
counted all the same. -/
theorem gauge_of_start_of_log :
    let s (host : Host) := start threaded unbound .empty bareWorld bareSource 0 [] (· ++ [.prepared]) host
    Metrics.empty.activeSinks = 0 ∧
      (s {}).outcome.reportedTo = 1 ∧ ((s {}).metrics .empty).activeSinks = (s {}).outcome.reportedTo ∧
      (s { thread := .refused }).outcome = .idle ∧
      ((s { thread := .refused }).metrics .empty).activeSinks = 1 := by
  intro s
  have gauged (host : Host) :=
    gauge_of_start threaded unbound .empty bareWorld bareSource (· ++ [.prepared]) 0 [] host .empty rfl
  have kept : ¬ ∃ x, Abandoned threaded unbound .empty {} x := by
    rintro ⟨x, _, _, zero | refused⟩
    · cases zero
    · cases refused
  have abandoned : Abandoned threaded unbound .empty { thread := .refused }
      ⟨"app-1", 1, "orders", "dev", "acme"⟩ := ⟨identity_unbound, by decide +kernel, .inr rfl⟩
  have counted := ((gauged { thread := .refused }).counted _ abandoned).2
  exact ⟨rfl, by decide +kernel, (gauged {}).truthful.mpr kept,
    (gauged { thread := .refused }).idle _ abandoned (by decide), counted.trans (by decide +kernel)⟩

/-- A start that is refused for its interval leaves the gauge at the log's sink. -/
theorem gauge_untruthful :
    ¬ ∀ (settings : Settings) (env : Environment) (fs : FileSystem) (w : Http.World (List Use))
        (source : Report.Source (List Use)) (host : Host) (before : Metrics), before.activeSinks = 0 →
      let s := start settings env fs w source 0 [] id host
      (s.metrics before).activeSinks = s.outcome.reportedTo := by
  intro truthful
  have gauge := truthful { report := { interval := 0 }, log := true } unbound .empty bareWorld
    bareSource {} .empty rfl
  exact absurd gauge (by decide +kernel)

end Agent
end Throughput
