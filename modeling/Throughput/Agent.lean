import Throughput.Policy
import Throughput.Report.Poll

/-! The agent: finds out what it belongs to, chooses its sinks, and starts to report. With
nothing to report to it stays idle, and the source of measurements is never prepared. -/
namespace Throughput

namespace Agent

def version : String := "0.1.0"

structure Settings where
  report : Report.Settings := {}
  log : Bool := false
  /-- The variable whose value tags exported samples. -/
  environmentVariable : Option String := none
  overrides : Policy.Overrides := {}
  /-- Whether to report from a thread of its own. -/
  dedicatedThread : Bool := false
  deriving DecidableEq, Repr

/-- Where an agent is started: whether there is a runtime, and what comes of a thread. -/
structure Host where
  runtime : Bool := true
  thread : Report.Thread := .running
  deriving DecidableEq, Repr

def Host.place (host : Host) : Report.Place :=
  if host.runtime then .runtime else .outside host.thread

structure Prepared where
  lifecycle : Lifecycle
  authMode : AuthMode
  built : Policy.Built

/-- The sinks for an application. Bindings that cannot be read count as none. -/
def prepare (settings : Settings) (env : Environment) (fs : FileSystem) (x : Identity) : Prepared :=
  let lifecycle : Lifecycle := ⟨x.applicationName, x.instanceIndex⟩
  let discovered := match Discovery.endpoint env with
    | .ok e => e
    | .error _ => .empty
  let resolved := Policy.resolve discovered (Discovery.credentialPaths env) settings.overrides
  let sinkSettings : Policy.Settings :=
    { exportUrl := Discovery.exportUrl env
      environment := Discovery.environmentTag env settings.environmentVariable
      log := settings.log }
  ⟨lifecycle, resolved.authMode, Policy.build (Policy.plan fs resolved sinkSettings) x lifecycle⟩

structure Running (σ : Type) where
  lifecycle : Lifecycle
  sinks : List String
  reporter : Report.Reporter σ

inductive Outcome (σ : Type) where
  | started (agent : Running σ)
  | idle
  | refused (cause : Report.SettingsError)

/-- What came of a start: its records before and after the source of measurements was
prepared, whether it was, and the gauge of active sinks if it was set. -/
structure Start (σ : Type) where
  outcome : Outcome σ
  /-- The world when the start is over. -/
  state : σ
  planned : List Event := []
  initialized : Bool := false
  launched : List Event := []
  activeSinks : Option Nat := none

def Start.events (s : Start σ) : List Event := s.planned ++ s.launched

/-- The loop on a thread of its own where the settings ask for one, else wherever the host
can run it. -/
def startLoop (settings : Settings) (host : Host) (s : Report.Scheduler σ) (now : Nat) (state : σ) :
    Option (Report.Loop σ) :=
  if settings.dedicatedThread then Report.Loop.startOnThread s host.thread now state
  else Report.Loop.start s host.place now state

def conclude (p : Prepared) (s : Report.Scheduler σ) (state : σ) : Option (Report.Loop σ) → Start σ
  | none =>
    { outcome := .idle
      state
      launched := [p.lifecycle.idle "scheduler could not be started"] }
  | some loop =>
    let reporter := loop.reporter s
    { outcome := .started ⟨p.lifecycle, s.sinkNames, reporter⟩
      state := reporter.course.state
      launched := [p.lifecycle.started version p.authMode.label s.sinkNames] }

/-- Starts reporting to the sinks that were built. The source is prepared once nothing but
the loop itself is left to start. -/
def launch (settings : Settings) (p : Prepared) (w : Http.World σ) (source : Report.Source σ)
    (prepareSource : σ → σ) (now : Nat) (state : σ) (host : Host) : Start σ :=
  let sinks := p.built.destinations.map fun d => d.sink w
  let active := some sinks.length
  if sinks.isEmpty then
    { outcome := .idle
      state
      planned := p.built.events
      launched := [p.lifecycle.idle "no active sinks"]
      activeSinks := active }
  else
    match Report.Scheduler.build (some source) sinks settings.report with
    | .error e => { outcome := .refused e, state, planned := p.built.events, activeSinks := active }
    | .ok scheduler =>
      let prepared := prepareSource state
      { conclude p scheduler prepared (startLoop settings host scheduler now prepared) with
        planned := p.built.events, initialized := true, activeSinks := active }

/-- Without an identity the agent is idle, and nothing is recorded about sinks. -/
def start (settings : Settings) (env : Environment) (fs : FileSystem) (w : Http.World σ)
    (source : Report.Source σ) (now : Nat) (state : σ) (prepareSource : σ → σ := id)
    (host : Host := {}) : Start σ :=
  match Discovery.identity env with
  | .error _ => { outcome := .idle, state }
  | .ok x => launch settings (prepare settings env fs x) w source prepareSource now state host

/-- The reason is recorded before the loop is stopped. -/
def Running.shutdown (a : Running σ) (reason : String) : Event × Running σ :=
  (a.lifecycle.shutdown reason, { a with reporter := a.reporter.shutdown })

/-- What is said of a refused start before its cause. -/
def refusal : String := "Invalid scheduler settings"

def refusalMessage (e : Report.SettingsError) : String := refusal ++ ": " ++ e.message

end Agent
end Throughput
