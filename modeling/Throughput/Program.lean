import Throughput.Configuration
import Throughput.Event.Filter
import Throughput.Rate.Synthetic

/-! A run of the program, as far as its console shows it: records, text on both outputs
and the exit status. -/
namespace Throughput.Program

def name : String := "cf-metrics-agent"

/-- Targets of records of the program itself and of the agent's lifecycle. -/
def ownTarget : String := "cf_metrics_agent"
def lifecycleTarget : String := "metrics_agent_lib::observability"

def filterVariable : String := "RUST_LOG"

inductive Signal where
  | terminate | interrupt
  deriving DecidableEq, Repr

def Signal.reason : Signal → String
  | terminate => "SIGTERM received"
  | interrupt => "SIGINT received"

structure Entry where
  target : String
  event : Event
  deriving DecidableEq, Repr

def own (event : Event) : Entry := ⟨ownTarget, event⟩

def lifecycle (event : Event) : Entry := ⟨lifecycleTarget, event⟩

inductive Failure where
  | configuration (cause : Configuration.Error)
  | scheduler (cause : Report.SettingsError)
  deriving DecidableEq, Repr

def explain (context cause : String) : String :=
  "Error: " ++ context ++ "\n\nCaused by:\n    " ++ cause ++ "\n"

def Failure.message : Failure → String
  | configuration cause => explain Configuration.refusal cause.message
  | scheduler cause => explain Agent.refusal cause.message

inductive Stage (σ : Type) where
  | help
  | version
  | misused (cause : Configuration.UsageError)
  | failed (cause : Failure)
  /-- Nothing to do. -/
  | done
  | running (agent : Agent.Running σ)

/-- The stage, and the records on the way to it that pass the filter. -/
structure Run (σ : Type) where
  stage : Stage σ
  entries : List Entry := []
  filter : Filter := ⟨[]⟩

namespace Run

def shown (r : Run σ) : List Entry := r.entries.filter fun e => r.filter.shows e.target e.event.level

def log (r : Run σ) (entries : List Entry) : Run σ := { r with entries := r.entries ++ entries }

end Run

def filterOf (env : Environment) (level : Level) : Filter :=
  ((env filterVariable).bind Filter.ofText?).getD (.uniform level)

def starting (c : Configuration) : Event :=
  .info "Starting cf-metrics-agent"
    [("interval_secs", toString (c.number .interval).toNat),
      ("initial_delay_secs", toString (c.number .initialDelay).toNat)]

def sourceReady : Event := .info "Measurement source ready" [("source", Rate.Synthetic.name)]

def disabled : Event := .info "Metrics agent disabled by configuration"

def stopping : Event := .info "Shutting down"

/-- Starts the agent in an environment where empty variables count as not set. -/
def startAgent (c : Configuration) (env : Environment) (fs : FileSystem) (w : Http.World σ)
    (source : Report.Source σ) (now : Nat) (state : σ) (host : Agent.Host) : Stage σ × List Entry :=
  let start := Agent.start c.agentSettings env.hideEmpty fs w source now state id host
  let ready := if start.initialized then [own sourceReady] else []
  let entries := own (starting c) :: start.planned.map lifecycle ++ ready ++
    start.launched.map lifecycle
  match start.outcome with
  | .idle => (.done, entries)
  | .refused cause => (.failed (.scheduler cause), entries)
  | .started agent => (.running agent, entries)

/-- The program up to the point where it reports or has ended. -/
def run (arguments : List String) (vars : Configuration.Variables) (fs : FileSystem)
    (w : Http.World σ) (source : Report.Source σ) (now : Nat) (state : σ) (host : Agent.Host := {}) :
    Run σ :=
  match Configuration.Arguments.parse arguments with
  | .error .help => { stage := .help }
  | .error .version => { stage := .version }
  | .error (.usage cause) => { stage := .misused cause }
  | .ok arguments =>
    match Configuration.load vars arguments with
    | .error cause => { stage := .failed (.configuration cause) }
    | .ok c =>
      let env := Environment.ofList vars
      let filter := filterOf env c.logLevel
      if c.switch .disabled then { stage := .done, entries := [own disabled], filter }
      else
        let (stage, entries) := startAgent c env fs w source now state host
        { stage, entries, filter }

/-- A program that reports ends at a signal; any other has ended already. -/
def Run.stop (r : Run σ) (signal : Signal) : Run σ :=
  match r.stage with
  | .running agent =>
    { r.log [lifecycle (agent.shutdown signal.reason).1, own stopping] with stage := .done }
  | _ => r

/-- Zero, unless something was wrong with the arguments or with anything else. -/
def Stage.exitStatus : Stage σ → UInt32
  | misused _ => 2
  | failed _ => 1
  | _ => 0

/-- Lines on the standard output other than records; help is not told. -/
def Stage.output? : Stage σ → Option (List String)
  | help | misused _ => none
  | version => some [name ++ " " ++ Agent.version]
  | _ => some []

/-- Text on the standard error; usage is not told. -/
def Stage.errors? : Stage σ → Option String
  | help | misused _ => none
  | failed cause => some cause.message
  | _ => some ""

end Throughput.Program
