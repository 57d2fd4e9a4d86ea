import Throughput.Json.Printer
import Throughput.Program

/-! The program on a console. Records are written as lines of JSON. This outer layer has
neither a network nor files, so of all sinks only the log delivers. -/
namespace Throughput.Console

/-- What lies outside: a clock in milliseconds, and random numbers. -/
structure Outside where
  milliseconds : Nat
  generator : StdGen

def world : Http.World Outside where
  now s := .ofNat (s.milliseconds * 1000000)
  exchange s _ := ⟨.none, 0, s⟩

def source : Report.Source Outside where
  name := Rate.Synthetic.name
  measure s :=
    let rate := Rate.Synthetic.standard
    let (draw, generator) := randNat s.generator rate.low.toNat rate.high.toNat
    (.sample (rate.measure (.ofNat s.milliseconds) (.ofNat draw)), { s with generator })

def line (e : Program.Entry) : String :=
  (Json.Value.object [
    ("level", .text e.event.level.label),
    ("target", .text e.target),
    ("fields", .object (("message", .text e.event.message) ::
      e.event.fields.map fun (name, text) => (name, .text text)))]).render

def usage : String :=
  "Usage: " ++ Program.name ++ " [OPTIONS]\n\nOptions:\n" ++
    String.join (Configuration.Setting.all.map fun s => "  --" ++ .ofList s.long ++ "\n") ++
    "  --help\n  --version\n"

/-- The variables that the program looks at, by their usual names. -/
def consulted : List String :=
  Configuration.Setting.all.map (fun s => "CME_" ++ s.key.toUpper) ++
    [Program.filterVariable, Discovery.applicationVariable, Discovery.servicesVariable,
      Discovery.instanceIndexVariable, Discovery.certificateVariable, Discovery.keyVariable,
      Discovery.authoritiesVariable, Discovery.exportUrlVariable]

def environment (names : List String) : IO Configuration.Variables :=
  names.filterMapM fun name => do return (← IO.getEnv name).map (name, ·)

def print (entries : List Program.Entry) : IO Unit := do
  entries.forM fun e => IO.println (line e)
  (← IO.getStdout).flush

/-- Lets an agent report as time passes, and shows its records. -/
def watch (filter : Filter) (agent : Agent.Running Outside) : IO Unit := do
  let mut reporter := agent.reporter
  let mut seen := 0
  repeat
    IO.sleep 100
    let now ← IO.monoMsNow
    let course := reporter.course
    let course := { course with state := { course.state with milliseconds := now } }
    reporter := { reporter with course }.advanceTo now
    let events := reporter.history.events
    let entries := (events.drop seen).map Program.lifecycle
    print (entries.filter fun e => filter.shows e.target e.event.level)
    seen := events.length

end Throughput.Console

open Throughput

def main (arguments : List String) : IO UInt32 := do
  let vars ← Console.environment Console.consulted
  let now ← IO.monoMsNow
  let state : Console.Outside := ⟨now, mkStdGen now⟩
  let run := Program.run arguments vars .empty Console.world Console.source now state
  Console.print run.shown
  match run.stage.output? with
  | some lines => lines.forM IO.println
  | none => (if run.stage.exitStatus = 0 then IO.print else IO.eprint) Console.usage
  IO.eprint (run.stage.errors?.getD "")
  match run.stage with
  | .running agent => Console.watch run.filter agent
  | _ => pure ()
  return run.stage.exitStatus
