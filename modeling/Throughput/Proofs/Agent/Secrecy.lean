import Throughput.Proofs.Agent.Start
import Throughput.Proofs.Json.Value
import Throughput.Proofs.Report.Run
import Throughput.Proofs.Requests

/-! The password stays between the agent and the autoscaler. Two agents that are given
different passwords, and whose servers answer them alike, make the same records, count the
same, and send the same requests but for the header that tells the autoscaler who posts. -/
namespace Throughput

open Http (Request)

/-- Environments that differ at most in the passwords of their bindings: of two texts that can
be read, the documents are the same with every password masked. -/
structure Environment.Alike (a b : Environment) : Prop where
  others : a.SameElsewhere b
  services : a Discovery.servicesVariable = b Discovery.servicesVariable ∨ ∃ s t v w,
    a Discovery.servicesVariable = some s ∧ b Discovery.servicesVariable = some t ∧
      Json.Value.parse s = .ok v ∧ Json.Value.parse t = .ok w ∧ v.masked = w.masked

namespace Agent

def Settings.masked (s : Settings) : Settings := { s with overrides := s.overrides.masked }

def Prepared.masked (p : Prepared) : Prepared := { p with built := p.built.masked }

section Prepare

variable {settings other : Settings} {a b : Environment}

theorem discovered_of_parsed {text : String} {document : Json.Value}
    (bound : a Discovery.servicesVariable = some text)
    (parsed : Json.Value.parse text = .ok document) :
    discovered a = Discovery.endpointOf document := by
  simp [discovered, Discovery.endpoint, Discovery.parseEndpoint, bound, parsed, Except.toOption]

theorem discovered_alike (alike : a.Alike b) : (discovered a).masked = (discovered b).masked := by
  rcases alike.services with same | ⟨s, t, v, w, first, second, parsed, alsoParsed, masked⟩
  · rw [discovered, discovered, Discovery.endpoint, Discovery.endpoint, same]
  · rw [discovered_of_parsed first parsed, discovered_of_parsed second alsoParsed,
      ← Discovery.endpointOf_masked, masked, Discovery.endpointOf_masked]

theorem resolved_alike (alike : a.Alike b) (masked : settings.masked = other.masked) :
    (resolved settings a).masked = (resolved other b).masked := by
  have overrides : settings.overrides.masked = other.overrides.masked :=
    congrArg Settings.overrides masked
  rw [resolved, resolved, ← Policy.resolve_masked, ← Policy.resolve_masked, discovered_alike alike,
    alike.others.credentialPaths, overrides]

/-- Whatever is decided before the start is decided without the password. -/
theorem prepare_alike (alike : a.Alike b) (masked : settings.masked = other.masked)
    (elsewhere : settings.environmentVariable ≠ some Discovery.servicesVariable) (fs : FileSystem)
    (x : Identity) : (prepare settings a fs x).masked = (prepare other b fs x).masked := by
  have log : settings.log = other.log := (congrArg Settings.log masked :)
  have name : settings.environmentVariable = other.environmentVariable :=
    (congrArg Settings.environmentVariable masked :)
  have endpoints := resolved_alike alike masked
  have mode : (resolved settings a).authMode = (resolved other b).authMode := by
    rw [← Policy.Resolved.masked_authMode, endpoints, Policy.Resolved.masked_authMode]
  rw [prepare_eq, prepare_eq, Prepared.masked, Prepared.masked, mode, alike.others.exportUrl,
    alike.others.environmentTag elsewhere, name, log, Policy.build_plan_alike endpoints]

end Prepare

variable {σ τ : Type} {R : σ → τ → Prop}

structure Running.Alike (R : σ → τ → Prop) (a : Running σ) (b : Running τ) : Prop where
  lifecycle : a.lifecycle = b.lifecycle
  sinks : a.sinks = b.sinks
  reporter : a.reporter.Alike R b.reporter

structure Start.Alike (R : σ → τ → Prop) (s : Start σ) (t : Start τ) : Prop where
  told : s.told = t.told
  state : R s.state t.state
  started : ∀ a, s.outcome = .started a → ∃ b, t.outcome = .started b ∧ a.Alike R b

section Launch

variable {settings other : Settings} {p q : Prepared} {w : Http.World σ} {v : Http.World τ}
  {source : Report.Source σ} {source' : Report.Source τ} {prepareSource : σ → σ}
  {prepareSource' : τ → τ}

theorem Settings.thread_of_masked (same : settings.masked = other.masked) (host : Host) :
    settings.thread host = other.thread host := by
  have dedicated : settings.dedicatedThread = other.dedicatedThread :=
    (congrArg Settings.dedicatedThread same :)
  rw [thread, dedicated, thread]

theorem launch_alike (same : settings.masked = other.masked) (masked : p.masked = q.masked)
    (worlds : w.Alike R (Destination.Counterpart p.built.destinations q.built.destinations) v)
    (sources : source.Alike R source')
    (prepared : ∀ x y, R x y → R (prepareSource x) (prepareSource' y)) (now : Nat) {x : σ} {y : τ}
    (states : R x y) (host : Host) :
    (launch settings p w source prepareSource now x host).Alike R
      (launch other q v source' prepareSource' now y host) := by
  have report : settings.report = other.report := (congrArg Settings.report same :)
  have lifecycle : p.lifecycle = q.lifecycle := (congrArg Prepared.lifecycle masked :)
  have authMode : p.authMode = q.authMode := (congrArg Prepared.authMode masked :)
  have events : p.built.events = q.built.events := congrArg (fun p => p.built.events) masked
  have destinations : p.built.destinations.map Destination.masked =
      q.built.destinations.map Destination.masked := congrArg (fun p => p.built.destinations) masked
  have names : p.built.names = q.built.names := by
    have same : p.built.masked = q.built.masked := (congrArg Prepared.built masked :)
    rw [← p.built.masked_names, same, q.built.masked_names]
  have count : p.built.destinations.length = q.built.destinations.length := by
    simpa using congrArg List.length destinations
  have bare_iff : p.built.destinations = [] ↔ q.built.destinations = [] := by
    rw [← List.length_eq_zero_iff, ← List.length_eq_zero_iff, count]
  -- Which way a launch takes depends on the number of sinks, the interval and the thread, so both
  -- take the same.
  by_cases bare : p.built.destinations = []
  · rw [launch_of_bare settings p w source prepareSource now x host bare,
      launch_of_bare other q v source' prepareSource' now y host (bare_iff.mp bare)]
    constructor
    case told => simp only [Start.told, Start.events, lifecycle, events, Outcome.result]
    case state => exact states
    case started => rintro _ ⟨⟩
  · have alsoSinks : q.built.destinations ≠ [] := mt bare_iff.mpr bare
    rcases Nat.eq_zero_or_pos settings.report.interval with zero | positive
    · have alsoZero : other.report.interval = 0 := report ▸ zero
      rw [launch_of_zero settings p w source prepareSource now x host bare zero,
        launch_of_zero other q v source' prepareSource' now y host alsoSinks alsoZero]
      constructor
      case told => simp only [Start.told, Start.events, events, count, Outcome.result]
      case state => exact states
      case started => rintro _ ⟨⟩
    · have alsoPositive : 0 < other.report.interval := report ▸ positive
      have schedulers : (scheduler settings p w source positive).Alike R
          (scheduler other q v source' alsoPositive) :=
        ⟨sources, Destination.sinks_alike worlds destinations, report⟩
      have loops := Report.Loop.startOnThread_alike schedulers (settings.thread host) now
        (prepared x y states)
      rw [launch_of_sinks settings p w source prepareSource now x host bare positive,
        launch_of_sinks other q v source' prepareSource' now y host alsoSinks alsoPositive,
        ← Settings.thread_of_masked same host]
      -- From here on only what came of the two threads matters.
      generalize Report.Loop.startOnThread (scheduler settings p w source positive) _ _ _ = l at loops
      generalize Report.Loop.startOnThread (scheduler other q v source' alsoPositive) _ _ _ = m at loops
      cases loops with
      | none =>
        constructor
        case told => simp only [conclude, Start.told, Start.events, lifecycle, events, count, Outcome.result]
        case state => exact prepared x y states
        case started => rintro _ ⟨⟩
      | some reporters =>
        constructor
        case told =>
          simp only [conclude, Start.told, Start.events, scheduler_sinkNames, lifecycle, events, authMode,
            names, count, Outcome.result]
        case state => exact reporters.course.state
        case started =>
          rintro _ ⟨⟩
          refine ⟨_, rfl, lifecycle, ?_, reporters⟩
          simp only [scheduler_sinkNames, names]

end Launch

/-- The agent after its loop has gone on to each of the times. -/
def Running.after (a : Running σ) (times : List Nat) : Running σ :=
  { a with reporter := times.foldl Report.Reporter.advanceTo a.reporter }

namespace Running.Alike

variable {a : Running σ} {b : Running τ}

theorem after (alike : a.Alike R b) (times : List Nat) : (a.after times).Alike R (b.after times) :=
  ⟨alike.lifecycle, alike.sinks, alike.reporter.advances times⟩

theorem shutdown (alike : a.Alike R b) (reason : String) :
    (a.shutdown reason).1 = (b.shutdown reason).1 ∧
      (a.shutdown reason).2.Alike R (b.shutdown reason).2 :=
  ⟨congrArg (Lifecycle.shutdown · reason) alike.lifecycle, alike.lifecycle, alike.sinks,
    alike.reporter.shutdown⟩

end Running.Alike

/-- What an agent is started with. -/
structure Setup (σ : Type) where
  settings : Settings
  environment : Environment
  world : Http.World σ
  source : Report.Source σ
  prepareSource : σ → σ
  state : σ
  host : Host := {}

namespace Setup

/-- The start of an agent in a world that keeps a list of the requests made. -/
def start (a : Setup σ) (fs : FileSystem) (now : Nat) : Start (σ × List Request) :=
  Agent.start a.settings a.environment fs a.world.recorded a.source.apart now (a.state, [])
    (Prod.map a.prepareSource id) a.host

/-- Where the agent reports to. -/
def destinations (a : Setup σ) (fs : FileSystem) : List Destination :=
  match Discovery.identity a.environment with
  | .ok x => (prepare a.settings a.environment fs x).built.destinations
  | .error _ => []

/-- Setups with different passwords. Of the two worlds it is said that their clocks agree and
that their servers answer alike those requests that the agents make. -/
structure Twins (a : Setup σ) (R : σ → τ → Prop) (fs : FileSystem) (b : Setup τ) : Prop where
  settings : a.settings.masked = b.settings.masked
  elsewhere : a.settings.environmentVariable ≠ some Discovery.servicesVariable
  environment : a.environment.Alike b.environment
  world : a.world.Alike R (Destination.Counterpart (a.destinations fs) (b.destinations fs)) b.world
  source : a.source.Alike R b.source
  prepared : ∀ x y, R x y → R (a.prepareSource x) (b.prepareSource y)
  state : R a.state b.state
  host : a.host = b.host

end Setup

/-- What is seen of two agents that go on for as long as each other. -/
structure Running.SeenAlike (P : Request → Request → Prop) (a : Running (σ × List Request))
    (b : Running (τ × List Request)) : Prop where
  sinks : a.sinks = b.sinks
  /-- The records of ticks and of failures, and everything that is counted, each at its time. -/
  history : a.reporter.history = b.reporter.history
  requests : List.Forall₂ P a.reporter.course.state.2 b.reporter.course.state.2

/-- What is seen of two starts, and of the agents that they make report. -/
structure Start.SeenAlike (P : Request → Request → Prop) (s : Start (σ × List Request))
    (t : Start (τ × List Request)) : Prop where
  told : s.told = t.told
  requests : List.Forall₂ P s.state.2 t.state.2
  started : ∀ a, s.outcome = .started a → ∃ b, t.outcome = .started b ∧
    ∀ times reason, (a.after times).SeenAlike P (b.after times) ∧
      ((a.after times).shutdown reason).1 = ((b.after times).shutdown reason).1 ∧
      ((a.after times).shutdown reason).2.SeenAlike P ((b.after times).shutdown reason).2

theorem Running.Alike.seen {P : Request → Request → Prop} {a : Running (σ × List Request)}
    {b : Running (τ × List Request)} (alike : a.Alike (Http.Recorded R P) b) : a.SeenAlike P b :=
  ⟨alike.sinks, alike.reporter.history, alike.reporter.course.state.2⟩

theorem Start.Alike.seen {P : Request → Request → Prop} {s : Start (σ × List Request)}
    {t : Start (τ × List Request)} (alike : s.Alike (Http.Recorded R P) t) : s.SeenAlike P t := by
  constructor
  case told => exact alike.told
  case requests => exact alike.state.2
  case started =>
    intro a outcome
    obtain ⟨b, alsoOutcome, agents⟩ := alike.started a outcome
    refine ⟨b, alsoOutcome, fun times reason => ?_⟩
    obtain ⟨event, stopped⟩ := (agents.after times).shutdown reason
    exact ⟨(agents.after times).seen, event, stopped.seen⟩

theorem source_alike {P : Request → Request → Prop} {a : Report.Source σ} {b : Report.Source τ}
    (alike : a.Alike R b) : a.apart.Alike (Http.Recorded R P) b.apart where
  name := alike.name
  answer x y states := alike.answer x.1 y.1 states.1
  state x y states := ⟨alike.state x.1 y.1 states.1, states.2⟩

namespace Setup

theorem destinations_of_identity {a : Setup σ} {x : Identity}
    (identified : Discovery.identity a.environment = .ok x) (fs : FileSystem) :
    a.destinations fs = (prepare a.settings a.environment fs x).built.destinations := by
  simp only [destinations, identified]

theorem start_alike {a : Setup σ} {b : Setup τ} {fs : FileSystem} (twins : a.Twins R fs b)
    (now : Nat) : (a.start fs now).Alike
      (Http.Recorded R (Destination.Counterpart (a.destinations fs) (b.destinations fs)))
      (b.start fs now) := by
  have same := twins.environment.others.identity
  have states : Http.Recorded R (Destination.Counterpart (a.destinations fs) (b.destinations fs))
      (a.state, []) (b.state, []) := ⟨twins.state, .nil⟩
  cases identified : Discovery.identity a.environment with
  | error cause =>
    have alsoUnidentified : Discovery.identity b.environment = .error cause := same ▸ identified
    rw [start, start, start_of_unidentified identified, start_of_unidentified alsoUnidentified]
    refine ⟨rfl, states, ?_⟩
    rintro _ ⟨⟩
  | ok x =>
    have alsoIdentified : Discovery.identity b.environment = .ok x := same ▸ identified
    have worlds := twins.world.recorded
    rw [start, start, start_of_identity identified, start_of_identity alsoIdentified]
    rw [destinations_of_identity identified, destinations_of_identity alsoIdentified] at worlds states ⊢
    have masked := prepare_alike twins.environment twins.settings twins.elsewhere fs x
    rw [← twins.host]
    refine launch_alike twins.settings masked worlds (source_alike twins.source) ?_ now states a.host
    exact fun y z states => ⟨twins.prepared y.1 z.1 states.1, states.2⟩

end Setup

/-- Nobody but the autoscaler learns anything about the password from an agent, however long
it runs. -/
theorem password_concealed {a : Setup σ} {b : Setup τ} {fs : FileSystem}
    (twins : a.Twins R fs b) (now : Nat) :
    (a.start fs now).SeenAlike (Destination.Counterpart (a.destinations fs) (b.destinations fs))
      (b.start fs now) :=
  (Setup.start_alike twins now).seen

/-- An autoscaler that knows one header and takes five milliseconds to look for it. -/
def guarded (authorization : String) : Http.World Unit where
  now _ := 0
  exchange _ r := ⟨.response (if authorization ∈ r.authorization then 200 else 401) [], 5, ()⟩

/-- The bindings of an application whose autoscaler wants a password. -/
def bindings (password : String) : String :=
  "\x7b\"custom_metrics\":\x7b\"url\":\"http://autoscaler\",\"username\":\"agent\",\"password\":\"" ++
    password ++ "\"\x7d\x7d"

def boundTo (password : String) : Environment := fun name =>
  if name = Discovery.servicesVariable then some (bindings password)
  else unreadable.unset Discovery.exportUrlVariable name

/-- An agent that finds a password in its bindings, and is given one that is of no use. -/
def trusted (password : String) : Setup Unit where
  settings := {
    report := { initialDelay := 0 }
    log := true
    overrides := { basicPassword := some password } }
  environment := boundTo password
  world := guarded (Http.basicAuthorization "agent" password)
  source := ⟨"steady", fun x => (.sample (.available 7), x)⟩
  prepareSource := id
  state := ()

/-- The autoscaler of `password` lets in the agent that reports to `destinations`. -/
theorem trusted_answers {password : String} {destinations : List Destination}
    (reports : destinations = [.autoscaler "http://autoscaler/v1/apps/app-1/metrics" 0
      (.basic (Http.basicAuthorization "agent" password)), .log]) {d : Destination}
    {r : Request} (member : d ∈ destinations) (made : d.Makes r) :
    (trusted password).world.exchange () r = ⟨.response 200 [], 5, ()⟩ := by
  obtain ⟨url, hasUrl, made⟩ := made.url
  rw [reports] at member
  rcases List.mem_cons.mp member with rfl | member
  · have known : Http.basicAuthorization "agent" password ∈ r.authorization := by
      rcases Http.request_cases url r.body with ⟨e, refused⟩ | ⟨u, always⟩
      · cases made.symm.trans (refused _)
      · rw [Except.ok.inj (made.symm.trans (always _))]
        exact List.mem_append_right _ (.head _)
    simp [trusted, guarded, known]
  · obtain rfl := List.mem_singleton.mp member
    cases hasUrl

theorem boundTo_alike {one two : String}
    (readable : (Json.Value.parse (bindings one)).toOption.isSome)
    (masked : (Json.Value.parse (bindings one)).toOption.map Json.Value.masked =
      (Json.Value.parse (bindings two)).toOption.map Json.Value.masked) :
    (boundTo one).Alike (boundTo two) := by
  constructor
  case others =>
    intro name different
    rw [boundTo, boundTo, if_neg different, if_neg different]
  case services =>
    cases parsed : Json.Value.parse (bindings one) with
    | error cause =>
      rw [parsed] at readable
      cases readable
    | ok v =>
      cases alsoParsed : Json.Value.parse (bindings two) with
      | error cause =>
        rw [parsed, alsoParsed] at masked
        cases masked
      | ok w =>
        rw [parsed, alsoParsed] at masked
        exact .inr ⟨_, _, v, w, if_pos rfl, if_pos rfl, parsed, alsoParsed, Option.some.inj masked⟩

theorem password_concealed_of_trusted :
    (trusted "one").destinations .empty ≠ (trusted "two").destinations .empty ∧
      ((trusted "one").start .empty 0).SeenAlike
        (Destination.Counterpart ((trusted "one").destinations .empty)
          ((trusted "two").destinations .empty))
        ((trusted "two").start .empty 0) := by
  have first : (trusted "one").destinations .empty =
      [.autoscaler "http://autoscaler/v1/apps/app-1/metrics" 0
        (.basic (Http.basicAuthorization "agent" "one")), .log] := by decide +kernel
  have second : (trusted "two").destinations .empty =
      [.autoscaler "http://autoscaler/v1/apps/app-1/metrics" 0
        (.basic (Http.basicAuthorization "agent" "two")), .log] := by decide +kernel
  refine ⟨?_, password_concealed (R := Eq) ?_ 0⟩
  · rw [first, second]
    decide +kernel
  · constructor
    case settings => rfl
    case elsewhere => decide
    case environment => exact boundTo_alike (by decide +kernel) (by decide +kernel)
    case world =>
      refine ⟨fun _ _ _ => rfl, fun x y _ r s pair => ?_⟩
      obtain ⟨d, inFirst, e, inSecond, _, made, alsoMade, _⟩ := pair.made
      rw [trusted_answers first inFirst made, trusted_answers second inSecond alsoMade]
      exact ⟨rfl, rfl, rfl⟩
    case source => exact ⟨rfl, fun _ _ _ => rfl, fun _ _ _ => rfl⟩
    case prepared => exact fun _ _ same => same
    case state => rfl
    case host => rfl

end Agent
end Throughput
