import Throughput.Agent
import Throughput.Proofs.Policy.Build
import Throughput.Proofs.Report.Loop

/-! What a start comes to. The identity is looked at first, then whether there is any sink,
then the interval, and only then is the source of measurements prepared: once, and before
the first measurement. Bindings that cannot be read count as none. -/
namespace Throughput

/-- The environment without one of its variables. -/
def Environment.unset (env : Environment) (name : String) : Environment :=
  fun other => if other = name then none else env other

theorem Environment.unset_of_ne {env : Environment} {name other : String} (different : other ≠ name) :
    env.unset name other = env other := if_neg different

/-- The environments agree on every variable but that of the bindings. -/
def Environment.SameElsewhere (a b : Environment) : Prop :=
  ∀ name, name ≠ Discovery.servicesVariable → a name = b name

theorem Environment.unset_sameElsewhere (env : Environment) :
    (env.unset Discovery.servicesVariable).SameElsewhere env := fun _ => unset_of_ne

namespace Environment.SameElsewhere

variable {a b : Environment}

theorem identity (same : a.SameElsewhere b) : Discovery.identity a = Discovery.identity b := by
  have application := same Discovery.applicationVariable (by decide)
  have index := same Discovery.instanceIndexVariable (by decide)
  rw [Discovery.identity, application, index, Discovery.identity]

theorem credentialPaths (same : a.SameElsewhere b) :
    Discovery.credentialPaths a = Discovery.credentialPaths b := by
  have certificate := same Discovery.certificateVariable (by decide)
  have key := same Discovery.keyVariable (by decide)
  have authorities := same Discovery.authoritiesVariable (by decide)
  rw [Discovery.credentialPaths, certificate, key, authorities, Discovery.credentialPaths]

theorem exportUrl (same : a.SameElsewhere b) : Discovery.exportUrl a = Discovery.exportUrl b :=
  same Discovery.exportUrlVariable (by decide)

theorem environmentTag (same : a.SameElsewhere b) {name : Option String}
    (other : name ≠ some Discovery.servicesVariable) :
    Discovery.environmentTag a name = Discovery.environmentTag b name := by
  cases name with
  | none => rfl
  | some name => exact same name fun equal => other (congrArg some equal)

end Environment.SameElsewhere

/-- What no exchange with a server ends, no destination ends. -/
theorem Destination.sink_keeps {σ : Type} {P : σ → Prop} {w : Http.World σ}
    (exchanged : ∀ x request, P x → P (w.exchange x request).state) (d : Destination)
    (metric : String) (value : UInt32) (x : σ) (holds : P x) :
    P ((d.sink w).emit x metric value).state := by
  show P (d.send w x metric value).1.state
  unfold Destination.send
  split
  · unfold Http.post
    split
    · exact holds
    · exact exchanged x _ holds
  · exact holds

namespace Agent

/-- What is done with a source of measurements. -/
inductive Use where
  | prepared
  | measured
  deriving DecidableEq

/-- The world keeps a record of what was done with the source, which `uses` reads. -/
structure Recorded {σ : Type} (uses : σ → List Use) (w : Http.World σ) (source : Report.Source σ)
    (prepareSource : σ → σ) : Prop where
  prepared : ∀ x, uses (prepareSource x) = uses x ++ [.prepared]
  measured : ∀ x, uses (source.measure x).2 = uses x ++ [.measured]
  exchanged : ∀ x request, uses (w.exchange x request).state = uses x

/-- A world that is nothing but such a record. -/
def bareWorld : Http.World (List Use) := ⟨fun _ => 0, fun x _ => ⟨.none, 0, x⟩⟩

def bareSource : Report.Source (List Use) := ⟨"bare", fun x => (.aborted, x ++ [.measured])⟩

theorem bareRecorded : Recorded id bareWorld bareSource (· ++ [.prepared]) :=
  ⟨fun _ => rfl, fun _ => rfl, fun _ _ => rfl⟩

variable {σ : Type}

/-- The agent as the host gets it: the names of its sinks if it runs, none if it is idle. -/
def Outcome.result : Outcome σ → Except Report.SettingsError (Option (List String))
  | started agent => .ok (some agent.sinks)
  | idle => .ok none
  | refused cause => .error cause

/-- What a start tells: its result, its records, whether the source was prepared, and the
gauge of active sinks. -/
structure Told where
  result : Except Report.SettingsError (Option (List String))
  events : List Event
  initialized : Bool
  activeSinks : Option Nat

def Start.told (s : Start σ) : Told := ⟨s.outcome.result, s.events, s.initialized, s.activeSinks⟩

/-- The source was not prepared, and the world is as it was. -/
def Start.Untouched (s : Start σ) (state : σ) : Prop := s.initialized = false ∧ s.state = state

/-- The records of one kind. -/
def Start.eventsOf (s : Start σ) (kind : String) : List Event :=
  s.events.filter fun e => e.kind? = some kind

/-- The thread that the loop runs on: the current one will do if nothing speaks against it. -/
def Settings.thread (settings : Settings) (host : Host) : Report.Thread :=
  if settings.dedicatedThread || !host.runtime then host.thread else .running

theorem Settings.thread_of_running (settings : Settings) {host : Host}
    (able : host.thread = .running) : settings.thread host = .running := by
  rw [thread, able, ite_self]

theorem startLoop_eq (settings : Settings) (host : Host) (s : Report.Scheduler σ) (now : Nat)
    (state : σ) : startLoop settings host s now state =
      Report.Loop.startOnThread s (settings.thread host) now state := by
  obtain ⟨runtime, thread⟩ := host
  unfold startLoop Settings.thread Host.place Report.Loop.start Report.Loop.startOnThread
  cases settings.dedicatedThread <;> cases runtime <;> cases s.sinks <;> rfl

section Launch

variable (settings : Settings) (p : Prepared) (w : Http.World σ) (source : Report.Source σ)
  (prepareSource : σ → σ) (now : Nat) (state : σ) (host : Host)

/-- The loop over the sinks that were built. -/
def scheduler (positive : 0 < settings.report.interval) : Report.Scheduler σ :=
  ⟨source, p.built.destinations.map fun d => d.sink w, settings.report, positive⟩

@[simp] theorem scheduler_sinkNames (positive : 0 < settings.report.interval) :
    (scheduler settings p w source positive).sinkNames = p.built.names :=
  List.map_map

theorem launch_of_bare (bare : p.built.destinations = []) :
    launch settings p w source prepareSource now state host =
      { outcome := .idle
        state
        planned := p.built.events
        launched := [p.lifecycle.idle "no active sinks"]
        activeSinks := some 0 } := by
  simp [launch, bare]

theorem launch_of_zero (sinks : p.built.destinations ≠ [])
    (zero : settings.report.interval = 0) :
    launch settings p w source prepareSource now state host =
      { outcome := .refused .zeroInterval
        state
        planned := p.built.events
        activeSinks := some p.built.destinations.length } := by
  simp [launch, sinks, Report.Scheduler.build, zero]

/-- Once there are sinks and an interval, all that is left to go wrong is the thread. -/
theorem launch_of_sinks (sinks : p.built.destinations ≠ [])
    (positive : 0 < settings.report.interval) :
    launch settings p w source prepareSource now state host =
      { conclude p (scheduler settings p w source positive) (prepareSource state)
          (Report.Loop.startOnThread (scheduler settings p w source positive)
            (settings.thread host) now (prepareSource state)) with
        planned := p.built.events
        initialized := true
        activeSinks := some p.built.destinations.length } := by
  have present : (p.built.destinations.map fun d => d.sink w).isEmpty = false := by
    simpa using sinks
  have built : Report.Scheduler.build (some source) (p.built.destinations.map fun d => d.sink w)
      settings.report = .ok (scheduler settings p w source positive) := dif_pos positive
  rw [← startLoop_eq]
  unfold launch
  simp only [present, built, List.length_map, Bool.false_eq_true, if_false]

theorem launch_of_refused (sinks : p.built.destinations ≠ [])
    (positive : 0 < settings.report.interval) (refused : settings.thread host = .refused) :
    launch settings p w source prepareSource now state host =
      { outcome := .idle
        state := prepareSource state
        planned := p.built.events
        initialized := true
        launched := [p.lifecycle.idle "scheduler could not be started"]
        activeSinks := some p.built.destinations.length } := by
  rw [launch_of_sinks settings p w source prepareSource now state host sinks positive,
    Report.Loop.startOnThread_eq_none_iff.mpr (.inr refused)]
  rfl

theorem launch_of_thread (sinks : p.built.destinations ≠ [])
    (positive : 0 < settings.report.interval) (able : settings.thread host ≠ .refused) :
    ∃ loop, Report.Loop.startOnThread (scheduler settings p w source positive)
        (settings.thread host) now (prepareSource state) = some loop ∧
      let reporter := loop.reporter (scheduler settings p w source positive)
      launch settings p w source prepareSource now state host =
        { outcome := .started ⟨p.lifecycle, p.built.names, reporter⟩
          state := reporter.course.state
          planned := p.built.events
          initialized := true
          launched := [p.lifecycle.started version p.authMode.label p.built.names]
          activeSinks := some p.built.destinations.length } := by
  have some : Report.Loop.startOnThread (scheduler settings p w source positive)
      (settings.thread host) now (prepareSource state) ≠ none := by
    rw [Ne, Report.Loop.startOnThread_eq_none_iff]
    simp [scheduler, sinks, able]
  obtain ⟨loop, begun⟩ := Option.ne_none_iff_exists'.mp some
  refine ⟨loop, begun, ?_⟩
  rw [launch_of_sinks settings p w source prepareSource now state host sinks positive, begun]
  simp only [conclude, scheduler_sinkNames]

/-- What the host sees of a start depends on the sinks through their names and records. -/
theorem launch_told {p q : Prepared} (lifecycle : p.lifecycle = q.lifecycle)
    (authMode : p.authMode = q.authMode) (events : p.built.events = q.built.events)
    (names : p.built.names = q.built.names) :
    (launch settings p w source prepareSource now state host).told =
      (launch settings q w source prepareSource now state host).told := by
  have count : p.built.destinations.length = q.built.destinations.length := by
    simpa [Policy.Built.names] using congrArg List.length names
  have alike : p.built.destinations = [] ↔ q.built.destinations = [] := by
    rw [← List.length_eq_zero_iff, ← List.length_eq_zero_iff, count]
  -- Both launches take the same way, as each way depends on the number of sinks alone.
  by_cases bare : p.built.destinations = []
  · rw [launch_of_bare settings p w source prepareSource now state host bare,
      launch_of_bare settings q w source prepareSource now state host (alike.mp bare)]
    simp only [Start.told, Start.events, lifecycle, events]
  have other : q.built.destinations ≠ [] := mt alike.mpr bare
  rcases Nat.eq_zero_or_pos settings.report.interval with zero | positive
  · rw [launch_of_zero settings p w source prepareSource now state host bare zero,
      launch_of_zero settings q w source prepareSource now state host other zero]
    simp only [Start.told, Start.events, events, count, Outcome.result]
  by_cases refused : settings.thread host = .refused
  · rw [launch_of_refused settings p w source prepareSource now state host bare positive refused,
      launch_of_refused settings q w source prepareSource now state host other positive refused]
    simp only [Start.told, Start.events, lifecycle, events, count, Outcome.result]
  · obtain ⟨_, _, first⟩ :=
      launch_of_thread settings p w source prepareSource now state host bare positive refused
    obtain ⟨_, _, second⟩ :=
      launch_of_thread settings q w source prepareSource now state host other positive refused
    rw [first, second]
    simp only [Start.told, Start.events, lifecycle, events, authMode, names, count, Outcome.result]

end Launch

/-- Whatever the loop does, the source was prepared once, and measured only after that. -/
theorem prepared_first {uses : σ → List Use} {w : Http.World σ} {source : Report.Source σ}
    {prepareSource : σ → σ} (recorded : Recorded uses w source prepareSource)
    {settings : Settings} {p : Prepared} {positive : 0 < settings.report.interval} {now : Nat}
    {state : σ} {loop : Report.Loop σ}
    (begun : Report.Loop.startOnThread (scheduler settings p w source positive) .running now
      (prepareSource state) = some loop) (times : List Nat) :
    ∃ count, uses (times.foldl Report.Reporter.advanceTo
        (loop.reporter (scheduler settings p w source positive))).course.state =
      uses state ++ .prepared :: List.replicate count .measured := by
  -- The record ends in measurements only: no call of the loop adds anything else to it.
  let P : σ → Prop := fun x => ∃ count, uses x = uses state ++ .prepared :: List.replicate count .measured
  have keeps : (scheduler settings p w source positive).Keeps P := by
    constructor
    case measure =>
      rintro x ⟨count, told⟩
      refine ⟨count + 1, ?_⟩
      show uses (source.measure x).2 = _
      rw [recorded.measured, told, List.replicate_succ']
      simp
    case emit =>
      intro sink member metric value x holds
      obtain ⟨d, _, rfl⟩ := List.mem_map.mp member
      refine d.sink_keeps (fun x request holds => ?_) metric value x holds
      obtain ⟨count, told⟩ := holds
      exact ⟨count, (recorded.exchanged x request).trans told⟩
  have first : P (prepareSource state) := ⟨0, recorded.prepared state⟩
  have started := Report.Reporter.start_eq (scheduler settings p w source positive) now (prepareSource state)
  rw [begun, Option.map_some] at started
  obtain ⟨same, kept⟩ := Report.Reporter.start_keeps keeps started first
  exact Report.Reporter.advances_keep (same ▸ keeps) times kept

/-- The endpoint found in the bindings; bindings that cannot be read count as none. -/
def discovered (env : Environment) : Endpoint := (Discovery.endpoint env).toOption.getD .empty

/-- The endpoint to report to, after the explicit settings were looked at. -/
def resolved (settings : Settings) (env : Environment) : Policy.Resolved :=
  Policy.resolve (discovered env) (Discovery.credentialPaths env) settings.overrides

section Prepare

variable (settings : Settings) (env : Environment) (fs : FileSystem) (x : Identity)

theorem prepare_eq : prepare settings env fs x =
    { lifecycle := ⟨x.applicationName, x.instanceIndex⟩
      authMode := (resolved settings env).authMode
      built := Policy.build (Policy.plan fs (resolved settings env)
        { exportUrl := Discovery.exportUrl env
          environment := Discovery.environmentTag env settings.environmentVariable
          log := settings.log }) x ⟨x.applicationName, x.instanceIndex⟩ } := by
  unfold prepare resolved discovered
  cases Discovery.endpoint env <;> rfl

/-- Records of a kind that is not about sinks are those of the launch. -/
theorem launch_eventsOf {s : Start σ}
    (planned : s.planned = (prepare settings env fs x).built.events) {kind : String}
    (active : kind ≠ "sink_activated") (disabled : kind ≠ "sink_disabled") :
    s.eventsOf kind = s.launched.filter fun e => e.kind? = some kind := by
  have silent : s.planned.filter (fun e => e.kind? = some kind) = [] := by
    refine List.filter_eq_nil_iff.mpr fun e member => ?_
    rw [planned, prepare_eq] at member
    rcases Policy.build_aboutSink _ _ _ e member with about | about <;>
      simpa [about] using Ne.symm ‹_›
  rw [Start.eventsOf, Start.events, List.filter_append, silent, List.nil_append]

theorem prepare_names_sublist :
    (prepare settings env fs x).built.names.Sublist ["autoscaler", "otlp", "log-emitter"] := by
  rw [prepare_eq]
  exact Policy.build_names_sublist _ _ _

end Prepare

section Malformed

variable {settings : Settings} {env : Environment} {text : String} {cause : Json.Error}

theorem discovered_of_malformed (bound : env Discovery.servicesVariable = some text)
    (malformed : Json.Value.parse text = .error cause) : discovered env = .empty := by
  simp [discovered, Discovery.endpoint, Discovery.parseEndpoint, bound, malformed, Except.toOption]

theorem discovered_of_unset : discovered (env.unset Discovery.servicesVariable) = .empty := by
  simp [discovered, Discovery.endpoint, Environment.unset, Except.toOption]

theorem identity_unset :
    Discovery.identity (env.unset Discovery.servicesVariable) = Discovery.identity env :=
  env.unset_sameElsewhere.identity

theorem resolved_unset (nothing : discovered env = .empty) :
    resolved settings (env.unset Discovery.servicesVariable) = resolved settings env := by
  rw [resolved, resolved, discovered_of_unset, env.unset_sameElsewhere.credentialPaths, nothing]

/-- Bindings that cannot be read change nothing but the tag on samples, and that only where
their variable is the one that the tag is taken from. -/
theorem prepare_unset (named : settings.environmentVariable = some Discovery.servicesVariable)
    (bound : env Discovery.servicesVariable = some text) (nothing : discovered env = .empty)
    (fs : FileSystem) (x : Identity) :
    (prepare settings env fs x).built.events =
        (prepare settings (env.unset Discovery.servicesVariable) fs x).built.events ∧
      (prepare settings env fs x).built.destinations =
        (prepare settings (env.unset Discovery.servicesVariable) fs x).built.destinations.map
          (Destination.tagged text) := by
  have tag : Discovery.environmentTag env (some Discovery.servicesVariable) = some text := bound
  have untagged : Discovery.environmentTag (env.unset Discovery.servicesVariable)
      (some Discovery.servicesVariable) = none :=
    show env.unset Discovery.servicesVariable Discovery.servicesVariable = none from if_pos rfl
  rw [prepare_eq, prepare_eq, resolved_unset nothing, env.unset_sameElsewhere.exportUrl, named, tag,
    untagged]
  exact Policy.build_tagged (Policy.plan fs (resolved settings env)
    { exportUrl := Discovery.exportUrl env, log := settings.log }) x _ text

theorem prepare_unset_of_other (nothing : discovered env = .empty)
    (other : settings.environmentVariable ≠ some Discovery.servicesVariable) (fs : FileSystem)
    (x : Identity) :
    prepare settings (env.unset Discovery.servicesVariable) fs x = prepare settings env fs x := by
  rw [prepare_eq, prepare_eq, resolved_unset nothing, env.unset_sameElsewhere.exportUrl,
    env.unset_sameElsewhere.environmentTag other]

end Malformed

section Decided

variable (settings : Settings) (env : Environment) (fs : FileSystem) (w : Http.World σ)
  (source : Report.Source σ) (prepareSource : σ → σ) (now : Nat) (state : σ) (host : Host)

/-- What there is when a start has made an agent report. -/
structure Reports (x : Identity) (s : Start σ) (agent : Running σ) : Prop where
  outcome : s.outcome = .started agent
  sinks : agent.sinks = (prepare settings env fs x).built.names
  order : agent.sinks.Sublist ["autoscaler", "otlp", "log-emitter"]
  /-- The loop calls the sinks that were built. -/
  loop : agent.reporter.scheduler.sinks =
    (prepare settings env fs x).built.destinations.map fun d => d.sink w
  told : ∃ e, s.eventsOf "agent_started" = [e] ∧
    e.field? "sinks" = some (Text.quoteList agent.sinks) ∧
    e.field? "auth_mode" = some (resolved settings env).authMode.label
  initialized : s.initialized = true
  /-- However long the loop goes on, the source was prepared once and before any measurement. -/
  prepared : ∀ uses, Recorded uses w source prepareSource → ∀ times : List Nat, ∃ count,
    uses (times.foldl Report.Reporter.advanceTo agent.reporter).course.state =
      uses state ++ .prepared :: List.replicate count .measured

/-- Bindings that are no JSON are told of as if there were none. Where the tag on samples is
taken from the variable of the bindings, it is their text, and all else is the same. -/
structure CountsAsUnset (text : String) (s : Start σ) : Prop where
  told : s.told = (start settings (env.unset Discovery.servicesVariable) fs w source now state
    prepareSource host).told
  same : settings.environmentVariable ≠ some Discovery.servicesVariable →
    s = start settings (env.unset Discovery.servicesVariable) fs w source now state prepareSource host
  tagged : settings.environmentVariable = some Discovery.servicesVariable →
    ∀ x, (prepare settings env fs x).built.destinations =
      (prepare settings (env.unset Discovery.servicesVariable) fs x).built.destinations.map
        (Destination.tagged text)

/-- What a start comes to, in the order in which it is decided. -/
structure Decided (s : Start σ) : Prop where
  unidentified : ∀ cause, Discovery.identity env = .error cause →
    s.outcome = .idle ∧ s.events = [] ∧ s.Untouched state
  bare : ∀ x, Discovery.identity env = .ok x →
    (prepare settings env fs x).built.destinations = [] →
    (∃ e, s.eventsOf "agent_idle" = [e]) ∧ s.outcome = .idle ∧ s.Untouched state
  refused : ∀ x, Discovery.identity env = .ok x →
    (prepare settings env fs x).built.destinations ≠ [] → settings.report.interval = 0 →
    s.outcome = .refused .zeroInterval ∧ s.Untouched state
  started : ∀ x, Discovery.identity env = .ok x →
    (prepare settings env fs x).built.destinations ≠ [] → 0 < settings.report.interval →
    host.thread = .running →
    ∃ agent, Reports settings env fs w source prepareSource state x s agent
  malformed : ∀ text cause, env Discovery.servicesVariable = some text →
    Json.Value.parse text = .error cause →
    CountsAsUnset settings env fs w source prepareSource now state host text s

variable {settings env fs w source prepareSource now state host}

theorem start_of_identity {x : Identity} (identified : Discovery.identity env = .ok x) :
    start settings env fs w source now state prepareSource host =
      launch settings (prepare settings env fs x) w source prepareSource now state host := by
  simp only [start, identified]

theorem start_of_unidentified {cause : Discovery.Error}
    (unidentified : Discovery.identity env = .error cause) :
    start settings env fs w source now state prepareSource host = { outcome := .idle, state } := by
  simp only [start, unidentified]

theorem start_reports {x : Identity} (identified : Discovery.identity env = .ok x)
    (sinks : (prepare settings env fs x).built.destinations ≠ [])
    (positive : 0 < settings.report.interval) (able : host.thread = .running) :
    ∃ agent, Reports settings env fs w source prepareSource state x
      (start settings env fs w source now state prepareSource host) agent := by
  have running := settings.thread_of_running able
  obtain ⟨loop, begun, launched⟩ := launch_of_thread settings (prepare settings env fs x) w source
    prepareSource now state host sinks positive (by simp [running])
  rw [running] at begun
  refine ⟨⟨(prepare settings env fs x).lifecycle, (prepare settings env fs x).built.names,
    loop.reporter (scheduler settings (prepare settings env fs x) w source positive)⟩, ?_⟩
  rw [start_of_identity identified, launched]
  constructor
  case outcome => rfl
  case sinks => rfl
  case order => exact prepare_names_sublist settings env fs x
  case loop => rfl
  case told =>
    refine ⟨_, launch_eventsOf settings env fs x rfl (by decide) (by decide), rfl, ?_⟩
    rw [prepare_eq]
    rfl
  case initialized => rfl
  case prepared =>
    intro uses recorded times
    exact prepared_first recorded begun times

theorem start_bare {x : Identity} (identified : Discovery.identity env = .ok x)
    (bare : (prepare settings env fs x).built.destinations = []) :
    (∃ e, (start settings env fs w source now state prepareSource host).eventsOf "agent_idle" = [e]) ∧
      (start settings env fs w source now state prepareSource host).outcome = .idle ∧
      (start settings env fs w source now state prepareSource host).Untouched state := by
  rw [start_of_identity identified, launch_of_bare _ _ w source prepareSource now state host bare]
  refine ⟨⟨_, launch_eventsOf settings env fs x rfl (by decide) (by decide)⟩, rfl, rfl, rfl⟩

theorem start_unset_of_other (nothing : discovered env = .empty)
    (other : settings.environmentVariable ≠ some Discovery.servicesVariable) :
    start settings env fs w source now state prepareSource host =
      start settings (env.unset Discovery.servicesVariable) fs w source now state prepareSource host := by
  cases identified : Discovery.identity env with
  | error cause =>
    rw [start_of_unidentified identified, start_of_unidentified (identity_unset.trans identified)]
  | ok x =>
    rw [start_of_identity identified, start_of_identity (identity_unset.trans identified),
      prepare_unset_of_other nothing other]

theorem start_told_unset {text : String} (bound : env Discovery.servicesVariable = some text)
    (nothing : discovered env = .empty)
    (named : settings.environmentVariable = some Discovery.servicesVariable) :
    (start settings env fs w source now state prepareSource host).told =
      (start settings (env.unset Discovery.servicesVariable) fs w source now state prepareSource
        host).told := by
  cases identified : Discovery.identity env with
  | error cause =>
    rw [start_of_unidentified identified, start_of_unidentified (identity_unset.trans identified)]
  | ok x =>
    obtain ⟨events, destinations⟩ := prepare_unset named bound nothing fs x
    rw [start_of_identity identified, start_of_identity (identity_unset.trans identified)]
    refine launch_told settings w source prepareSource now state host ?_ ?_ events ?_
    · rw [prepare_eq, prepare_eq]
    · rw [prepare_eq, prepare_eq, resolved_unset nothing]
    · simp [Policy.Built.names, destinations]

theorem start_malformed {text : String} {cause : Json.Error}
    (bound : env Discovery.servicesVariable = some text)
    (malformed : Json.Value.parse text = .error cause) :
    CountsAsUnset settings env fs w source prepareSource now state host text
      (start settings env fs w source now state prepareSource host) := by
  have nothing := discovered_of_malformed bound malformed
  constructor
  case told =>
    by_cases named : settings.environmentVariable = some Discovery.servicesVariable
    · exact start_told_unset bound nothing named
    · rw [start_unset_of_other nothing named]
  case same => exact start_unset_of_other nothing
  case tagged => exact fun named x => (prepare_unset named bound nothing fs x).2

/-- A start is decided by the identity, then the sinks, then the interval; the source is
prepared only when all three are right. -/
theorem start_decided (settings : Settings) (env : Environment) (fs : FileSystem) (w : Http.World σ)
    (source : Report.Source σ) (prepareSource : σ → σ) (now : Nat) (state : σ) (host : Host) :
    Decided settings env fs w source prepareSource now state host
      (start settings env fs w source now state prepareSource host) := by
  constructor
  case unidentified =>
    intro cause unidentified
    rw [start_of_unidentified unidentified]
    exact ⟨rfl, rfl, rfl, rfl⟩
  case bare =>
    intro x identified bare
    exact start_bare identified bare
  case refused =>
    intro x identified sinks zero
    rw [start_of_identity identified, launch_of_zero _ _ w source prepareSource now state host sinks zero]
    exact ⟨rfl, rfl, rfl⟩
  case started =>
    intro x identified sinks positive able
    exact start_reports identified sinks positive able
  case malformed =>
    intro text cause bound malformed
    exact start_malformed bound malformed

/-- An application whose bindings are no JSON, and that has a collector to export to. -/
def unreadable : Environment := .ofList
  [("VCAP_APPLICATION", "\x7b\"application_id\":\"app-1\",\"application_name\":\"orders\"," ++
      "\"space_name\":\"dev\",\"organization_name\":\"acme\"\x7d"),
    ("CF_INSTANCE_INDEX", "0"), ("VCAP_SERVICES", "\x7bnot json"),
    ("MANAGEMENT_OTLP_METRICS_EXPORT_URL", "http://[::1]:4318/v1/metrics")]

theorem identity_of_toOption {env : Environment} {x : Identity}
    (known : (Discovery.identity env).toOption = some x) : Discovery.identity env = .ok x := by
  cases found : Discovery.identity env <;> rw [found] at known <;> cases known
  rfl

theorem identity_unreadable :
    Discovery.identity unreadable = .ok ⟨"app-1", 0, "orders", "dev", "acme"⟩ :=
  identity_of_toOption (by decide +kernel)

theorem unreadable_malformed : ∃ cause, Json.Value.parse "\x7bnot json" = .error cause := by
  have unread : (Json.Value.parse "\x7bnot json").toOption.isNone := by decide +kernel
  cases malformed : Json.Value.parse "\x7bnot json" with
  | ok document =>
    rw [malformed] at unread
    cases unread
  | error cause => exact ⟨cause, rfl⟩

/-- Settings that take the tag on samples from the variable of the bindings. -/
def tagging : Settings := { log := true, environmentVariable := some Discovery.servicesVariable }

/-- The collector and the log keep such an application reporting, as they do one without
bindings, and the text of the bindings goes to the collector if the tag is taken from there. -/
theorem start_decided_of_unreadable :
    (∃ agent, (start tagging unreadable .empty bareWorld bareSource 0 [] (· ++ [.prepared])).outcome =
        .started agent ∧ agent.sinks = ["otlp", "log-emitter"] ∧
      agent.reporter.course.state.head? = some .prepared) ∧
    (start tagging unreadable .empty bareWorld bareSource 0 [] (· ++ [.prepared])).told =
      (start tagging (unreadable.unset Discovery.servicesVariable) .empty bareWorld bareSource
        0 [] (· ++ [.prepared])).told ∧
    (prepare tagging unreadable .empty ⟨"app-1", 0, "orders", "dev", "acme"⟩).built.destinations =
      (prepare tagging (unreadable.unset Discovery.servicesVariable) .empty
        ⟨"app-1", 0, "orders", "dev", "acme"⟩).built.destinations.map
          (Destination.tagged "\x7bnot json") := by
  have decided := start_decided tagging unreadable .empty bareWorld bareSource (· ++ [.prepared]) 0 [] {}
  obtain ⟨cause, malformed⟩ := unreadable_malformed
  have bound : unreadable Discovery.servicesVariable = some "\x7bnot json" := by decide +kernel
  have unset := decided.malformed _ cause bound malformed
  refine ⟨?_, unset.told, unset.tagged rfl _⟩
  obtain ⟨agent, reports⟩ := decided.started _ identity_unreadable (by decide +kernel) (by decide) rfl
  have names : agent.sinks = ["otlp", "log-emitter"] := reports.sinks.trans (by decide +kernel)
  obtain ⟨count, told⟩ := reports.prepared id bareRecorded []
  exact ⟨agent, reports.outcome, names, by simpa using congrArg List.head? told⟩

/-- Bindings that are no JSON do not always leave the sinks as they are without any. -/
theorem start_retagged : ¬ ∀ (settings : Settings) (env : Environment) (fs : FileSystem) (text : String)
    (cause : Json.Error) (x : Identity), env Discovery.servicesVariable = some text →
    Json.Value.parse text = .error cause → Discovery.identity env = .ok x →
    (prepare settings env fs x).built.destinations =
      (prepare settings (env.unset Discovery.servicesVariable) fs x).built.destinations := by
  intro same
  obtain ⟨cause, malformed⟩ := unreadable_malformed
  have bound : unreadable Discovery.servicesVariable = some "\x7bnot json" := by decide +kernel
  have sinks := same tagging unreadable .empty _ cause _ bound malformed identity_unreadable
  exact absurd sinks (by decide +kernel)

end Decided

end Agent
end Throughput
