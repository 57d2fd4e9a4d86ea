import Throughput.Proofs.Credential
import Throughput.Proofs.Policy.Build

/-! Which settings a sink depends on. Every sink is built from settings of its own, and of
the settings for the autoscaler those of lower precedence do not count once those of higher
precedence are complete. -/
namespace Throughput

theorem Lifecycle.field?_activated (l : Lifecycle) (sink : String) (target : Option String) :
    (l.activated sink target).field? "sink" = some sink := rfl

theorem Lifecycle.field?_disabled (l : Lifecycle) (sink reason : String) :
    (l.disabled sink reason).field? "sink" = some sink := rfl

namespace Policy

/-- The sinks of one name, and the records about it. -/
def Built.under (b : Built) (sink : String) : Built :=
  ⟨b.destinations.filter fun d => d.name = sink,
    b.events.filter fun e => e.field? "sink" = some sink⟩

@[simp] theorem Built.under_nil (sink : String) : (⟨[], []⟩ : Built).under sink = ⟨[], []⟩ := rfl

@[simp] theorem Built.under_append (a b : Built) (sink : String) :
    (a.append b).under sink = (a.under sink).append (b.under sink) := by
  simp [Built.under, Built.append]

@[simp] theorem Built.append_nil (b : Built) : b.append ⟨[], []⟩ = b := by
  simp [Built.append]

@[simp] theorem Built.nil_append (b : Built) : Built.append ⟨[], []⟩ b = b := rfl

theorem buildOne_under {l : Lifecycle} {sink : String} {r : Except Reason Destination}
    (named : ∀ d, r = .ok d → d.name = sink) (other : String) :
    (buildOne l sink r).under other = if sink = other then buildOne l sink r else ⟨[], []⟩ := by
  cases r with
  | error reason =>
    by_cases same : sink = other <;>
      simp [buildOne, Built.under, Lifecycle.field?_disabled, same]
  | ok d =>
    have name := named d rfl
    by_cases same : sink = other <;>
      simp [buildOne, Built.under, Lifecycle.field?_activated, name, same]

/-- The record of a sink that is not planned. -/
def unplanned (l : Lifecycle) (sink : String) (planned : Except Reason α) : Built :=
  ⟨[], (refusal sink planned).map fun (sink, reason) => l.disabled sink reason.message⟩

/-- A planned sink, or why it could not be made. -/
def attempt (l : Lifecycle) (sink : String) (make : α → Except Reason Destination) :
    Except Reason α → Built
  | .ok planned => buildOne l sink (make planned)
  | .error _ => ⟨[], []⟩

section Parts

variable {l : Lifecycle} {sink : String} {planned : Except Reason α}
  {make : α → Except Reason Destination}

theorem unplanned_append_attempt : (unplanned l sink planned).append (attempt l sink make planned) =
    buildOne l sink (planned.bind make) := by
  cases planned with
  | ok a => exact Built.nil_append _
  | error reason => rfl

@[simp] theorem unplanned_under (other : String) : (unplanned l sink planned).under other =
    if sink = other then unplanned l sink planned else ⟨[], []⟩ := by
  cases planned with
  | ok a => simp [unplanned, refusal, Built.under]
  | error reason =>
    exact buildOne_under (r := .error reason) (fun _ impossible => nomatch impossible) other

theorem attempt_under (named : ∀ a d, make a = .ok d → d.name = sink) (other : String) :
    (attempt l sink make planned).under other =
      if sink = other then attempt l sink make planned else ⟨[], []⟩ := by
  cases planned with
  | ok a => exact buildOne_under (named a) other
  | error reason => simp [attempt]

end Parts

def planLog (s : Settings) : Except Reason Unit := if s.log then .ok () else .error .logNotEnabled

section Sinks

variable (fs : FileSystem) (r : Resolved) (s : Settings) (x : Identity) (l : Lifecycle)

/-- What is not planned is recorded first, then what is planned is made. -/
theorem build_plan : build (plan fs r s) x l =
    (unplanned l "autoscaler" (planAutoscaler fs r)).append
      ((unplanned l "otlp" (planExport s.exportUrl)).append
        ((unplanned l "log-emitter" (planLog s)).append
          ((attempt l "autoscaler" (connect x) (planAutoscaler fs r)).append
            ((attempt l "otlp" (fun url => .ok (.collector url x s.environment))
              (planExport s.exportUrl)).append
              (attempt l "log-emitter" (fun _ => .ok .log) (planLog s)))))) := by
  obtain ⟨exportUrl, tag, log⟩ := s
  simp only [build, plan]
  cases planAutoscaler fs r <;> cases planExport exportUrl <;> cases log <;>
    simp [unplanned, attempt, planLog, refusal, Except.toOption, Built.concat, Built.append]

@[simp] theorem attempt_autoscaler_under (planned : Except Reason Connection) (other : String) :
    (attempt l "autoscaler" (connect x) planned).under other =
      if "autoscaler" = other then attempt l "autoscaler" (connect x) planned else ⟨[], []⟩ :=
  attempt_under (fun _ _ connected => connect_name connected) other

@[simp] theorem attempt_collector_under (tag : Option String) (planned : Except Reason String)
    (other : String) :
    (attempt l "otlp" (fun url => .ok (.collector url x tag)) planned).under other =
      if "otlp" = other then attempt l "otlp" (fun url => .ok (.collector url x tag)) planned
      else ⟨[], []⟩ := by
  apply attempt_under
  rintro url _ ⟨⟩
  rfl

@[simp] theorem attempt_log_under (planned : Except Reason Unit) (other : String) :
    (attempt l "log-emitter" (fun _ => .ok .log) planned).under other =
      if "log-emitter" = other then attempt l "log-emitter" (fun _ => .ok .log) planned
      else ⟨[], []⟩ := by
  apply attempt_under
  rintro _ _ ⟨⟩
  rfl

theorem build_autoscaler : (build (plan fs r s) x l).under "autoscaler" =
    buildOne l "autoscaler" ((planAutoscaler fs r).bind (connect x)) := by
  rw [build_plan, ← unplanned_append_attempt]
  simp

theorem build_collector : (build (plan fs r s) x l).under "otlp" =
    buildOne l "otlp"
      ((planExport s.exportUrl).bind fun url => .ok (.collector url x s.environment)) := by
  rw [build_plan, ← unplanned_append_attempt]
  simp

theorem build_log : (build (plan fs r s) x l).under "log-emitter" =
    buildOne l "log-emitter" ((planLog s).bind fun _ => .ok .log) := by
  rw [build_plan, ← unplanned_append_attempt]
  simp

end Sinks

/-- All that decides about sinks, but for who reports. -/
structure Inputs where
  discovered : Endpoint
  paths : Credential.Paths
  overrides : Overrides
  files : FileSystem
  settings : Settings

namespace Inputs

def resolved (i : Inputs) : Resolved := resolve i.discovered i.paths i.overrides

def built (i : Inputs) (x : Identity) (l : Lifecycle) : Built :=
  build (plan i.files i.resolved i.settings) x l

/-- The address for explicit credential files: their own, or else the discovered one. -/
def address (i : Inputs) : Option String := i.overrides.mtlsUrl.or i.discovered.mtlsUrl

variable {i j : Inputs}

theorem resolved_of_basic {e : Endpoint} (complete : i.overrides.basic? = some e) :
    i.resolved = ⟨e, .none, .basicOverride⟩ := by
  simp [resolved, resolve, complete]

theorem resolved_of_files {files : Credential.Paths} (basic : i.overrides.basic? = none)
    (complete : i.overrides.paths? = some files) :
    i.resolved = ⟨{ mtlsUrl := i.address }, files, .mtlsOverride⟩ := by
  simp [resolved, resolve, basic, complete, address]

theorem resolved_of_incomplete (basic : i.overrides.basic? = none)
    (files : i.overrides.paths? = none) :
    i.resolved = ⟨i.discovered, i.paths, .discovered⟩ := by
  simp [resolved, resolve, basic, files]

theorem complete_basic {o : Overrides} {e : Endpoint} (complete : o.basic? = some e) :
    ∃ url username password, e = .basic url username password := by
  unfold Overrides.basic? at complete
  split at complete
  · exact ⟨_, _, _, (Option.some.inj complete).symm⟩
  · cases complete

end Inputs

theorem planAutoscaler_of_other {r : Resolved} (mode : r.authMode ≠ .mtls) (fs gs : FileSystem) :
    planAutoscaler fs r = planAutoscaler gs r := by
  cases other : r.authMode with
  | basic => rw [planAutoscaler_of_basic other, planAutoscaler_of_basic other]
  | mtls => exact absurd other mode
  | none => rw [planAutoscaler_of_none other, planAutoscaler_of_none other]

theorem planAutoscaler_congr {r : Resolved} {fs gs : FileSystem}
    (same : Credential.SameAt r.paths fs gs) : planAutoscaler fs r = planAutoscaler gs r := by
  unfold planAutoscaler
  rw [Credential.load_congr same]

/-- Which settings the sinks of an application depend on. -/
structure Precedence (x : Identity) (l : Lifecycle) : Prop where
  /-- Complete settings for basic authentication leave nothing else to count. -/
  basic : ∀ (i j : Inputs) e, i.overrides.basic? = some e → j.overrides.basic? = some e →
    (i.built x l).under "autoscaler" = (j.built x l).under "autoscaler"
  basicSink : ∀ (i : Inputs) url username password,
    i.overrides.basic? = some (.basic url username password) →
    ((i.built x l).under "autoscaler").destinations = [.basic url username password x]
  /-- Complete credential files count with what they hold and with one address. -/
  files : ∀ (i j : Inputs) paths, i.overrides.basic? = none → j.overrides.basic? = none →
    i.overrides.paths? = some paths → j.overrides.paths? = some paths →
    Credential.SameAt paths i.files j.files → i.address = j.address →
    (i.built x l).under "autoscaler" = (j.built x l).under "autoscaler"
  filesSink : ∀ (i : Inputs) paths url material context, i.overrides.basic? = none →
    i.overrides.paths? = some paths → i.address = some url →
    Credential.load i.files paths = some material → Tls.build material = .ok context →
    ((i.built x l).under "autoscaler").destinations = [.mtls url context x]
  incomplete : ∀ (i : Inputs) o, i.overrides.basic? = none → i.overrides.paths? = none →
    o.basic? = none → o.paths? = none → { i with overrides := o }.built x l = i.built x l
  unread : ∀ (i : Inputs) files, i.resolved.authMode ≠ .mtls →
    { i with files }.built x l = i.built x l
  others : ∀ i j : Inputs, i.settings = j.settings →
    (i.built x l).under "otlp" = (j.built x l).under "otlp" ∧
      (i.built x l).under "log-emitter" = (j.built x l).under "log-emitter"
  autoscaler : ∀ (i : Inputs) settings,
    ({ i with settings }.built x l).under "autoscaler" = (i.built x l).under "autoscaler"
  /-- There are no sinks but these three. -/
  whole : ∀ i : Inputs, (i.built x l).destinations =
    ["autoscaler", "otlp", "log-emitter"].flatMap fun sink => ((i.built x l).under sink).destinations

theorem buildOne_bind_destinations {l : Lifecycle} {sink : String} {planned : Except Reason α}
    {make : α → Except Reason Destination} :
    (buildOne l sink (planned.bind make)).destinations =
      (attempt l sink make planned).destinations := by
  cases planned <;> rfl

/-- A sink depends on the settings of its own, and of those on the ones of highest precedence
that are complete. -/
theorem precedence_kept (x : Identity) (l : Lifecycle) : Precedence x l := by
  constructor
  case basic =>
    intro i j e first second
    have mode : (⟨e, .none, .basicOverride⟩ : Resolved).authMode ≠ .mtls := by
      obtain ⟨url, username, password, rfl⟩ := Inputs.complete_basic first
      exact (by decide : AuthMode.basic ≠ .mtls)
    rw [Inputs.built, Inputs.built, build_autoscaler, build_autoscaler,
      Inputs.resolved_of_basic first, Inputs.resolved_of_basic second,
      planAutoscaler_of_other mode i.files j.files]
  case basicSink =>
    intro i url username password complete
    rw [Inputs.built, build_autoscaler, Inputs.resolved_of_basic complete]
    rfl
  case files =>
    intro i j paths basic other complete also same address
    rw [Inputs.built, Inputs.built, build_autoscaler, build_autoscaler,
      Inputs.resolved_of_files basic complete, Inputs.resolved_of_files other also, address,
      planAutoscaler_congr same]
  case filesSink =>
    intro i paths url material context basic complete address loaded built
    rw [Inputs.built, build_autoscaler, Inputs.resolved_of_files basic complete, address,
      planAutoscaler]
    simp [Resolved.authMode, Endpoint.authMode, Endpoint.hasBasic, Endpoint.hasMtls, loaded,
      Except.bind, connect, built, buildOne]
  case incomplete =>
    intro i o basic files noBasic noFiles
    have resolved : { i with overrides := o }.resolved = i.resolved := by
      rw [Inputs.resolved_of_incomplete basic files]
      exact Inputs.resolved_of_incomplete noBasic noFiles
    rw [Inputs.built, Inputs.built, resolved]
  case unread =>
    intro i files mode
    have planned := planAutoscaler_of_other mode files i.files
    show build (plan files i.resolved i.settings) x l = build (plan i.files i.resolved i.settings) x l
    rw [build_plan, build_plan, planned]
  case others =>
    intro i j same
    constructor
    · rw [Inputs.built, Inputs.built, build_collector, build_collector, same]
    · rw [Inputs.built, Inputs.built, build_log, build_log, same]
  case autoscaler =>
    intro i settings
    rw [Inputs.built, Inputs.built, build_autoscaler, build_autoscaler]
    rfl
  case whole =>
    intro i
    simp only [Inputs.built, List.flatMap_cons, List.flatMap_nil, build_autoscaler,
      build_collector, build_log, buildOne_bind_destinations]
    rw [build_plan]
    simp [Built.append, unplanned]

/-- A certificate, a key and one trusted certificate, beside a note and in any order. -/
def keptFiles (note : Bytes) (order : List DirectoryEntry → List DirectoryEntry) : FileSystem where
  content path := List.lookup path
    [("/id.crt", [99]), ("/id.key", [107]), ("/ca/root.crt", [97]), ("/ca/note", note)]
  entries path := if path = "/ca" then some (order [⟨"root.crt", true⟩, ⟨"note", true⟩]) else none

theorem sameAt_keptFiles : Credential.SameAt ⟨"/id.crt", "/id.key", "/ca"⟩ (keptFiles [1] id)
    (keptFiles [2] List.reverse) := by
  constructor
  case certificate =>
    rintro _ ⟨⟩
    decide +kernel
  case key =>
    rintro _ ⟨⟩
    decide +kernel
  case listed =>
    rintro _ ⟨⟩
    decide +kernel
  case trusted =>
    rintro _ ⟨⟩
    decide +kernel

theorem precedence_kept_of_overrides :
    let x : Identity := ⟨"app-1", 0, "orders", "dev", "acme"⟩
    let l : Lifecycle := ⟨"orders", 0⟩
    let login : Overrides :=
      { basicUrl := "https://basic", basicUsername := "user", basicPassword := "secret" }
    let identity : Overrides :=
      { mtlsCertificate := "/id.crt", mtlsKey := "/id.key", mtlsDirectory := "/ca" }
    let first : Inputs := ⟨.mtls "https://mtls", .none, identity, keptFiles [1] id, {}⟩
    let second : Inputs := ⟨⟨"https://other", "user", "other", "https://mtls"⟩,
      ⟨"/ca/note", "/ca/note", "/ca"⟩, { identity with basicUrl := "https://basic" },
      keptFiles [2] List.reverse, { log := true }⟩
    (({ first with overrides := login }.built x l).under "autoscaler" =
        ({ second with overrides := { login with mtlsUrl := "https://own" } }.built x l).under
          "autoscaler" ∧
      (({ first with overrides := login }.built x l).under "autoscaler").destinations =
        [.basic "https://basic" "user" "secret" x]) ∧
    (first.overrides.paths? = second.overrides.paths? ∧ first.address = second.address ∧
      (first.built x l).under "autoscaler" = (second.built x l).under "autoscaler") ∧
    ({ first with overrides := { basicUrl := "https://basic" } }.built x l =
        { first with overrides := {} }.built x l ∧
      { first with overrides := login, files := .empty }.built x l =
        { first with overrides := login }.built x l) := by
  intro x l login identity first second
  have kept := precedence_kept x l
  refine ⟨⟨?_, ?_⟩, ⟨rfl, rfl, ?_⟩, ?_, ?_⟩
  · exact kept.basic _ _ (.basic "https://basic" "user" "secret") rfl rfl
  · exact kept.basicSink { first with overrides := login } _ _ _ rfl
  · exact kept.files first second ⟨"/id.crt", "/id.key", "/ca"⟩ rfl rfl rfl rfl sameAt_keptFiles rfl
  · exact kept.incomplete { first with overrides := {} } _ rfl rfl rfl rfl
  · exact kept.unread { first with overrides := login } .empty (by decide)

end Policy
end Throughput
