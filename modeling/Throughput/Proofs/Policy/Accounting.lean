import Throughput.Proofs.Policy.Precedence

/-! Every sink is accounted for. Whether it drops out when sinks are planned or when they are
made, a sink has one record, and it is built exactly when its record says so. -/
namespace Throughput

theorem Endpoint.mtlsUrl_of_mtls {e : Endpoint} (mode : e.authMode = .mtls) :
    ∃ url, e.mtlsUrl = some url := by
  unfold authMode hasMtls at mode
  split at mode
  · cases mode
  · split at mode
    · exact Option.isSome_iff_exists.mp ‹_›
    · cases mode

namespace Policy

theorem Connection.exists_ofBasic {e : Endpoint} (complete : e.hasBasic = true) :
    ∃ url username password, ofBasic e complete = .basic url username password := by
  obtain ⟨url, username, password, mtlsUrl⟩ := e
  cases url <;> cases username <;> cases password <;>
    first | exact ⟨_, _, _, rfl⟩ | cases complete

/-- All sinks there are, in the order in which they get samples. -/
def order : List String := ["autoscaler", "otlp", "log-emitter"]

/-- There is a record that the sink was activated. -/
def Built.activates (b : Built) (sink : String) : Bool :=
  b.events.any fun e => e.field? "sink" = some sink && e.kind? = some "sink_activated"

theorem Built.activates_eq (b : Built) (sink : String) :
    b.activates sink = (b.under sink).events.any fun e => e.kind? = some "sink_activated" :=
  List.any_filter.symm

theorem buildOne_activates (l : Lifecycle) (sink : String) (r : Except Reason Destination) :
    ((buildOne l sink r).events.any fun e => e.kind? = some "sink_activated") = r.toBool := by
  cases r <;> rfl

theorem buildOne_once (l : Lifecycle) (sink : String) (r : Except Reason Destination) :
    ∃ e, (buildOne l sink r).events = [e] ∧ e.AboutSink := by
  cases r with
  | ok d => exact ⟨_, rfl, .inl rfl⟩
  | error reason => exact ⟨_, rfl, .inr rfl⟩

section Parts

variable (l : Lifecycle) (sink : String) (planned : Except Reason α)
  (make : α → Except Reason Destination)

/-- A sink is recorded when it is not planned, or else when it is tried. -/
theorem recorded_once :
    (unplanned l sink planned).events.length + (attempt l sink make planned).events.length = 1 := by
  cases planned with
  | error reason => rfl
  | ok a =>
    obtain ⟨e, events, _⟩ := buildOne_once l sink (make a)
    exact (Nat.zero_add _).trans (congrArg List.length events)

theorem unplanned_inactive : (unplanned l sink planned).events.filter
    (fun e => e.kind? = some "sink_activated") = [] := by
  cases planned <;> rfl

theorem attempt_active : (attempt l sink make planned).events.filter
    (fun e => e.kind? = some "sink_activated") =
      (attempt l sink make planned).destinations.map fun d => l.activated d.name d.url? := by
  cases planned with
  | error reason => rfl
  | ok a =>
    rw [attempt]
    cases make a <;> rfl

end Parts

section Results

variable (fs : FileSystem) (r : Resolved) (s : Settings) (x : Identity) (l : Lifecycle)

/-- What comes of each sink when it is planned and made. -/
def results : List (String × Except Reason Destination) :=
  [("autoscaler", (planAutoscaler fs r).bind (connect x)),
    ("otlp", (planExport s.exportUrl).bind fun url => .ok (.collector url x s.environment)),
    ("log-emitter", (planLog s).bind fun _ => .ok .log)]

theorem under_of_result {sink : String} {result : Except Reason Destination}
    (member : (sink, result) ∈ results fs r s x) :
    (build (plan fs r s) x l).under sink = buildOne l sink result := by
  rcases List.mem_cons.mp member with same | member
  · cases same
    exact build_autoscaler fs r s x l
  rcases List.mem_cons.mp member with same | member
  · cases same
    exact build_collector fs r s x l
  rcases List.mem_singleton.mp member with same
  cases same
  exact build_log fs r s x l

theorem activates_of_result {sink : String} {result : Except Reason Destination}
    (member : (sink, result) ∈ results fs r s x) :
    (build (plan fs r s) x l).activates sink = result.toBool := by
  rw [Built.activates_eq, under_of_result fs r s x l member, buildOne_activates]

theorem result_named : ∀ result ∈ results fs r s x, ∀ d, result.2 = .ok d → d.name = result.1 := by
  intro result member d made
  rcases List.mem_cons.mp member with rfl | member
  · cases planned : planAutoscaler fs r with
    | error reason =>
      rw [planned] at made
      cases made
    | ok c =>
      rw [planned] at made
      exact connect_name made
  rcases List.mem_cons.mp member with rfl | member
  · cases planned : planExport s.exportUrl with
    | error reason =>
      rw [planned] at made
      cases made
    | ok url =>
      rw [planned] at made
      cases made
      rfl
  obtain rfl := List.mem_singleton.mp member
  cases planned : planLog s with
  | error reason =>
    rw [planned] at made
    cases made
  | ok _ =>
    rw [planned] at made
    cases made
    rfl

theorem destinations_of_results : (build (plan fs r s) x l).destinations =
    (results fs r s x).flatMap fun result => result.2.toOption.toList := by
  obtain ⟨exportUrl, tag, log⟩ := s
  rw [build_destinations]
  simp only [plan, results, planLog]
  cases planAutoscaler fs r <;> cases planExport exportUrl <;> cases log <;>
    simp [Except.toOption, Except.bind]

theorem names_of_named {results : List (String × Except Reason Destination)}
    (named : ∀ result ∈ results, ∀ d, result.2 = .ok d → d.name = result.1) :
    (results.flatMap fun result => result.2.toOption.toList).map Destination.name =
      (results.filter fun result => result.2.toBool).map Prod.fst := by
  induction results with
  | nil => rfl
  | cons result rest ih =>
    have later := ih fun result member => named result (List.mem_cons_of_mem _ member)
    rw [List.flatMap_cons, List.map_append, later]
    obtain ⟨sink, made⟩ := result
    cases made with
    | error reason => rfl
    | ok d =>
      have name : d.name = sink := named (sink, .ok d) (List.mem_cons_self ..) d rfl
      exact congrArg (· :: _) name

/-- The sinks that are built are those that were activated, in their order. -/
theorem names_activated : (build (plan fs r s) x l).names =
    order.filter (build (plan fs r s) x l).activates := by
  have all : order = (results fs r s x).map Prod.fst := rfl
  rw [Built.names, destinations_of_results, names_of_named (result_named fs r s x), all,
    List.filter_map]
  refine congrArg _ (List.filter_congr fun result member => ?_)
  exact (activates_of_result fs r s x l member).symm

theorem events_length : (build (plan fs r s) x l).events.length = 3 := by
  have autoscaler := recorded_once l "autoscaler" (planAutoscaler fs r) (connect x)
  have collector := recorded_once l "otlp" (planExport s.exportUrl)
    fun url => .ok (.collector url x s.environment)
  have log := recorded_once l "log-emitter" (planLog s) fun _ => .ok .log
  rw [build_plan]
  simp only [Built.append, List.length_append]
  omega

theorem events_activated : ((build (plan fs r s) x l).events.filter
    fun e => e.kind? = some "sink_activated") =
      (build (plan fs r s) x l).destinations.map fun d => l.activated d.name d.url? := by
  rw [build_plan]
  simp only [Built.append, List.filter_append, unplanned_inactive, attempt_active, List.map_append]
  rfl

/-- The autoscaler is reached with a password, or with a certificate that makes a context. -/
theorem autoscaler_made_iff : ((planAutoscaler fs r).bind (connect x)).toBool = true ↔
    r.authMode = .basic ∨ r.authMode = .mtls ∧ ∃ material context,
      Credential.load fs r.paths = some material ∧ Tls.build material = .ok context := by
  cases mode : r.authMode with
  | basic =>
    obtain ⟨url, username, password, basic⟩ :=
      Connection.exists_ofBasic (Endpoint.hasBasic_of_authMode mode)
    simp [planAutoscaler_of_basic mode, basic, Except.bind, connect, Except.toBool]
  | mtls =>
    obtain ⟨url, hasUrl⟩ := Endpoint.mtlsUrl_of_mtls mode
    rw [planAutoscaler_of_mtls mode]
    cases loaded : Credential.load fs r.paths with
    | none => simp [Except.bind, Except.toBool]
    | some material =>
      cases built : Tls.build material <;>
        simp [hasUrl, Except.bind, connect, built, Except.toBool]
  | none => simp [planAutoscaler_of_none mode, Except.bind, Except.toBool]

/-- What is built of a plan, and what is said of it. -/
structure Accounted (b : Built) : Prop where
  once : ∀ sink ∈ order, ∃ e, (b.events.filter fun e => e.field? "sink" = some sink) = [e] ∧
    e.AboutSink
  total : b.events.length = 3
  sinks : b.names = order.filter b.activates
  records : (b.events.filter fun e => e.kind? = some "sink_activated") =
    b.destinations.map fun d => l.activated d.name d.url?
  autoscaler : b.activates "autoscaler" = true ↔ r.authMode = .basic ∨
    r.authMode = .mtls ∧ ∃ material context,
      Credential.load fs r.paths = some material ∧ Tls.build material = .ok context

/-- However sinks drop out, each is recorded once and those are built that were activated; of
an empty plan nothing is built. -/
theorem sinks_accounted : Accounted fs r l (build (plan fs r s) x l) ∧
    ∀ p : Plan, p.isEmpty = true → (build p x l).destinations = [] := by
  constructor
  · constructor
    case once =>
      intro sink known
      obtain ⟨⟨sink, result⟩, member, rfl⟩ : ∃ result ∈ results fs r s x, result.1 = sink :=
        List.mem_map.mp known
      obtain ⟨e, events, about⟩ := buildOne_once l sink result
      refine ⟨e, ?_, about⟩
      exact (congrArg Built.events (under_of_result fs r s x l member)).trans events
    case total => exact events_length fs r s x l
    case sinks => exact names_activated fs r s x l
    case records => exact events_activated fs r s x l
    case autoscaler =>
      rw [activates_of_result fs r s x l (List.mem_cons_self ..)]
      exact autoscaler_made_iff fs r x
  · intro p empty
    obtain ⟨autoscaler, exportUrl, tag, log, disabled⟩ := p
    simp only [Plan.isEmpty, Bool.and_eq_true, Option.isNone_iff_eq_none, Bool.not_eq_true'] at empty
    obtain ⟨⟨rfl, rfl⟩, rfl⟩ := empty
    rw [build_destinations]
    rfl

end Results

end Policy
end Throughput
