import Throughput.Policy

/-! The sinks that are built of a plan: at most one of each kind, in a fixed order, with
records that are about sinks only. -/
namespace Throughput

/-- What a record says of itself. -/
def Event.kind? (e : Event) : Option String := e.field? "event"

/-- A record about one sink. -/
def Event.AboutSink (e : Event) : Prop :=
  e.kind? = some "sink_activated" ∨ e.kind? = some "sink_disabled"

/-- The destination with a tag on its samples, if they are of the kind that has one. -/
def Destination.tagged (tag : String) : Destination → Destination
  | otlp url attributes => otlp url (attributes ++ [("environment", tag)])
  | d => d

@[simp] theorem Destination.tagged_name (tag : String) (d : Destination) :
    (d.tagged tag).name = d.name := by
  cases d <;> rfl

theorem Destination.tagged_collector (tag url : String) (x : Identity) :
    (collector url x none).tagged tag = collector url x (some tag) := by
  simp [collector, tagged, Payload.attributes]

namespace Policy

theorem Built.concat_destinations (parts : List Built) :
    (Built.concat parts).destinations = parts.flatMap Built.destinations := by
  induction parts with
  | nil => rfl
  | cons b rest ih => exact congrArg (b.destinations ++ ·) ih

theorem Built.concat_events (parts : List Built) :
    (Built.concat parts).events = parts.flatMap Built.events := by
  induction parts with
  | nil => rfl
  | cons b rest ih => exact congrArg (b.events ++ ·) ih

theorem buildOne_destinations (l : Lifecycle) (sink : String) (r : Except Reason Destination) :
    (buildOne l sink r).destinations = r.toOption.toList := by
  cases r <;> rfl

theorem buildOne_aboutSink (l : Lifecycle) (sink : String) (r : Except Reason Destination) :
    ∀ e ∈ (buildOne l sink r).events, e.AboutSink := by
  intro e member
  cases r with
  | ok d => exact .inl (List.mem_singleton.mp member ▸ rfl)
  | error reason => exact .inr (List.mem_singleton.mp member ▸ rfl)

section Build

variable (p : Plan) (x : Identity) (l : Lifecycle)

theorem build_aboutSink : ∀ e ∈ (build p x l).events, e.AboutSink := by
  intro e member
  rw [build, Built.concat_events] at member
  obtain ⟨part, partMember, inside⟩ := List.mem_flatMap.mp member
  simp only [List.cons_append, List.mem_cons, List.mem_append, Option.mem_toList] at partMember
  rcases partMember with rfl | (autoscaler | collector) | log
  · obtain ⟨⟨sink, reason⟩, _, rfl⟩ := List.mem_map.mp inside
    exact .inr rfl
  · obtain ⟨c, _, rfl⟩ := Option.map_eq_some_iff.mp autoscaler
    exact buildOne_aboutSink _ _ _ e inside
  · obtain ⟨url, _, rfl⟩ := Option.map_eq_some_iff.mp collector
    exact buildOne_aboutSink _ _ _ e inside
  · split at log
    · rw [List.mem_singleton.mp log] at inside
      exact buildOne_aboutSink _ _ _ e inside
    · cases log

/-- At most one sink of each kind: the autoscaler unless its client certificate cannot be
used, the collector, and the log. -/
theorem build_destinations : (build p x l).destinations =
    (p.autoscaler.bind fun c => (connect x c).toOption).toList ++
      (p.exportUrl.map fun url => Destination.collector url x p.environment).toList ++
      (if p.log then [.log] else []) := by
  obtain ⟨autoscaler, exportUrl, tag, log, disabled⟩ := p
  rw [build, Built.concat_destinations]
  cases autoscaler <;> cases exportUrl <;> cases log <;>
    simp [buildOne_destinations, Except.toOption]

theorem connect_name {x : Identity} {c : Connection} {d : Destination}
    (connected : connect x c = .ok d) : d.name = "autoscaler" := by
  cases c with
  | basic url username password =>
    cases connected
    rfl
  | mtls url material =>
    simp only [connect] at connected
    split at connected
    · cases connected
      rfl
    · cases connected

/-- The sinks stand in a fixed order, whichever of them are there. -/
theorem build_names_sublist :
    (build p x l).names.Sublist ["autoscaler", "otlp", "log-emitter"] := by
  rw [Built.names, build_destinations, List.map_append, List.map_append]
  have autoscaler : ((p.autoscaler.bind fun c => (connect x c).toOption).toList.map
      Destination.name).Sublist ["autoscaler"] := by
    cases p.autoscaler with
    | none => exact List.nil_sublist _
    | some c =>
      cases connected : connect x c with
      | error reason => simp [connected, Except.toOption]
      | ok d => simp [connected, Except.toOption, connect_name connected]
  have collector : ((p.exportUrl.map fun url => Destination.collector url x p.environment).toList.map
      Destination.name).Sublist ["otlp"] := by
    cases p.exportUrl with
    | none => exact List.nil_sublist _
    | some url => exact List.Sublist.refl _
  have log : ((if p.log then [Destination.log] else []).map Destination.name).Sublist
      ["log-emitter"] := by
    cases p.log with
    | false => exact List.nil_sublist _
    | true => exact List.Sublist.refl _
  exact (autoscaler.append collector).append log

/-- The autoscaler and the log have no tag. -/
theorem connect_tagged {x : Identity} {c : Connection} {d : Destination} (tag : String)
    (connected : connect x c = .ok d) : d.tagged tag = d := by
  have name := connect_name connected
  cases d with
  | autoscaler => rfl
  | otlp => simp [Destination.name] at name
  | log => rfl

/-- A tag in a plan goes to the collector's samples, and changes nothing else. -/
theorem build_tagged (tag : String) :
    (build { p with environment := some tag } x l).events =
        (build { p with environment := none } x l).events ∧
      (build { p with environment := some tag } x l).destinations =
        (build { p with environment := none } x l).destinations.map (Destination.tagged tag) := by
  constructor
  · obtain ⟨autoscaler, exportUrl, _, log, disabled⟩ := p
    cases autoscaler <;> cases exportUrl <;> cases log <;> rfl
  · have autoscaler : (p.autoscaler.bind fun c => (connect x c).toOption).toList.map
        (Destination.tagged tag) = (p.autoscaler.bind fun c => (connect x c).toOption).toList := by
      cases p.autoscaler with
      | none => rfl
      | some c =>
        cases connected : connect x c with
        | error reason => simp [connected, Except.toOption]
        | ok d => simp [connected, Except.toOption, connect_tagged tag connected]
    have collector : (p.exportUrl.map fun url => Destination.collector url x (some tag)).toList =
        (p.exportUrl.map fun url => Destination.collector url x none).toList.map
          (Destination.tagged tag) := by
      cases p.exportUrl <;> simp [Destination.tagged_collector]
    have log : (if p.log then [Destination.log] else []).map (Destination.tagged tag) =
        if p.log then [.log] else [] := by
      cases p.log <;> rfl
    rw [build_destinations, build_destinations, List.map_append, List.map_append, autoscaler, log,
      ← collector]

end Build

end Policy
end Throughput
