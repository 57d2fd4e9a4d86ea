import Throughput.Proofs.Discovery.Masked
import Throughput.Policy

/-! How far a password gets. It is followed from the endpoint to the header of the
autoscaler's requests: up to there every choice is the same with the mask in its place, and
no record is made of it. -/
namespace Throughput

namespace Endpoint

theorem masked_hasBasic (e : Endpoint) : e.masked.hasBasic = e.hasBasic := by
  simp only [hasBasic, masked, Option.isSome_map]

theorem masked_authMode (e : Endpoint) : e.masked.authMode = e.authMode := by
  rw [authMode, authMode, masked_hasBasic]
  rfl

end Endpoint

namespace Destination

/-- The destination but for the header that tells the autoscaler who posts. -/
def masked : Destination → Destination
  | autoscaler url instanceIndex (.basic _) => autoscaler url instanceIndex (.basic passwordMask)
  | d => d

theorem masked_name (d : Destination) : d.masked.name = d.name := by
  rcases d with ⟨url, instanceIndex, _ | _⟩ | _ | _ <;> rfl

theorem masked_url? (d : Destination) : d.masked.url? = d.url? := by
  rcases d with ⟨url, instanceIndex, _ | _⟩ | _ | _ <;> rfl

theorem masked_body? (d : Destination) (metric : String) (value : UInt32) (time : UInt64) :
    d.masked.body? metric value time = d.body? metric value time := by
  rcases d with ⟨url, instanceIndex, _ | _⟩ | _ | _ <;> rfl

section Alike

variable {a b : Destination} (masked : a.masked = b.masked)

include masked

theorem name_of_masked : a.name = b.name := by
  rw [← a.masked_name, masked, b.masked_name]

theorem url?_of_masked : a.url? = b.url? := by
  rw [← a.masked_url?, masked, b.masked_url?]

theorem body?_of_masked (metric : String) (value : UInt32) (time : UInt64) :
    a.body? metric value time = b.body? metric value time := by
  rw [← a.masked_body?, masked, b.masked_body?]

end Alike

end Destination

namespace Policy

def Overrides.masked (o : Overrides) : Overrides :=
  { o with basicPassword := o.basicPassword.map fun _ => passwordMask }

def Resolved.masked (r : Resolved) : Resolved := { r with endpoint := r.endpoint.masked }

def Connection.masked : Connection → Connection
  | basic url username _ => basic url username passwordMask
  | c => c

def Plan.masked (p : Plan) : Plan := { p with autoscaler := p.autoscaler.map Connection.masked }

def Built.masked (b : Built) : Built := { b with destinations := b.destinations.map Destination.masked }

theorem Resolved.masked_authMode (r : Resolved) : r.masked.authMode = r.authMode :=
  r.endpoint.masked_authMode

theorem Built.masked_names (b : Built) : b.masked.names = b.names := by
  simp only [names, masked, List.map_map, Function.comp_def, Destination.masked_name]

theorem resolve_masked (discovered : Endpoint) (paths : Credential.Paths) (o : Overrides) :
    resolve discovered.masked paths o.masked = (resolve discovered paths o).masked := by
  have basic : o.masked.basic? = o.basic?.map Endpoint.masked := by
    obtain ⟨url, username, password⟩ := o
    cases url <;> cases username <;> cases password <;> rfl
  have files : o.masked.paths? = o.paths? := rfl
  rw [resolve, resolve, basic, files]
  cases o.basic? <;> cases o.paths? <;> rfl

theorem Connection.ofBasic_masked (e : Endpoint) (complete : e.hasBasic = true) :
    ofBasic e.masked (e.masked_hasBasic.trans complete) = (ofBasic e complete).masked := by
  obtain ⟨url, username, password, mtlsUrl⟩ := e
  cases url <;> cases username <;> cases password <;> first | rfl | cases complete

theorem planAutoscaler_masked (fs : FileSystem) (r : Resolved) :
    planAutoscaler fs r.masked = (planAutoscaler fs r).map Connection.masked := by
  cases mode : r.authMode with
  | basic =>
    rw [planAutoscaler_of_basic (r.masked_authMode.trans mode), planAutoscaler_of_basic mode]
    exact congrArg Except.ok (Connection.ofBasic_masked r.endpoint _)
  | mtls =>
    have paths : r.masked.paths = r.paths := rfl
    have url : r.masked.endpoint.mtlsUrl = r.endpoint.mtlsUrl := rfl
    rw [planAutoscaler_of_mtls (r.masked_authMode.trans mode), planAutoscaler_of_mtls mode, paths, url]
    cases Credential.load fs r.paths <;> cases r.endpoint.mtlsUrl <;> rfl
  | none =>
    rw [planAutoscaler_of_none (r.masked_authMode.trans mode), planAutoscaler_of_none mode]
    rfl

theorem plan_masked (fs : FileSystem) (r : Resolved) (s : Settings) :
    plan fs r.masked s = (plan fs r s).masked := by
  rw [plan, plan, planAutoscaler_masked]
  cases planAutoscaler fs r <;> rfl

theorem connect_masked (x : Identity) (c : Connection) :
    (connect x c.masked).map Destination.masked = (connect x c).map Destination.masked := by
  cases c with
  | basic => simp only [Connection.masked, connect, Except.map, Destination.basic, Destination.masked]
  | mtls => rfl

theorem buildOne_masked (l : Lifecycle) (sink : String) (r : Except Reason Destination) :
    (buildOne l sink (r.map Destination.masked)) = (buildOne l sink r).masked := by
  cases r with
  | error reason => rfl
  | ok d => simp only [Except.map, buildOne, Built.masked, d.masked_name, d.masked_url?, List.map]

theorem concat_masked (parts : List Built) :
    (Built.concat parts).masked = Built.concat (parts.map Built.masked) := by
  induction parts with
  | nil => rfl
  | cons b rest ih =>
    have step : (b.append (Built.concat rest)).masked = b.masked.append (Built.concat rest).masked := by
      simp only [Built.masked, Built.append, List.map_append]
    exact step.trans (congrArg b.masked.append ih)

/-- The records of the sinks are the same, and so are the sinks but for the header. -/
theorem build_masked (p : Plan) (x : Identity) (l : Lifecycle) :
    (build p.masked x l).masked = (build p x l).masked := by
  -- The other parts do not look at the connection, so only the autoscaler's has to be compared.
  have autoscaler : (p.masked.autoscaler.map fun c => buildOne l "autoscaler" (connect x c)).toList.map
      Built.masked = (p.autoscaler.map fun c => buildOne l "autoscaler" (connect x c)).toList.map
        Built.masked := by
    obtain ⟨autoscaler, exportUrl, tag, log, disabled⟩ := p
    cases autoscaler with
    | none => rfl
    | some c =>
      have same := congrArg (buildOne l "autoscaler") (connect_masked x c)
      rw [buildOne_masked, buildOne_masked] at same
      exact congrArg (· :: []) same
  rw [build, build, concat_masked, concat_masked]
  simp only [List.cons_append, List.map_cons, List.map_append, autoscaler]
  rfl

/-- What is built of endpoints that differ in the password differs in the header alone. -/
theorem build_plan_alike {r q : Resolved} (masked : r.masked = q.masked) (fs : FileSystem)
    (s : Settings) (x : Identity) (l : Lifecycle) :
    (build (plan fs r s) x l).masked = (build (plan fs q s) x l).masked := by
  calc (build (plan fs r s) x l).masked
      = (build (plan fs r.masked s) x l).masked := by rw [plan_masked, build_masked]
    _ = (build (plan fs q.masked s) x l).masked := by rw [masked]
    _ = (build (plan fs q s) x l).masked := by rw [plan_masked, build_masked]

end Policy
end Throughput
