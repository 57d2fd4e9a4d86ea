import Throughput.Destination
import Throughput.Discovery
import Throughput.Lifecycle

/-! Which sinks are active. Explicit settings come before discovered ones, and a sink that
cannot be built is left out without touching the others. -/
namespace Throughput.Policy

structure Overrides where
  basicUrl : Option String := none
  basicUsername : Option String := none
  basicPassword : Option String := none
  mtlsUrl : Option String := none
  mtlsCertificate : Option String := none
  mtlsKey : Option String := none
  mtlsDirectory : Option String := none
  deriving DecidableEq, Repr

namespace Overrides

/-- Address, user and password count only together. -/
def basic? (o : Overrides) : Option Endpoint :=
  match o.basicUrl, o.basicUsername, o.basicPassword with
  | some url, some username, some password => some (.basic url username password)
  | _, _, _ => none

/-- Certificate, key and directory count only together. -/
def paths? (o : Overrides) : Option Credential.Paths :=
  match o.mtlsCertificate, o.mtlsKey, o.mtlsDirectory with
  | some certificate, some key, some directory => some ⟨certificate, key, directory⟩
  | _, _, _ => none

end Overrides

inductive Origin where
  | basicOverride | mtlsOverride | discovered
  deriving DecidableEq, Repr

structure Resolved where
  endpoint : Endpoint
  paths : Credential.Paths
  origin : Origin
  deriving DecidableEq, Repr

def Resolved.authMode (r : Resolved) : AuthMode := r.endpoint.authMode

/-- Explicit basic authentication first, then explicit credential files, then what was
discovered. Credential files without an address of their own use the discovered one. -/
def resolve (discovered : Endpoint) (paths : Credential.Paths) (o : Overrides) : Resolved :=
  match o.basic?, o.paths? with
  | some endpoint, _ => ⟨endpoint, .none, .basicOverride⟩
  | none, some files => ⟨{ mtlsUrl := o.mtlsUrl.or discovered.mtlsUrl }, files, .mtlsOverride⟩
  | none, none => ⟨discovered, paths, .discovered⟩

/-- Settings of the sinks other than the autoscaler. -/
structure Settings where
  exportUrl : Option String := none
  environment : Option String := none
  log : Bool := false
  deriving DecidableEq, Repr

inductive Connection where
  | basic (url username password : String)
  | mtls (url : String) (material : Credential.Material)
  deriving DecidableEq, Repr

/-- All that an endpoint has for basic authentication. -/
def Connection.ofBasic : (e : Endpoint) → e.hasBasic = true → Connection
  | ⟨some url, some username, some password, _⟩, _ => .basic url username password

inductive Reason where
  | noAuthentication
  | incompleteCredential
  | noCollector
  | emptyCollector
  | collectorScheme (scheme : String)
  | collectorUrl (url : String) (cause : Url.Error)
  | logNotEnabled
  | tls (cause : Tls.Error)
  deriving DecidableEq

def Reason.message : Reason → String
  | noAuthentication => "no Basic auth or mTLS configuration"
  | incompleteCredential => "mTLS credential is incomplete"
  | noCollector => "no OTLP endpoint configured"
  | emptyCollector => "OTLP endpoint is empty"
  | collectorScheme scheme => "unsupported OTLP endpoint scheme '" ++ scheme ++ "'"
  | collectorUrl url cause => "invalid OTLP endpoint URL '" ++ url ++ "': " ++ cause.message
  | logNotEnabled => "log emitter not enabled"
  | tls cause => cause.message

structure Plan where
  autoscaler : Option Connection
  exportUrl : Option String
  environment : Option String
  log : Bool
  /-- The sinks left out, by name. -/
  disabled : List (String × Reason)
  deriving DecidableEq

def Plan.isEmpty (p : Plan) : Bool := p.autoscaler.isNone && p.exportUrl.isNone && !p.log

/-- The files of a credential are read only for an endpoint that needs them. -/
def planAutoscaler (fs : FileSystem) (r : Resolved) : Except Reason Connection :=
  match mode : r.authMode with
  | .basic => .ok (.ofBasic r.endpoint (Endpoint.hasBasic_of_authMode mode))
  | .mtls =>
    match Credential.load fs r.paths, r.endpoint.mtlsUrl with
    | some material, some url => .ok (.mtls url material)
    | _, _ => .error .incompleteCredential
  | .none => .error .noAuthentication

theorem planAutoscaler_of_basic {fs : FileSystem} {r : Resolved} (mode : r.authMode = .basic) :
    planAutoscaler fs r = .ok (.ofBasic r.endpoint (Endpoint.hasBasic_of_authMode mode)) := by
  unfold planAutoscaler
  split <;> first | rfl | cases mode.symm.trans ‹_›

theorem planAutoscaler_of_mtls {fs : FileSystem} {r : Resolved} (mode : r.authMode = .mtls) :
    planAutoscaler fs r = match Credential.load fs r.paths, r.endpoint.mtlsUrl with
      | some material, some url => .ok (.mtls url material)
      | _, _ => .error .incompleteCredential := by
  unfold planAutoscaler
  split <;> first | rfl | cases mode.symm.trans ‹_›

theorem planAutoscaler_of_none {fs : FileSystem} {r : Resolved} (mode : r.authMode = .none) :
    planAutoscaler fs r = .error .noAuthentication := by
  unfold planAutoscaler
  split <;> first | rfl | cases mode.symm.trans ‹_›

/-- A web address, without blanks around it. -/
def planExport (url : Option String) : Except Reason String :=
  match url.map Text.trim with
  | none => .error .noCollector
  | some raw =>
    if raw.isEmpty then .error .emptyCollector
    else
      match Url.parse raw with
      | .error e => .error (.collectorUrl raw e)
      | .ok u => if Http.isWeb u then .ok raw else .error (.collectorScheme u.scheme)

def refusal (sink : String) : Except Reason α → List (String × Reason)
  | .ok _ => []
  | .error reason => [(sink, reason)]

def plan (fs : FileSystem) (r : Resolved) (s : Settings) : Plan :=
  let autoscaler := planAutoscaler fs r
  let url := planExport s.exportUrl
  { autoscaler := autoscaler.toOption
    exportUrl := url.toOption
    environment := s.environment
    log := s.log
    disabled := refusal "autoscaler" autoscaler ++ refusal "otlp" url ++
      if s.log then [] else [("log-emitter", .logNotEnabled)] }

/-- The sink of a connection; a client certificate has to make a usable context. -/
def connect (x : Identity) : Connection → Except Reason Destination
  | .basic url username password => .ok (.basic url username password x)
  | .mtls url material =>
    match Tls.build material with
    | .ok context => .ok (.mtls url context x)
    | .error e => .error (.tls e)

structure Built where
  destinations : List Destination
  events : List Event
  deriving DecidableEq

def Built.names (b : Built) : List String := b.destinations.map Destination.name

def buildOne (l : Lifecycle) (sink : String) : Except Reason Destination → Built
  | .ok d => ⟨[d], [l.activated d.name d.url?]⟩
  | .error reason => ⟨[], [l.disabled sink reason.message]⟩

def Built.append (a b : Built) : Built :=
  ⟨a.destinations ++ b.destinations, a.events ++ b.events⟩

def Built.concat (l : List Built) : Built := l.foldr Built.append ⟨[], []⟩

/-- The planned sinks in their order, after the records of those left out. -/
def build (p : Plan) (x : Identity) (l : Lifecycle) : Built :=
  let left : Built := ⟨[], p.disabled.map fun (sink, reason) => l.disabled sink reason.message⟩
  let autoscaler := (p.autoscaler.map fun c => buildOne l "autoscaler" (connect x c)).toList
  let collector := (p.exportUrl.map fun url =>
    buildOne l "otlp" (.ok (.collector url x p.environment))).toList
  let log := if p.log then [buildOne l "log-emitter" (.ok .log)] else []
  .concat (left :: autoscaler ++ collector ++ log)

end Throughput.Policy
