import Throughput.Http
import Throughput.Sink
import Throughput.Payload
import Throughput.Tls

/-! The three destinations of samples. -/
namespace Throughput

/-- How the autoscaler is told who posts: by a header, or by the connection. -/
inductive Authentication where
  | basic (authorization : String)
  | mtls (context : Tls.Context)
  deriving DecidableEq, Repr

inductive Destination where
  | autoscaler (url : String) (instanceIndex : UInt32) (authentication : Authentication)
  | otlp (url : String) (attributes : List (String × String))
  | log
  deriving DecidableEq, Repr

namespace Destination

def name : Destination → String
  | autoscaler .. => "autoscaler"
  | otlp .. => "otlp"
  | log => "log-emitter"

def url? : Destination → Option String
  | autoscaler url _ _ => some url
  | otlp url _ => some url
  | log => none

/-- The header that it adds to its requests, if there is one. -/
def authorization? : Destination → Option String
  | autoscaler _ _ (.basic authorization) => some authorization
  | _ => none

def usesBasicAuth (d : Destination) : Bool := d.authorization?.isSome

def dropTrailingSlashes (s : String) : String :=
  .ofList ((s.toList.reverse.dropWhile (· = '/')).reverse)

def metricsUrl (base applicationId : String) : String :=
  dropTrailingSlashes base ++ "/v1/apps/" ++ applicationId ++ "/metrics"

def basic (base username password : String) (x : Identity) : Destination :=
  autoscaler (metricsUrl base x.applicationId) x.instanceIndex
    (.basic (Http.basicAuthorization username password))

def mtls (base : String) (context : Tls.Context) (x : Identity) : Destination :=
  autoscaler (metricsUrl base x.applicationId) x.instanceIndex (.mtls context)

def collector (url : String) (x : Identity) (environment : Option String) : Destination :=
  otlp url (Payload.attributes x environment)

def body? (d : Destination) (metric : String) (value : UInt32) (time : UInt64) : Option String :=
  match d with
  | autoscaler _ index _ => some (Payload.autoscaler index metric value).render
  | otlp _ attributes => some (Payload.gauge attributes metric value time).render
  | log => none

def sampleEvent (metric : String) (value : UInt32) : Event :=
  .info "Metric sample" [("metric", metric), ("value", toString value.toNat)]

/-- Sends one sample. A destination with an address posts, the log writes a record. -/
def send (d : Destination) (w : Http.World σ) (state : σ) (metric : String) (value : UInt32) :
    Http.Posted σ × List Event :=
  match d.url?, d.body? metric value (w.now state) with
  | some url, some body => (Http.post w state url d.authorization? body, [])
  | _, _ => (⟨.ok (), 0, state⟩, [sampleEvent metric value])

def sink (d : Destination) (w : Http.World σ) : Sink σ where
  name := d.name
  emit state metric value :=
    let (posted, events) := d.send w state metric value
    { delivery := match posted.result with
        | .ok () => .delivered
        | .error e => .failed e.message
      milliseconds := posted.milliseconds
      events := events
      state := posted.state }

end Destination
end Throughput
