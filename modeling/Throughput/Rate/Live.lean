import Throughput.Event
import Throughput.Rate.Sample
import Throughput.Rate.Window

/-! Counting each request as it happens. The rate is computed when a window longer
than a second is measured and kept until the next one closes. A host hook delivers
the requests: it is registered once, and handlers already active are retrofitted
at most once. -/
namespace Throughput.Rate

/-- A window must be open for more than this many milliseconds before it closes. -/
def Live.minimumWindow : Int64 := 1000

structure Live where
  window : Window
  /-- Rate of the window closed last. -/
  rate : UInt32
  registered : Bool
  retrofitted : Bool
  deriving DecidableEq, Repr

/-- How the host answers one installation: whether it takes the callback, and what
its retrofit pass does if it has one. -/
structure Hook where
  registration : Except String Unit
  retrofit : Option (Except String Nat)

namespace Live

def name : String := "live-count"

def new (now : Int64) : Live := ⟨.new now, 0, false, false⟩

def count (s : Live) : Live := { s with window := s.window.record }

inductive Call where
  | register | retrofit
  deriving DecidableEq, Repr

structure Installation where
  source : Live
  calls : List Call
  log : List Event

/-- The retrofit pass, for a source whose callback is registered. -/
def retrofit (hook : Hook) (s : Live) : Installation :=
  match hook.retrofit with
  | none => ⟨s, [], [.info "Retrofitting active request handlers not supported"]⟩
  | some outcome =>
    if s.retrofitted then ⟨s, [], [.debug "Retrofit pass already executed, skipping"]⟩
    else
      let record := match outcome with
        | .ok sites =>
          .info "Retrofitted active request handlers" [("call_sites", toString sites)]
        | .error e => .warn "Failed to retrofit active request handlers" [("error", e)]
      ⟨{ s with retrofitted := true }, [.retrofit], [record]⟩

/-- Registers the callback unless an earlier call did, then retrofits. A failed
registration changes nothing and may be tried again. -/
def install (hook : Hook) (s : Live) : Installation :=
  if s.registered then
    let next := retrofit hook s
    ⟨next.source, next.calls,
      .debug "Request counting hook already registered, skipping" :: next.log⟩
  else
    match hook.registration with
    | .error e =>
      ⟨s, [.register], [.warn "Failed to register request counting hook" [("error", e)]]⟩
    | .ok () =>
      let next := retrofit hook { s with registered := true }
      ⟨next.source, .register :: next.calls,
        .info "Request counting hook registered" :: next.log⟩

/-- Closes the window if it has been open long enough; the rate is always known. -/
def measure (now : Int64) (s : Live) : Sample × Live × List Event :=
  if s.window.opened < now - minimumWindow then
    let (reading, window) := s.window.sampleEvents now
    (.available reading.rate, { s with window, rate := reading.rate },
      [.debug "Live request count window closed"
        [("requests", toString reading.delta), ("elapsed_secs", toString reading.elapsed),
          ("rate", toString reading.rate)]])
  else (.available s.rate, s, [])

end Live
end Throughput.Rate
