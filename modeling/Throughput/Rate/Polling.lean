import Throughput.Counter
import Throughput.Rate.Sample
import Throughput.Rate.Window

/-! Reading a counter that the host keeps. The counter is looked for at each
measurement until it is found; its handle is then kept for good. The first
successful read is the baseline, and rates start with the second. -/
namespace Throughput.Rate

/-- How counters of a world `σ` are found and read. -/
structure Locator (σ Handle : Type) where
  locate : σ → Except String (Option Handle) × List Event
  read : σ → Handle → Except String UInt64

def Locator.registry (pattern : String) : Locator Counter.Registry Cell where
  locate r := let (found, log) := r.locate pattern; (.ok (found.map Prod.snd), log)
  read r cell := .ok (r.value cell)

structure Polling (Handle : Type) where
  handle : Option Handle
  baseline : Bool
  window : Window
  deriving Repr

namespace Polling

def name : String := "polling-counter"

variable {σ Handle : Type}

def new (now : Int64) : Polling Handle := ⟨none, false, .new now⟩

def located (s : Polling Handle) : Bool := s.handle.isSome

inductive Call where
  | locate | read
  deriving DecidableEq, Repr

structure Measurement (Handle : Type) where
  sample : Sample
  source : Polling Handle
  calls : List Call
  log : List Event

private def failure (e : String) : Event := .warn "Failed to read request counter" [("error", e)]

/-- One read through a handle. A failure leaves the baseline and the window alone. -/
def readHandle (locator : Locator σ Handle) (world : σ) (now : Int64) (handle : Handle)
    (s : Polling Handle) : Measurement Handle :=
  match locator.read world handle with
  | .error e => ⟨.unavailable, s, [.read], [failure e]⟩
  | .ok count =>
    let (reading, window) := s.window.sample count now
    if s.baseline then
      ⟨.available reading.rate, { s with window }, [.read],
        [.debug "Polled request counter"
          [("delta", toString reading.delta), ("elapsed_secs", toString reading.elapsed),
            ("rate", toString reading.rate)]]⟩
    else
      ⟨.unavailable, { s with window, baseline := true }, [.read],
        [.debug "Request counter baseline taken" [("count", toString count)]]⟩

def measure (locator : Locator σ Handle) (world : σ) (now : Int64) (s : Polling Handle) :
    Measurement Handle :=
  match s.handle with
  | some handle => readHandle locator world now handle s
  | none =>
    match locator.locate world with
    | (.error e, log) => ⟨.unavailable, s, [.locate], log ++ [failure e]⟩
    | (.ok none, log) =>
      ⟨.unavailable, s, [.locate], log ++ [.info "Request counter not registered yet"]⟩
    | (.ok (some handle), log) =>
      let m := readHandle locator world now handle { s with handle := some handle }
      { m with
        calls := .locate :: m.calls
        log := log ++ .info "Request counter located, caching handle" :: m.log }

end Polling
end Throughput.Rate
