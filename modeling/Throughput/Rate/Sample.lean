/-! One measurement of the request rate. -/
namespace Throughput.Rate

inductive Sample where
  | available (rate : UInt32)
  | unavailable
  deriving DecidableEq, Repr

namespace Sample

def rate? : Sample → Option UInt32
  | available rate => some rate
  | unavailable => none

def text : Sample → String
  | available rate => s!"{rate} rps"
  | unavailable => "unavailable"

end Sample
end Throughput.Rate
