import Throughput.Destination
import Throughput.Proofs.Base64
import Throughput.Proofs.Json.Printed
import Throughput.Proofs.Requests

/-! Requests carry exactly the sample: what a server reads from a body is what was measured,
and what it reads from the header is who posts. -/
namespace Throughput

namespace Payload

open Json (Value)

section

variable (instanceIndex : UInt32) (metric : String) (value : UInt32) (time : UInt64)
  (attributes : List (String × String))

end

section

variable {i j : UInt32} {m n : String} {v w : UInt32} {t u : UInt64}
  {a b : List (String × String)} {p q : Binary64}

end

end Payload

namespace Destination

open Json (Value)

variable {σ : Type}

/-- The requests that reach the servers while a sample is sent. -/
def requests (d : Destination) (w : Http.World σ) (state : σ) (metric : String) (value : UInt32) :
    List Http.Request :=
  (d.send w.recorded (state, []) metric value).1.state.2

section

variable {d : Destination} {w : Http.World σ} {state : σ} {metric address body : String}
  {value : UInt32}

end

end Destination
end Throughput
