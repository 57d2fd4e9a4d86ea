import Throughput.Event
import Throughput.Text.Quoted

/-! Log records of what an agent does, from its start to its end. -/
namespace Throughput

/-- The application in whose name records are written. -/
structure Lifecycle where
  application : String
  instanceIndex : UInt32
  deriving DecidableEq, Repr

namespace Lifecycle

/-- Fields of every record, and those that name the instance too. -/
def named (l : Lifecycle) (event : String) : List (String × String) :=
  [("event", event), ("application", l.application)]

def instanced (l : Lifecycle) (event : String) : List (String × String) :=
  l.named event ++ [("instance_index", toString l.instanceIndex.toNat)]

def started (l : Lifecycle) (version authMode : String) (sinks : List String) : Event :=
  .info "Metrics agent started" (l.instanced "agent_started" ++
    [("agent_version", version), ("auth_mode", authMode), ("sinks", Text.quoteList sinks)])

def idle (l : Lifecycle) (reason : String) : Event :=
  .info "Metrics agent idle, nothing will be reported"
    (l.instanced "agent_idle" ++ [("reason", reason)])

/-- A sink without an address has a dash for its target. -/
def activated (l : Lifecycle) (sink : String) (target : Option String) : Event :=
  .info "Sink activated"
    (l.named "sink_activated" ++ [("sink", sink), ("target", target.getD "-")])

def disabled (l : Lifecycle) (sink reason : String) : Event :=
  .warn "Sink disabled" (l.named "sink_disabled" ++ [("sink", sink), ("reason", reason)])

def shutdown (l : Lifecycle) (reason : String) : Event :=
  .info "Metrics agent shutting down" (l.instanced "agent_shutdown" ++ [("reason", reason)])

end Lifecycle
end Throughput
