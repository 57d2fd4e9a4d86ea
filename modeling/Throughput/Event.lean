/-! Log records: a level, a message and named text fields. Sources, sinks and the
agent return the records they make; nothing here decides where they are shown. -/
namespace Throughput

inductive Level where
  | trace | debug | info | warn | error
  deriving DecidableEq, Repr, Inhabited

namespace Level

/-- How severe a level is; a filter set to `l` shows every level at least as severe. -/
def severity : Level → Nat
  | trace => 0
  | debug => 1
  | info => 2
  | warn => 3
  | error => 4

def label : Level → String
  | trace => "TRACE"
  | debug => "DEBUG"
  | info => "INFO"
  | warn => "WARN"
  | error => "ERROR"

end Level

structure Event where
  level : Level
  message : String
  fields : List (String × String) := []
  deriving DecidableEq, Repr

namespace Event

def debug (message : String) (fields : List (String × String) := []) : Event :=
  ⟨.debug, message, fields⟩

def info (message : String) (fields : List (String × String) := []) : Event :=
  ⟨.info, message, fields⟩

def warn (message : String) (fields : List (String × String) := []) : Event :=
  ⟨.warn, message, fields⟩

def error (message : String) (fields : List (String × String) := []) : Event :=
  ⟨.error, message, fields⟩

def field? (e : Event) (name : String) : Option String := e.fields.lookup name

/-- Lifecycle records name themselves in the field `event`. -/
def isLifecycle (e : Event) : Bool := (e.field? "event").isSome

end Event
end Throughput
