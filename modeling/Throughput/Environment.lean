/-! Named text settings. -/
namespace Throughput

abbrev Environment := String → Option String

namespace Environment

def empty : Environment := fun _ => none

/-- A variable that is set to no text counts as not set. -/
def hideEmpty (env : Environment) : Environment := fun name => (env name).filter (· ≠ "")

def ofList (vars : List (String × String)) : Environment :=
  fun name => List.lookup name vars

end Environment
end Throughput
