import Throughput.Event

/-! Named request counters. A cell outlives its name: whoever holds it keeps reading
it after the name is removed, and a name registered again gets a new cell at zero.
Names are kept in increasing order. -/
namespace Throughput

structure Cell where
  index : Nat
  deriving DecidableEq, Repr

namespace Counter

/-- A trailing `*` matches any ending; every other character stands for itself. -/
def matchesPattern (pattern name : List Char) : Bool :=
  if pattern.getLast? = some '*' then pattern.dropLast.isPrefixOf name else pattern == name

structure Registry where
  /-- Registered names and their cells. -/
  names : List (String × Cell)
  /-- The value of every cell ever made. -/
  values : List UInt64
  deriving DecidableEq, Repr

namespace Registry

def empty : Registry := ⟨[], []⟩

def get? (r : Registry) (name : String) : Option Cell := r.names.lookup name

def value (r : Registry) (cell : Cell) : UInt64 := r.values.getD cell.index 0

def size (r : Registry) : Nat := r.names.length

def isEmpty (r : Registry) : Bool := r.names.isEmpty

def insertName (name : String) (cell : Cell) : List (String × Cell) → List (String × Cell)
  | [] => [(name, cell)]
  | entry :: rest =>
    if name < entry.1 then (name, cell) :: entry :: rest
    else entry :: insertName name cell rest

/-- The cell of a name, new and at zero if the name is not registered. -/
def register (r : Registry) (name : String) : Cell × Registry :=
  match r.get? name with
  | some cell => (cell, r)
  | none =>
    let cell : Cell := ⟨r.values.length⟩
    (cell, ⟨insertName name cell r.names, r.values ++ [0]⟩)

/-- Removes a name and returns its cell, whose value stays readable. -/
def unregister (r : Registry) (name : String) : Option Cell × Registry :=
  (r.get? name, { r with names := r.names.filter fun entry => entry.1 ≠ name })

def store (r : Registry) (cell : Cell) (value : UInt64) : Registry :=
  { r with values := r.values.set cell.index value }

/-- Adding wraps at 64 bits. -/
def add (r : Registry) (cell : Cell) (amount : UInt64) : Registry :=
  r.store cell (r.value cell + amount)

/-- The registered names that match, in increasing order. -/
def find (r : Registry) (pattern : String) : List String :=
  (r.names.map Prod.fst).filter fun name => matchesPattern pattern.toList name.toList

/-- The first match and its cell; more than one match is worth a warning. -/
def locate (r : Registry) (pattern : String) : Option (String × Cell) × List Event :=
  match r.find pattern with
  | [] => (none, [])
  | first :: rest =>
    let log := if rest.isEmpty then [] else
      [.warn "Multiple counters match, using only the first"
        [("pattern", pattern), ("matches", toString (rest.length + 1)), ("using", first)]]
    ((r.get? first).map (first, ·), log)

end Registry
end Counter
end Throughput
