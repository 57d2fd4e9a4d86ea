import Throughput.Text.Ranges

/-! What belongs to characters, in runs of code points. A table spells a run as
`first-last/step:value`, with hexadecimal numbers; a single code point has no last one, a
step of one is left out, and a value may be several numbers joined by plus signs. -/
namespace Throughput.Text

/-- Every `step`-th code point from `first` to `last`. -/
structure Run where
  first : Nat
  last : Nat
  step : Nat
  value : List Nat
  deriving DecidableEq, Repr

namespace Run

def contains (r : Run) (n : Nat) : Bool :=
  r.first ≤ n && n ≤ r.last && (n - r.first) % r.step == 0

/-- The value of a code point where a single one moves along with the run. -/
def shifted (r : Run) (n : Nat) : List Nat :=
  match r.value with
  | [v] => [v + (n - r.first)]
  | v => v

def ofText (first : List Char) (value : List Char) : Run :=
  let (range, step) := match first.splitOn '/' with
    | [range, step] => (range, Ranges.hexNumber step)
    | _ => (first, 1)
  let (low, high) := Ranges.entry range
  ⟨low, high, step, (value.splitOn '+').map Ranges.hexNumber⟩

end Run

abbrev Runs := List Run

namespace Runs

def ofLines (lines : List String) : Runs :=
  lines.flatMap fun line => (line.toList.splitOn ' ').filterMap fun entry =>
    match entry.splitOn ':' with
    | [first, value] => some (.ofText first value)
    | _ => none

def find? (r : Runs) (c : Char) : Option Run := List.find? (·.contains c.toNat) r

end Runs
end Throughput.Text
