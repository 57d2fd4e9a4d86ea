/-! Sets of characters as ranges of code points. A table spells its ranges as pairs of
hexadecimal numbers, a single code point as one number. -/
namespace Throughput.Text

/-- Ranges with both ends inside. -/
abbrev Ranges := List (Nat × Nat)

namespace Ranges

def hexValue (c : Char) : Nat :=
  if c.isDigit then c.toNat - 48 else c.toNat - 87

def hexNumber (digits : List Char) : Nat := digits.foldl (fun n c => n * 16 + hexValue c) 0

def entry (text : List Char) : Nat × Nat :=
  match text.splitOn '-' with
  | [low, high] => (hexNumber low, hexNumber high)
  | _ => (hexNumber text, hexNumber text)

def ofLines (lines : List String) : Ranges :=
  lines.flatMap fun line => (line.toList.splitOn ' ').map entry

def contains (r : Ranges) (c : Char) : Bool :=
  r.any fun (low, high) => low ≤ c.toNat && c.toNat ≤ high

end Ranges
end Throughput.Text
