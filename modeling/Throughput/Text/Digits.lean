/-! Whole numbers in decimal digits. -/
namespace Throughput.Text

def isDigit (c : Char) : Bool := '0' ≤ c && c ≤ '9'

def digitValue (c : Char) : Nat := c.toNat - 48

/-- The number that digits spell; leading zeros count for nothing. -/
def ofDigits (digits : List Char) : Nat := digits.foldl (fun n c => n * 10 + digitValue c) 0

def natural? (digits : List Char) : Option Nat :=
  if digits.isEmpty || !digits.all isDigit then none else some (ofDigits digits)

def below? (bound : Nat) (cs : List Char) : Option Nat :=
  let digits := match cs with
    | '+' :: digits => digits
    | digits => digits
  (natural? digits).filter (· < bound)

/-- Whether a minus leads, and what follows an optional sign. -/
def splitSign : List Char → Bool × List Char
  | '-' :: rest => (true, rest)
  | '+' :: rest => (false, rest)
  | cs => (false, cs)

def int64? (cs : List Char) : Option Int64 :=
  let (negative, digits) := splitSign cs
  match natural? digits with
  | none => none
  | some n =>
    if negative then if n ≤ 0x8000000000000000 then some (.ofInt (-n)) else none
    else if n < 0x8000000000000000 then some (.ofInt n) else none

end Throughput.Text
