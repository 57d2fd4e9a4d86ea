import Throughput.Binary64

/-! The shortest decimal that reads back as a value: the fewest digits, of those the
nearest. -/
namespace Throughput

structure Decimal where
  digits : Nat
  exponent : Int
  deriving DecidableEq, Repr

/-- Which of two decimals equally near is taken. -/
inductive Tie where
  | even | up
  deriving DecidableEq, Repr

namespace Binary64

/-- The reals that round to a value, in quarters of the unit of its significand: ends
included iff the significand is even. Below a power of two the spacing halves. -/
structure Interval where
  low : Nat
  value : Nat
  high : Nat
  closed : Bool
  deriving DecidableEq, Repr

def interval (significand : Nat) (exponent : Int) : Interval where
  low := 4 * significand -
    if significand = significandBound / 2 && minExponent < exponent then 1 else 2
  value := 4 * significand
  high := 4 * significand + 2
  closed := significand % 2 == 0

def Interval.has (i : Interval) (n d : Nat) : Bool :=
  if i.closed then i.low * d ≤ n && n ≤ i.high * d else i.low * d < n && n < i.high * d

/-- The neighbour of the value on the grid of multiples of `n / d` that reads back. -/
def Interval.onGrid? (i : Interval) (tie : Tie) (n d : Nat) : Option Nat :=
  let below := i.value * d / n
  let candidates := [below, below + 1].filter fun k => k != 0 && i.has (k * n) d
  match candidates with
  | [a, b] =>
    let under := i.value * d - a * n
    let above := b * n - i.value * d
    if under < above then some a
    else if above < under then some b
    else if tie = .even && a % 2 = 0 then some a else some b
  | candidates => candidates.head?

/-- Tries the powers of ten downwards from `exponent`. -/
def search (i : Interval) (tie : Tie) (unit : Int) : Nat → Int → Decimal
  | 0, exponent => ⟨0, exponent⟩
  | fuel + 1, exponent =>
    let n := Nat.pow 10 exponent.toNat * Nat.pow 2 (-unit).toNat
    let d := Nat.pow 10 (-exponent).toNat * Nat.pow 2 unit.toNat
    match i.onGrid? tie n d with
    | some digits => ⟨digits, exponent⟩
    | none => search i tie unit fuel (exponent - 1)

/-- The shortest decimal for a positive value. Seventeen digits always suffice; the
search starts above the value. -/
def shortest (tie : Tie) (significand : Nat) (exponent : Int) : Decimal :=
  let bits := exponent + significand.log2 + 1
  search (interval significand exponent) tie (exponent - 2) 20 (bits * 30103 / 100000 + 1)

end Binary64
end Throughput
