import Throughput.Json.Rest
import Throughput.Json.Value
import Throughput.Text.Digits

/-! JSON numbers: their spelling, and the value of a spelling. -/
namespace Throughput.Json

open Text (isDigit digitValue ofDigits)

structure Numeral where
  negative : Bool
  whole : List Char
  fraction : Option (List Char)
  /-- Whether the exponent is negative, and its digits. -/
  exponent : Option (Bool × List Char)
  deriving DecidableEq, Repr

theorem dropDigits_length (s : List Char) : (s.dropWhile isDigit).length ≤ s.length := by
  induction s with
  | nil => simp
  | cons c rest ih =>
    rw [List.dropWhile_cons]
    split
    · exact Nat.le_succ_of_le ih
    · exact Nat.le_refl _

/-- One digit and those that follow it. The error at the end of the text is given. -/
def readDigits (atEnd : Error) (s : List Char) : Taken (List Char) s :=
  match s with
  | [] => .error atEnd
  | c :: rest =>
    if isDigit c then
      .ok (c :: rest.takeWhile isDigit, ⟨rest.dropWhile isDigit,
        Nat.lt_succ_of_le (dropDigits_length rest)⟩)
    else .error .invalidNumber

/-- The digits before the point: no zero leads others. -/
def readWhole (atEnd : Error) (s : List Char) : Taken (List Char) s :=
  match s with
  | '0' :: c :: rest => if isDigit c then .error .invalidNumber else .ok (['0'], .tail '0' (c :: rest))
  | s => readDigits atEnd s

def readFraction (atEnd : Error) {s : List Char} (r : Rest s) : Taken (Option (List Char)) s :=
  match h : r.val with
  | '.' :: rest =>
    match readDigits atEnd rest with
    | .ok (digits, last) => .ok (some digits, ⟨last.val, by
        have := r.property; have := last.property; have hl := congrArg List.length h
        simp only [List.length_cons] at hl; omega⟩)
    | .error e => .error e
  | _ => .ok (none, r)

def readSign (s : List Char) : Bool × List Char :=
  match s with
  | '+' :: rest => (false, rest)
  | '-' :: rest => (true, rest)
  | s => (false, s)

theorem readSign_length (s : List Char) : (readSign s).2.length ≤ s.length := by
  unfold readSign; split <;> simp

def readExponent (atEnd : Error) {s : List Char} (r : Rest s) :
    Taken (Option (Bool × List Char)) s :=
  match h : r.val with
  | c :: rest =>
    if c = 'e' || c = 'E' then
      match readDigits atEnd (readSign rest).2 with
      | .ok (digits, last) => .ok (some ((readSign rest).1, digits), ⟨last.val, by
          have := r.property; have := last.property; have := readSign_length rest
          have hl := congrArg List.length h
          simp only [List.length_cons] at hl; omega⟩)
      | .error e => .error e
    else .ok (none, r)
  | [] => .ok (none, r)

def readUnsigned (atEnd : Error) (negative : Bool) (s : List Char) : Taken Numeral s :=
  match readWhole atEnd s with
  | .error e => .error e
  | .ok (whole, r) =>
    match readFraction atEnd r with
    | .error e => .error e
    | .ok (fraction, r) =>
      match readExponent atEnd r with
      | .error e => .error e
      | .ok (exponent, r) => .ok (⟨negative, whole, fraction, exponent⟩, r)

def readNumeral (atEnd : Error) (s : List Char) : Taken Numeral s :=
  match s with
  | '-' :: rest => (readUnsigned atEnd true rest).outside (.tail '-' rest)
  | s => readUnsigned atEnd false s

/-- Digits appended to a number while it fits 64 bits, and how many were left out. -/
def accumulate (n : Nat) : List Char → Nat × Nat
  | [] => (n, 0)
  | c :: rest =>
    if n * 10 + digitValue c < UInt64.size then accumulate (n * 10 + digitValue c) rest
    else (n, rest.length + 1)

def powerOfTen (n : Nat) : Binary64 := .ofRatio false (Nat.pow 10 n) 1

/-- A value times a power of ten by one rounded operation, or by several that divide by
10^308 while the power is less than that; `none` beyond the greatest value. -/
def scaleTen (x : Binary64) (exponent : Int) : Option Binary64 :=
  if 308 < exponent then if x.isZero then some x else none
  else if 0 ≤ exponent then
    let y := x.mulMagnitude (powerOfTen exponent.toNat)
    if y.isInfinite then none else some y
  else if exponent < -308 then
    if x.isZero then some x else scaleTen (x.divMagnitude (powerOfTen 308)) (exponent + 308)
  else some (x.divMagnitude (powerOfTen (-exponent).toNat))
termination_by exponent.natAbs
decreasing_by omega

def Numeral.power (n : Numeral) : Int :=
  match n.exponent with
  | none => 0
  | some (negative, digits) =>
    let value := ofDigits digits
    if negative then -(value : Int) else value

/-- A whole number within 64 bits is kept; everything else is the float of its leading
digits, scaled. -/
def Numeral.value (n : Numeral) : Except Error Number :=
  let (whole, left) := accumulate 0 n.whole
  if left = 0 && n.fraction.isNone && n.exponent.isNone then
    if !n.negative then .ok (.integer whole)
    else if whole = 0 || 0x8000000000000000 < whole then .ok (.float ((Binary64.ofNat whole).withSign true))
    else .ok (.integer (-whole))
  else
    let digits := n.fraction.getD []
    let (significand, dropped) := accumulate whole digits
    match scaleTen (.ofNat significand) (left - (digits.length - dropped : Nat) + n.power) with
    | some x => .ok (.float (x.withSign n.negative))
    | none => .error .numberOutOfRange

def readNumber (s : List Char) : Taken Number s :=
  match readNumeral .endOfValue s with
  | .error e => .error e
  | .ok (n, r) =>
    match n.value with
    | .ok value => .ok (value, r)
    | .error e => .error e

end Throughput.Json
