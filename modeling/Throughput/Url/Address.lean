import Throughput.Url.Percent

/-! Numeric addresses of hosts. -/
namespace Throughput.Url

def digitsOf? (base : Nat) (cs : List Char) : Option Nat :=
  cs.foldl (fun n c => match n, hexValue? c with
    | some n, some d => if d < base then some (n * base + d) else none
    | _, _ => none) (some 0)

/-- A part of a dotted address: hexadecimal after `0x`, octal after another leading zero. -/
def addressPart? (cs : List Char) : Option Nat :=
  match cs with
  | [] => none
  | '0' :: 'x' :: digits => digitsOf? 16 digits
  | '0' :: 'X' :: digits => digitsOf? 16 digits
  | '0' :: d :: digits => digitsOf? 8 (d :: digits)
  | digits => digitsOf? 10 digits

/-- The parts between dots; one dot at the end does not count. -/
def dotParts (cs : List Char) : List (List Char) :=
  let parts := cs.splitOn '.'
  if 1 < parts.length && parts.getLast? = some [] then parts.dropLast else parts

/-- A host whose last part is a number must be an address. -/
def endsInNumber (cs : List Char) : Bool :=
  match (dotParts cs).getLast? with
  | none => false
  | some last => (!last.isEmpty && last.all Char.isDigit) || (addressPart? last).isSome

/-- The last part fills the bytes that the parts before it leave. -/
def joinParts : List Nat → Option Nat
  | [] => none
  | parts@(_ :: _) =>
    let last := parts.getLast?.getD 0
    let before := parts.dropLast
    if 3 < before.length || before.any (255 < ·) || Nat.pow 256 (4 - before.length) ≤ last then none
    else some (before.foldl (fun n p => n * 256 + p) 0 * Nat.pow 256 (4 - before.length) + last)

def parseIpv4 (cs : List Char) : Option Nat := ((dotParts cs).mapM addressPart?).bind joinParts

def renderIpv4 (n : Nat) : List Char :=
  (".".intercalate ([n / 0x1000000 % 256, n / 0x10000 % 256, n / 256 % 256, n % 256].map toString)).toList

def group? (cs : List Char) : Option Nat :=
  if cs.isEmpty || 4 < cs.length then none else digitsOf? 16 cs

def decimalByte? (cs : List Char) : Option Nat :=
  if cs.isEmpty || 3 < cs.length || (1 < cs.length && cs.head? = some '0') then none
  else (digitsOf? 10 cs).filter (· < 256)

def dottedGroups? (cs : List Char) : Option (List Nat) :=
  match (cs.splitOn '.').mapM decimalByte? with
  | some [a, b, c, d] => some [a * 256 + b, c * 256 + d]
  | _ => none

/-- Groups between colons. The last may be dotted where the address ends. -/
def groups? (atEnd : Bool) (cs : List Char) : Option (List Nat) :=
  if cs.isEmpty then some []
  else
    let parts := cs.splitOn ':'
    match parts.getLast? with
    | none => none
    | some last =>
      if atEnd && last.contains '.' then
        match parts.dropLast.mapM group?, dottedGroups? last with
        | some groups, some dotted => some (groups ++ dotted)
        | _, _ => none
      else parts.mapM group?

def splitGap : List Char → Option (List Char × List Char)
  | ':' :: ':' :: rest => some ([], rest)
  | c :: rest => (splitGap rest).map fun (before, after) => (c :: before, after)
  | [] => none

/-- Eight groups; a double colon stands for at least one group of zero. -/
def parseIpv6 (cs : List Char) : Option (List Nat) :=
  match splitGap cs with
  | none => (groups? true cs).filter (·.length = 8)
  | some (before, after) =>
    match groups? false before, groups? true after with
    | some left, some right =>
      if left.length + right.length < 8 then
        some (left ++ List.replicate (8 - left.length - right.length) 0 ++ right)
      else none
    | _, _ => none

def zeroRun (groups : List Nat) : Nat := (groups.takeWhile (· = 0)).length

def longestRun (groups : List Nat) : Nat × Nat :=
  (List.range groups.length).foldl
    (fun (start, length) i =>
      let run := zeroRun (groups.drop i)
      if length < run then (i, run) else (start, length)) (0, 0)

def colonGroups (groups : List Nat) : List Char :=
  (":".intercalate (groups.map fun g => String.ofList (Nat.toDigits 16 g))).toList

/-- In brackets; the first longest run of two or more zeros is left out. -/
def renderIpv6 (groups : List Nat) : List Char :=
  let (start, length) := longestRun groups
  let inside :=
    if length < 2 then colonGroups groups
    else colonGroups (groups.take start) ++ [':', ':'] ++ colonGroups (groups.drop (start + length))
  '[' :: inside ++ [']']

end Throughput.Url
