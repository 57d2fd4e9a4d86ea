import Throughput.Text.Combining

/-! The composed form of text: taken apart, marks put in order, and put together again as
far as it goes. -/
namespace Throughput.Text

/-- Where the Korean syllables start, and how many of each part there are. -/
def firstSyllable : Nat := 0xac00
def firstLead : Nat := 0x1100
def firstVowel : Nat := 0x1161
def beforeTail : Nat := 0x11a7
def leads : Nat := 19
def vowels : Nat := 21
def tails : Nat := 28

def syllableParts? (n : Nat) : Option (List Nat) :=
  if firstSyllable ≤ n && n < firstSyllable + leads * vowels * tails then
    let i := n - firstSyllable
    let tail := if i % tails = 0 then [] else [beforeTail + i % tails]
    some ((firstLead + i / (vowels * tails)) :: (firstVowel + i / tails % vowels) :: tail)
  else none

def syllable? (a b : Nat) : Option Nat :=
  if firstLead ≤ a && a < firstLead + leads && firstVowel ≤ b && b < firstVowel + vowels then
    some (firstSyllable + ((a - firstLead) * vowels + (b - firstVowel)) * tails)
  else if firstSyllable ≤ a && a < firstSyllable + leads * vowels * tails &&
      (a - firstSyllable) % tails == 0 && beforeTail < b && b < beforeTail + tails then
    some (a + (b - beforeTail))
  else none

/-- A character taken apart. The first part of a pair lies before the whole. -/
def decomposeCode (n : Nat) : List Nat :=
  match syllableParts? n with
  | some parts => parts
  | none =>
    match (composites.find? (.ofNat n)).map Run.value with
    | some [a, b] => if a < n then decomposeCode a ++ [b] else [n]
    | _ => [n]

def decompose (cs : List Char) : List Char :=
  cs.flatMap fun c => (decomposeCode c.toNat).map .ofNat

/-- Puts a mark in front of those that follow it, but after those of lower classes. -/
def insertMark (c : Char) : List Char → List Char
  | [] => [c]
  | d :: rest =>
    if !isStarter d && combiningClass d < combiningClass c then d :: insertMark c rest
    else c :: d :: rest

/-- Marks after the character they belong to, by class; those of one class keep their order. -/
def reorder (cs : List Char) : List Char :=
  cs.foldr (fun c rest => if isStarter c then c :: rest else insertMark c rest) []

def pair? (a b : Char) : Option Char :=
  match syllable? a.toNat b.toNat with
  | some n => some (.ofNat n)
  | none =>
    (List.find? (fun r => r.value == [a.toNat, b.toNat]) composites).map fun r => .ofNat r.first

/-- Puts what follows a character together with it. Marks in between, the last one first,
hold back those of the same class and of lower ones. -/
def composeAfter (c : Char) (between : List Char) : List Char → List Char
  | [] => c :: between.reverse
  | d :: rest =>
    let free := match between with
      | [] => true
      | last :: _ => decide (combiningClass last < combiningClass d)
    match if free then pair? c d else none with
    | some both => composeAfter both between rest
    | none =>
      if isStarter d then c :: between.reverse ++ composeAfter d [] rest
      else composeAfter c (d :: between) rest

def composeOrdered (cs : List Char) : List Char :=
  cs.takeWhile (!isStarter ·) ++
    match cs.dropWhile (!isStarter ·) with
    | [] => []
    | c :: rest => composeAfter c [] rest

def compose (cs : List Char) : List Char := composeOrdered (reorder (decompose cs))

end Throughput.Text
