/-! Labels beyond ASCII written in letters, digits and hyphens: the ASCII characters
first, then for each further character how far it lies from the one inserted before, as a
number in 36 digits whose least digit is first. -/
namespace Throughput.Url.Domain.Punycode

def digitChar (d : Nat) : Char := .ofNat (if d < 26 then 97 + d else 22 + d)

def digitValue? (c : Char) : Option Nat :=
  if '0' ≤ c && c ≤ '9' then some (c.toNat - 22)
  else if 'a' ≤ c && c ≤ 'z' then some (c.toNat - 97)
  else if 'A' ≤ c && c ≤ 'Z' then some (c.toNat - 65)
  else none

/-- Digits below this end a number; `k` is the place of the digit. -/
def threshold (bias k : Nat) : Nat := max 1 (min 26 (k - bias))

theorem threshold_bounds (bias k : Nat) : 1 ≤ threshold bias k ∧ threshold bias k ≤ 26 := by
  unfold threshold; omega

/-- Halves of a large step, counted in places. -/
def reduce (delta k : Nat) : Nat × Nat :=
  if 455 < delta then reduce (delta / 35) (k + 36) else (delta, k)
termination_by delta

/-- The bias after a step, for a text of `count` characters. -/
def adapt (delta count : Nat) (first : Bool) : Nat :=
  let start := if first then delta / 700 else delta / 2
  let (delta, k) := reduce (start + start / count) 0
  k + 36 * delta / (delta + 38)

def writeNumber (bias k n : Nat) : List Char :=
  let t := threshold bias k
  if n < t then [digitChar n]
  else digitChar (t + (n - t) % (36 - t)) :: writeNumber bias (k + 36) ((n - t) / (36 - t))
termination_by n
decreasing_by
  rename_i h
  have b := threshold_bounds bias k
  have := Nat.div_le_self (n - threshold bias k) (36 - threshold bias k)
  omega

/-- Where writing stands: characters written so far, the step since the last one, the
bias, and the digits. -/
structure Writing where
  handled : Nat
  delta : Nat
  bias : Nat
  text : List Char

/-- One pass over the label, which writes the character `code` wherever it occurs. -/
def writePass (basic code : Nat) (label : List Char) (w : Writing) : Writing :=
  label.foldl (fun w c =>
    if c.toNat < code then { w with delta := w.delta + 1 }
    else if c.toNat = code then
      { handled := w.handled + 1
        delta := 0
        bias := adapt w.delta (w.handled + 1) (w.handled == basic)
        text := w.text ++ writeNumber w.bias 36 w.delta }
    else w) w

def writeAll (basic : Nat) (label : List Char) (next : Nat) (w : Writing) : List Nat → Writing
  | [] => w
  | code :: rest =>
    let w := writePass basic code label
      { w with delta := w.delta + (code - next) * (w.handled + 1) }
    writeAll basic label (code + 1) { w with delta := w.delta + 1 } rest

def encode (label : List Char) : List Char :=
  let basic := label.filter (·.toNat < 128)
  let codes := (((label.map Char.toNat).filter (128 ≤ ·)).mergeSort (· ≤ ·)).eraseDups
  let w := writeAll basic.length label 128 ⟨basic.length, 0, 72, []⟩ codes
  basic ++ (if basic.isEmpty then [] else ['-']) ++ w.text

/-- A number from its place `k` on, added to `n` with a weight, and what follows it. -/
def readNumber (bias k weight n : Nat) (cs : List Char) :
    Option (Nat × { rest : List Char // rest.length < cs.length }) :=
  match cs with
  | [] => none
  | c :: cs =>
    match digitValue? c with
    | none => none
    | some d =>
      let t := threshold bias k
      if d < t then some (n + d * weight, ⟨cs, Nat.lt_succ_self _⟩)
      else
        (readNumber bias (k + 36) (weight * (36 - t)) (n + d * weight) cs).map
          fun (n, rest) => (n, ⟨rest.val, Nat.lt_succ_of_lt rest.property⟩)

/-- Inserts characters. The position and the code are one number, in steps of the length. -/
def insertAll (code position bias : Nat) (label : List Char) (cs : List Char) :
    Option (List Char) :=
  if cs.isEmpty then some label
  else
    match readNumber bias 36 1 position cs with
    | none => none
    | some (n, rest) =>
      let count := label.length + 1
      let code := code + n / count
      if code.isValidChar then
        insertAll code (n % count + 1) (adapt (n - position) count (position == 0))
          (label.insertIdx (n % count) (.ofNat code)) rest.val
      else none
termination_by cs.length
decreasing_by exact rest.property

/-- The last hyphen, unless it is the first character, ends the ASCII characters. -/
def decode (cs : List Char) : Option (List Char) :=
  let digits := (cs.reverse.takeWhile (· ≠ '-')).reverse
  let basic := cs.take (cs.length - digits.length - 1)
  if basic.isEmpty then insertAll 128 0 72 [] cs else insertAll 128 0 72 basic digits

end Throughput.Url.Domain.Punycode
