import Throughput.Bytes

/-! Base64 over the standard alphabet. The strict reader wants canonical padding,
the lenient one takes any amount of it. Unused bits must be zero for both. -/
namespace Throughput.Base64

def padByte : UInt8 := 61

def sextet? (b : UInt8) : Option Nat :=
  if 65 ≤ b ∧ b ≤ 90 then some (b.toNat - 65)
  else if 97 ≤ b ∧ b ≤ 122 then some (b.toNat - 71)
  else if 48 ≤ b ∧ b ≤ 57 then some (b.toNat + 4)
  else if b = 43 then some 62
  else if b = 47 then some 63
  else none

def symbol (n : Nat) : UInt8 :=
  if n < 26 then .ofNat (n + 65)
  else if n < 52 then .ofNat (n + 71)
  else if n < 62 then .ofNat (n - 4)
  else if n = 62 then 43
  else 47

theorem sextet?_symbol {n : Nat} (h : n < 64) : sextet? (symbol n) = some n := by
  have : ∀ n : Fin 64, sextet? (symbol n.val) = some n.val := by decide
  exact this ⟨n, h⟩

def encodeBytes : Bytes → Bytes
  | [] => []
  | [a] =>
    let a := a.toNat
    [symbol (a / 4), symbol (a % 4 * 16), padByte, padByte]
  | [a, b] =>
    let (a, b) := (a.toNat, b.toNat)
    [symbol (a / 4), symbol (a % 4 * 16 + b / 16), symbol (b % 16 * 4), padByte]
  | a :: b :: c :: rest =>
    let (x, y, z) := (a.toNat, b.toNat, c.toNat)
    symbol (x / 4) :: symbol (x % 4 * 16 + y / 16) :: symbol (y % 16 * 4 + z / 64) ::
      symbol (z % 64) :: encodeBytes rest

def encode (bytes : Bytes) : String :=
  .ofList ((encodeBytes bytes).map fun b => Char.ofNat b.toNat)

inductive Error where
  /-- A byte that may not stand at an offset. -/
  | symbol (byte : UInt8) (offset : Nat)
  /-- A single symbol in the last group. -/
  | length (count : Nat)
  | padding
  /-- Too few bits for another byte, by length alone. -/
  | remainder
  /-- A last symbol with unused bits set. -/
  | trailingBits (byte : UInt8) (offset : Nat)
  deriving DecidableEq, Repr

namespace Error

def strictMessage : Error → String
  | symbol byte offset => s!"Invalid symbol {byte}, offset {offset}."
  | length count => s!"Invalid input length: {count}"
  | padding => "Invalid padding"
  | remainder => "Invalid input length"
  | trailingBits byte offset => s!"Invalid last symbol {byte}, offset {offset}."

def lenientMessage : Error → String
  | symbol byte offset => s!"Invalid byte {byte}, offset {offset}."
  | length _ | remainder => "Encoded text cannot have a 6-bit remainder."
  | padding => "Invalid padding"
  | trailingBits byte offset => s!"Invalid last symbol {byte}, offset {offset}."

end Error

/-- The sextets and the number of pad bytes after them. Padding ends the text and
stays in the group of four that it begins in, after at least two symbols. -/
def scan (offset : Nat) : Bytes → Except Error (List Nat × Nat)
  | [] => .ok ([], 0)
  | b :: rest =>
    match sextet? b with
    | some v =>
      match scan (offset + 1) rest with
      | .ok (vs, padding) => .ok (v :: vs, padding)
      | .error e => .error e
    | none =>
      if b = padByte ∧ 2 ≤ offset % 4 ∧ offset % 4 + rest.length < 4 ∧ rest.all (· == padByte)
      then .ok ([], rest.length + 1)
      else .error (.symbol b offset)

/-- Four sextets make three bytes; the last group may be shorter. -/
def joinSextets : List Nat → Bytes
  | a :: b :: c :: d :: rest =>
    .ofNat (a * 4 + b / 16) :: .ofNat (b % 16 * 16 + c / 4) :: .ofNat (c % 4 * 64 + d) ::
      joinSextets rest
  | [a, b, c] => [.ofNat (a * 4 + b / 16), .ofNat (b % 16 * 16 + c / 4)]
  | [a, b] => [.ofNat (a * 4 + b / 16)]
  | _ => []

/-- The bits of the last symbol that belong to no byte. -/
def unusedBits (vs : List Nat) : Nat :=
  match vs.length % 4, vs.getLast? with
  | 2, some v => v % 16
  | 3, some v => v % 4
  | _, _ => 0

def finish (vs : List Nat) : Except Error Bytes :=
  if unusedBits vs = 0 then .ok (joinSextets vs)
  else .error (.trailingBits (symbol (vs.getLast?.getD 0)) (vs.length - 1))

/-- A last byte that cannot belong to the text, when one byte is too many. -/
def strayLast? (bytes : Bytes) : Option UInt8 :=
  if bytes.length % 4 = 1 then
    bytes.getLast?.filter fun b => b ≠ padByte && (sextet? b).isNone
  else none

def decodeStrict (bytes : Bytes) : Except Error Bytes :=
  match strayLast? bytes with
  | some b => .error (.symbol b (bytes.length - 1))
  | none =>
    match scan 0 bytes with
    | .error e => .error e
    | .ok (vs, padding) =>
      if vs.length % 4 = 1 then .error (.length vs.length)
      else if (vs.length + padding) % 4 ≠ 0 then .error .padding
      else finish vs

def decodeLenient (bytes : Bytes) : Except Error Bytes :=
  match strayLast? bytes with
  | some b => .error (.symbol b (bytes.length - 1))
  | none =>
    if bytes.length % 4 = 1 then .error .remainder
    else match scan 0 bytes with
      | .error e => .error e
      | .ok (vs, _) => finish vs

end Throughput.Base64
