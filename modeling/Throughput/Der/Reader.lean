import Throughput.Der.Integer

/-! Reading SEQUENCE and INTEGER elements from left to right. A read that fails
leaves the cursor where it stopped, so every read returns a reader beside its
result. Lengths take one byte, or up to four more of any value. -/
namespace Throughput.Der

def integerTag : UInt8 := 0x02
def sequenceTag : UInt8 := 0x30

def maxLengthBytes : Nat := 4

inductive Error where
  | unexpectedEnd (offset : Nat)
  | unexpectedTag (expected found : UInt8) (offset : Nat)
  | unsupportedLength (count : Nat)
  | emptyInteger (offset : Nat)
  deriving DecidableEq, Repr

def hexByte (b : UInt8) : String :=
  .ofList [Nat.digitChar (b.toNat / 16), Nat.digitChar (b.toNat % 16)]

def Error.message : Error → String
  | unexpectedEnd offset => s!"unexpected end of input at offset {offset}"
  | unexpectedTag expected found offset =>
    s!"expected tag 0x{hexByte expected}, found 0x{hexByte found} at offset {offset}"
  | unsupportedLength count => s!"unsupported long-form length with {count} length bytes"
  | emptyInteger offset => s!"empty INTEGER at offset {offset}"

structure Reader where
  data : Bytes
  pos : Nat
  /-- Offset from which positions are reported. -/
  base : Nat
  deriving DecidableEq, Repr

namespace Reader

def ofBytes (data : Bytes) : Reader := ⟨data, 0, 0⟩

def remaining (r : Reader) : Nat := r.data.length - r.pos

def isEmpty (r : Reader) : Bool := r.data.length ≤ r.pos

def offset (r : Reader) : Nat := r.base + r.pos

def byte (r : Reader) : Except Error UInt8 × Reader :=
  match r.data[r.pos]? with
  | none => (.error (.unexpectedEnd r.offset), r)
  | some b => (.ok b, { r with pos := r.pos + 1 })

/-- The next bytes, all of them or none. -/
def take (r : Reader) (count : Nat) : Except Error Bytes × Reader :=
  if r.pos + count ≤ r.data.length then
    (.ok ((r.data.drop r.pos).take count), { r with pos := r.pos + count })
  else (.error (.unexpectedEnd (r.base + r.data.length)), r)

/-- One byte below 0x80, or 0x81 to 0x84 and that many big-endian bytes. -/
def length (r : Reader) : Except Error Nat × Reader :=
  match r.byte with
  | (.error e, r) => (.error e, r)
  | (.ok first, r) =>
    if first < 0x80 then (.ok first.toNat, r)
    else
      let count := (first &&& 0x7f).toNat
      if count = 0 ∨ maxLengthBytes < count then (.error (.unsupportedLength count), r)
      else match r.take count with
        | (.error e, r) => (.error e, r)
        | (.ok bytes, r) => (.ok bytes.toNat, r)

def element (r : Reader) (tag : UInt8) : Except Error Bytes × Reader :=
  let start := r.offset
  match r.byte with
  | (.error e, r) => (.error e, r)
  | (.ok found, r) =>
    if found ≠ tag then (.error (.unexpectedTag tag found start), r)
    else match r.length with
      | (.error e, r) => (.error e, r)
      | (.ok count, r) => r.take count

/-- A reader over the content of a SEQUENCE. It reports positions from the offset of
the SEQUENCE's tag. -/
def sequence (r : Reader) : Except Error Reader × Reader :=
  let start := r.offset
  match r.element sequenceTag with
  | (.error e, r) => (.error e, r)
  | (.ok content, r) => (.ok ⟨content, 0, start⟩, r)

def integer (r : Reader) : Except Error Integer × Reader :=
  let start := r.offset
  match r.element integerTag with
  | (.error e, r) => (.error e, r)
  | (.ok [], r) => (.error (.emptyInteger start), r)
  | (.ok content, r) => (.ok (.ofSigned content), r)

def integers (r : Reader) : Nat → Except Error (List Integer) × Reader
  | 0 => (.ok [], r)
  | count + 1 =>
    match r.integer with
    | (.error e, r) => (.error e, r)
    | (.ok value, r) =>
      match r.integers count with
      | (.error e, r) => (.error e, r)
      | (.ok values, r) => (.ok (value :: values), r)

end Reader

abbrev Readers := List Reader

inductive Step where
  | integer
  | sequence
  /-- Leaves the innermost content; the outermost reader stays. -/
  | up
  deriving DecidableEq, Repr

inductive Found where
  | integer (value : Integer)
  | content (size : Nat)
  | nothing
  deriving DecidableEq

namespace Readers

def step : Readers → Step → Except Error Found × Readers
  | [], _ => (.ok .nothing, [])
  | r :: outer, .integer =>
    match r.integer with
    | (.ok value, r) => (.ok (.integer value), r :: outer)
    | (.error e, r) => (.error e, r :: outer)
  | r :: outer, .sequence =>
    match r.sequence with
    | (.ok content, r) => (.ok (.content content.remaining), content :: r :: outer)
    | (.error e, r) => (.error e, r :: outer)
  | [r], .up => (.ok .nothing, [r])
  | _ :: outer, .up => (.ok .nothing, outer)

end Readers
end Throughput.Der
