import Throughput.Der.Reader

/-! Trees of SEQUENCE and INTEGER elements and their encoding, with the shortest
lengths and integers. -/
namespace Throughput.Der

/-- One byte below 128, else the count of the length's bytes and those bytes. -/
def encodeLength (n : Nat) : Bytes :=
  if n < 0x80 then [.ofNat n]
  else
    let bytes := Bytes.ofNatMinimal n
    .ofNat (0x80 + bytes.length) :: bytes

def encodeElement (tag : UInt8) (content : Bytes) : Bytes :=
  tag :: encodeLength content.length ++ content

def Integer.encode (x : Integer) : Bytes := encodeElement integerTag x.bytes

inductive Node where
  | integer (value : Integer)
  | sequence (children : List Node)
  deriving Inhabited

mutual

def Node.encode : Node → Bytes
  | .integer value => value.encode
  | .sequence children => encodeElement sequenceTag (encodeNodes children)

def encodeNodes : List Node → Bytes
  | [] => []
  | node :: rest => node.encode ++ encodeNodes rest

end

mutual

/-- Reads an element of the same shape as a node. -/
def Node.readShape : Node → Reader → Except Error Node × Reader
  | .integer _, r =>
    match r.integer with
    | (.error e, r) => (.error e, r)
    | (.ok value, r) => (.ok (.integer value), r)
  | .sequence children, r =>
    match r.sequence with
    | (.error e, r) => (.error e, r)
    | (.ok content, r) =>
      match readShapes children content with
      | (.error e, _) => (.error e, r)
      | (.ok children, _) => (.ok (.sequence children), r)

def readShapes : List Node → Reader → Except Error (List Node) × Reader
  | [], r => (.ok [], r)
  | node :: rest, r =>
    match node.readShape r with
    | (.error e, r) => (.error e, r)
    | (.ok node, r) =>
      match readShapes rest r with
      | (.error e, r) => (.error e, r)
      | (.ok rest, r) => (.ok (node :: rest), r)

end

end Throughput.Der
