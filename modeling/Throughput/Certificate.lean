import Throughput.Der.Strict

/-! Certificates that can serve as trust anchors: version 3 with known critical
extensions only, or version 1 without the version field. Dates and signatures are not
looked at. -/
namespace Throughput.Certificate

open Der.Strict

/-- Elements hold less than 65535 bytes. -/
def element? (tag : UInt8) (bytes : Bytes) : Option (Bytes × Bytes) :=
  (Der.Strict.element? tag bytes).filter fun (content, _) => content.length < 0xffff

def only? (tag : UInt8) (bytes : Bytes) : Option Bytes :=
  match element? tag bytes with
  | some (content, []) => some content
  | _ => none

def skipSequences? : Nat → Bytes → Option Bytes
  | 0, bytes => some bytes
  | count + 1, bytes => (element? 0x30 bytes).bind fun (_, rest) => skipSequences? count rest

structure Extension where
  id : Bytes
  critical : Bool
  value : Bytes

/-- An extension; it is critical only if it says so. -/
def extension? (content : Bytes) : Option Extension := do
  let (id, rest) ← element? 0x06 content
  let (critical, rest) ←
    if startsWith 0x01 rest then
      match element? 0x01 rest with
      | some ([0xff], rest) => some (true, rest)
      | some ([0x00], rest) => some (false, rest)
      | _ => none
    else some (false, rest)
  let value ← only? 0x04 rest
  return ⟨id, critical, value⟩

/-- The last number of a standard extension's name that is known here: key usage,
alternative name, basic constraints, name constraints and extended key usage. -/
def known? (id : Bytes) : Option UInt8 :=
  match id with
  | [0x55, 0x1d, n] => if n = 15 ∨ n = 17 ∨ n = 19 ∨ n = 30 ∨ n = 37 then some n else none
  | _ => none

/-- Whether an extension is in order after the known ones in `seen`: a known one comes
once and holds a SEQUENCE (any bytes for key usage), an unknown one is not critical. -/
def admits (seen : List UInt8) (e : Extension) : Bool :=
  match known? e.id with
  | some n => !seen.contains n && (n == 15 || (only? 0x30 e.value).isSome)
  | none => !e.critical

def extensions (seen : List UInt8) (bytes : Bytes) : Bool :=
  match _h : next? bytes with
  | none => bytes.isEmpty
  | some (tag, content, rest) =>
    tag == 0x30 && content.length < 0xffff &&
      match extension? content with
      | none => false
      | some e => admits seen e && extensions ((known? e.id).toList ++ seen) rest
termination_by bytes.length
decreasing_by exact next?_lt _h

/-- What may follow the public key: nothing, or the tagged list of extensions. -/
def optionalExtensions (bytes : Bytes) : Bool :=
  bytes.isEmpty || (only? 0xa3 bytes >>= only? 0x30).any (extensions [])

/-- The signed part of version 3 with the given signature algorithm: version, serial
number, algorithm, issuer, validity, subject and public key. -/
def isVersion3 (algorithm tbs : Bytes) : Bool :=
  let fields : Option Bytes := do
    let (version, rest) ← element? 0xa0 tbs
    guard (small? version == some (2, []))
    let (_, rest) ← element? 0x02 rest
    let (found, rest) ← element? 0x30 rest
    guard (found = algorithm)
    skipSequences? 4 rest
  fields.any optionalExtensions

/-- The signed part of version 1, with nothing after the public key. -/
def isVersion1 (tbs : Bytes) : Bool :=
  let fields : Option Bytes := do
    let (_, rest) ← element? 0x02 tbs
    skipSequences? 5 rest
  fields.any List.isEmpty

def parts? (der : Bytes) : Option (Bytes × Bytes) := do
  let content ← only? 0x30 der
  let (tbs, rest) ← element? 0x30 content
  let (algorithm, rest) ← element? 0x30 rest
  let _ ← only? 0x03 rest >>= wholeBits?
  return (tbs, algorithm)

def isAnchor (der : Bytes) : Bool :=
  match parts? der with
  | none => false
  | some (tbs, algorithm) => isVersion3 algorithm tbs || isVersion1 tbs

end Throughput.Certificate
