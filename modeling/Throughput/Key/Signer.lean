import Throughput.Curve.Edwards
import Throughput.Curve.Weierstrass
import Throughput.Der.Strict

/-! Which private keys can sign: RSA keys of usual sizes, keys of two prime curves and
Edwards keys, bare or in a key container. -/
namespace Throughput.Key.Signer

open Der.Strict

def skip? (tag : UInt8) (bytes : Bytes) : Option Bytes :=
  if startsWith tag bytes then (element? tag bytes).map Prod.snd else some bytes

/-- A public key that ends a container: bits under an implicit tag, or a whole bit
string under an explicit one. -/
def publicKey? (bytes : Bytes) : Option Bytes :=
  if startsWith 0xa1 bytes then only? 0xa1 bytes >>= only? 0x03 >>= wholeBits?
  else only? 0x81 bytes >>= wholeBits?

/-- Version, key and public key of a container whose algorithm has the given content.
Attributes are skipped; a public key belongs to version 1 alone. -/
def container? (algorithm : Bytes) (der : Bytes) : Option (UInt8 × Bytes × Option Bytes) := do
  let content ← only? 0x30 der
  let (version, rest) ← small? content
  guard (version ≤ 1)
  let (found, rest) ← element? 0x30 rest
  guard (found = algorithm)
  let (key, rest) ← element? 0x04 rest
  let rest ← skip? 0xa0 rest
  if version = 0 then
    guard rest.isEmpty
    return (version, key, none)
  else
    return (version, key, some (← publicKey? rest))

def bits (n : Nat) : Nat := if n = 0 then 0 else n.log2 + 1

structure Numbers where
  n : Nat
  e : Nat
  d : Nat
  p : Nat
  q : Nat
  dP : Nat
  dQ : Nat
  qInv : Nat
  deriving DecidableEq, Repr

/-- What signing needs of an RSA key: a modulus of 2048 to 4096 bits (the lower bound
counted in whole bytes), odd primes of half its size, and exponents and a coefficient
that fit. The exponents modulo the primes are not compared with the private one. -/
def Numbers.usable (k : Numbers) : Bool :=
  let half := (bits k.n + 1) / 2
  let odd (x : Nat) := x % 2 == 1
  odd k.n && 2048 ≤ (bits k.n + 7) / 8 * 8 && bits k.n ≤ 4096 &&
  odd k.e && 65537 ≤ k.e && k.e < 0x200000000 &&
  odd k.p && odd k.q && bits k.p == half && bits k.q == half && half % 512 == 0 &&
  k.p * k.q % k.n == 0 &&
  odd k.d && half < bits k.d && k.d < k.n &&
  k.qInv < k.p && k.qInv * k.q % k.p == 1 &&
  odd k.dP && k.dP < k.p && odd k.dQ && k.dQ < k.q

def numbers? (der : Bytes) : Option Numbers := do
  let content ← only? 0x30 der
  let (version, rest) ← small? content
  guard (version = 0)
  let (n, rest) ← natural? rest
  let (e, rest) ← natural? rest
  let (d, rest) ← natural? rest
  let (p, rest) ← natural? rest
  let (q, rest) ← natural? rest
  let (dP, rest) ← natural? rest
  let (dQ, rest) ← natural? rest
  let (qInv, rest) ← natural? rest
  guard rest.isEmpty
  return ⟨n, e, d, p, q, dP, dQ, qInv⟩

/-- rsaEncryption without parameters. -/
def rsaAlgorithm : Bytes :=
  [0x06, 0x09, 0x2a, 0x86, 0x48, 0x86, 0xf7, 0x0d, 0x01, 0x01, 0x01, 0x05, 0x00]

def acceptsRsa (der : Bytes) : Bool :=
  (numbers? der).any Numbers.usable ||
    match container? rsaAlgorithm der with
    | some (0, key, _) => (numbers? key).any Numbers.usable
    | _ => false

/-- ecPublicKey, the algorithm of every prime curve. -/
def ecAlgorithm : Bytes := [0x06, 0x07, 0x2a, 0x86, 0x48, 0xce, 0x3d, 0x02, 0x01]

def p256Name : Bytes := [0x06, 0x08, 0x2a, 0x86, 0x48, 0xce, 0x3d, 0x03, 0x01, 0x07]

def p384Name : Bytes := [0x06, 0x05, 0x2b, 0x81, 0x04, 0x00, 0x22]

/-- Scalar and public point of a curve key. The curve may be named inside and must
then be the expected one. -/
def curveKey? (name : Bytes) (der : Bytes) : Option (Bytes × Bytes) := do
  let content ← only? 0x30 der
  let (version, rest) ← small? content
  guard (version = 1)
  let (scalar, rest) ← element? 0x04 rest
  guard (!startsWith 0xa0 rest || (element? 0xa0 rest).any fun found => found.1 == name)
  let rest ← skip? 0xa0 rest
  let bits ← only? 0xa1 rest >>= only? 0x03 >>= wholeBits?
  return (scalar, bits)

/-- A scalar of the right width and range, and the public point that belongs to it. -/
def curveKey (curve : Curve.Weierstrass) (name : Bytes) (der : Bytes) : Bool :=
  match curveKey? name der with
  | some (scalar, bits) =>
    scalar.length == curve.width && 0 < scalar.toNat && scalar.toNat < curve.order &&
      curve.publicKey scalar.toNat == some bits
  | none => false

def acceptsCurve (curve : Curve.Weierstrass) (name : Bytes) (der : Bytes) : Bool :=
  curveKey curve name der ||
    match container? (ecAlgorithm ++ name) der with
    | some (0, key, _) => curveKey curve name key
    | _ => false

def edwardsAlgorithm : Bytes := [0x06, 0x03, 0x2b, 0x65, 0x70]

/-- An Edwards seed of 32 bytes; a public key beside it must belong to it. -/
def acceptsEdwards (der : Bytes) : Bool :=
  match container? edwardsAlgorithm der with
  | some (_, key, pub) =>
    match only? 0x04 key with
    | some seed => seed.length == 32 && pub.all fun bits => bits == Curve.Edwards.publicKey seed
    | none => false
  | none => false

def accepts (der : Bytes) : Bool :=
  acceptsRsa der || acceptsCurve .p256 p256Name der || acceptsCurve .p384 p384Name der ||
    acceptsEdwards der

end Throughput.Key.Signer
