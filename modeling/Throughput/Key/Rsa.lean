import Throughput.Der.Node

/-! RSA private keys: nine integers in one SEQUENCE. Reading accepts padded lengths
and integers, writing is canonical. -/
namespace Throughput.Key

structure Rsa where
  version : Der.Integer
  modulus : Der.Integer
  publicExponent : Der.Integer
  privateExponent : Der.Integer
  prime1 : Der.Integer
  prime2 : Der.Integer
  exponent1 : Der.Integer
  exponent2 : Der.Integer
  coefficient : Der.Integer
  deriving DecidableEq

namespace Rsa

inductive Error where
  | der (cause : Der.Error)
  /-- Any version but the one of keys with two primes. -/
  | unsupportedVersion
  | trailingData
  deriving DecidableEq

def integers (k : Rsa) : List Der.Integer :=
  [k.version, k.modulus, k.publicExponent, k.privateExponent, k.prime1, k.prime2,
    k.exponent1, k.exponent2, k.coefficient]

def ofIntegers (values : List Der.Integer) (h : values.length = 9) : Rsa :=
  match values, h with
  | [a, b, c, d, e, f, g, h, i], _ => ⟨a, b, c, d, e, f, g, h, i⟩

theorem integers_ofIntegers (values : List Der.Integer) (h : values.length = 9) :
    (ofIntegers values h).integers = values := by
  match values, h with
  | [a, b, c, d, e, f, g, h, i], _ => rfl

theorem length_integers {r : Der.Reader} {count : Nat} {values : List Der.Integer}
    {next : Der.Reader} (h : r.integers count = (.ok values, next)) : values.length = count := by
  induction count generalizing r values next with
  | zero =>
    simp only [Der.Reader.integers, Prod.mk.injEq, Except.ok.injEq] at h
    simp [← h.1]
  | succ count ih =>
    simp only [Der.Reader.integers] at h
    split at h
    · simp at h
    · split at h
      · simp at h
      · rename_i _ _ hs
        simp only [Prod.mk.injEq, Except.ok.injEq] at h
        simp [← h.1, ih hs]

/-- The key of an encoding: nine integers, of which the first is zero, and nothing
after them inside or outside. -/
def parse (der : Bytes) : Except Error Rsa :=
  match (Der.Reader.ofBytes der).sequence with
  | (.error e, _) => .error (.der e)
  | (.ok content, outer) =>
    match h : content.integers 9 with
    | (.error e, _) => .error (.der e)
    | (.ok values, content) =>
      let key := ofIntegers values (length_integers h)
      if key.version.toUInt64? ≠ some 0 then .error .unsupportedVersion
      else if content.isEmpty && outer.isEmpty then .ok key
      else .error .trailingData

def node (k : Rsa) : Der.Node := .sequence (k.integers.map .integer)

def encode (k : Rsa) : Bytes := k.node.encode

def modulusBits (k : Rsa) : Nat := k.modulus.bitLength

inductive Fault where
  | notPositive
  | primesTooSmall
  deriving DecidableEq, Repr

def Fault.message : Fault → String
  | notPositive => "key components must be positive"
  | primesTooSmall => "primes are too small for the modulus"

/-- What makes the numbers impossible for a key, as far as their sizes tell. -/
def fault? (k : Rsa) : Option Fault :=
  if k.integers.tail.any fun x => x.isNegative || x.bitLength == 0 then some .notPositive
  else if k.prime1.bitLength + k.prime2.bitLength < k.modulusBits then some .primesTooSmall
  else none

end Rsa
end Throughput.Key
