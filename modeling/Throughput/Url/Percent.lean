import Throughput.Text.Utf8

/-! Percent encoding: bytes of a text as two hexadecimal digits after a percent sign. -/
namespace Throughput.Url

/-- Controls, and everything that is not ASCII. -/
def isControl (c : Char) : Bool := c < ' ' || '~' < c

/-- The characters encoded in each part of an address. -/
inductive Part where
  | opaquePath
  | path
  | userinfo
  | query
  | specialQuery
  | fragment
  deriving DecidableEq, Repr

def Part.extra : Part → List Char
  | opaquePath => []
  | fragment => [' ', '"', '<', '>', '\x60']
  | query => [' ', '"', '#', '<', '>']
  | specialQuery => [' ', '"', '#', '<', '>', '\'']
  | path => [' ', '"', '<', '>', '\x60', '#', '?', '\x7b', '\x7d']
  | userinfo => [' ', '"', '<', '>', '\x60', '#', '?', '\x7b', '\x7d', '/', ':', ';', '=', '@',
      '[', '\\', ']', '^', '|']

def Part.encodes (part : Part) (c : Char) : Bool := isControl c || part.extra.contains c

def upperHex (n : Nat) : Char := .ofNat (if n < 10 then 48 + n else 55 + n)

def encodeByte (b : UInt8) : List Char := ['%', upperHex (b.toNat / 16), upperHex (b.toNat % 16)]

def encodeChar (part : Part) (c : Char) : List Char :=
  if part.encodes c then (String.utf8EncodeChar c).flatMap encodeByte else [c]

def encode (part : Part) (cs : List Char) : List Char := cs.flatMap (encodeChar part)

def hexValue? (c : Char) : Option Nat :=
  if '0' ≤ c && c ≤ '9' then some (c.toNat - 48)
  else if 'a' ≤ c && c ≤ 'f' then some (c.toNat - 87)
  else if 'A' ≤ c && c ≤ 'F' then some (c.toNat - 55)
  else none

/-- The bytes of a text with encoded bytes decoded; a percent sign without two digits
stands for itself. -/
def decode : List Char → Bytes
  | '%' :: a :: b :: rest =>
    match hexValue? a, hexValue? b with
    | some x, some y => .ofNat (x * 16 + y) :: decode rest
    | _, _ => 0x25 :: decode (a :: b :: rest)
  | c :: rest => String.utf8EncodeChar c ++ decode rest
  | [] => []
termination_by cs => cs.length

end Throughput.Url
