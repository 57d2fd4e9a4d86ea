/-! Byte strings and the numbers they spell. -/
namespace Throughput

abbrev Bytes := List UInt8

namespace Bytes

def toNat (bytes : Bytes) : Nat := bytes.foldl (fun n b => n * 256 + b.toNat) 0

/-- The value as big-endian two's complement; no bytes spell zero. -/
def toInt (bytes : Bytes) : Int :=
  match bytes with
  | [] => 0
  | lead :: _ =>
    if lead < 0x80 then toNat bytes else (toNat bytes : Int) - Nat.pow 256 bytes.length

/-- The `width` low bytes of a number, most significant first. -/
def ofNat (width : Nat) (n : Nat) : Bytes :=
  match width with
  | 0 => []
  | width + 1 => ofNat width (n / 256) ++ [UInt8.ofNat n]

def ofNatMinimal (n : Nat) : Bytes :=
  if n = 0 then [] else ofNatMinimal (n / 256) ++ [UInt8.ofNat n]

end Bytes
end Throughput
