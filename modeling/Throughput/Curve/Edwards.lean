import Throughput.Curve.Modular
import Throughput.Digest.Sha512

/-! The curve `-x² + y² = 1 + d·x²·y²` modulo `2^255 - 19` and its public keys. -/
namespace Throughput.Curve.Edwards

def p : Nat := 1 <<< 255 - 19

def d : Nat := 0x52036cee2b6ffe738cc740797779e89800700a4d4141d8ab75eb4dca135978a3

def base : Nat × Nat :=
  (0x216936d3cd6e53fec0a4e231fdd6dc5c692cc7609525a7b2c9562d608f25d51a,
    0x6666666666666666666666666666666666666666666666666666666666666658)

/-- The addition law is complete: it needs no special cases. -/
def add (a b : Nat × Nat) : Nat × Nat :=
  let t := d * (a.1 * b.1 % p) % p * (a.2 * b.2 % p) % p
  (div (a.1 * b.2 + b.1 * a.2) (1 + t) p, div (a.2 * b.2 + a.1 * b.1) (sub 1 t p) p)

def mul (k : Nat) (q : Nat × Nat) : Nat × Nat :=
  if h : k = 0 then (0, 1)
  else
    let half := mul (k / 2) q
    let double := add half half
    if k % 2 = 1 then add double q else double
termination_by k
decreasing_by omega

/-- `y` in little-endian order, with the lowest bit of `x` on top. -/
def encode (q : Nat × Nat) : Bytes := (Bytes.ofNat 32 (q.2 + (q.1 % 2) <<< 255)).reverse

/-- The scalar of a seed: half of its digest, with the lowest three bits and the top
bit cleared and the next one set. -/
def scalar (seed : Bytes) : Nat :=
  let n := Bytes.toNat ((Digest.Sha512.digest seed).take 32).reverse
  n % (1 <<< 254) / 8 * 8 + 1 <<< 254

def publicKey (seed : Bytes) : Bytes := encode (mul (scalar seed) base)

end Throughput.Curve.Edwards
