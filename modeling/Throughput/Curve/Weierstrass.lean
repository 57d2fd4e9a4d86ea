import Throughput.Bytes
import Throughput.Curve.Modular

/-! Curves `y² = x³ - 3x + b` over a prime field, in affine coordinates. -/
namespace Throughput.Curve

structure Weierstrass where
  /-- Bytes of a coordinate and of a scalar. -/
  width : Nat
  p : Nat
  order : Nat
  /-- The base point. -/
  x : Nat
  y : Nat

namespace Weierstrass

abbrev Point := Option (Nat × Nat)

def add (c : Weierstrass) : Point → Point → Point
  | none, q => q
  | q, none => q
  | some (x₁, y₁), some (x₂, y₂) =>
    let p := c.p
    let chord (slope : Nat) : Point :=
      let x := sub (slope * slope) (x₁ + x₂) p
      some (x, sub (slope * sub x₁ x p) y₁ p)
    if x₁ = x₂ then
      if (y₁ + y₂) % p = 0 then none
      else chord (div (sub (3 * x₁ * x₁) 3 p) (2 * y₁ % p) p)
    else chord (div (sub y₂ y₁ p) (sub x₂ x₁ p) p)

def mul (c : Weierstrass) (k : Nat) (q : Point) : Point :=
  if h : k = 0 then none
  else
    let half := c.mul (k / 2) q
    let double := c.add half half
    if k % 2 = 1 then c.add double q else double
termination_by k
decreasing_by omega

def publicKey (c : Weierstrass) (scalar : Nat) : Option Bytes :=
  match c.mul scalar (some (c.x, c.y)) with
  | none => none
  | some (x, y) => some (0x04 :: Bytes.ofNat c.width x ++ Bytes.ofNat c.width y)

def p256 : Weierstrass where
  width := 32
  p := 0xffffffff00000001000000000000000000000000ffffffffffffffffffffffff
  order := 0xffffffff00000000ffffffffffffffffbce6faada7179e84f3b9cac2fc632551
  x := 0x6b17d1f2e12c4247f8bce6e563a440f277037d812deb33a0f4a13945d898c296
  y := 0x4fe342e2fe1a7f9b8ee7eb4a7c0f9e162bce33576b315ececbb6406837bf51f5

def p384 : Weierstrass where
  width := 48
  p := 1 <<< 384 - 1 <<< 128 - 1 <<< 96 + 1 <<< 32 - 1
  order := 0xffffffffffffffffffffffffffffffffffffffffffffffffc7634d81f4372ddf581a0db248b0a77aecec196accc52973
  x := 0xaa87ca22be8b05378eb1c71ef320ad746e1d3b628ba79b9859f741e082542a385502f25dbf55296c3a545e3872760ab7
  y := 0x3617de4a96262c6f5d9e98bf9292dc29f8f41dbd289a147ce9da3113b5f0b8c00a60b1ce1d7e819d7a431d7c90ea0e5f

end Weierstrass
end Throughput.Curve
