/-! Arithmetic modulo a prime. -/
namespace Throughput.Curve

/-- Extended Euclid: with `r = t·a` modulo `p` for both pairs, the factor that
belongs to the greatest common divisor. -/
def euclid (r₀ r₁ : Nat) (t₀ t₁ : Int) : Int :=
  if _h : r₁ = 0 then t₀ else euclid r₁ (r₀ % r₁) t₁ (t₀ - (r₀ / r₁ : Nat) * t₁)
termination_by r₁
decreasing_by exact Nat.mod_lt _ (Nat.pos_of_ne_zero _h)

def inverse (a p : Nat) : Nat := (euclid p (a % p) 0 1 % (p : Int)).toNat

def sub (a b p : Nat) : Nat := (a + (p - b % p)) % p

def div (a b p : Nat) : Nat := a * inverse b p % p

end Throughput.Curve
