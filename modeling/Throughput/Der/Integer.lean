import Throughput.Bytes

/-! Integers of any width, held as the shortest big-endian two's complement bytes. -/
namespace Throughput.Der

/-- A leading byte that only repeats the sign of the byte after it. -/
def redundant (lead next : UInt8) : Bool :=
  (lead == 0x00 && next < 0x80) || (lead == 0xff && 0x80 ≤ next)

/-- At least one byte, and no redundant one in front. -/
def Minimal : Bytes → Prop
  | [] => False
  | [_] => True
  | a :: b :: _ => redundant a b = false

instance : DecidablePred Minimal
  | [] => inferInstanceAs (Decidable False)
  | [_] => inferInstanceAs (Decidable True)
  | a :: b :: _ => inferInstanceAs (Decidable (redundant a b = false))

def dropRedundant : Bytes → Bytes
  | [] => [0]
  | [a] => [a]
  | a :: b :: rest => if redundant a b then dropRedundant (b :: rest) else a :: b :: rest

theorem minimal_dropRedundant (bytes : Bytes) : Minimal (dropRedundant bytes) := by
  fun_induction dropRedundant bytes with
  | case1 => trivial
  | case2 => trivial
  | case3 a b rest h ih => exact ih
  | case4 a b rest h => simpa [Minimal] using h

theorem dropRedundant_of_minimal {bytes : Bytes} (h : Minimal bytes) :
    dropRedundant bytes = bytes := by
  match bytes, h with
  | [_], _ => rfl
  | a :: b :: rest, h => simp [dropRedundant, show redundant a b = false from h]

structure Integer where
  bytes : Bytes
  minimal : Minimal bytes
  deriving DecidableEq

namespace Integer

theorem ext {x y : Integer} (h : x.bytes = y.bytes) : x = y := by
  cases x; cases y; simp_all

/-- From two's complement bytes, redundant ones included; no bytes are zero. -/
def ofSigned (bytes : Bytes) : Integer := ⟨dropRedundant bytes, minimal_dropRedundant bytes⟩

def ofUnsigned (magnitude : Bytes) : Integer := ofSigned (0 :: magnitude)

def ofUInt64 (value : UInt64) : Integer := ofUnsigned (Bytes.ofNat 8 value.toNat)

def toInt (x : Integer) : Int := x.bytes.toInt

def isNegative (x : Integer) : Bool := 0x80 ≤ x.bytes.headD 0

/-- The magnitude of a non-negative value without leading zero bytes; one byte for zero. -/
def magnitude? (x : Integer) : Option Bytes :=
  if x.isNegative then none
  else match x.bytes with
    | 0 :: b :: rest => some (b :: rest)
    | bytes => some bytes

def toUInt64? (x : Integer) : Option UInt64 :=
  match x.magnitude? with
  | some m => if m.length ≤ 8 then some (.ofNat m.toNat) else none
  | none => none

/-- The highest bit of the first byte that is not zero, and eight for each byte after it; a
negative value counts all its bytes. -/
def bitLength (x : Integer) : Nat :=
  match x.magnitude? with
  | none => 8 * x.bytes.length
  | some m =>
    match m.dropWhile (· == 0) with
    | [] => 0
    | first :: rest => 8 * rest.length + (8 - first.toBitVec.clz.toNat)

end Integer
end Throughput.Der
