import Throughput.Binary64.Notation
import Throughput.Binary64.Reader
import Throughput.Text.Case
import Throughput.Text.Quoted

/-! Values of variables. The text of a variable is first taken for a truth value, then
for a whole number, then for a decimal one; a setting then asks for the kind it needs. -/
namespace Throughput.Configuration

inductive Value where
  | boolean (b : Bool)
  | integer (n : Int64)
  | float (x : Binary64)
  | text (s : String)
  /-- Values under names, and values in order. No setting is one of these. -/
  | group
  | sequence
  deriving DecidableEq, Repr

inductive Unexpected where
  | text (s : String)
  | integer (n : Int64)
  | group
  | sequence
  deriving DecidableEq, Repr

structure Mismatch where
  found : Unexpected
  expected : String
  deriving DecidableEq, Repr

def Unexpected.message : Unexpected → String
  | text s => "string " ++ Text.quote s
  | integer n => "64-bit integer `" ++ toString n.toInt ++ "`"
  | group => "map"
  | sequence => "sequence"

namespace Value

def ofText (s : String) : Value :=
  let lower := Text.lower s
  if lower = "true" then boolean true
  else if lower = "false" then boolean false
  else
    match Text.int64? s.toList with
    | some n => integer n
    | none =>
      match Binary64.ofText? s.toList with
      | some x => float x
      | none => text s

/-- Numbers are spelled anew, without leading zeros or exponents. -/
def toText : Value → Except Mismatch String
  | boolean b => .ok (if b then "true" else "false")
  | integer n => .ok (toString n.toInt)
  | float x => .ok x.plainText
  | text s => .ok s
  | group => .error ⟨.group, "a string"⟩
  | sequence => .error ⟨.sequence, "a string"⟩

/-- Numbers other than zero are true, and so is what is no number. -/
def toBool : Value → Except Mismatch Bool
  | boolean b => .ok b
  | integer n => .ok (n != 0)
  | float x => .ok (!x.isZero)
  | text s =>
    let lower := Text.lower s
    if ["1", "true", "on", "yes"].contains lower then .ok true
    else if ["0", "false", "off", "no"].contains lower then .ok false
    else .error ⟨.text lower, "a boolean"⟩
  | group => .error ⟨.group, "a boolean"⟩
  | sequence => .error ⟨.sequence, "a boolean"⟩

/-- Truth values count as one and zero, decimal numbers are rounded into range. -/
def toUInt64 : Value → Except Mismatch UInt64
  | boolean b => .ok (if b then 1 else 0)
  | integer n =>
    if 0 ≤ n.toInt then .ok (.ofNat n.toInt.toNat)
    else .error ⟨.integer n, "an unsigned 64 bit or less integer"⟩
  | float x => .ok x.toUInt64
  | text s =>
    let lower := Text.lower s
    if ["true", "on", "yes"].contains lower then .ok 1
    else if ["false", "off", "no"].contains lower then .ok 0
    else .error ⟨.text s, "an integer"⟩
  | group => .error ⟨.group, "an integer"⟩
  | sequence => .error ⟨.sequence, "an integer"⟩

end Value
end Throughput.Configuration
