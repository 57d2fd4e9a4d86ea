import Throughput.Json.Numeral
import Throughput.Json.Quoted

/-! Values that hold no others. -/
namespace Throughput.Json

inductive Scalar where
  | null
  | bool (b : Bool)
  | number (n : Number)
  | text (s : String)
  deriving DecidableEq, Repr

namespace Scalar

def toValue : Scalar → Value
  | null => .null
  | bool b => .bool b
  | number n => .number n
  | text s => .text s

def found : Scalar → Found
  | null => .null
  | bool b => .bool b
  | number (.integer n) => .integer n
  | number (.float x) => .float x
  | text s => .text s

end Scalar

def skipLetters (letters s : List Char) : Except Error { rest : List Char // rest.length ≤ s.length } :=
  match letters, s with
  | [], s => .ok ⟨s, Nat.le_refl _⟩
  | _ :: _, [] => .error .endOfValue
  | l :: letters, c :: rest =>
    if l = c then
      match skipLetters letters rest with
      | .ok r => .ok ⟨r.val, Nat.le_succ_of_le r.property⟩
      | .error e => .error e
    else .error .expectedIdent

/-- A literal, read from after its first letter. -/
def readLiteral (value : α) (letters : List Char) (c : Char) (rest : List Char) :
    Taken α (c :: rest) :=
  match skipLetters letters rest with
  | .ok r => .ok (value, ⟨r.val, Nat.lt_succ_of_le r.property⟩)
  | .error e => .error e

def readScalar (s : List Char) : Taken Scalar s :=
  match s with
  | [] => .error .endOfValue
  | c :: rest =>
    if c = 'n' then readLiteral .null ['u', 'l', 'l'] c rest
    else if c = 't' then readLiteral (.bool true) ['r', 'u', 'e'] c rest
    else if c = 'f' then readLiteral (.bool false) ['a', 'l', 's', 'e'] c rest
    else if c = '"' then
      match readText rest with
      | .ok (s, r) => .ok (.text s, (Rest.tail c rest).outside r)
      | .error e => .error e
    else if c = '-' || Text.isDigit c then
      match readNumber (c :: rest) with
      | .ok (n, r) => .ok (.number n, r)
      | .error e => .error e
    else .error .expectedValue

/-- The error for a value, standing at the front, of another kind than expected. A list
or an object is told by its bracket; other values are read first. -/
def mismatch (expected : String) (s : List Char) : Error :=
  match s with
  | '[' :: _ => .invalidType .list expected
  | '\x7b' :: _ => .invalidType .object expected
  | s =>
    match readScalar s with
    | .ok (found, _) => .invalidType found.found expected
    | .error e => e

end Throughput.Json
