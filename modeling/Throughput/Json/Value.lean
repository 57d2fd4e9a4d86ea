import Throughput.Binary64.Notation

/-! JSON values. The members of an object that was read stand in the order of their
names, each name once; an object to be written keeps the order it was given. -/
namespace Throughput.Json

inductive Number where
  | integer (n : Int)
  | float (x : Binary64)
  deriving DecidableEq, Repr

inductive Value where
  | null
  | bool (b : Bool)
  | number (n : Number)
  | text (s : String)
  | list (items : List Value)
  | object (members : List (String × Value))

/-- A member put in its place; one of the same name gives way. -/
def insertMember (name : String) (value : α) : List (String × α) → List (String × α)
  | [] => [(name, value)]
  | (other, old) :: rest =>
    if name < other then (name, value) :: (other, old) :: rest
    else if name = other then (name, value) :: rest
    else (other, old) :: insertMember name value rest

namespace Value

def natural (n : Nat) : Value := number (.integer n)

def optional : Option String → Value
  | some s => text s
  | none => null

end Value
end Throughput.Json
