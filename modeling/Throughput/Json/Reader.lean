import Throughput.Json.Scalar
import Throughput.Json.Sequence

/-! Any JSON value from its text. -/
namespace Throughput.Json

/-- How many lists and objects may be open at once. -/
def depthLimit : Nat := 127

def addMember (read : (s : List Char) → Taken Value s) (members : List (String × Value))
    (name : String) (s : List Char) : Taken (List (String × Value)) s :=
  match readColon s with
  | .error e => .error e
  | .ok r =>
    match read r.val with
    | .error e => .error e
    | .ok (value, last) => .ok (insertMember name value members, r.outside last)

/-- A value inside which `depth` lists and objects may be open. -/
def readValue (depth : Nat) (s : List Char) : Taken Value s :=
  Taken.afterBlank <|
    match skipBlank s with
    | [] => .error .endOfValue
    | c :: rest =>
      if c = '[' then
        match depth with
        | 0 => .error .recursionLimit
        | depth + 1 =>
          match readItems (readValue depth) true rest with
          | .error e => .error e
          | .ok (items, last) => .ok (.list items, (Rest.tail c rest).outside last)
      else if c = Text.openBrace then
        match depth with
        | 0 => .error .recursionLimit
        | depth + 1 =>
          match readMembers (addMember (readValue depth)) [] true rest with
          | .error e => .error e
          | .ok (members, last) => .ok (.object members, (Rest.tail c rest).outside last)
      else
        match readScalar (c :: rest) with
        | .error e => .error e
        | .ok (scalar, r) => .ok (scalar.toValue, r)

def readDocument (read : (s : List Char) → Taken α s) (text : String) : Except Error α :=
  match read text.toList with
  | .error e => .error e
  | .ok (a, rest) => if (skipBlank rest.val).isEmpty then .ok a else .error .trailingCharacters

def Value.parse (text : String) : Except Error Value := readDocument (readValue depthLimit) text

end Throughput.Json
