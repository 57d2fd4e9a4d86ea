import Throughput.Json.Value
import Throughput.Text.Quoted

/-! JSON text without blanks. Only quotes, backslashes and controls are escaped. -/
namespace Throughput.Json

def hexPair (n : Nat) : List Char := [Nat.digitChar (n / 16), Nat.digitChar (n % 16)]

def escape (c : Char) : List Char :=
  if c = '"' then ['\\', '"']
  else if c = '\\' then ['\\', '\\']
  else if c = '\x08' then ['\\', 'b']
  else if c = '\x0c' then ['\\', 'f']
  else if c = '\n' then ['\\', 'n']
  else if c = '\r' then ['\\', 'r']
  else if c = '\t' then ['\\', 't']
  else if c < ' ' then ['\\', 'u', '0', '0'] ++ hexPair c.toNat
  else [c]

def printText (s : String) : List Char := '"' :: s.toList.flatMap escape ++ ['"']

def Number.print : Number → List Char
  | integer n => (toString n).toList
  | float x => x.pointedText.toList

mutual

def Value.print : Value → List Char
  | .null => ['n', 'u', 'l', 'l']
  | .bool true => ['t', 'r', 'u', 'e']
  | .bool false => ['f', 'a', 'l', 's', 'e']
  | .number n => n.print
  | .text s => printText s
  | .list items => '[' :: printItems items ++ [']']
  | .object members => Text.openBrace :: printMembers members ++ [Text.closeBrace]

def printItems : List Value → List Char
  | [] => []
  | [v] => v.print
  | v :: rest => v.print ++ ',' :: printItems rest

def printMembers : List (String × Value) → List Char
  | [] => []
  | [(name, v)] => printText name ++ ':' :: v.print
  | (name, v) :: rest => printText name ++ ':' :: v.print ++ ',' :: printMembers rest

end

def Value.render (v : Value) : String := .ofList v.print

end Throughput.Json
