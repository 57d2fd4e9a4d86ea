import Throughput.Text.Hidden

/-! Text in double quotes. Quotes, backslashes and the usual controls get a letter after
a backslash, other hidden characters their code point in braces. -/
namespace Throughput.Text

def openBrace : Char := '\x7b'

def closeBrace : Char := '\x7d'

/-- Hexadecimal digits in lower case, without leading zeros. -/
def hexDigits (n : Nat) : List Char := Nat.toDigits 16 n

def quoteChar (c : Char) : List Char :=
  if c = '"' then ['\\', '"']
  else if c = '\\' then ['\\', '\\']
  else if c = '\n' then ['\\', 'n']
  else if c = '\r' then ['\\', 'r']
  else if c = '\t' then ['\\', 't']
  else if c = '\x00' then ['\\', '0']
  else if hidden.contains c then
    ['\\', 'u', openBrace] ++ hexDigits c.toNat ++ [closeBrace]
  else [c]

def quote (s : String) : String := .ofList ('"' :: s.toList.flatMap quoteChar ++ ['"'])

def quoteList (items : List String) : String :=
  "[" ++ ", ".intercalate (items.map quote) ++ "]"

end Throughput.Text
