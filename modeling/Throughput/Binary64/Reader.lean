import Throughput.Binary64
import Throughput.Text.Digits

/-! Values from text: `12`, `1.5`, `.5`, `1.`, `1e3`, `inf`, `infinity` and `nan`, in
letters of either case and with an optional sign. -/
namespace Throughput.Binary64

open Text (isDigit ofDigits splitSign)

def exponent? : List Char → Option Int
  | [] => some 0
  | c :: rest =>
    if c = 'e' || c = 'E' then
      let (negative, digits) := splitSign rest
      (Text.natural? digits).map fun n => if negative then -(n : Int) else n
    else none

/-- Digits with at most one point among or around them, and an exponent. -/
def decimal? (negative : Bool) (cs : List Char) : Option Binary64 :=
  let whole := cs.takeWhile isDigit
  let (fraction, rest) := match cs.dropWhile isDigit with
    | '.' :: rest => (rest.takeWhile isDigit, rest.dropWhile isDigit)
    | rest => ([], rest)
  if whole.isEmpty && fraction.isEmpty then none
  else
    (exponent? rest).map fun power =>
      ofDecimal negative (ofDigits (whole ++ fraction)) (power - fraction.length)

def ofText? (text : List Char) : Option Binary64 :=
  let (negative, cs) := splitSign text
  let word := String.ofList (cs.map Char.toLower)
  if word = "inf" || word = "infinity" then some (infinite negative)
  else if word = "nan" then some nan
  else decimal? negative cs

end Throughput.Binary64
