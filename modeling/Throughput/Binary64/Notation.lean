import Throughput.Binary64.Shortest

/-! The two ways in which a value is written. -/
namespace Throughput.Binary64

def zeros (n : Nat) : List Char := List.replicate n '0'

def digitChars (n : Nat) : List Char := Nat.toDigits 10 n

/-- A decimal without an exponent; a whole number has no point. -/
def positional (d : Decimal) : List Char :=
  let digits := digitChars d.digits
  let point := digits.length + d.exponent
  if 0 ≤ d.exponent then digits ++ zeros d.exponent.toNat
  else if 0 < point then digits.take point.toNat ++ '.' :: digits.drop point.toNat
  else '0' :: '.' :: zeros (-point).toNat ++ digits

def scientific (d : Decimal) : List Char :=
  let digits := digitChars d.digits
  let point := digits.length + d.exponent
  let fraction := if digits.length = 1 then [] else '.' :: digits.tail
  digits.take 1 ++ fraction ++ 'e' :: (toString (point - 1)).toList

def signed (negative : Bool) (text : List Char) : String :=
  .ofList (if negative then '-' :: text else text)

/-- Always positional: `0.1`, `1e3` as `1000`, `-0`, `inf`, `NaN`. -/
def plainText : Binary64 → String
  | finite negative m e =>
    signed negative (if m = 0 then ['0'] else positional (shortest .up m e))
  | infinite negative => signed negative ['i', 'n', 'f']
  | nan => "NaN"

/-- Positional from 10^-5 up to 10^16, with at least one digit after the point; with an
exponent elsewhere. -/
def pointedText : Binary64 → String
  | finite negative m e =>
    signed negative <|
      if m = 0 then ['0', '.', '0']
      else
        let d := shortest .even m e
        let point := (digitChars d.digits).length + d.exponent
        if 0 ≤ d.exponent && point ≤ 16 then positional d ++ ['.', '0']
        else if -5 < point && point ≤ 16 then positional d
        else scientific d
  | infinite negative => signed negative ['i', 'n', 'f']
  | nan => "NaN"

end Throughput.Binary64
