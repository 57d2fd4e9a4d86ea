import Throughput.Text.CaseTable

/-! Text in lower case. -/
namespace Throughput.Text

/-- The lower case of a character on its own. The dotted capital I keeps its dot. -/
def lowerChar (c : Char) : List Char :=
  if c.toNat = 0x130 then ['i', '\u0307']
  else
    match lowerRuns.find? c with
    | some run => (run.shifted c.toNat).map .ofNat
    | none => [c]

def meetsLetter (cs : List Char) : Bool :=
  ((cs.dropWhile caseIgnorable.contains).head?.map cased.contains).getD false

/-- A capital sigma at the end of a word has a form of its own. -/
def lowerSigma (before after : List Char) : Char :=
  if meetsLetter before && !meetsLetter after then 'ς' else 'σ'

/-- The lower case of what follows; what comes before is given backwards. -/
def lowerChars (before : List Char) : List Char → List Char
  | [] => []
  | c :: rest =>
    (if c = 'Σ' then [lowerSigma before rest] else lowerChar c) ++ lowerChars (c :: before) rest

def lower (s : String) : String := .ofList (lowerChars [] s.toList)

end Throughput.Text
