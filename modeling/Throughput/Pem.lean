import Throughput.Base64
import Throughput.Text.Quoted
import Throughput.Text.Utf8

/-! Sections of PEM text. A BEGIN line opens a section or renames the open one, the END
line of its label closes it, and the lines between are the base64 of its content.
Text outside sections is skipped. -/
namespace Throughput.Pem

structure Section where
  label : List Char
  content : Bytes
  deriving DecidableEq, Repr

inductive Error where
  | illegalStart (line : List Char)
  | base64 (cause : Base64.Error)
  | missingEnd (label : List Char)
  deriving DecidableEq, Repr

def beginMark : List Char := "-----BEGIN ".toList

def endMark (label : List Char) : List Char := "-----END ".toList ++ label ++ "-----".toList

def Error.message : Error → String
  | illegalStart line => s!"illegal section start: {Text.quote (.ofList line)}"
  | base64 e => e.lenientMessage
  | missingEnd label => s!"section end {Text.quote (.ofList (endMark label))} missing"

def isLineEnd (c : Char) : Bool := c == '\n' || c == '\r'

def isFiller (c : Char) : Bool := isLineEnd c || c == ' '

/-- Lines with their ends; a line feed and a carriage return each end a line. -/
def lines : List Char → List (List Char)
  | [] => []
  | c :: rest =>
    if isLineEnd c then [c] :: lines rest
    else match lines rest with
      | [] => [[c]]
      | line :: more => (c :: line) :: more

/-- From the end of a line: how many dashes come before any character but filler, and
what stands before the first of them, both read backwards. -/
def trailer (count : Nat) (before : List Char) : List Char → Nat × List Char
  | [] => (count, before)
  | c :: rest =>
    if c = '-' then trailer (count + 1) rest rest
    else if isFiller c then trailer count before rest
    else (count, before)

/-- The label of a BEGIN line, which ends in exactly five dashes. -/
def label? (line : List Char) : Option (List Char) :=
  let (count, before) := trailer 0 line.reverse line.reverse
  if count = 5 then some (before.reverse.drop beginMark.length) else none

def strip (line : List Char) : List Char := (line.reverse.dropWhile isFiller).reverse

/-- The sections of the remaining lines, inside the section `open?` whose lines so far
are `body`, or outside of any. -/
def readLines (open? : Option (List Char)) (body : List Char) :
    List (List Char) → Except Error (List Section)
  | [] =>
    match open? with
    | none => .ok []
    | some label => .error (.missingEnd label)
  | line :: rest =>
    if beginMark.isPrefixOf line then
      match label? line with
      | some label => readLines (some label) body rest
      | none => .error (.illegalStart line)
    else match open? with
      | none => readLines none body rest
      | some label =>
        if (endMark label).isPrefixOf line then
          match Base64.decodeLenient (Text.utf8 (.ofList body)) with
          | .error e => .error (.base64 e)
          | .ok content =>
            match readLines none [] rest with
            | .error e => .error e
            | .ok sections => .ok (⟨label, content⟩ :: sections)
        else readLines (some label) (body ++ strip line) rest

def sections (text : String) : Except Error (List Section) :=
  readLines none [] (lines text.toList)

def certificates (text : String) : Except Error (List Bytes) :=
  match sections text with
  | .error e => .error e
  | .ok found =>
    .ok ((found.filter fun s => s.label = "CERTIFICATE".toList).map Section.content)

end Throughput.Pem
