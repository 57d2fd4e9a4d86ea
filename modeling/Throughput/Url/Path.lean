import Throughput.Url.Percent

/-! Paths of segments. Segments of dots are resolved while a path is read. -/
namespace Throughput.Url

def isEncodedDot (a b c : Char) : Bool := a == '%' && b == '2' && (c == 'e' || c == 'E')

/-- One dot, which may be encoded. -/
def isSingleDot : List Char → Bool
  | ['.'] => true
  | [a, b, c] => isEncodedDot a b c
  | _ => false

/-- Two dots, each of which may be encoded. -/
def isDoubleDot : List Char → Bool
  | ['.', '.'] => true
  | ['.', a, b, c] => isEncodedDot a b c
  | [a, b, c, '.'] => isEncodedDot a b c
  | [a, b, c, d, e, f] => isEncodedDot a b c && isEncodedDot d e f
  | _ => false

def isDrive : List Char → Bool
  | [c, d] => c.isAlpha && (d == ':' || d == '|')
  | _ => false

/-- Without its last segment; a file's path keeps the drive it starts with. -/
def dropSegment (file : Bool) (segments : List (List Char)) : List (List Char) :=
  match segments with
  | [segment] => if file && isDrive segment then segments else []
  | segments => segments.dropLast

/-- A segment added to those before it; after dots at the end comes an empty one. -/
def addSegment (file : Bool) (before : List (List Char)) (last : Bool) (segment : List Char) :
    List (List Char) :=
  let ending := if last then [[]] else []
  if isDoubleDot segment then dropSegment file before ++ ending
  else if isSingleDot segment then before ++ ending
  else if file && before.isEmpty && isDrive segment then before ++ [[segment.headD 'c', ':']]
  else before ++ [segment]

def addSegments (file : Bool) (before : List (List Char)) : List (List Char) → List (List Char)
  | [] => before
  | [segment] => addSegment file before true segment
  | segment :: rest => addSegments file (addSegment file before false segment) rest

def splitSegments (isSeparator : Char → Bool) (cs : List Char) : List (List Char) :=
  cs.splitOnP isSeparator

/-- A file's path does not start with empty segments. -/
def dropEmptyFront : List (List Char) → List (List Char)
  | [] => []
  | [segment] => [segment]
  | [] :: rest => dropEmptyFront rest
  | segments => segments

def renderPath (segments : List (List Char)) : List Char := segments.flatMap ('/' :: ·)

end Throughput.Url
