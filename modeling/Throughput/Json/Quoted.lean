import Throughput.Json.Rest
import Throughput.Text.Utf8

/-! JSON strings, read from after the opening quote through the closing one. -/
namespace Throughput.Json

def hexDigit? (c : Char) : Option Nat :=
  if '0' ≤ c && c ≤ '9' then some (c.toNat - 48)
  else if 'a' ≤ c && c ≤ 'f' then some (c.toNat - 87)
  else if 'A' ≤ c && c ≤ 'F' then some (c.toNat - 55)
  else none

def hexNumber? (a b c d : Char) : Option Nat :=
  match hexDigit? a, hexDigit? b, hexDigit? c, hexDigit? d with
  | some a, some b, some c, some d => some (((a * 16 + b) * 16 + c) * 16 + d)
  | _, _, _, _ => none

/-- The number of a `\u` escape. The text must go on for four bytes at least. -/
def readUnit (s : List Char) : Taken Nat s :=
  match s with
  | a :: b :: c :: d :: rest =>
    match hexNumber? a b c d with
    | some n => .ok (n, ⟨rest, by simp only [List.length_cons]; omega⟩)
    | none => .error .invalidEscape
  | short => .error (if 4 ≤ Text.byteCount (.ofList short) then .invalidEscape else .endOfText)

def isHighSurrogate (n : Nat) : Bool := 0xd800 ≤ n && n ≤ 0xdbff

def isLowSurrogate (n : Nat) : Bool := 0xdc00 ≤ n && n ≤ 0xdfff

def joinSurrogates (high low : Nat) : Nat := (high - 0xd800) * 0x400 + (low - 0xdc00) + 0x10000

/-- The second half of a surrogate pair, which must follow as an escape of its own. -/
def readLowSurrogate (high : Nat) (s : List Char) : Taken Char s :=
  match s with
  | '\\' :: 'u' :: rest =>
    match readUnit rest with
    | .ok (low, r) =>
      if isLowSurrogate low then
        .ok (.ofNat (joinSurrogates high low), ⟨r.val, by
          have := r.property; simp only [List.length_cons]; omega⟩)
      else .error .loneSurrogate
    | .error e => .error e
  | [] => .error .endOfText
  | ['\\'] => .error .endOfText
  | _ => .error .endOfEscape

/-- The character of a `\u` escape, or of two that make a pair. -/
def readUnicode (s : List Char) : Taken Char s :=
  match readUnit s with
  | .ok (n, r) =>
    if isLowSurrogate n then .error .loneSurrogate
    else if isHighSurrogate n then (readLowSurrogate n r.val).outside r
    else .ok (.ofNat n, r)
  | .error e => .error e

def plainEscape? (c : Char) : Option Char :=
  if c = '"' || c = '\\' || c = '/' then some c
  else if c = 'b' then some '\x08'
  else if c = 'f' then some '\x0c'
  else if c = 'n' then some '\n'
  else if c = 'r' then some '\r'
  else if c = 't' then some '\t'
  else none

/-- The character of an escape, read from after the backslash. -/
def readEscape (s : List Char) : Taken Char s :=
  match s with
  | [] => .error .endOfText
  | c :: rest =>
    if c = 'u' then (readUnicode rest).outside (.tail c rest)
    else match plainEscape? c with
      | some d => .ok (d, .tail c rest)
      | none => .error .invalidEscape

def readChars (s : List Char) : Taken (List Char) s :=
  match s with
  | [] => .error .endOfText
  | c :: rest =>
    if c = '"' then .ok ([], .tail c rest)
    else if c = '\\' then
      match readEscape rest with
      | .error e => .error e
      | .ok (d, r) =>
        match readChars r.val with
        | .error e => .error e
        | .ok (cs, last) => .ok (d :: cs, (Rest.tail c rest).outside (r.outside last))
    else if c < ' ' then .error .controlCharacter
    else
      match readChars rest with
      | .error e => .error e
      | .ok (cs, last) => .ok (c :: cs, (Rest.tail c rest).outside last)
termination_by s.length
decreasing_by
  · have := r.property; simp only [List.length_cons]; omega
  · simp

def readText (s : List Char) : Taken String s :=
  match readChars s with
  | .ok (cs, r) => .ok (.ofList cs, r)
  | .error e => .error e

/-- Passes over an escape: its form is checked, not what it stands for. -/
def skipEscape (s : List Char) : Except Error (Rest s) :=
  match s with
  | [] => .error .endOfText
  | c :: rest =>
    if c = 'u' then
      match readUnit rest with
      | .ok (_, r) => .ok ((Rest.tail c rest).outside r)
      | .error e => .error e
    else if (plainEscape? c).isSome then .ok (.tail c rest)
    else .error .invalidEscape

def skipText (s : List Char) : Except Error (Rest s) :=
  match s with
  | [] => .error .endOfText
  | c :: rest =>
    if c = '"' then .ok (.tail c rest)
    else if c = '\\' then
      match skipEscape rest with
      | .error e => .error e
      | .ok r =>
        match skipText r.val with
        | .error e => .error e
        | .ok last => .ok ((Rest.tail c rest).outside (r.outside last))
    else if c < ' ' then .error .controlCharacter
    else
      match skipText rest with
      | .error e => .error e
      | .ok last => .ok ((Rest.tail c rest).outside last)
termination_by s.length
decreasing_by
  · have := r.property; simp only [List.length_cons]; omega
  · simp

end Throughput.Json
