import Throughput.Bytes

/-! UTF-8: the bytes of a text, and the text of bytes that may be malformed. -/
namespace Throughput.Text

def utf8 (s : String) : Bytes := s.toList.flatMap String.utf8EncodeChar

def byteCount (s : String) : Nat := (utf8 s).length

/-- Stands for bytes that spell no character. -/
def replacement : Char := '\uFFFD'

private def within (lo hi b : UInt8) : Bool := lo ≤ b && b ≤ hi

private def low6 (b : UInt8) : Nat := (b &&& 0x3f).toNat

/-- The bytes that may follow a lead byte: how many, and the range of the first. -/
def continuation (lead : UInt8) : Option (Nat × UInt8 × UInt8) :=
  if within 0xc2 0xdf lead then some (1, 0x80, 0xbf)
  else if lead == 0xe0 then some (2, 0xa0, 0xbf)
  else if lead == 0xed then some (2, 0x80, 0x9f)
  else if within 0xe1 0xef lead then some (2, 0x80, 0xbf)
  else if lead == 0xf0 then some (3, 0x90, 0xbf)
  else if within 0xf1 0xf3 lead then some (3, 0x80, 0xbf)
  else if lead == 0xf4 then some (3, 0x80, 0x8f)
  else none

/-- Up to `count` continuation bytes, the first in its range: their bits added to
`value`, whether all were there, and the rest. -/
def follow : Nat → UInt8 → UInt8 → Nat → Bytes → Nat × Bool × Bytes
  | 0, _, _, value, rest => (value, true, rest)
  | _ + 1, _, _, value, [] => (value, false, [])
  | count + 1, lo, hi, value, b :: rest =>
    if within lo hi b then follow count 0x80 0xbf (value * 64 + low6 b) rest
    else (value, false, b :: rest)

theorem follow_length (count : Nat) (lo hi : UInt8) (value : Nat) (bytes : Bytes) :
    (follow count lo hi value bytes).2.2.length ≤ bytes.length := by
  fun_induction follow count lo hi value bytes with
  | case1 => simp
  | case2 => simp
  | case3 count lo hi value b rest h ih => simp only [List.length_cons]; omega
  | case4 => simp

/-- The first character, or `none` for the longest malformed start of one. -/
def nextChar (lead : UInt8) (rest : Bytes) : Option Char × Bytes :=
  if lead < 0x80 then (some (.ofNat lead.toNat), rest)
  else match continuation lead with
    | none => (none, rest)
    | some (count, lo, hi) =>
      match follow count lo hi (lead.toNat % Nat.pow 2 (6 - count)) rest with
      | (value, true, rest) => (some (.ofNat value), rest)
      | (_, false, rest) => (none, rest)

theorem nextChar_length (lead : UInt8) (rest : Bytes) :
    (nextChar lead rest).2.length ≤ rest.length := by
  unfold nextChar
  split
  · simp
  · split
    · simp
    · rename_i count lo hi _
      have h := follow_length count lo hi (lead.toNat % Nat.pow 2 (6 - count)) rest
      split <;> simp_all

/-- Every character, with `none` where bytes are malformed. -/
def decode : Bytes → List (Option Char)
  | [] => []
  | lead :: rest =>
    let next := nextChar lead rest
    next.1 :: decode next.2
termination_by bytes => bytes.length
decreasing_by
  have := nextChar_length lead rest
  simp only [List.length_cons]
  omega

def ofUtf8? (bytes : Bytes) : Option String :=
  ((decode bytes).mapM id).map .ofList

def ofUtf8Lossy (bytes : Bytes) : String :=
  .ofList ((decode bytes).map fun c => c.getD replacement)

/-- As a received document: a leading byte order mark is not part of the text. -/
def ofDocument (bytes : Bytes) : String :=
  match bytes with
  | 0xef :: 0xbb :: 0xbf :: rest => ofUtf8Lossy rest
  | bytes => ofUtf8Lossy bytes

end Throughput.Text
