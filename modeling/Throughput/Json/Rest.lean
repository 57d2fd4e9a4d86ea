import Throughput.Json.Error

/-! Reading from the front of a text: a result and what is left, which is shorter. -/
namespace Throughput.Json

/-- What is left of a text after something was taken from it. -/
abbrev Rest (s : List Char) := { rest : List Char // rest.length < s.length }

/-- The outcome of taking an `α` from the front of a text. -/
abbrev Taken (α : Type) (s : List Char) := Except Error (α × Rest s)

namespace Rest

def tail (c : Char) (rest : List Char) : Rest (c :: rest) := ⟨rest, by simp⟩

/-- What is left of a rest is left of the whole. -/
def outside {s : List Char} (r : Rest s) (inner : Rest r.val) : Rest s :=
  ⟨inner.val, Nat.lt_trans inner.property r.property⟩

end Rest

def Taken.outside {s : List Char} (r : Rest s) : Taken α r.val → Taken α s
  | .ok (a, inner) => .ok (a, r.outside inner)
  | .error e => .error e

def isBlank (c : Char) : Bool := c == ' ' || c == '\t' || c == '\n' || c == '\r'

def skipBlank (s : List Char) : List Char := s.dropWhile isBlank

theorem skipBlank_length (s : List Char) : (skipBlank s).length ≤ s.length := by
  simp only [skipBlank]
  induction s with
  | nil => simp
  | cons c rest ih =>
    rw [List.dropWhile_cons]
    split
    · exact Nat.le_succ_of_le ih
    · exact Nat.le_refl _

theorem length_lt_of_skipBlank {s : List Char} {c : Char} {rest : List Char}
    (h : skipBlank s = c :: rest) : rest.length < s.length := by
  have shorter := skipBlank_length s
  rwa [h] at shorter

/-- What is left after blanks and the character that follows them. -/
def Rest.afterBlank {s : List Char} {c : Char} {rest : List Char}
    (h : skipBlank s = c :: rest) : Rest s := ⟨rest, length_lt_of_skipBlank h⟩

def Taken.afterBlank {s : List Char} : Taken α (skipBlank s) → Taken α s
  | .ok (a, rest) => .ok (a, ⟨rest.val, Nat.lt_of_lt_of_le rest.property (skipBlank_length s)⟩)
  | .error e => .error e

end Throughput.Json
