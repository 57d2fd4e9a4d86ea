import Throughput.Json.Scalar

/-! Passing over a value whose content does not matter. Its form is checked, but not how
deep it goes, which characters escapes stand for, or how large numbers are. -/
namespace Throughput.Json

def skipScalar (s : List Char) : Except Error (Rest s) :=
  match s with
  | [] => .error .endOfValue
  | c :: rest =>
    if c = '"' then
      match skipText rest with
      | .ok r => .ok ((Rest.tail c rest).outside r)
      | .error e => .error e
    else if c = '-' || Text.isDigit c then
      match readNumeral .invalidNumber (c :: rest) with
      | .ok (_, r) => .ok r
      | .error e => .error e
    else
      match readScalar (c :: rest) with
      | .ok (_, r) => .ok r
      | .error e => .error e

/-- Passes over a name and the colon after it. A quote must come first. -/
def skipName (s : List Char) : Except Error (Rest s) :=
  match h : skipBlank s with
  | [] => .error .endOfObject
  | c :: rest =>
    if c = '"' then
      match skipText rest with
      | .error e => .error e
      | .ok r =>
        match h' : skipBlank r.val with
        | [] => .error .endOfObject
        | d :: _ =>
          if d = ':' then .ok ((Rest.afterBlank h).outside (r.outside (.afterBlank h')))
          else .error .expectedColon
    else .error .keyNotText

mutual

def skipValue (s : List Char) : Except Error (Rest s) :=
  match h : skipBlank s with
  | [] => .error .endOfValue
  | c :: rest =>
    if c = '[' then
      match skipItems true rest with
      | .ok last => .ok ((Rest.afterBlank h).outside last)
      | .error e => .error e
    else if c = Text.openBrace then
      match skipMembers true rest with
      | .ok last => .ok ((Rest.afterBlank h).outside last)
      | .error e => .error e
    else
      match skipScalar (c :: rest) with
      | .ok r => .ok ⟨r.val, by
          have := r.property; have := (Rest.afterBlank h).property
          have := skipBlank_length s; rw [h] at this; simp only [List.length_cons] at *; omega⟩
      | .error e => .error e
termination_by (s.length, 0)
decreasing_by all_goals
  have := (Rest.afterBlank h).property
  exact Prod.Lex.left _ _ this

def skipItems (first : Bool) (s : List Char) : Except Error (Rest s) :=
  match h : skipBlank s with
  | [] => .error .endOfList
  | c :: rest =>
    if c = ']' then .ok (.afterBlank h)
    else if first then
      match skipValue s with
      | .error e => .error e
      | .ok r =>
        match skipItems false r.val with
        | .ok last => .ok (r.outside last)
        | .error e => .error e
    else if c = ',' then
      match skipValue rest with
      | .error e => .error e
      | .ok r =>
        match skipItems false r.val with
        | .ok last => .ok ((Rest.afterBlank h).outside (r.outside last))
        | .error e => .error e
    else .error .expectedListEnd
termination_by (s.length, 1)
decreasing_by
  · exact Prod.Lex.right _ (by decide)
  · exact Prod.Lex.left _ _ r.property
  · exact Prod.Lex.left _ _ (Rest.afterBlank h).property
  · exact Prod.Lex.left _ _ ((Rest.afterBlank h).outside r).property

def skipMembers (first : Bool) (s : List Char) : Except Error (Rest s) :=
  match h : skipBlank s with
  | [] => .error .endOfObject
  | c :: rest =>
    if c = Text.closeBrace then .ok (.afterBlank h)
    else if first then
      match skipName s with
      | .error e => .error e
      | .ok name =>
        match skipValue name.val with
        | .error e => .error e
        | .ok r =>
          match skipMembers false r.val with
          | .ok last => .ok (name.outside (r.outside last))
          | .error e => .error e
    else if c = ',' then
      match skipName rest with
      | .error e => .error e
      | .ok name =>
        match skipValue name.val with
        | .error e => .error e
        | .ok r =>
          match skipMembers false r.val with
          | .ok last => .ok ((Rest.afterBlank h).outside (name.outside (r.outside last)))
          | .error e => .error e
    else .error .expectedObjectEnd
termination_by (s.length, 1)
decreasing_by
  · exact Prod.Lex.left _ _ name.property
  · exact Prod.Lex.left _ _ (name.outside r).property
  · exact Prod.Lex.left _ _ ((Rest.afterBlank h).outside name).property
  · exact Prod.Lex.left _ _ ((Rest.afterBlank h).outside (name.outside r)).property

end

end Throughput.Json
