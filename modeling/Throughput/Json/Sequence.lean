import Throughput.Json.Quoted

/-! The punctuation of lists and objects, read from after the opening bracket through
the closing one. -/
namespace Throughput.Json

/-- The next item of a list starts at a place, or the list ends. -/
inductive NextItem (s : List Char) where
  | done (rest : Rest s)
  | item (start : { t : List Char // t.length ≤ s.length })

def nextItem (first : Bool) (s : List Char) : Except Error (NextItem s) :=
  match h : skipBlank s with
  | [] => .error .endOfList
  | c :: rest =>
    if c = ']' then .ok (.done (.afterBlank h))
    else if first then .ok (.item ⟨skipBlank s, skipBlank_length s⟩)
    else if c = ',' then
      match skipBlank rest with
      | [] => .error .endOfValue
      | ']' :: _ => .error .trailingComma
      | _ => .ok (.item ⟨rest, Nat.le_of_lt (Rest.afterBlank h).property⟩)
    else .error .expectedListEnd

def readItems (read : (s : List Char) → Taken α s) (first : Bool) (s : List Char) :
    Taken (List α) s :=
  match nextItem first s with
  | .error e => .error e
  | .ok (.done rest) => .ok ([], rest)
  | .ok (.item start) =>
    match read start.val with
    | .error e => .error e
    | .ok (a, r) =>
      match readItems read false r.val with
      | .error e => .error e
      | .ok (items, last) => .ok (a :: items, ⟨last.val, by
          have := start.property; have := r.property; have := last.property; omega⟩)
termination_by s.length
decreasing_by have := start.property; have := r.property; omega

inductive NextMember (s : List Char) where
  | done (rest : Rest s)
  | member (name : String) (rest : Rest s)

def NextMember.named {s : List Char} (r : Rest s) : Except Error (NextMember s) :=
  match readText r.val with
  | .ok (name, last) => .ok (.member name (r.outside last))
  | .error e => .error e

def nextMember (first : Bool) (s : List Char) : Except Error (NextMember s) :=
  match h : skipBlank s with
  | [] => .error .endOfObject
  | c :: rest =>
    if c = Text.closeBrace then .ok (.done (.afterBlank h))
    else if first then
      if c = '"' then NextMember.named (.afterBlank h) else .error .keyNotText
    else if c = ',' then
      match h' : skipBlank rest with
      | [] => .error .endOfValue
      | d :: _ =>
        if d = '"' then NextMember.named ((Rest.afterBlank h).outside (.afterBlank h'))
        else .error (if d = Text.closeBrace then .trailingComma else .keyNotText)
    else .error .expectedObjectEnd

def readColon (s : List Char) : Except Error (Rest s) :=
  match h : skipBlank s with
  | [] => .error .endOfObject
  | c :: _ => if c = ':' then .ok (.afterBlank h) else .error .expectedColon

/-- The members of an object; `step` reads from after a name and adds to what was read. -/
def readMembers (step : σ → String → (s : List Char) → Taken σ s) (state : σ) (first : Bool)
    (s : List Char) : Taken σ s :=
  match nextMember first s with
  | .error e => .error e
  | .ok (.done rest) => .ok (state, rest)
  | .ok (.member name r) =>
    match step state name r.val with
    | .error e => .error e
    | .ok (state, inner) =>
      match readMembers step state false inner.val with
      | .error e => .error e
      | .ok (state, last) => .ok (state, r.outside (inner.outside last))
termination_by s.length
decreasing_by have := r.property; have := inner.property; omega

end Throughput.Json
