import Mathlib.Data.List.Infix
import Throughput.Proofs.Der.Cursor

/-! The offsets of errors against the places they are about. Inside a SEQUENCE positions are
reported from its tag though the content starts after its header, so an offset falls short by
the headers of all SEQUENCEs that are open. -/
namespace Throughput.Der

def Error.offset? : Error → Option Nat
  | unexpectedEnd offset => some offset
  | unexpectedTag _ _ offset => some offset
  | unsupportedLength _ => none
  | emptyInteger offset => some offset

/-- The tag and the length field. -/
def Part.header (p : Part) : Bytes := sequenceTag :: p.field

theorem Part.length_header (p : Part) : 2 ≤ p.header.length ∧ p.header.length ≤ 6 := by
  have field := p.announced.length_bounds
  rw [header, List.length_cons]
  omega

namespace Readers

/-- Where the data of the innermost reader starts in the input: each content lies at the end of
what the reader around it has read. -/
def start : Readers → Nat
  | inner :: outer :: rest => start (outer :: rest) + (outer.pos - inner.data.length)
  | _ => 0

/-- The size of the headers of open SEQUENCEs. -/
def headers (parts : List Part) : Nat := (parts.map fun p => p.header.length).sum

theorem headers_bounds (parts : List Part) :
    2 * parts.length ≤ headers parts ∧ headers parts ≤ 6 * parts.length := by
  induction parts with
  | nil => decide
  | cons p rest ih =>
    obtain ⟨least, most⟩ := p.length_header
    rw [headers, List.map_cons, List.sum_cons, List.length_cons]
    rw [headers] at ih
    omega

/-- An error of the innermost reader is about a place in the input. -/
inductive About (input : Bytes) : Readers → Error → Nat → Prop
  | ended {r : Reader} {outer : Readers} {offset : Nat} :
      About input (r :: outer) (.unexpectedEnd offset) (start (r :: outer) + r.data.length)
  | tag {r : Reader} {outer : Readers} {expected found : UInt8} {offset : Nat}
      (there : input[start (r :: outer) + r.pos]? = some found) (other : found ≠ expected) :
      About input (r :: outer) (.unexpectedTag expected found offset) (start (r :: outer) + r.pos)
  | empty {r : Reader} {outer : Readers} {field : Bytes} {offset : Nat}
      (there : integerTag :: field <+: input.drop (start (r :: outer) + r.pos))
      (nothing : LengthField 0 field) :
      About input (r :: outer) (.emptyInteger offset) (start (r :: outer) + r.pos)

namespace Nested

variable {input : Bytes} {rs : Readers} {r : Reader} {outer : Readers} {parts : List Part}

/-- What a content starts after: all that was read before it, and its header. -/
theorem start_inside {s : Reader} {p : Part} {front : Bytes} (within : s.pos ≤ s.data.length)
    (read : s.data.take s.pos = front ++ p.bytes sequenceTag) (content : r.data = p.content) :
    s.pos - r.data.length = front.length + p.header.length := by
  have sizes := congrArg List.length read
  rw [List.length_take_of_le within, List.length_append, Part.length_bytes] at sizes
  rw [sizes, content, Part.header, List.length_cons]
  omega

/-- The data of a reader is found in the input where it starts. -/
theorem data_isPrefix (nested : Nested input (r :: outer) parts) :
    r.data <+: input.drop (start (r :: outer)) := by
  generalize readers : r :: outer = rs at nested
  induction nested generalizing r outer with
  | outermost whole _ _ =>
    cases readers
    rw [whole]
    exact List.prefix_rfl
  | inside around read content base within ih =>
    rename_i r s outer p others front
    cases readers
    have prior := ih rfl
    have ends := start_inside around.within read content
    have here : p.content <+: s.data.drop (front.length + p.header.length) := by
      have inside : front ++ p.header ++ p.content <+: s.data := by
        rw [List.append_assoc]
        exact read ▸ List.take_prefix s.pos s.data
      obtain ⟨tail, whole⟩ := inside
      rw [← whole, List.append_assoc, ← List.length_append, List.drop_left]
      exact List.prefix_append _ _
    rw [start, ends, ← List.drop_drop, content]
    exact here.trans (prior.drop _)

theorem start_eq (nested : Nested input (r :: outer) parts) :
    start (r :: outer) = r.base + headers parts := by
  generalize readers : r :: outer = rs at nested
  induction nested generalizing r outer with
  | outermost _ base _ =>
    cases readers
    rw [base]
    rfl
  | inside around read content base within ih =>
    rename_i r s outer p others front
    cases readers
    rw [start, ih rfl, start_inside around.within read content, base, headers, headers,
      List.map_cons, List.sum_cons]
    omega

theorem length_eq (nested : Nested input (r :: outer) parts) : parts.length = outer.length := by
  generalize readers : r :: outer = rs at nested
  induction nested generalizing r outer with
  | outermost =>
    cases readers
    rfl
  | inside _ _ _ _ _ ih =>
    cases readers
    exact congrArg (· + 1) (ih rfl)

end Nested

section

variable {input : Bytes} {r : Reader} {outer : Readers} {parts : List Part} {e : Error}
  (nested : Nested input (r :: outer) parts)
include nested

/-- What a reader finds next stands at its place in the input. -/
theorem rest_isPrefix : r.rest <+: input.drop (start (r :: outer) + r.pos) := by
  rw [Reader.rest, ← List.drop_drop]
  exact nested.data_isPrefix.drop _

theorem endOffset_short : r.endOffset + headers parts = start (r :: outer) + r.data.length := by
  rw [nested.start_eq, Reader.endOffset]
  omega

theorem offset_short : r.offset + headers parts = start (r :: outer) + r.pos := by
  rw [nested.start_eq, Reader.offset]
  omega

/-- What an error tells of a place, and by how much its offset falls short. -/
theorem ended_short : ∃ place, About input (r :: outer) (.unexpectedEnd r.endOffset) place ∧
    r.endOffset + headers parts = place :=
  ⟨_, .ended, endOffset_short nested⟩

theorem stops_short {tag : UInt8} {consumed : Bytes} (stops : r.Stops tag e consumed) :
    ∀ offset, e.offset? = some offset →
      ∃ place, About input (r :: outer) e place ∧ offset + headers parts = place := by
  intro offset told
  cases stops with
  | atEnd =>
    cases told
    exact ended_short nested
  | otherTag next other =>
    cases told
    have there := List.prefix_iff_getElem?.mp (rest_isPrefix nested) 0 (by simp [next])
    simp only [next, List.getElem_cons_zero, List.getElem?_drop, Nat.add_zero] at there
    exact ⟨_, .tag there other, offset_short nested⟩
  | inLength next stops =>
    have ends : (r.skip 1).endOffset = r.endOffset := rfl
    cases stops with
    | unsupported => cases told
    | atEnd =>
      cases told
      exact ends ▸ ended_short nested
    | cut =>
      cases told
      exact ends ▸ ended_short nested
  | truncated =>
    cases told
    exact ended_short nested

theorem integerStops_short {consumed : Bytes} (stops : r.IntegerStops e consumed) :
    ∀ offset, e.offset? = some offset →
      ∃ place, About input (r :: outer) e place ∧ offset + headers parts = place := by
  cases stops with
  | element stops => exact stops_short nested stops
  | empty next valid =>
    rintro offset ⟨⟩
    have there := rest_isPrefix nested
    rw [next] at there
    exact ⟨_, .empty ((List.prefix_append _ _).trans there) valid, offset_short nested⟩

end

/-- How an error's offset is told by readers over an input: it is that of a place which fits
the error, less the headers of the SEQUENCEs that are open. -/
structure FallsShort (input : Bytes) (rs : Readers) (e : Error) (parts : List Part) : Prop where
  nested : Nested input rs parts
  there : ∀ r ∈ rs.head?, r.data <+: input.drop (start rs)
  place : ∀ offset, e.offset? = some offset →
    ∃ place, About input rs e place ∧ offset + headers parts = place
  /-- Two bytes at least, and six at most, are missing for each SEQUENCE. -/
  missing : 2 * (rs.length - 1) ≤ headers parts ∧ headers parts ≤ 6 * (rs.length - 1)

/-- Only the outermost reader reports where an error is. -/
theorem offsets_fall_short (input : Bytes) (steps : List Step) (a : Step) (e : Error)
    (failed : ((run steps [.ofBytes input]).step a).1 = .error e) :
    ∃ parts, FallsShort input (run steps [.ofBytes input]) e parts := by
  obtain ⟨⟨parts, nested⟩, -⟩ := (nested_ofBytes input).runs steps
  obtain ⟨r, outer, readers⟩ := nested.exists_cons
  rw [readers] at nested failed ⊢
  obtain ⟨passed, moves⟩ := step_moves nested.within outer a
  have size : parts.length = (r :: outer).length - 1 := nested.length_eq
  have place : ∀ offset, e.offset? = some offset →
      ∃ place, About input (r :: outer) e place ∧ offset + headers parts = place := by
    rw [failed] at moves
    generalize (step (r :: outer) a).2 = next at moves
    cases moves with
    | noInteger stops => exact integerStops_short nested stops
    | noSequence stops => exact stops_short nested stops
  exact ⟨parts, nested, by simpa using nested.data_isPrefix, place, size ▸ headers_bounds parts⟩

/-- An empty INTEGER inside of two SEQUENCEs, whose headers have five bytes together. -/
theorem offsets_fall_short_of_two_sequences :
    let input : Bytes := [0x30, 0x81, 0x08, 0x30, 0x06, 0x02, 0x02, 0x01, 0x02, 0x02, 0x00]
    let steps : List Step := [.sequence, .sequence, .integer]
    ((run steps [.ofBytes input]).step .integer).1 = .error (.emptyInteger 4) ∧
      About input (run steps [.ofBytes input]) (.emptyInteger 4) 9 ∧
      ∃ parts, FallsShort input (run steps [.ofBytes input]) (.emptyInteger 4) parts ∧
        4 + headers parts = 9 := by
  intro input steps
  have failed : ((run steps [.ofBytes input]).step .integer).1 = .error (.emptyInteger 4) := by
    decide
  obtain ⟨parts, short⟩ := offsets_fall_short input steps .integer _ failed
  obtain ⟨place, about, sum⟩ := short.place 4 rfl
  have nine : place = 9 := by
    cases about with
    | empty there nothing => rfl
  exact ⟨failed, nine ▸ about, parts, short, nine ▸ sum⟩

/-- The tag that is not an INTEGER's is at 2, and the error says 0, which is the SEQUENCE's. -/
theorem offset_of_enclosing_tag :
    ¬ ∀ (input : Bytes) (steps : List Step) (a : Step) (e : Error) (offset place : Nat),
      ((run steps [.ofBytes input]).step a).1 = .error e → e.offset? = some offset →
      About input (run steps [.ofBytes input]) e place → offset = place := by
  intro exact_
  have about : About [0x30, 0x03, 0x04, 0x01, 0x00]
      (run [.sequence] [.ofBytes [0x30, 0x03, 0x04, 0x01, 0x00]]) (.unexpectedTag 0x02 0x04 0) 2 :=
    .tag rfl (by decide)
  exact absurd (exact_ _ [.sequence] .integer _ 0 2 (by decide) rfl about) (by decide)

end Readers
end Throughput.Der
