import Mathlib.Data.List.Chain
import Throughput.Proofs.Der.Stop

/-! Steps on a stack of readers. Whatever is read and however reads fail, cursors stay in
their data, every nested content ends where the reader around it stands, and each byte of
the input is passed over once or is still to be read. -/
namespace Throughput.Der

/-- What was read grows by what is read next. -/
theorem Reader.Advances.take_pos {r s : Reader} {bytes : Bytes} (reading : r.Advances bytes s) :
    s.data.take s.pos = r.data.take r.pos ++ bytes := by
  have next : (r.data.drop r.pos).take bytes.length = bytes := by
    change r.rest.take bytes.length = bytes
    rw [reading.taken, List.take_left]
  rw [reading.next, Reader.skip, List.take_add, next]

namespace Readers

/-- The bytes that are still to be read, from the innermost content outwards. -/
def unread (rs : Readers) : Bytes := rs.flatMap Reader.rest

def run (steps : List Step) (rs : Readers) : Readers := steps.foldl (fun rs a => (rs.step a).2) rs

/-- What each of the steps answers. -/
def answers : List Step → Readers → List (Except Error Found)
  | [], _ => []
  | a :: rest, rs => (rs.step a).1 :: answers rest (rs.step a).2

/-- The fewest bytes that an answer can take: three for an INTEGER, two for a SEQUENCE before
its content. -/
def least : Except Error Found → Nat
  | .ok (.integer _) => 3
  | .ok (.content _) => 2
  | _ => 0

/-- Everything that one step can do: its answer, the bytes that it passes over, and the
readers after it. -/
inductive Moves : Readers → Step → Except Error Found → Bytes → Readers → Prop
  | integer {r s : Reader} {outer : Readers} {p : Part} (some : p.content ≠ [])
      (reading : r.Advances (p.bytes integerTag) s) (size : 3 ≤ (p.bytes integerTag).length) :
      Moves (r :: outer) .integer (.ok (.integer (.ofSigned p.content))) (p.bytes integerTag)
        (s :: outer)
  | sequence {r s : Reader} {outer : Readers} {p : Part}
      (reading : r.Advances (p.bytes sequenceTag) s) (size : 2 ≤ (sequenceTag :: p.field).length) :
      Moves (r :: outer) .sequence (.ok (.content p.content.length)) (sequenceTag :: p.field)
        (⟨p.content, 0, r.offset⟩ :: s :: outer)
  | noInteger {r s : Reader} {outer : Readers} {e : Error} {consumed : Bytes}
      (stops : r.IntegerStops e consumed) (reading : r.Advances consumed s) :
      Moves (r :: outer) .integer (.error e) consumed (s :: outer)
  | noSequence {r s : Reader} {outer : Readers} {e : Error} {consumed : Bytes}
      (stops : r.Stops sequenceTag e consumed) (reading : r.Advances consumed s) :
      Moves (r :: outer) .sequence (.error e) consumed (s :: outer)
  | up {inner r : Reader} {outer : Readers} :
      Moves (inner :: r :: outer) .up (.ok .nothing) inner.rest (r :: outer)
  | stay {r : Reader} : Moves [r] .up (.ok .nothing) [] [r]

/-- Steps one after the other, with what each answers and passes over. -/
inductive Runs : Readers → List Step → List (Except Error Found) → List Bytes → Readers → Prop
  | done {rs : Readers} : Runs rs [] [] [] rs
  | more {rs next last : Readers} {a : Step} {rest : List Step} {answer : Except Error Found}
      {answers : List (Except Error Found)} {passed : Bytes} {later : List Bytes} :
      Moves rs a answer passed next → Runs next rest answers later last →
      Runs rs (a :: rest) (answer :: answers) (passed :: later) last

/-- Readers over an input and the SEQUENCEs that are open, the innermost in front. Each
content is the end of what the reader around it has read, and reports from the tag. -/
inductive Nested (input : Bytes) : Readers → List Part → Prop
  | outermost {r : Reader} (whole : r.data = input) (base : r.base = 0)
      (within : r.pos ≤ r.data.length) : Nested input [r] []
  | inside {r s : Reader} {outer : Readers} {p : Part} {others : List Part} {front : Bytes}
      (around : Nested input (s :: outer) others)
      (read : s.data.take s.pos = front ++ p.bytes sequenceTag) (content : r.data = p.content)
      (base : r.base = s.base + front.length) (within : r.pos ≤ r.data.length) :
      Nested input (r :: s :: outer) (p :: others)

theorem nested_ofBytes (input : Bytes) : Nested input [.ofBytes input] [] :=
  .outermost rfl rfl (Nat.zero_le _)

namespace Nested

variable {input : Bytes} {rs : Readers} {r s : Reader} {outer : Readers} {parts : List Part}

theorem within (nested : Nested input (r :: outer) parts) : r.pos ≤ r.data.length := by
  cases nested with
  | outermost _ _ within => exact within
  | inside _ _ _ _ within => exact within

/-- The innermost reader may go on. -/
theorem advance (nested : Nested input (r :: outer) parts) {bytes : Bytes}
    (reading : r.Advances bytes s) : Nested input (s :: outer) parts := by
  have within := reading.within
  obtain rfl := reading.next
  cases nested with
  | outermost whole base _ => exact .outermost whole base within
  | inside around read content base _ => exact .inside around read content base within

/-- What one step does to the readers of an input leaves readers of that input. -/
theorem moves {rs next : Readers} {a : Step} {answer : Except Error Found} {passed : Bytes}
    (nested : Nested input rs parts) (moves : Moves rs a answer passed next) :
    ∃ parts, Nested input next parts := by
  cases moves with
  | integer _ reading _ => exact ⟨parts, nested.advance reading⟩
  | noInteger _ reading => exact ⟨parts, nested.advance reading⟩
  | noSequence _ reading => exact ⟨parts, nested.advance reading⟩
  | sequence reading size =>
    rename_i r s outer p
    have start : r.pos = (r.data.take r.pos).length :=
      (List.length_take_of_le nested.within).symm
    have base : r.offset = s.base + (r.data.take r.pos).length := by
      rw [← start, reading.next]
      rfl
    exact ⟨p :: parts, .inside (nested.advance reading) reading.take_pos rfl base (Nat.zero_le _)⟩
  | up =>
    cases nested with
    | inside around _ _ _ _ => exact ⟨_, around⟩
  | stay => exact ⟨parts, nested⟩

theorem mem_within (nested : Nested input rs parts) : ∀ r ∈ rs, r.pos ≤ r.data.length := by
  induction nested with
  | outermost _ _ within => simpa using within
  | inside _ _ _ _ within ih => exact List.forall_mem_cons.mpr ⟨within, ih⟩

/-- Each content is the end of what the reader around it has read. -/
theorem isChain (nested : Nested input rs parts) :
    rs.IsChain fun inner outer => inner.data <:+ outer.data.take outer.pos := by
  induction nested with
  | outermost => exact List.isChain_singleton _
  | inside around read content _ _ ih =>
    rename_i r s outer p others front
    refine List.isChain_cons_cons.mpr ⟨?_, ih⟩
    rw [read, content, Part.bytes, ← List.append_assoc]
    exact List.suffix_append _ _

theorem getLast? (nested : Nested input rs parts) : rs.getLast?.map Reader.data = some input := by
  induction nested with
  | outermost whole => exact congrArg some whole
  | inside around _ _ _ _ ih => rwa [List.getLast?_cons_cons]

theorem exists_cons (nested : Nested input rs parts) : ∃ r outer, rs = r :: outer := by
  cases nested with
  | outermost => exact ⟨_, _, rfl⟩
  | inside => exact ⟨_, _, rfl⟩

end Nested

/-- A step does one of the things it can do. -/
theorem step_moves {r : Reader} (within : r.pos ≤ r.data.length) (outer : Readers) (a : Step) :
    ∃ passed, Moves (r :: outer) a (step (r :: outer) a).1 passed (step (r :: outer) a).2 := by
  cases a with
  | integer =>
    rcases read : r.integer with ⟨e | value, s⟩
    · obtain ⟨consumed, stops, reading⟩ := (Reader.integer_error_iff within).mp read
      simp only [step, read]
      exact ⟨consumed, .noInteger stops reading⟩
    · obtain ⟨p, some, rfl, reading⟩ := Reader.integer_ok_iff.mp read
      simp only [step, read]
      have field := p.announced.length_bounds
      have content := List.length_pos_iff.mpr some
      exact ⟨_, .integer some reading (by rw [Part.length_bytes]; omega)⟩
  | sequence =>
    rcases read : r.sequence with ⟨e | content, s⟩
    · obtain ⟨consumed, stops, reading⟩ := (Reader.sequence_error_iff within).mp read
      simp only [step, read]
      exact ⟨consumed, .noSequence stops reading⟩
    · obtain ⟨p, rfl, reading⟩ := Reader.sequence_ok_iff.mp read
      simp only [step, read]
      exact ⟨_, .sequence reading (Nat.succ_le_succ p.announced.length_bounds.1)⟩
  | up =>
    cases outer with
    | nil => exact ⟨[], .stay⟩
    | cons s outer => exact ⟨r.rest, .up⟩

section

variable {rs next : Readers} {a : Step} {answer : Except Error Found} {passed : Bytes}

/-- What a step passes over and what it leaves are what there was to be read, in order. -/
theorem Moves.unread (moves : Moves rs a answer passed next) :
    passed ++ next.unread = rs.unread := by
  cases moves with
  | integer _ reading => simp [Readers.unread, reading.taken]
  | noInteger _ reading => simp [Readers.unread, reading.taken]
  | noSequence _ reading => simp [Readers.unread, reading.taken]
  | sequence reading size =>
    rename_i r s outer p
    have content : Reader.rest ⟨p.content, 0, r.offset⟩ = p.content := rfl
    simp [Readers.unread, reading.taken, Part.bytes, content]
  | up => rfl
  | stay => rfl

theorem Moves.least_le (moves : Moves rs a answer passed next) : least answer ≤ passed.length := by
  cases moves with
  | integer _ _ size => exact size
  | sequence _ size => exact size
  | _ => exact Nat.zero_le _

end

section

variable {rs last : Readers} {steps : List Step} {answers : List (Except Error Found)}
  {passed : List Bytes}

theorem Runs.unread (runs : Runs rs steps answers passed last) :
    passed.flatten ++ last.unread = rs.unread := by
  induction runs with
  | done => rfl
  | more moves _ ih => rw [List.flatten_cons, List.append_assoc, ih, moves.unread]

theorem Runs.least_le (runs : Runs rs steps answers passed last) :
    (answers.map least).sum ≤ passed.flatten.length := by
  induction runs with
  | done => exact Nat.le_refl _
  | more moves _ ih =>
    rw [List.map_cons, List.sum_cons, List.flatten_cons, List.length_append]
    exact Nat.add_le_add moves.least_le ih

end

theorem Nested.runs {input : Bytes} {rs : Readers} {parts : List Part}
    (nested : Nested input rs parts) (steps : List Step) :
    (∃ parts, Nested input (run steps rs) parts) ∧
      ∃ passed, Runs rs steps (answers steps rs) passed (run steps rs) := by
  induction steps generalizing rs parts with
  | nil => exact ⟨⟨parts, nested⟩, [], .done⟩
  | cons a rest ih =>
    obtain ⟨r, outer, rfl⟩ := nested.exists_cons
    obtain ⟨passed, first⟩ := step_moves nested.within outer a
    obtain ⟨_, around⟩ := nested.moves first
    obtain ⟨kept, later, others⟩ := ih around
    exact ⟨kept, passed :: later, .more first others⟩

/-- What holds of the readers after any steps, and of the way there. -/
structure Disciplined (input : Bytes) (steps : List Step) (rs : Readers) : Prop where
  within : ∀ r ∈ rs, r.pos ≤ r.data.length
  empty : ∀ r ∈ rs, r.isEmpty = true ↔ r.remaining = 0
  /-- A content is the part of what is around it that ends where the reader there stands. -/
  contents : rs.IsChain fun inner outer => inner.data <:+ outer.data.take outer.pos
  outermost : rs.getLast?.map Reader.data = some input
  /-- Every step does what it can do, no byte is passed over twice, and none is left out. -/
  once : ∃ passed, Runs [.ofBytes input] steps (answers steps [.ofBytes input]) passed rs ∧
    passed.flatten ++ rs.unread = input
  /-- There are only so many reads that succeed. -/
  ends : ((answers steps [.ofBytes input]).map least).sum + rs.unread.length ≤ input.length

theorem disciplined_run (input : Bytes) (steps : List Step) :
    Disciplined input steps (run steps [.ofBytes input]) := by
  obtain ⟨⟨parts, nested⟩, passed, runs⟩ := (nested_ofBytes input).runs steps
  have whole : passed.flatten ++ (run steps [.ofBytes input]).unread = input := by
    rw [runs.unread]
    exact List.append_nil input
  constructor
  case within => exact nested.mem_within
  case empty =>
    intro r member
    rw [Reader.isEmpty, decide_eq_true_iff, Reader.remaining, Nat.sub_eq_zero_iff_le]
  case contents => exact nested.isChain
  case outermost => exact nested.getLast?
  case once => exact ⟨passed, runs, whole⟩
  case ends =>
    calc ((answers steps [.ofBytes input]).map least).sum + (run steps [.ofBytes input]).unread.length
        ≤ passed.flatten.length + (run steps [.ofBytes input]).unread.length :=
          Nat.add_le_add_right runs.least_le _
      _ = input.length := by rw [← List.length_append, whole]

end Readers
end Throughput.Der
