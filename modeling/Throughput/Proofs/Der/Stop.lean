import Throughput.Proofs.Der.Reader

/-! Reads that fail. What comes next decides which error is reported and how many of its
bytes are passed over before reading stops. -/
namespace Throughput.Der

/-- A field is a byte, and at most the four digits that it may announce. -/
theorem LengthField.length_bounds {n : Nat} {field : Bytes} (valid : LengthField n field) :
    1 ≤ field.length ∧ field.length ≤ 5 := by
  cases valid with
  | short b small => simp
  | long digits nonempty bound =>
    rw [List.length_cons]
    omega

theorem Part.length_bytes (p : Part) (tag : UInt8) :
    (p.bytes tag).length = 1 + p.field.length + p.content.length := by
  rw [Part.bytes, List.length_append, List.length_cons, Nat.add_comm p.field.length]

namespace Reader

/-- The offset that is reported for the end of the data. -/
def endOffset (r : Reader) : Nat := r.base + r.data.length

/-- The first byte of a long form, and how many digits it says. -/
structure Announces (first : UInt8) (digits : Nat) : Prop where
  long : ¬ first < 0x80
  said : (first &&& 0x7f).toNat = digits

/-- No digits, or more than may be read. -/
def Unsupported (digits : Nat) : Prop := digits = 0 ∨ maxLengthBytes < digits

/-- Reading a length stops with an error after some of the bytes that come next. -/
inductive LengthStops (r : Reader) : Error → Bytes → Prop
  | atEnd : r.rest = [] → LengthStops r (.unexpectedEnd r.endOffset) []
  | unsupported {first : UInt8} {digits : Nat} {tail : Bytes} : r.rest = first :: tail →
      Announces first digits → Unsupported digits →
      LengthStops r (.unsupportedLength digits) [first]
  | cut {first : UInt8} {digits : Nat} {tail : Bytes} : r.rest = first :: tail →
      Announces first digits → ¬ Unsupported digits → tail.length < digits →
      LengthStops r (.unexpectedEnd r.endOffset) [first]

/-- Reading an element with a tag stops with an error after some of the bytes that come
next. -/
inductive Stops (tag : UInt8) (r : Reader) : Error → Bytes → Prop
  | atEnd : r.rest = [] → Stops tag r (.unexpectedEnd r.endOffset) []
  | otherTag {found : UInt8} {tail : Bytes} : r.rest = found :: tail → found ≠ tag →
      Stops tag r (.unexpectedTag tag found r.offset) [found]
  | inLength {e : Error} {consumed tail : Bytes} : r.rest = tag :: tail →
      LengthStops (r.skip 1) e consumed → Stops tag r e (tag :: consumed)
  | truncated {count : Nat} {field tail : Bytes} : r.rest = tag :: field ++ tail →
      LengthField count field → tail.length < count →
      Stops tag r (.unexpectedEnd r.endOffset) (tag :: field)

/-- An INTEGER may not be empty either. -/
inductive IntegerStops (r : Reader) : Error → Bytes → Prop
  | element {e : Error} {consumed : Bytes} : Stops integerTag r e consumed →
      IntegerStops r e consumed
  | empty {field tail : Bytes} : r.rest = integerTag :: field ++ tail → LengthField 0 field →
      IntegerStops r (.emptyInteger r.offset) (integerTag :: field)

theorem rest_eq_nil_iff {r : Reader} (within : r.pos ≤ r.data.length) :
    r.rest = [] ↔ r.pos = r.data.length := by
  rw [rest, List.drop_eq_nil_iff]
  omega

theorem Advances.endOffset {r s : Reader} {bytes : Bytes} (reading : Advances r bytes s) :
    s.endOffset = r.endOffset := by rw [reading.next]; rfl

/-- Bytes that were read say what the bytes after them are. -/
theorem Advances.rest_eq {r s : Reader} {bytes tail : Bytes} (reading : Advances r bytes s)
    (next : r.rest = bytes ++ tail) : s.rest = tail :=
  List.append_cancel_left (reading.taken.symm.trans next)

section

variable {r s : Reader} {e : Error} (within : r.pos ≤ r.data.length)
include within

theorem byte_error_iff : r.byte = (.error e, s) ↔
    r.rest = [] ∧ e = .unexpectedEnd r.endOffset ∧ s = r := by
  have atEnd : r.data[r.pos]? = none ↔ r.rest = [] := by
    rw [List.getElem?_eq_none_iff, rest, List.drop_eq_nil_iff]
  unfold byte
  split
  · rename_i none
    have ends := (rest_eq_nil_iff within).mp (atEnd.mp none)
    simp only [Prod.mk.injEq, Except.error.injEq, offset, endOffset, ends, atEnd.mp none, true_and,
      eq_comm]
  · rename_i found
    simp [← atEnd, found]

theorem take_error_iff {count : Nat} : r.take count = (.error e, s) ↔
    r.rest.length < count ∧ e = .unexpectedEnd r.endOffset ∧ s = r := by
  have size : r.rest.length = r.data.length - r.pos := List.length_drop
  unfold take
  split
  · simp only [Prod.mk.injEq, reduceCtorEq, false_and, false_iff, not_and]
    omega
  · simp only [Prod.mk.injEq, Except.error.injEq, endOffset]
    constructor
    · rintro ⟨rfl, rfl⟩
      exact ⟨by omega, rfl, rfl⟩
    · rintro ⟨_, rfl, rfl⟩
      exact ⟨rfl, rfl⟩

theorem length_error_iff : r.length = (.error e, s) ↔
    ∃ consumed, LengthStops r e consumed ∧ Advances r consumed s := by
  constructor
  · intro h
    rcases first : r.byte with ⟨cause | b, mid⟩
    · obtain ⟨ends, rfl, rfl⟩ := (byte_error_iff within).mp first
      simp only [length, first, Prod.mk.injEq, Except.error.injEq] at h
      obtain ⟨rfl, rfl⟩ := h
      exact ⟨[], .atEnd ends, .refl within⟩
    · have start := byte_ok_iff.mp first
      simp only [length, first] at h
      split at h
      · simp at h
      · rename_i large
        have announced : Announces b (b &&& 0x7f).toNat := ⟨large, rfl⟩
        split at h
        · rename_i unsupported
          simp only [Prod.mk.injEq, Except.error.injEq] at h
          obtain ⟨rfl, rfl⟩ := h
          exact ⟨[b], .unsupported start.taken announced unsupported, start⟩
        · rename_i supported
          rcases digits : mid.take (b &&& 0x7f).toNat with ⟨cause | bytes, last⟩
          · obtain ⟨short, rfl, rfl⟩ := (take_error_iff start.within).mp digits
            simp only [digits, Prod.mk.injEq, Except.error.injEq] at h
            obtain ⟨rfl, rfl⟩ := h
            rw [start.endOffset]
            exact ⟨[b], .cut start.taken announced supported short, start⟩
          · simp only [digits, Prod.mk.injEq, reduceCtorEq, false_and] at h
  · rintro ⟨consumed, stops, reading⟩
    cases stops with
    | atEnd ends =>
      have same : s = r := reading.next
      simp only [length, (byte_error_iff within).mpr ⟨ends, rfl, rfl⟩, same]
    | unsupported next announced unsupported =>
      simp only [length, byte_ok_iff.mpr reading, if_neg announced.long, announced.said]
      exact if_pos unsupported
    | cut next announced supported short =>
      rw [← reading.rest_eq next] at short
      have digits := (take_error_iff reading.within).mpr ⟨short, rfl, rfl⟩
      simp only [length, byte_ok_iff.mpr reading, if_neg announced.long, announced.said, digits,
        reading.endOffset]
      exact if_neg supported

theorem element_error_iff {tag : UInt8} : r.element tag = (.error e, s) ↔
    ∃ consumed, Stops tag r e consumed ∧ Advances r consumed s := by
  constructor
  · intro h
    rcases first : r.byte with ⟨cause | found, mid⟩
    · obtain ⟨ends, rfl, rfl⟩ := (byte_error_iff within).mp first
      simp only [element, first, Prod.mk.injEq, Except.error.injEq] at h
      obtain ⟨rfl, rfl⟩ := h
      exact ⟨[], .atEnd ends, .refl within⟩
    · have start := byte_ok_iff.mp first
      simp only [element, first] at h
      split at h
      · rename_i other
        simp only [Prod.mk.injEq, Except.error.injEq] at h
        obtain ⟨rfl, rfl⟩ := h
        exact ⟨[found], .otherTag start.taken other, start⟩
      · rename_i same
        obtain rfl := Decidable.not_not.mp same
        rcases size : mid.length with ⟨cause | count, after⟩
        · obtain ⟨consumed, stops, field⟩ := (length_error_iff start.within).mp size
          simp only [size, Prod.mk.injEq, Except.error.injEq] at h
          obtain ⟨rfl, rfl⟩ := h
          rw [start.next] at stops
          exact ⟨found :: consumed, .inLength start.taken stops, start.trans field⟩
        · obtain ⟨field, valid, header⟩ := length_ok_iff.mp size
          simp only [size] at h
          obtain ⟨short, rfl, rfl⟩ := (take_error_iff header.within).mp h
          have read : Advances r (found :: field) s := start.trans header
          rw [read.endOffset]
          exact ⟨found :: field, .truncated read.taken valid short, read⟩
  · rintro ⟨consumed, stops, reading⟩
    cases stops with
    | atEnd ends =>
      have same : s = r := reading.next
      simp only [element, (byte_error_iff within).mpr ⟨ends, rfl, rfl⟩, same]
    | otherTag next other =>
      simp only [element, byte_ok_iff.mpr reading]
      exact if_pos other
    | inLength next stops =>
      obtain ⟨start, field⟩ := Advances.split (a := [tag]) reading
      have size : (r.skip [tag].length).length = (.error e, s) :=
        (length_error_iff start.within).mpr ⟨_, stops, field⟩
      simp only [element, byte_ok_iff.mpr start, ne_eq, not_true_eq_false, if_false, size]
    | truncated next valid short =>
      rename_i count field tail
      obtain ⟨start, header⟩ := Advances.split (a := [tag]) reading
      rw [← reading.rest_eq next] at short
      have content := (take_error_iff reading.within).mpr ⟨short, rfl, rfl⟩
      simp only [element, byte_ok_iff.mpr start, ne_eq, not_true_eq_false, if_false,
        length_ok_iff.mpr ⟨field, valid, header⟩, content, reading.endOffset]

theorem sequence_error_iff : r.sequence = (.error e, s) ↔
    ∃ consumed, Stops sequenceTag r e consumed ∧ Advances r consumed s := by
  rw [← element_error_iff within]
  rcases read : r.element sequenceTag with ⟨cause | content, after⟩ <;> simp [sequence, read]

theorem integer_error_iff : r.integer = (.error e, s) ↔
    ∃ consumed, IntegerStops r e consumed ∧ Advances r consumed s := by
  constructor
  · intro h
    rcases read : r.element integerTag with ⟨cause | content, after⟩
    · obtain ⟨consumed, stops, reading⟩ := (element_error_iff within).mp read
      simp only [integer, read, Prod.mk.injEq, Except.error.injEq] at h
      obtain ⟨rfl, rfl⟩ := h
      exact ⟨consumed, .element stops, reading⟩
    · obtain ⟨p, rfl, reading⟩ := element_ok_iff.mp read
      cases empty : p.content with
      | nil =>
        simp only [integer, read, empty, Prod.mk.injEq, Except.error.injEq] at h
        obtain ⟨rfl, rfl⟩ := h
        have valid := p.announced
        have taken := reading.taken
        rw [empty] at valid
        rw [Part.bytes, empty, List.append_nil] at reading taken
        exact ⟨_, .empty taken valid, reading⟩
      | cons b rest => simp [integer, read, empty] at h
  · rintro ⟨consumed, stops, reading⟩
    cases stops with
    | element stops =>
      simp only [integer, (element_error_iff within).mpr ⟨consumed, stops, reading⟩]
    | empty next valid =>
      rename_i field tail
      have whole : Advances r (Part.bytes integerTag ⟨field, [], valid⟩) s := by
        rwa [Part.bytes, List.append_nil]
      simp only [integer, element_ok_iff.mpr ⟨_, rfl, whole⟩]

end

end Reader
end Throughput.Der
