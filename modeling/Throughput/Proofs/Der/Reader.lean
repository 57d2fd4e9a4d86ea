import Throughput.Proofs.Der.Length
import Throughput.Proofs.Der.Integer

/-! Reads that succeed are exactly the elements of the grammar: what was read is what
the input holds next, and whatever the input holds next can be read. -/
namespace Throughput.Der.Reader

/-- The bytes that are still to be read. -/
def rest (r : Reader) : Bytes := r.data.drop r.pos

def skip (r : Reader) (count : Nat) : Reader := { r with pos := r.pos + count }

@[simp] theorem rest_skip (r : Reader) (count : Nat) : (r.skip count).rest = r.rest.drop count := by
  simp [rest, skip]

@[simp] theorem skip_skip (r : Reader) (a b : Nat) : (r.skip a).skip b = r.skip (a + b) := by
  simp [skip, Nat.add_assoc]

theorem isEmpty_iff_rest (r : Reader) : r.isEmpty = true ↔ r.rest = [] := by
  simp [isEmpty, rest]

/-- `s` is `r` after reading `bytes`, all of them from the data. -/
structure Advances (r : Reader) (bytes : Bytes) (s : Reader) : Prop where
  next : s = r.skip bytes.length
  taken : r.rest = bytes ++ s.rest
  within : s.pos ≤ s.data.length

theorem Advances.refl {r : Reader} (within : r.pos ≤ r.data.length) : Advances r [] r :=
  ⟨rfl, rfl, within⟩

theorem Advances.trans {r s t : Reader} {a b : Bytes} (first : Advances r a s)
    (second : Advances s b t) : Advances r (a ++ b) t where
  next := by rw [second.next, first.next, skip_skip, List.length_append]
  taken := by rw [first.taken, second.taken, List.append_assoc]
  within := second.within

/-- Bytes that come next can be advanced over. -/
theorem advances_of_rest {r : Reader} {bytes tail : Bytes} (within : r.pos ≤ r.data.length)
    (h : r.rest = bytes ++ tail) :
    Advances r bytes (r.skip bytes.length) ∧ (r.skip bytes.length).rest = tail := by
  have tailRest : (r.skip bytes.length).rest = tail := by simp [h]
  have lengths := congrArg List.length h
  simp only [rest, List.length_drop, List.length_append] at lengths
  refine ⟨⟨rfl, ?_, ?_⟩, tailRest⟩
  · rw [tailRest, h]
  · simp only [skip]
    omega

/-- A reading that starts with `a` passes the reader after `a`. -/
theorem Advances.split {r t : Reader} {a b : Bytes} (whole : Advances r (a ++ b) t) :
    Advances r a (r.skip a.length) ∧ Advances (r.skip a.length) b t := by
  have next := whole.next
  have within := whole.within
  have taken : r.rest = a ++ (b ++ t.rest) := by rw [whole.taken, List.append_assoc]
  rw [List.length_append] at next
  have start : r.pos ≤ r.data.length := by
    rw [next] at within
    simp only [skip] at within
    omega
  obtain ⟨first, middle⟩ := advances_of_rest start taken
  exact ⟨first, ⟨by rw [next, skip_skip], middle, within⟩⟩

theorem byte_ok_iff {r s : Reader} {b : UInt8} :
    r.byte = (.ok b, s) ↔ Advances r [b] s := by
  constructor
  · intro h
    unfold byte at h
    split at h
    · simp at h
    · rename_i found at_
      simp only [Prod.mk.injEq, Except.ok.injEq] at h
      obtain ⟨rfl, rfl⟩ := h
      obtain ⟨bound, value⟩ := List.getElem?_eq_some_iff.mp at_
      refine ⟨rfl, ?_, bound⟩
      simp [rest, ← value]
  · intro h
    have found : r.data[r.pos]? = some b := by
      have first := congrArg List.head? h.taken
      simpa [rest, List.head?_drop] using first
    simp [byte, found, h.next, skip]

theorem take_ok_iff {r s : Reader} {count : Nat} {bytes : Bytes} :
    r.take count = (.ok bytes, s) ↔ bytes.length = count ∧ Advances r bytes s := by
  unfold take
  constructor
  · intro h
    split at h
    · rename_i bound
      simp only [Prod.mk.injEq, Except.ok.injEq] at h
      obtain ⟨rfl, rfl⟩ := h
      have size : ((r.data.drop r.pos).take count).length = count := by simp; omega
      refine ⟨size, by rw [size]; rfl, ?_, bound⟩
      simp [rest, ← List.drop_drop]
    · simp at h
  · rintro ⟨rfl, next, taken, within⟩
    subst next
    simp only [skip] at within
    rw [if_pos within]
    have front : (r.data.drop r.pos).take bytes.length = bytes := by
      change r.rest.take bytes.length = bytes
      rw [taken]
      simp
    rw [front]
    rfl

theorem low_bits (b : UInt8) : (b &&& 0x7f).toNat = b.toNat % 128 := by
  rw [UInt8.toNat_and]
  exact Nat.and_two_pow_sub_one_eq_mod b.toNat 7

/-- The first byte of a long form tells how many digits follow. -/
theorem long_first {first : UInt8} {count : Nat} (bound : count < 0x80) :
    first = .ofNat (0x80 + count) ↔ ¬ first < 0x80 ∧ (first &&& 0x7f).toNat = count := by
  have size := first.toNat_lt
  rw [low_bits, UInt8.lt_iff_toNat_lt, ← UInt8.toNat_inj, UInt8.toNat_ofNat']
  simp only [UInt8.reduceToNat]
  omega

theorem length_ok_iff {r s : Reader} {n : Nat} :
    r.length = (.ok n, s) ↔ ∃ field, LengthField n field ∧ Advances r field s := by
  constructor
  · intro h
    rcases first : r.byte with ⟨_ | b, mid⟩
    · simp [length, first] at h
    · have start := byte_ok_iff.mp first
      simp only [length, first] at h
      split at h
      · rename_i small
        simp only [Prod.mk.injEq, Except.ok.injEq] at h
        obtain ⟨rfl, rfl⟩ := h
        exact ⟨[b], .short b small, start⟩
      · rename_i large
        split at h
        · simp at h
        · rename_i supported
          rcases digits : mid.take (b &&& 0x7f).toNat with ⟨_ | bytes, last⟩
          · simp only [digits, Prod.mk.injEq, reduceCtorEq, false_and] at h
          · simp only [digits, Prod.mk.injEq, Except.ok.injEq] at h
            obtain ⟨rfl, rfl⟩ := h
            obtain ⟨size, more⟩ := take_ok_iff.mp digits
            simp only [maxLengthBytes, not_or, Nat.not_lt] at supported
            have lead := (long_first (by omega)).mpr ⟨large, rfl⟩
            rw [← size] at lead supported
            refine ⟨b :: bytes, ?_, start.trans more⟩
            rw [lead]
            exact .long bytes (List.ne_nil_of_length_pos (by omega)) supported.2
  · rintro ⟨field, valid, reading⟩
    cases valid with
    | short b small => simp [length, byte_ok_iff.mpr reading, small]
    | long digits nonempty bound =>
      obtain ⟨start, more⟩ := Advances.split (a := [.ofNat (0x80 + digits.length)]) reading
      obtain ⟨large, count⟩ := (long_first (Nat.lt_of_le_of_lt bound (by decide))).mp rfl
      have positive := List.length_pos_iff.mpr nonempty
      have supported : ¬ (digits.length = 0 ∨ maxLengthBytes < digits.length) := by
        simp only [maxLengthBytes]
        omega
      simp only [length, byte_ok_iff.mpr start, if_neg large, count, if_neg supported,
        take_ok_iff.mpr ⟨rfl, more⟩]

theorem element_ok_iff {r s : Reader} {tag : UInt8} {content : Bytes} :
    r.element tag = (.ok content, s) ↔
      ∃ p : Part, p.content = content ∧ Advances r (p.bytes tag) s := by
  constructor
  · intro h
    rcases first : r.byte with ⟨_ | found, mid⟩
    · simp [element, first] at h
    · simp only [element, first] at h
      split at h
      · simp at h
      · rename_i same
        rcases size : mid.length with ⟨_ | count, after⟩
        · simp [size] at h
        · simp only [size] at h
          obtain ⟨rfl, body⟩ := take_ok_iff.mp h
          obtain ⟨field, valid, header⟩ := length_ok_iff.mp size
          have whole := ((byte_ok_iff.mp first).trans header).trans body
          rw [Decidable.not_not.mp same] at whole
          exact ⟨⟨field, content, valid⟩, rfl, whole⟩
  · rintro ⟨p, rfl, reading⟩
    obtain ⟨header, body⟩ := Advances.split (a := tag :: p.field) reading
    obtain ⟨first, field⟩ := Advances.split (a := [tag]) header
    simp only [element, byte_ok_iff.mpr first, ne_eq, not_true_eq_false, if_false,
      length_ok_iff.mpr ⟨p.field, p.announced, field⟩]
    exact take_ok_iff.mpr ⟨rfl, body⟩

theorem sequence_ok_iff {r content s : Reader} : r.sequence = (.ok content, s) ↔
    ∃ p : Part, content = ⟨p.content, 0, r.offset⟩ ∧ Advances r (p.bytes sequenceTag) s := by
  constructor
  · intro h
    rcases read : r.element sequenceTag with ⟨_ | bytes, after⟩
    · simp [sequence, read] at h
    · simp only [sequence, read, Prod.mk.injEq, Except.ok.injEq] at h
      obtain ⟨rfl, rfl⟩ := h
      obtain ⟨p, rfl, reading⟩ := element_ok_iff.mp read
      exact ⟨p, rfl, reading⟩
  · rintro ⟨p, rfl, reading⟩
    simp only [sequence, element_ok_iff.mpr ⟨p, rfl, reading⟩]

theorem integer_ok_iff {r s : Reader} {value : Integer} : r.integer = (.ok value, s) ↔
    ∃ p : Part, p.content ≠ [] ∧ value = .ofSigned p.content ∧
      Advances r (p.bytes integerTag) s := by
  constructor
  · intro h
    rcases read : r.element integerTag with ⟨_ | bytes, after⟩
    · simp [integer, read] at h
    · obtain ⟨p, rfl, reading⟩ := element_ok_iff.mp read
      simp only [integer, read] at h
      split at h
      · simp_all
      · simp at h
      · rename_i content next nonempty same
        simp only [Prod.mk.injEq, Except.ok.injEq] at same h
        obtain ⟨rfl, rfl⟩ := same
        obtain ⟨rfl, rfl⟩ := h
        exact ⟨p, nonempty, rfl, reading⟩
  · rintro ⟨p, nonempty, rfl, reading⟩
    simp only [integer, element_ok_iff.mpr ⟨p, rfl, reading⟩]

theorem integers_ok_iff {r s : Reader} {count : Nat} {values : List Integer}
    (within : r.pos ≤ r.data.length) : r.integers count = (.ok values, s) ↔
      ∃ parts : List Part, parts.length = count ∧ (∀ p ∈ parts, p.content ≠ []) ∧
        values = parts.map (fun p => .ofSigned p.content) ∧
        Advances r (encodeParts parts) s := by
  induction count generalizing r values with
  | zero =>
    simp only [integers, Prod.mk.injEq, Except.ok.injEq, List.length_eq_zero_iff]
    constructor
    · rintro ⟨rfl, rfl⟩
      exact ⟨[], rfl, by simp, rfl, .refl within⟩
    · rintro ⟨_, rfl, _, rfl, reading⟩
      exact ⟨rfl, reading.next.symm⟩
  | succ count ih =>
    constructor
    · intro h
      rcases first : r.integer with ⟨_ | value, mid⟩
      · simp [integers, first] at h
      · obtain ⟨p, nonempty, rfl, reading⟩ := integer_ok_iff.mp first
        rcases more : mid.integers count with ⟨_ | others, last⟩
        · simp [integers, first, more] at h
        · simp only [integers, first, more, Prod.mk.injEq, Except.ok.injEq] at h
          obtain ⟨rfl, rfl⟩ := h
          obtain ⟨parts, rfl, nonempties, rfl, readings⟩ := (ih reading.within).mp more
          exact ⟨p :: parts, rfl, by simpa using ⟨nonempty, nonempties⟩, rfl,
            reading.trans readings⟩
    · rintro ⟨parts, size, nonempties, rfl, reading⟩
      cases parts with
      | nil => simp at size
      | cons p parts =>
        obtain ⟨first, more⟩ := Advances.split (a := p.bytes integerTag) reading
        have one := integer_ok_iff.mpr ⟨p, nonempties p (by simp), rfl, first⟩
        have others := (ih first.within).mpr ⟨parts, by simpa using size,
          fun q member => nonempties q (by simp [member]), rfl, more⟩
        simp only [integers, one, others, List.map_cons]

end Throughput.Der.Reader
