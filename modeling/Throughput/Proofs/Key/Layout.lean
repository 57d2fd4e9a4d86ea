import Throughput.Key.Rsa
import Throughput.Proofs.Der.Reader
import Mathlib.Data.List.Forall2

/-! The layouts that an RSA key may have as bytes, and what becomes of each of them.
Bytes without a layout are malformed; no other fault is reported for them. -/
namespace Throughput.Key.Rsa

open Der

/-- A SEQUENCE whose content starts with nine integers of any padding, whatever else
stands after them inside and after it outside. -/
structure Layout where
  parts : List Part
  inside : Bytes
  outside : Bytes
  field : Bytes
  nine : parts.length = 9
  nonempty : ∀ p ∈ parts, p.content ≠ []
  announced : LengthField (encodeParts parts ++ inside).length field

namespace Layout

def whole (l : Layout) : Part := ⟨l.field, encodeParts l.parts ++ l.inside, l.announced⟩

def bytes (l : Layout) : Bytes := l.whole.bytes sequenceTag ++ l.outside

/-- The nine numbers as they are written. -/
def values (l : Layout) : List Int := l.parts.map fun p => p.content.toInt

theorem parts_ne_nil (l : Layout) : l.parts ≠ [] := by
  intro empty
  have := l.nine
  simp [empty] at this

def version (l : Layout) : Int := (l.parts.head l.parts_ne_nil).content.toInt

/-- Every component of the key is the canonical form of the content at its place. -/
def Spells (l : Layout) (k : Rsa) : Prop :=
  List.Forall₂ (fun x p => x.CanonicalForm p.content) k.integers l.parts

def key (l : Layout) : Rsa :=
  ofIntegers (l.parts.map fun p => .ofSigned p.content) (by simp [l.nine])

theorem integers_key (l : Layout) :
    l.key.integers = l.parts.map fun p => .ofSigned p.content :=
  integers_ofIntegers ..

end Layout

theorem integers_injective {k l : Rsa} (same : k.integers = l.integers) : k = l := by
  cases k
  cases l
  simpa [integers] using same

namespace Layout

theorem spells_iff (l : Layout) (k : Rsa) : l.Spells k ↔ k = l.key := by
  have pointwise : ∀ (values : List Integer) (parts : List Part),
      List.Forall₂ (fun x p => x.CanonicalForm p.content) values parts ↔
        values = parts.map fun p => .ofSigned p.content := by
    intro values parts
    simp only [Integer.canonicalForm_iff]
    induction values generalizing parts with
    | nil => cases parts <;> simp
    | cons x rest ih => cases parts <;> simp [ih]
  rw [Spells, pointwise, ← l.integers_key]
  exact ⟨integers_injective, fun same => same ▸ rfl⟩

theorem toInt_version_key (l : Layout) : l.key.version.toInt = l.version := by
  have first : l.key.version = l.key.integers.head (by simp [integers]) := rfl
  rw [first, version]
  simp [integers_key]

/-- The values of a layout are those of its key. -/
theorem values_eq (l : Layout) : l.values = l.key.integers.map Integer.toInt := by
  simp [values, integers_key]

end Layout

/-- What a parsed key is judged by once its nine integers are read. -/
theorem parse_of_reads {der : Bytes} {content outer last : Reader} {values : List Integer}
    (opened : (Reader.ofBytes der).sequence = (.ok content, outer))
    (read : content.integers 9 = (.ok values, last)) :
    parse der =
      let key := ofIntegers values (length_integers read)
      if key.version.toUInt64? ≠ some 0 then .error .unsupportedVersion
      else if last.isEmpty && outer.isEmpty then .ok key
      else .error .trailingData := by
  simp only [parse, opened]
  split
  · rename_i other
    simp [read] at other
  · rename_i found after again
    obtain ⟨rfl, rfl⟩ : values = found ∧ last = after := by simpa [read] using again
    rfl

theorem parse_of_sequence_error {der : Bytes} {e : Der.Error} {outer : Reader}
    (failed : (Reader.ofBytes der).sequence = (.error e, outer)) :
    parse der = .error (.der e) := by
  simp only [parse, failed]

theorem parse_of_integers_error {der : Bytes} {content outer last : Reader} {e : Der.Error}
    (opened : (Reader.ofBytes der).sequence = (.ok content, outer))
    (failed : content.integers 9 = (.error e, last)) : parse der = .error (.der e) := by
  simp only [parse, opened]
  split
  · rename_i other _ again
    obtain ⟨rfl, rfl⟩ : e = other ∧ _ := by simpa [failed] using again
    rfl
  · rename_i again
    simp [failed] at again

namespace Layout

theorem parse_bytes (l : Layout) :
    parse l.bytes =
      if l.version ≠ 0 then .error .unsupportedVersion
      else if l.inside = [] ∧ l.outside = [] then .ok l.key
      else .error .trailingData := by
  have outerTaken : (Reader.ofBytes l.bytes).rest = l.whole.bytes sequenceTag ++ l.outside := rfl
  have innerTaken : (Reader.mk l.whole.content 0 0).rest = encodeParts l.parts ++ l.inside := rfl
  obtain ⟨outerReading, outerRest⟩ := Reader.advances_of_rest (Nat.zero_le _) outerTaken
  obtain ⟨innerReading, innerRest⟩ := Reader.advances_of_rest (Nat.zero_le _) innerTaken
  have opened := Reader.sequence_ok_iff.mpr ⟨l.whole, rfl, outerReading⟩
  have read := (Reader.integers_ok_iff (Nat.zero_le _)).mpr
    ⟨l.parts, l.nine, l.nonempty, rfl, innerReading⟩
  have version : l.key.version.toUInt64? = some 0 ↔ l.version = 0 := by
    rw [Integer.toUInt64?_eq_zero_iff, l.toInt_version_key]
  rw [parse_of_reads opened read]
  change (if l.key.version.toUInt64? ≠ some 0 then _ else _) = _
  simp only [ne_eq, version, Bool.and_eq_true, Reader.isEmpty_iff_rest, innerRest, outerRest]
  rfl

theorem accepted_iff (l : Layout) (k : Rsa) :
    parse l.bytes = .ok k ↔ l.inside = [] ∧ l.outside = [] ∧ l.version = 0 ∧ l.key = k := by
  rw [l.parse_bytes]
  by_cases version : l.version = 0
  · by_cases nothing : l.inside = [] ∧ l.outside = []
    · simp [version, nothing]
    · simp only [ne_eq, version, not_true_eq_false, if_false, nothing, reduceCtorEq, false_iff]
      exact fun ⟨inside, outside, _⟩ => nothing ⟨inside, outside⟩
  · simp [version]

theorem unsupported_iff (l : Layout) :
    parse l.bytes = .error .unsupportedVersion ↔ l.version ≠ 0 := by
  rw [l.parse_bytes]
  by_cases version : l.version = 0
  · by_cases nothing : l.inside = [] ∧ l.outside = [] <;> simp [version, nothing]
  · simp [version]

theorem trailing_iff (l : Layout) : parse l.bytes = .error .trailingData ↔
    l.version = 0 ∧ (l.inside ≠ [] ∨ l.outside ≠ []) := by
  rw [l.parse_bytes, ← Decidable.not_and_iff_not_or_not]
  by_cases version : l.version = 0
  · by_cases nothing : l.inside = [] ∧ l.outside = [] <;> simp [version, nothing]
  · simp [version]

theorem not_malformed (l : Layout) (e : Der.Error) : parse l.bytes ≠ .error (.der e) := by
  rw [l.parse_bytes]
  split
  · simp
  · split <;> simp

/-- Bytes that can be read have a layout. -/
theorem exists_of_reads {der : Bytes} {content outer last : Reader} {values : List Integer}
    (opened : (Reader.ofBytes der).sequence = (.ok content, outer))
    (read : content.integers 9 = (.ok values, last)) : ∃ l : Layout, l.bytes = der := by
  obtain ⟨whole, rfl, outerReading⟩ := Reader.sequence_ok_iff.mp opened
  obtain ⟨parts, nine, nonempty, _, innerReading⟩ :=
    (Reader.integers_ok_iff (Nat.zero_le _)).mp read
  have content : whole.content = encodeParts parts ++ last.rest := innerReading.taken
  refine ⟨⟨parts, last.rest, outer.rest, whole.field, nine, nonempty, ?_⟩, ?_⟩
  · rw [← content]
    exact whole.announced
  · change sequenceTag :: whole.field ++ (encodeParts parts ++ last.rest) ++ outer.rest = der
    rw [← content]
    exact outerReading.taken.symm

end Layout

theorem layout_or_malformed (der : Bytes) :
    (∃ l : Layout, l.bytes = der) ∨ ∃ e, parse der = .error (.der e) := by
  rcases opened : (Reader.ofBytes der).sequence with ⟨e | content, outer⟩
  · exact .inr ⟨e, parse_of_sequence_error opened⟩
  · rcases read : content.integers 9 with ⟨e | values, last⟩
    · exact .inr ⟨e, parse_of_integers_error opened read⟩
    · exact .inl (Layout.exists_of_reads opened read)

/-- Whatever parsing says short of malformed, it says of a layout. -/
theorem layout_of_parse {der : Bytes} {answer : Except Error Rsa} (h : parse der = answer)
    (wellFormed : ∀ e, answer ≠ .error (.der e)) : ∃ l : Layout, l.bytes = der := by
  rcases layout_or_malformed der with layout | ⟨e, malformed⟩
  · exact layout
  · exact absurd (h.symm.trans malformed) (wellFormed e)

/-- Whether and how bytes are refused is settled by their layout: without one they are
malformed, then the version counts, then what is left over. Accepted bytes have nothing
left over, and the key holds the canonical form of each integer. -/
theorem parse_classified_by_layout (der : Bytes) :
    (∀ k, parse der = .ok k ↔ ∃ l : Layout, l.bytes = der ∧ l.inside = [] ∧
      l.outside = [] ∧ l.version = 0 ∧ l.Spells k) ∧
    (parse der = .error .unsupportedVersion ↔
      ∃ l : Layout, l.bytes = der ∧ l.version ≠ 0) ∧
    (parse der = .error .trailingData ↔
      ∃ l : Layout, l.bytes = der ∧ l.version = 0 ∧ (l.inside ≠ [] ∨ l.outside ≠ [])) ∧
    ((∃ e, parse der = .error (.der e)) ↔ ¬ ∃ l : Layout, l.bytes = der) := by
  refine ⟨fun k => ⟨fun h => ?_, ?_⟩, ⟨fun h => ?_, ?_⟩, ⟨fun h => ?_, ?_⟩,
    ⟨?_, fun none => ?_⟩⟩
  · obtain ⟨l, rfl⟩ := layout_of_parse h (by simp)
    obtain ⟨inside, outside, version, key⟩ := (l.accepted_iff k).mp h
    exact ⟨l, rfl, inside, outside, version, (l.spells_iff k).mpr key.symm⟩
  · rintro ⟨l, rfl, inside, outside, version, spells⟩
    exact (l.accepted_iff k).mpr ⟨inside, outside, version, ((l.spells_iff k).mp spells).symm⟩
  · obtain ⟨l, rfl⟩ := layout_of_parse h (by simp)
    exact ⟨l, rfl, l.unsupported_iff.mp h⟩
  · rintro ⟨l, rfl, version⟩
    exact l.unsupported_iff.mpr version
  · obtain ⟨l, rfl⟩ := layout_of_parse h (by simp)
    exact ⟨l, rfl, l.trailing_iff.mp h⟩
  · rintro ⟨l, rfl, more⟩
    exact l.trailing_iff.mpr more
  · rintro ⟨e, malformed⟩ ⟨l, rfl⟩
    exact l.not_malformed e malformed
  · exact (layout_or_malformed der).resolve_left none

end Throughput.Key.Rsa
