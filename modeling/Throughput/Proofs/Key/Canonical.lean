import Throughput.Proofs.Key.Layout
import Mathlib.Data.List.Basic

/-! Writing a key and reading it again. What is written is the one shortest layout of
the key, so written bytes depend on the nine numbers and on nothing else. -/
namespace Throughput.Key.Rsa

open Der

/-- The content of a written key. -/
def body (k : Rsa) : Bytes := encodeNodes (k.integers.map .integer)

theorem encode_eq (k : Rsa) : k.encode = encodeElement sequenceTag k.body := by
  simp [encode, node, Node.encode, body]

/-- Nothing in the layout could be written with fewer bytes. -/
def Layout.Shortest (l : Layout) : Prop :=
  l.whole.ShortField ∧ ∀ p ∈ l.parts, p.ShortField ∧
    ∀ other ≠ [], Bytes.toInt other = p.content.toInt → p.content.length ≤ other.length

theorem body_eq (k : Rsa) : k.body = k.integers.flatMap Integer.encode :=
  encodeNodes_integers k.integers

/-- A part that stands for an integer: its bytes, behind the field that is written. -/
def Writes (p : Part) (x : Integer) : Prop := p.content = x.bytes ∧ p.ShortField

theorem part_of_integer (x : Integer) (fits : x.bytes.length < 2 ^ 32) :
    ∃ p : Part, Writes p x :=
  ⟨⟨encodeLength x.bytes.length, x.bytes, lengthField_encodeLength fits⟩, rfl,
    (Part.shortField_iff _).mpr rfl⟩

theorem Writes.bytes {p : Part} {x : Integer} (written : Writes p x) :
    p.bytes integerTag = x.encode := by
  rw [Part.bytes_of_shortField written.2, written.1, Integer.encode]

theorem parts_of_integers (values : List Integer)
    (fits : (values.flatMap Integer.encode).length < 2 ^ 32) :
    ∃ parts : List Part, List.Forall₂ Writes parts values := by
  induction values with
  | nil => exact ⟨[], .nil⟩
  | cons x rest ih =>
    simp only [List.flatMap_cons, List.length_append, Integer.encode, length_encodeElement]
      at fits
    obtain ⟨p, written⟩ := part_of_integer x (by omega)
    obtain ⟨parts, more⟩ := ih (by omega)
    exact ⟨p :: parts, .cons written more⟩

theorem encodeParts_of_writes {parts : List Part} {values : List Integer}
    (written : List.Forall₂ Writes parts values) :
    encodeParts parts = values.flatMap Integer.encode := by
  induction written with
  | nil => rfl
  | cons head _ ih => rw [encodeParts, List.flatMap_cons, head.bytes, ← encodeParts, ih,
      List.flatMap_cons]

theorem contents_of_writes {parts : List Part} {values : List Integer}
    (written : List.Forall₂ Writes parts values) :
    parts.map Part.content = values.map Integer.bytes := by
  induction written with
  | nil => rfl
  | cons head _ ih => rw [List.map_cons, List.map_cons, head.1, ih]

theorem exists_of_writes {parts : List Part} {values : List Integer}
    (written : List.Forall₂ Writes parts values) {p : Part} (member : p ∈ parts) :
    ∃ x, Writes p x := by
  induction written with
  | nil => cases member
  | cons head _ ih =>
    rcases List.mem_cons.mp member with rfl | later
    · exact ⟨_, head⟩
    · exact ih later

namespace Layout

/-- Parts that stand for the integers of a key have that key. -/
theorem key_eq_of_writes {l : Layout} {k : Rsa}
    (written : List.Forall₂ Writes l.parts k.integers) : l.key = k := by
  have contents := contents_of_writes written
  apply integers_injective
  calc l.key.integers = (l.parts.map Part.content).map Integer.ofSigned := by
        rw [l.integers_key, List.map_map]
        rfl
    _ = (k.integers.map Integer.bytes).map Integer.ofSigned := by rw [contents]
    _ = k.integers := by simp [Function.comp_def, Integer.ofSigned_bytes]

/-- Contents are the bytes of integers if they cannot be said shorter. -/
theorem part_bytes_of_shortest {l : Layout} (short : l.Shortest) {p : Part}
    (member : p ∈ l.parts) : p.bytes integerTag = (Integer.ofSigned p.content).encode := by
  obtain ⟨field, content⟩ := short.2 p member
  have minimal := minimal_of_shortest (l.nonempty p member) content
  rw [Part.bytes_of_shortField field]
  change _ = encodeElement integerTag (dropRedundant p.content)
  rw [dropRedundant_of_minimal minimal]

theorem bytes_of_shortest {l : Layout} (short : l.Shortest) (inside : l.inside = [])
    (outside : l.outside = []) : l.bytes = l.key.encode := by
  have content : l.whole.content = l.key.body := by
    change encodeParts l.parts ++ l.inside = _
    rw [inside, List.append_nil, body_eq, integers_key, List.flatMap_map]
    exact List.flatMap_congr fun p member => part_bytes_of_shortest short member
  rw [bytes, Part.bytes_of_shortField short.1, content, outside, List.append_nil, encode_eq]

/-- Canonical contents take no more room than the parts they come from. -/
theorem body_length_le (l : Layout) : l.key.body.length ≤ (encodeParts l.parts).length := by
  have pieces : ∀ parts : List Part, (∀ p ∈ parts, p.content ≠ []) →
      (parts.flatMap fun p => (Integer.ofSigned p.content).encode).length ≤
        (encodeParts parts).length := by
    intro parts nonempty
    induction parts with
    | nil => exact Nat.le_refl _
    | cons p rest ih =>
      have tail := ih fun q member => nonempty q (List.mem_cons_of_mem _ member)
      have content := length_dropRedundant_le (nonempty p List.mem_cons_self)
      have head : (Integer.ofSigned p.content).encode.length ≤ (p.bytes integerTag).length :=
        Nat.le_trans (encodeElement_mono content integerTag) (p.encodeElement_length_le integerTag)
      simp only [encodeParts, List.flatMap_cons, List.length_append] at tail ⊢
      omega
  rw [body_eq, l.integers_key, List.flatMap_map]
  exact pieces l.parts l.nonempty

end Layout

/-- A key whose content fits into a length field is written in its shortest layout. -/
theorem layout_of_key (k : Rsa) (fits : k.body.length < 2 ^ 32) :
    ∃ l : Layout, l.bytes = k.encode ∧ l.inside = [] ∧ l.outside = [] ∧ l.key = k ∧
      l.Shortest := by
  obtain ⟨parts, written⟩ := parts_of_integers k.integers (k.body_eq ▸ fits)
  have content : encodeParts parts ++ [] = k.body := by
    rw [List.append_nil, encodeParts_of_writes written, body_eq]
  let l : Layout :=
    { parts, inside := [], outside := [], field := encodeLength k.body.length
      nine := written.length_eq
      nonempty := fun p member => by
        obtain ⟨x, same, _⟩ := exists_of_writes written member
        exact same ▸ x.bytes_ne_nil
      announced := by
        rw [content]
        exact lengthField_encodeLength fits }
  have whole : l.whole.ShortField := by
    apply (Part.shortField_iff _).mpr
    change encodeLength k.body.length = encodeLength (encodeParts parts ++ []).length
    rw [content]
  have short : l.Shortest := by
    refine ⟨whole, fun p member => ?_⟩
    obtain ⟨x, same, field⟩ := exists_of_writes written member
    refine ⟨field, ?_⟩
    rw [same]
    exact fun other => length_le_of_minimal x.minimal
  have key : l.key = k := Layout.key_eq_of_writes written
  exact ⟨l, key ▸ Layout.bytes_of_shortest short rfl rfl, rfl, rfl, key, short⟩

/-- The layout of accepted bytes, and what accepting them says about it. -/
theorem layout_of_accepted {der : Bytes} {k : Rsa} (accepted : parse der = .ok k) :
    ∃ l : Layout, l.bytes = der ∧ l.inside = [] ∧ l.outside = [] ∧ l.version = 0 ∧ l.key = k := by
  obtain ⟨l, rfl⟩ := layout_of_parse accepted (by simp)
  exact ⟨l, rfl, (l.accepted_iff k).mp accepted⟩

theorem parse_encode {k : Rsa} (fits : k.body.length < 2 ^ 32) :
    parse k.encode = if k.version.toInt = 0 then .ok k else .error .unsupportedVersion := by
  obtain ⟨l, bytes, inside, outside, rfl, _⟩ := layout_of_key k fits
  rw [← bytes, l.parse_bytes, l.toInt_version_key]
  by_cases version : l.version = 0
  · simp [version, inside, outside]
  · simp [version]

/-- Accepted bytes are long enough for their key to be written. -/
theorem body_fits_of_accepted {der : Bytes} {k : Rsa} (accepted : parse der = .ok k) :
    k.body.length < 2 ^ 32 := by
  obtain ⟨l, _, _, _, _, rfl⟩ := layout_of_accepted accepted
  have whole := l.announced.lt
  have part := l.body_length_le
  rw [List.length_append] at whole
  omega

theorem parse_encode_of_accepted {der : Bytes} {k : Rsa} (accepted : parse der = .ok k) :
    parse k.encode = .ok k := by
  obtain ⟨l, _, _, _, version, rfl⟩ := layout_of_accepted accepted
  rw [parse_encode (body_fits_of_accepted accepted), if_pos (l.toInt_version_key.trans version)]

theorem length_encode_le {der : Bytes} {k : Rsa} (accepted : parse der = .ok k) :
    k.encode.length ≤ der.length := by
  obtain ⟨l, rfl, inside, outside, _, rfl⟩ := layout_of_accepted accepted
  have content : l.key.body.length ≤ l.whole.content.length := by
    simpa [Layout.whole, inside] using l.body_length_le
  calc l.key.encode.length
      = (encodeElement sequenceTag l.key.body).length := by rw [encode_eq]
    _ ≤ (encodeElement sequenceTag l.whole.content).length := encodeElement_mono content _
    _ ≤ (l.whole.bytes sequenceTag).length := l.whole.encodeElement_length_le _
    _ = l.bytes.length := by rw [Layout.bytes, outside, List.append_nil]

theorem encode_eq_iff_shortest {der : Bytes} {k : Rsa} (accepted : parse der = .ok k) :
    k.encode = der ↔ ∃ l : Layout, l.bytes = der ∧ l.Shortest := by
  constructor
  · rintro rfl
    obtain ⟨l, bytes, _, _, _, short⟩ := layout_of_key k (body_fits_of_accepted accepted)
    exact ⟨l, bytes, short⟩
  · rintro ⟨l, rfl, short⟩
    obtain ⟨inside, outside, _, rfl⟩ := (l.accepted_iff k).mp accepted
    exact (Layout.bytes_of_shortest short inside outside).symm

/-- Keys that were parsed are written alike only if they are the same. -/
theorem encode_injective_of_accepted {a b : Bytes} {k l : Rsa} (first : parse a = .ok k)
    (second : parse b = .ok l) (same : k.encode = l.encode) : k = l := by
  have again := parse_encode_of_accepted first
  rw [same, parse_encode_of_accepted second] at again
  simpa using again.symm

/-- Writing and parsing undo each other up to the canonical form, which is never longer
than what was parsed and is reached by bytes without any padding alone. -/
theorem encode_canonical :
    (∀ k : Rsa, k.body.length < 2 ^ 32 → parse k.encode =
      if k.version.toInt = 0 then .ok k else .error .unsupportedVersion) ∧
    (∀ der k, parse der = .ok k → parse k.encode = .ok k ∧ k.encode.length ≤ der.length ∧
      (k.encode = der ↔ ∃ l : Layout, l.bytes = der ∧ l.Shortest)) ∧
    (∀ a b k l, parse a = .ok k → parse b = .ok l → (k.encode = l.encode ↔
      ∃ v w : Layout, v.bytes = a ∧ w.bytes = b ∧ v.values = w.values)) := by
  refine ⟨fun k fits => parse_encode fits, fun der k accepted => ?_, ?_⟩
  · exact ⟨parse_encode_of_accepted accepted, length_encode_le accepted,
      encode_eq_iff_shortest accepted⟩
  · intro a b k l first second
    constructor
    · intro same
      obtain ⟨v, bytesV, _, _, _, rfl⟩ := layout_of_accepted first
      obtain ⟨w, bytesW, _, _, _, rfl⟩ := layout_of_accepted second
      refine ⟨v, w, bytesV, bytesW, ?_⟩
      rw [v.values_eq, w.values_eq, encode_injective_of_accepted first second same]
    · rintro ⟨v, w, rfl, rfl, same⟩
      obtain ⟨_, _, _, rfl⟩ := (v.accepted_iff k).mp first
      obtain ⟨_, _, _, rfl⟩ := (w.accepted_iff l).mp second
      rw [v.values_eq, w.values_eq] at same
      have numbers := List.map_injective_iff.mpr (fun _ _ => Integer.toInt_injective) same
      rw [integers_injective numbers]

/-- A key of two small primes, 61 and 53. -/
def textbook : Rsa where
  version := .ofUInt64 0
  modulus := .ofUInt64 3233
  publicExponent := .ofUInt64 17
  privateExponent := .ofUInt64 413
  prime1 := .ofUInt64 61
  prime2 := .ofUInt64 53
  exponent1 := .ofUInt64 53
  exponent2 := .ofUInt64 49
  coefficient := .ofUInt64 38

/-- The same key with a padded length and a version of two bytes. -/
def textbookPadded : Bytes :=
  [0x30, 0x81, 0x1e, 0x02, 0x02, 0x00, 0x00, 0x02, 0x02, 0x0c, 0xa1, 0x02, 0x01, 0x11,
    0x02, 0x02, 0x01, 0x9d, 0x02, 0x01, 0x3d, 0x02, 0x01, 0x35, 0x02, 0x01, 0x35,
    0x02, 0x01, 0x31, 0x02, 0x01, 0x26]

theorem encode_canonical_textbook :
    (textbook.body.length < 2 ^ 32 ∧ parse textbook.encode = .ok textbook) ∧
    (parse textbookPadded = .ok textbook ∧ textbook.encode.length ≤ textbookPadded.length ∧
      ¬ ∃ l : Layout, l.bytes = textbookPadded ∧ l.Shortest) ∧
    ∃ v w : Layout, v.bytes = textbookPadded ∧ w.bytes = textbook.encode ∧
      v.values = w.values := by
  have accepted : parse textbookPadded = .ok textbook := by decide
  have fits : textbook.body.length < 2 ^ 32 := by decide
  obtain ⟨again, shorter, shortest⟩ := encode_canonical.2.1 textbookPadded textbook accepted
  refine ⟨⟨fits, ?_⟩, ⟨accepted, shorter, fun layout => ?_⟩, ?_⟩
  · rw [encode_canonical.1 textbook fits, if_pos (by decide)]
  · exact absurd (shortest.mpr layout) (by decide)
  · exact (encode_canonical.2.2 _ _ _ _ accepted again).mp rfl

end Throughput.Key.Rsa
