import Throughput.Der.Node
import Throughput.Proofs.Bytes

/-! Length fields and elements as a grammar, which leaves room for padding, beside the
one field that is written, which does not. -/
namespace Throughput.Der

/-- The fields that say a content has so many bytes. Digits may start with zero bytes,
and the long form may spell what the short form could. -/
inductive LengthField : Nat → Bytes → Prop where
  | short (b : UInt8) : b < 0x80 → LengthField b.toNat [b]
  | long (digits : Bytes) : digits ≠ [] → digits.length ≤ 4 →
      LengthField digits.toNat (.ofNat (0x80 + digits.length) :: digits)

/-- An element without its tag: a length field and the content it announces. -/
structure Part where
  field : Bytes
  content : Bytes
  announced : LengthField content.length field

namespace Part

def bytes (tag : UInt8) (p : Part) : Bytes := tag :: p.field ++ p.content

/-- No shorter field announces the same content. -/
def ShortField (p : Part) : Prop :=
  ∀ other, LengthField p.content.length other → p.field.length ≤ other.length

end Part

/-- Parts as INTEGER elements, one after the other. -/
def encodeParts (parts : List Part) : Bytes := parts.flatMap (Part.bytes integerTag)

theorem encodeNodes_integers (values : List Integer) :
    encodeNodes (values.map .integer) = values.flatMap Integer.encode := by
  induction values with
  | nil => rfl
  | cons x rest ih => simp [encodeNodes, Node.encode, ih]

theorem LengthField.lt {n : Nat} {field : Bytes} (valid : LengthField n field) : n < 2 ^ 32 := by
  cases valid with
  | short b small => exact Nat.lt_of_lt_of_le b.toNat_lt (by decide)
  | long digits _ bound =>
    calc digits.toNat < 256 ^ digits.length := Bytes.toNat_lt digits
      _ ≤ 256 ^ 4 := Nat.pow_le_pow_right (by decide) bound

theorem encodeLength_short {n : Nat} (small : n < 0x80) : encodeLength n = [.ofNat n] :=
  if_pos small

theorem encodeLength_long {n : Nat} (large : ¬ n < 0x80) : encodeLength n =
    .ofNat (0x80 + (Bytes.ofNatMinimal n).length) :: Bytes.ofNatMinimal n :=
  if_neg large

/-- What is written is a field of the grammar while four bytes hold the length. -/
theorem lengthField_encodeLength {n : Nat} (fits : n < 2 ^ 32) :
    LengthField n (encodeLength n) := by
  by_cases small : n < 0x80
  · have byte : (UInt8.ofNat n).toNat = n := by simp; omega
    have field := LengthField.short (.ofNat n) (by
      rw [UInt8.lt_iff_toNat_lt, byte]
      exact small)
    rwa [byte, ← encodeLength_short small] at field
  · have field := LengthField.long (Bytes.ofNatMinimal n)
      (Bytes.ofNatMinimal_ne_nil (by omega))
      (Bytes.length_ofNatMinimal_le (by simpa using fits))
    rwa [Bytes.toNat_ofNatMinimal, ← encodeLength_long small] at field

theorem length_encodeLength_le {n : Nat} {field : Bytes} (valid : LengthField n field) :
    (encodeLength n).length ≤ field.length := by
  cases valid with
  | short b small => simp [encodeLength_short (UInt8.lt_iff_toNat_lt.mp small)]
  | long digits nonempty _ =>
    by_cases small : digits.toNat < 0x80
    · simp [encodeLength_short small]
    · rw [encodeLength_long small]
      simpa using Bytes.length_ofNatMinimal_toNat_le digits

/-- The written field is the only one of its size. -/
theorem eq_encodeLength {n : Nat} {field : Bytes} (valid : LengthField n field)
    (short : field.length ≤ (encodeLength n).length) : field = encodeLength n := by
  cases valid with
  | short b small =>
    rw [encodeLength_short (UInt8.lt_iff_toNat_lt.mp small), UInt8.ofNat_toNat]
  | long digits nonempty _ =>
    have positive : 0 < digits.length := List.length_pos_iff.mpr nonempty
    by_cases small : digits.toNat < 0x80
    · rw [encodeLength_short small] at short
      simp at short
      contradiction
    · rw [encodeLength_long small] at short ⊢
      have lengths : digits.length = (Bytes.ofNatMinimal digits.toNat).length :=
        Nat.le_antisymm (by simpa using short) (Bytes.length_ofNatMinimal_toNat_le digits)
      have same := Bytes.eq_of_toNat_eq lengths (Bytes.toNat_ofNatMinimal _).symm
      rw [← same]

theorem encodeLength_mono {m n : Nat} (le : m ≤ n) :
    (encodeLength m).length ≤ (encodeLength n).length := by
  by_cases small : m < 0x80
  · rw [encodeLength_short small, encodeLength]
    split <;> simp
  · rw [encodeLength_long small, encodeLength_long (by omega)]
    have fits : m < 256 ^ (Bytes.ofNatMinimal n).length := by
      have bound := Bytes.toNat_lt (Bytes.ofNatMinimal n)
      rw [Bytes.toNat_ofNatMinimal] at bound
      omega
    simpa using Bytes.length_ofNatMinimal_le fits

theorem length_encodeElement (tag : UInt8) (content : Bytes) :
    (encodeElement tag content).length =
      1 + (encodeLength content.length).length + content.length := by
  simp [encodeElement]
  omega

theorem encodeElement_mono {a b : Bytes} (le : a.length ≤ b.length) (tag : UInt8) :
    (encodeElement tag a).length ≤ (encodeElement tag b).length := by
  have fields := encodeLength_mono le
  rw [length_encodeElement, length_encodeElement]
  omega

theorem Part.shortField_iff (p : Part) :
    p.ShortField ↔ p.field = encodeLength p.content.length := by
  constructor
  · intro short
    exact eq_encodeLength p.announced (short _ (lengthField_encodeLength p.announced.lt))
  · intro written other valid
    rw [written]
    exact length_encodeLength_le valid

theorem Part.encodeElement_length_le (p : Part) (tag : UInt8) :
    (encodeElement tag p.content).length ≤ (p.bytes tag).length := by
  have shorter := length_encodeLength_le p.announced
  simp only [encodeElement, bytes, List.cons_append, List.length_cons, List.length_append]
  omega

theorem Part.bytes_of_shortField {p : Part} (short : p.ShortField) (tag : UInt8) :
    p.bytes tag = encodeElement tag p.content := by
  rw [bytes, encodeElement, p.shortField_iff.mp short]

end Throughput.Der
