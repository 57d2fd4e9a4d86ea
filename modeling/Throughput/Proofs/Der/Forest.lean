import Throughput.Proofs.Der.Reader

/-! Forests of elements, of any depth and width, read back from what they were written as.
What is longer than a length field of the reader can say is refused, not misread. -/
namespace Throughput.Der

namespace Node

def tag : Node → UInt8
  | integer _ => integerTag
  | sequence _ => sequenceTag

def content : Node → Bytes
  | integer value => value.bytes
  | sequence children => encodeNodes children

/-- Four bytes hold the length of the content. -/
def Short (node : Node) : Prop := node.content.length < 2 ^ 32

theorem encode_eq (node : Node) : node.encode = encodeElement node.tag node.content := by
  cases node <;> rfl

theorem content_length_le (node : Node) : node.content.length ≤ node.encode.length := by
  rw [encode_eq, length_encodeElement]
  omega

end Node

theorem encodeNodes_cons (node : Node) (rest : List Node) :
    encodeNodes (node :: rest) = node.encode ++ encodeNodes rest := rfl

theorem encodeNodes_append (a b : List Node) :
    encodeNodes (a ++ b) = encodeNodes a ++ encodeNodes b := by
  induction a with
  | nil => rfl
  | cons node rest ih => rw [List.cons_append, encodeNodes_cons, encodeNodes_cons, ih, List.append_assoc]

/-- No element is longer than what it is a part of. -/
theorem content_length_le_of_mem {node : Node} {nodes : List Node} (member : node ∈ nodes) :
    node.content.length ≤ (encodeNodes nodes).length := by
  obtain ⟨before, after, rfl⟩ := List.append_of_mem member
  have inside := node.content_length_le
  rw [encodeNodes_append, encodeNodes_cons, List.length_append, List.length_append]
  omega

mutual

/-- `s` is what is left of `r` when a node was read back from it: the same values, and
every SEQUENCE up to the end of its content. -/
def Node.ReadsBack : Node → Reader → Reader → Prop
  | .integer value, r, s => r.integer = (.ok value, s)
  | .sequence children, r, s => ∃ content last, r.sequence = (.ok content, s) ∧
      ReadBack children content last ∧ last.isEmpty = true

/-- The same for nodes one after the other. -/
def ReadBack : List Node → Reader → Reader → Prop
  | [], r, s => s = r
  | node :: rest, r, s => ∃ next, node.ReadsBack r next ∧ ReadBack rest next s

end

mutual

theorem Node.readShape_of_readsBack : (node : Node) → {r s : Reader} → node.ReadsBack r s →
    node.readShape r = (.ok node, s)
  | .integer value, r, s, back => by
    have read : r.integer = (.ok value, s) := back
    simp only [Node.readShape, read]
  | .sequence children, r, s, back => by
    obtain ⟨content, last, read, inside, _⟩ := back
    simp only [Node.readShape, read, readShapes_of_readBack children inside]

theorem readShapes_of_readBack : (nodes : List Node) → {r s : Reader} → ReadBack nodes r s →
    readShapes nodes r = (.ok nodes, s)
  | [], r, s, back => by
    have same : s = r := back
    rw [same, readShapes]
  | node :: rest, r, s, back => by
    obtain ⟨next, first, later⟩ := back
    simp only [readShapes, node.readShape_of_readsBack first, readShapes_of_readBack rest later]

end

open Reader (Advances advances_of_rest sequence_ok_iff integer_ok_iff)

/-- The element that is written of a content, as a part of the grammar. -/
def Node.part (node : Node) (short : node.Short) : Part :=
  ⟨encodeLength node.content.length, node.content, lengthField_encodeLength short⟩

theorem Node.encode_eq_part (node : Node) (short : node.Short) :
    node.encode = (node.part short).bytes node.tag := node.encode_eq

mutual

theorem Node.readsBack : (node : Node) → node.Short → {r s : Reader} →
    Advances r node.encode s → node.ReadsBack r s
  | .integer value, short, r, s, reading => by
    rw [Node.encode_eq_part _ short] at reading
    exact integer_ok_iff.mpr ⟨_, value.bytes_ne_nil, value.ofSigned_bytes.symm, reading⟩
  | .sequence children, short, r, s, reading => by
    rw [Node.encode_eq_part _ short] at reading
    have read := sequence_ok_iff.mpr ⟨_, rfl, reading⟩
    have start : (Reader.mk (encodeNodes children) 0 r.offset).rest = encodeNodes children ++ [] :=
      (List.append_nil _).symm
    obtain ⟨inside, rest⟩ := advances_of_rest (Nat.zero_le _) start
    have shorter : ∀ child ∈ children, child.Short := fun child member =>
      Nat.lt_of_le_of_lt (content_length_le_of_mem member) short
    exact ⟨_, _, read, readBack children shorter inside, (Reader.isEmpty_iff_rest _).mpr rest⟩

theorem readBack : (nodes : List Node) → (∀ node ∈ nodes, node.Short) → {r s : Reader} →
    Advances r (encodeNodes nodes) s → ReadBack nodes r s
  | [], _, r, s, reading => reading.next
  | node :: rest, short, r, s, reading => by
    obtain ⟨first, later⟩ := Advances.split reading
    refine ⟨_, node.readsBack (short node (List.mem_cons_self ..)) first, ?_⟩
    exact readBack rest (fun other member => short other (List.mem_cons_of_mem _ member)) later

end

/-- Lengths from 2³² that fit a word take five to eight digits. -/
theorem digits_of_long {n : Nat} (long : 2 ^ 32 ≤ n) (word : n < 2 ^ 64) :
    5 ≤ (Bytes.ofNatMinimal n).length ∧ (Bytes.ofNatMinimal n).length ≤ 8 := by
  refine ⟨?_, Bytes.length_ofNatMinimal_le (by simpa using word)⟩
  by_contra few
  have bound := Bytes.toNat_lt (Bytes.ofNatMinimal n)
  have most : 256 ^ (Bytes.ofNatMinimal n).length ≤ 256 ^ 4 :=
    Nat.pow_le_pow_right (by decide) (by omega)
  rw [Bytes.toNat_ofNatMinimal] at bound
  omega

/-- Reading a node of this kind fails at its length of so many bytes. -/
def Node.Refused : Node → Reader → Nat → Prop
  | integer _, r, count => r.integer.1 = .error (.unsupportedLength count)
  | sequence _, r, count => r.sequence.1 = .error (.unsupportedLength count)

theorem element_refused {r : Reader} {tag : UInt8} {content tail : Bytes}
    (long : 2 ^ 32 ≤ content.length) (word : content.length < 2 ^ 64)
    (within : r.pos ≤ r.data.length) (next : r.rest = encodeElement tag content ++ tail) :
    (r.element tag).1 = .error (.unsupportedLength (Bytes.ofNatMinimal content.length).length) := by
  obtain ⟨least, most⟩ := digits_of_long long word
  generalize written : Bytes.ofNatMinimal content.length = digits at least most
  have header : encodeLength content.length = .ofNat (0x80 + digits.length) :: digits := by
    rw [encodeLength_long (by omega), written]
  have bytes : r.rest = [tag] ++ ([.ofNat (0x80 + digits.length)] ++ (digits ++ content ++ tail)) := by
    rw [next, encodeElement, header]
    simp
  obtain ⟨first, rest⟩ := advances_of_rest within bytes
  obtain ⟨second, _⟩ := advances_of_rest first.within rest
  obtain ⟨large, count⟩ := (Reader.long_first (by omega)).mp
    (rfl : UInt8.ofNat (0x80 + digits.length) = .ofNat (0x80 + digits.length))
  have unsupported : digits.length = 0 ∨ maxLengthBytes < digits.length :=
    .inr (Nat.lt_of_lt_of_le (by decide) least)
  simp only [Reader.element, Reader.byte_ok_iff.mpr first, ne_eq, not_true_eq_false, if_false,
    Reader.length, Reader.byte_ok_iff.mpr second, if_neg large, count, if_pos unsupported]

theorem Node.refused (node : Node) {r : Reader} {tail : Bytes}
    (long : 2 ^ 32 ≤ node.content.length) (word : node.content.length < 2 ^ 64)
    (within : r.pos ≤ r.data.length) (next : r.rest = node.encode ++ tail) :
    node.Refused r (Bytes.ofNatMinimal node.content.length).length := by
  rw [node.encode_eq] at next
  have failed := element_refused long word within next
  cases node with
  | integer value =>
    rcases read : r.element integerTag with ⟨result, after⟩
    have cause : result = _ := (congrArg Prod.fst read).symm.trans failed
    simp only [Refused, Reader.integer, read, cause]
  | sequence children =>
    rcases read : r.element sequenceTag with ⟨result, after⟩
    have cause : result = _ := (congrArg Prod.fst read).symm.trans failed
    simp only [Refused, Reader.sequence, read, cause]

theorem exists_first_long {nodes : List Node} (long : ∃ node ∈ nodes, 2 ^ 32 ≤ node.content.length) :
    ∃ before node after, nodes = before ++ node :: after ∧ (∀ other ∈ before, other.Short) ∧
      2 ^ 32 ≤ node.content.length := by
  induction nodes with
  | nil =>
    obtain ⟨_, member, _⟩ := long
    cases member
  | cons head rest ih =>
    by_cases short : head.Short
    · obtain ⟨node, member, longer⟩ := long
      rcases List.mem_cons.mp member with rfl | later
      · exact absurd short (Nat.not_lt.mpr longer)
      · obtain ⟨before, first, after, rfl, shorts, longest⟩ := ih ⟨node, later, longer⟩
        exact ⟨head :: before, first, after, rfl, List.forall_mem_cons.mpr ⟨short, shorts⟩, longest⟩
    · exact ⟨[], head, rest, rfl, by simp, Nat.not_lt.mp short⟩

/-- Whatever forest is written, it is read back to the last byte of each SEQUENCE and up to
what follows it, unless an element is too long: then the first such element is refused. -/
theorem forest_read_back (forest : List Node) (rest : Bytes) :
    ((∀ node ∈ forest, node.Short) →
      ∃ s, ReadBack forest (.ofBytes (encodeNodes forest ++ rest)) s ∧ s.rest = rest ∧
        readShapes forest (.ofBytes (encodeNodes forest ++ rest)) = (.ok forest, s)) ∧
    ((∃ node ∈ forest, 2 ^ 32 ≤ node.content.length) →
      (∀ node ∈ forest, node.content.length < 2 ^ 64) →
      ∃ before node after s count, forest = before ++ node :: after ∧
        (∀ other ∈ before, other.Short) ∧ 2 ^ 32 ≤ node.content.length ∧
        ReadBack before (.ofBytes (encodeNodes forest ++ rest)) s ∧
        5 ≤ count ∧ count ≤ 8 ∧ node.Refused s count) := by
  have start : (Reader.ofBytes (encodeNodes forest ++ rest)).rest = encodeNodes forest ++ rest := rfl
  constructor
  · intro short
    obtain ⟨reading, left⟩ := advances_of_rest (Nat.zero_le _) start
    have back := readBack forest short reading
    exact ⟨_, back, left, readShapes_of_readBack forest back⟩
  · intro long word
    obtain ⟨before, node, after, rfl, short, longer⟩ := exists_first_long long
    have split : (Reader.ofBytes (encodeNodes (before ++ node :: after) ++ rest)).rest =
        encodeNodes before ++ (node.encode ++ (encodeNodes after ++ rest)) := by
      rw [start, encodeNodes_append, encodeNodes_cons, List.append_assoc, List.append_assoc]
    obtain ⟨reading, left⟩ := advances_of_rest (Nat.zero_le _) split
    have fits : node.content.length < 2 ^ 64 := word node (by simp)
    obtain ⟨least, most⟩ := digits_of_long longer fits
    exact ⟨before, node, after, _, _, rfl, short, longer, readBack before short reading, least, most,
      node.refused longer fits reading.within left⟩

/-- A power of 256, to have integers of any width. -/
def Integer.wide (zeros : Nat) : Integer := ⟨1 :: 0 :: List.replicate zeros 0, by rfl⟩

theorem forest_read_back_on_both_sides :
    let forest : List Node := [.sequence [.sequence [], .integer ⟨[0x80], trivial⟩],
      .integer (.wide 300)]
    let long : List Node := [.sequence [.integer (.wide 2)], .integer (.wide (2 ^ 32)), .sequence []]
    ((∀ node ∈ forest, node.Short) ∧
      ∃ s, readShapes forest (.ofBytes (encodeNodes forest ++ [0x30])) = (.ok forest, s) ∧
        s.rest = [0x30]) ∧
    (∃ node ∈ long, 2 ^ 32 ≤ node.content.length) ∧
      (∀ node ∈ long, node.content.length < 2 ^ 64) ∧
      ∃ before node after s count, long = before ++ node :: after ∧
        ReadBack before (.ofBytes (encodeNodes long ++ [])) s ∧ node.Refused s count := by
  intro forest long
  have wide (zeros : Nat) : (Node.integer (.wide zeros)).content.length = zeros + 2 := by
    simp [Node.content, Integer.wide]
  have shorts : ∀ node ∈ forest, node.Short := by
    simp only [forest, List.forall_mem_cons, List.not_mem_nil, false_implies, implies_true, and_true,
      Node.Short, wide]
    decide
  have longer : ∃ node ∈ long, 2 ^ 32 ≤ node.content.length :=
    ⟨.integer (.wide (2 ^ 32)), by simp [long], by rw [wide]; omega⟩
  have words : ∀ node ∈ long, node.content.length < 2 ^ 64 := by
    simp only [long, List.forall_mem_cons, List.not_mem_nil, false_implies, implies_true, and_true,
      wide]
    decide
  obtain ⟨s, _, left, read⟩ := (forest_read_back forest [0x30]).1 shorts
  obtain ⟨before, node, after, t, count, split, _, _, back, _, _, refused⟩ :=
    (forest_read_back long []).2 longer words
  exact ⟨⟨shorts, s, read, left⟩, longer, words, before, node, after, t, count, split, back, refused⟩

end Throughput.Der
