import Throughput.Text.Utf8
import Mathlib.Tactic.SplitIfs

/-! The order of texts. Texts are compared character by character, which is the order of
their UTF-8 bytes. -/
namespace Throughput.Text

/-- The bytes of a text come before those of another: at the first place where they differ
they are smaller, or they end there. -/
def BytesBefore (a b : String) : Prop := List.Lex (· < ·) (utf8 a) (utf8 b)

/-- A smaller character differs from a greater one in a byte of both, whatever follows. -/
theorem utf8EncodeChar_lt {c d : Char} (less : c < d) (after other : Bytes) :
    List.Lex (· < ·) (String.utf8EncodeChar c ++ after) (String.utf8EncodeChar d ++ other) := by
  have smaller : c.val.toNat < d.val.toNat := less
  have range : d.val.toNat < 0x110000 := by
    rcases d.valid with low | high
    · exact Nat.lt_trans low (by decide)
    · exact high.2
  simp only [String.utf8EncodeChar]
  generalize c.val.toNat = v at *
  generalize d.val.toNat = w at *
  -- by the lengths of both: a longer character also starts with a greater byte
  split_ifs <;>
    simp only [List.cons_append, List.nil_append, List.cons_lex_cons_iff, UInt8.lt_iff_toNat_lt,
      ← UInt8.toNat_inj, UInt8.toNat_ofNat'] <;>
    simp (disch := omega) only [Nat.mod_eq_of_lt] <;> omega

theorem BytesBefore.asymm {a b : String} (before : BytesBefore a b) : ¬ BytesBefore b a := by
  have ordered : utf8 a < utf8 b := before
  exact List.lt_asymm ordered

theorem bytesBefore_of_lt {a b : String} (less : a < b) : BytesBefore a b := by
  have lexed : List.Lex (· < ·) a.toList b.toList := less
  unfold BytesBefore utf8
  generalize a.toList = cs at lexed
  generalize b.toList = ds at lexed
  induction lexed with
  | @nil d ds =>
    have some : String.utf8EncodeChar d ≠ [] := String.utf8EncodeChar_ne_nil
    obtain ⟨first, rest, encoded⟩ := List.exists_cons_of_ne_nil some
    rw [List.flatMap_cons, encoded]
    exact .nil
  | rel less => exact utf8EncodeChar_lt less _ _
  | @cons c cs ds _ ih =>
    rw [List.flatMap_cons, List.flatMap_cons]
    induction String.utf8EncodeChar c with
    | nil => exact ih
    | cons b rest later => exact .cons later

theorem le_iff_bytesBefore {a b : String} : a ≤ b ↔ a = b ∨ BytesBefore a b := by
  constructor
  · intro ordered
    rcases Std.le_iff_lt_or_eq.mp ordered with less | same
    · exact .inr (bytesBefore_of_lt less)
    · exact .inl same
  · rintro (rfl | before)
    · exact String.le_refl a
    · exact String.not_lt.mp fun greater => before.asymm (bytesBefore_of_lt greater)

end Throughput.Text
