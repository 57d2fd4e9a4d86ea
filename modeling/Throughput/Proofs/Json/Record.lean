import Throughput.Json.Record
import Throughput.Proofs.Json.Skip

/-! Records read from the text of an object. Its members may come in any order and be spelled in
any way; members that are no fields only have to have the form of JSON. -/
namespace Throughput.Json

/-- The ways to spell a value of a kind. -/
inductive Kind.Spelled : (kind : Kind) → kind.Holds → List Char → Prop
  | text {t : String} {s : List Char} (letters : SpelledChars t.toList s) :
      Kind.Spelled .text t ('"' :: (s ++ ['"']))
  | word {n : Numeral} {w : UInt32} {s : List Char} (spelled : n.Spelled s)
      (value : n.value = .ok (.integer w.toNat)) : Kind.Spelled .word w s
  | present {t : String} {s : List Char} (letters : SpelledChars t.toList s) :
      Kind.Spelled .optionalText (some t) ('"' :: (s ++ ['"']))
  | null : Kind.Spelled .optionalText none ['n', 'u', 'l', 'l']

/-- A name in quotes, a colon, and the text of a value with blanks around it. -/
inductive SpelledEntry : String × List Char → List Char → Prop
  | mk {name : String} {before letters between front value after : List Char} (leading : Blanks before)
      (spelled : SpelledChars name.toList letters) (blanks : Blanks between) (first : Blanks front)
      (trailing : Blanks after) : SpelledEntry (name, value)
        (before ++ '"' :: (letters ++ '"' :: (between ++ ':' :: (front ++ (value ++ after)))))

/-- Entries with commas between them. -/
inductive SpelledEntries : List (String × List Char) → List Char → Prop
  | one {m : String × List Char} {s : List Char} (entry : SpelledEntry m s) : SpelledEntries [m] s
  | more {m : String × List Char} {ms : List (String × List Char)} {s t : List Char}
      (entry : SpelledEntry m s) (others : SpelledEntries ms t) : SpelledEntries (m :: ms) (s ++ ',' :: t)

/-- The text of an object, by the names of its members and the texts of their values. -/
inductive SpelledObject : List (String × List Char) → List Char → Prop
  | empty {before s after : List Char} (leading : Blanks before) (blanks : Blanks s)
      (trailing : Blanks after) :
      SpelledObject [] (before ++ Text.openBrace :: (s ++ Text.closeBrace :: after))
  | entries {ms : List (String × List Char)} {before s after : List Char} (leading : Blanks before)
      (entries : SpelledEntries ms s) (trailing : Blanks after) :
      SpelledObject ms (before ++ Text.openBrace :: (s ++ Text.closeBrace :: after))

/-- A field has one member, whose text spells its value, or it may be absent and is. -/
inductive Occurs (f : Field) : f.kind.Holds → List (String × List Char) → Prop
  | once {value : f.kind.Holds} {ms : List (String × List Char)} {s : List Char}
      (only : ms.filter (·.1 = f.name) = [(f.name, s)]) (spelled : f.kind.Spelled value s) :
      Occurs f value ms
  | absent {value : f.kind.Holds} {ms : List (String × List Char)} (none : ∀ m ∈ ms, m.1 ≠ f.name)
      (optional : f.kind.absent? = some value) : Occurs f value ms

/-- Every field of a row occurs. -/
def Covers : (fields : List Field) → Row fields → List (String × List Char) → Prop
  | [], (), _ => True
  | f :: fields, (value, row), ms => Occurs f value ms ∧ Covers fields row ms

/-- Members that are no fields. -/
def Foreign (fields : List Field) (m : String × List Char) : Prop := ∀ f ∈ fields, f.name ≠ m.1

theorem plain_spelled {text : String} (plain : text.toList.flatMap escape = text.toList) :
    SpelledChars text.toList text.toList := by
  have spelled := escapes_spelled text.toList
  rwa [plain] at spelled

/-- A name that needs no escapes, before a value. -/
theorem plain_entry (name value : String) (plain : name.toList.flatMap escape = name.toList) :
    SpelledEntry (name, value.toList)
      (' ' :: '"' :: (name.toList ++ '"' :: ':' :: ' ' :: (value.toList ++ []))) :=
  have space : Blanks [' '] := List.forall_mem_singleton.mpr rfl
  .mk space (plain_spelled plain) blanks_nil space blanks_nil

section

variable {s t u rest left : List Char}

theorem readTextField_spelled {text : String} {letters : List Char} (spelled : SpelledChars text.toList letters)
    (front : skipBlank t = '"' :: (letters ++ '"' :: rest)) : (readTextField t).Leaves text rest := by
  obtain ⟨last, taken, left⟩ := readText_spelled spelled rest
  rw [readTextField, Taken.leaves_afterBlank]
  generalize skipBlank t = quoted at front
  subst front
  simp only [if_true, taken]
  exact ⟨_, rfl, left⟩

theorem wordOf_toNat (w : UInt32) : wordOf (.integer w.toNat) = .ok w := by
  have bound : (w.toNat : Int) < UInt32.size := by
    exact_mod_cast w.toNat_lt_size
  rw [wordOf, if_pos (by simpa using bound)]
  simp

theorem readWordField_of {x : Number} {w : UInt32} {c : Char} (first : c = '-' ∨ Text.isDigit c = true)
    (front : skipBlank t = c :: s) (reading : (readNumber (c :: s)).Leaves x rest) (word : wordOf x = .ok w) :
    (readWordField t).Leaves w rest := by
  obtain ⟨last, taken, left⟩ := reading
  have opens : (c = '-' || Text.isDigit c) = true := by simpa using first
  rw [readWordField, Taken.leaves_afterBlank]
  generalize skipBlank t = number at front
  subst front
  simp only [opens, if_true, taken, word]
  exact ⟨_, rfl, left⟩

theorem readOptionalField_null (front : skipBlank t = 'n' :: 'u' :: 'l' :: 'l' :: rest) :
    (readOptionalField t).Leaves none rest := by
  have reading : (readScalar (skipBlank t)).Leaves .null rest := by
    rw [front]
    exact ⟨_, rfl, rfl⟩
  obtain ⟨last, taken, left⟩ := reading
  rw [readOptionalField]
  split
  case h_1 =>
    rw [Taken.leaves_afterBlank, taken]
    exact ⟨last, rfl, left⟩
  case h_2 other => exact absurd front (other _)

theorem readOptionalField_present {text : String} (front : skipBlank t = '"' :: u)
    (reading : (readTextField t).Leaves text rest) : (readOptionalField t).Leaves (some text) rest := by
  obtain ⟨last, taken, left⟩ := reading
  refine ⟨last, ?_, left⟩
  rw [readOptionalField]
  split
  case h_1 _ null => cases front.symm.trans null
  case h_2 => rw [taken]

theorem Kind.read_spelled {kind : Kind} {value : kind.Holds} (spelled : kind.Spelled value s)
    (ends : Ends rest) (front : skipBlank t = s ++ rest) : (kind.read t).Leaves value rest := by
  cases spelled with
  | text letters =>
    rw [List.cons_append, List.append_assoc] at front
    exact readTextField_spelled letters front
  | word spelled value =>
    have reading := readNumber_spelled spelled value ends
    obtain ⟨c, others, rfl, first⟩ := spelled.front
    exact readWordField_of first front reading (wordOf_toNat _)
  | present letters =>
    rw [List.cons_append, List.append_assoc] at front
    exact readOptionalField_present front (readTextField_spelled letters front)
  | null => exact readOptionalField_null front

theorem readAfterColon_leaves {α : Type} {read : (s : List Char) → Taken α s} {a : α}
    (colon : skipBlank s = ':' :: t) : (readAfterColon read s).Leaves a rest ↔ (read t).Leaves a rest := by
  obtain ⟨r, passed, rfl⟩ := readColon_of colon
  rw [readAfterColon, passed]
  exact Taken.leaves_outside

theorem readNothing_leaves : (readNothing s).Leaves () rest ↔ Passes (skipValue s) rest := by
  rw [readNothing]
  cases skipped : skipValue s with
  | error e => simp [Passes]
  | ok r => simp [Passes, eq_comm]

end

theorem SpelledChar.form {c : Char} {piece t : List Char} (spelled : SpelledChar c piece)
    (others : Form .letters t) : Form .letters (piece ++ t) := by
  cases spelled with
  | plain quote backslash plain => exact .letters (.plain quote backslash plain) others
  | letter escape => exact .letters (.escape escape) others
  | code number => exact .letters (.code number) others
  | pair first _ _ second _ =>
    have both := Form.letters (.code first) (.letters (.code second) others)
    exact both

theorem SpelledChars.form {cs s : List Char} (spelled : SpelledChars cs s) : Form .letters s := by
  induction spelled with
  | nil => exact .noLetters
  | cons piece _ ih => exact piece.form ih

theorem Kind.Spelled.form {kind : Kind} {value : kind.Holds} {s : List Char} (spelled : kind.Spelled value s) :
    Form .value s := by
  cases spelled with
  | text letters | present letters => exact .text letters.form
  | word spelled => exact .number spelled
  | null => exact .null

section

variable {s t rest : List Char} {m : String × List Char} {before after : List (String × List Char)}

theorem filter_eq_nil {ms : List (String × List Char)} {name : String} :
    ms.filter (·.1 = name) = [] ↔ ∀ m ∈ ms, m.1 ≠ name := by
  simp only [List.filter_eq_nil_iff, decide_eq_true_eq, ne_eq]

/-- A field's own member comes once. -/
theorem Occurs.here {f : Field} {value : f.kind.Holds} (occurs : Occurs f value (before ++ m :: after))
    (named : m.1 = f.name) : f.kind.Spelled value m.2 ∧ ∀ other ∈ before, other.1 ≠ f.name := by
  cases occurs with
  | absent none => exact absurd named (none m (by simp))
  | once only spelled =>
    rw [List.filter_append, List.filter_cons_of_pos (by simpa using named), List.append_eq_singleton_iff] at only
    rcases only with ⟨nothing, own⟩ | ⟨-, own⟩
    · obtain ⟨rfl, -⟩ := List.cons.inj own
      exact ⟨spelled, filter_eq_nil.mp nothing⟩
    · cases own

theorem any_append_other {name : String} (other : m.1 ≠ name) :
    (before ++ [m]).any (·.1 = name) = before.any (·.1 = name) := by
  simp [other]

/-- The slots hold the values of those fields whose members were read. -/
def Filled : (fields : List Field) → Slots fields → Row fields → List (String × List Char) → Prop
  | [], (), (), _ => True
  | f :: fields, (slot, slots), (value, row), ms =>
    slot = (if ms.any (·.1 = f.name) then some value else none) ∧ Filled fields slots row ms

theorem filled_empty : ∀ (fields : List Field) (row : Row fields), Filled fields (.empty fields) row []
  | [], () => trivial
  | _ :: fields, (_, row) => ⟨by simp, filled_empty fields row⟩

/-- A member that is no field fills none. -/
theorem Filled.foreign : ∀ {fields : List Field} {slots : Slots fields} {row : Row fields},
    Filled fields slots row before → Foreign fields m → Filled fields slots row (before ++ [m])
  | [], (), (), _, _ => trivial
  | f :: fields, (slot, slots), (value, row), ⟨own, others⟩, foreign => by
    obtain ⟨first, later⟩ := List.forall_mem_cons.mp foreign
    refine ⟨?_, Filled.foreign others later⟩
    rw [own, any_append_other (Ne.symm first)]

/-- Every member has the form of JSON, be it a field or not. -/
theorem Covers.form : ∀ {fields : List Field} {row : Row fields}, Covers fields row (before ++ m :: after) →
    (Foreign fields m → Form .value m.2) → Form .value m.2
  | [], (), _, formed => formed (List.forall_mem_nil _)
  | f :: fields, (value, row), ⟨occurs, covered⟩, formed => by
    by_cases named : f.name = m.1
    · exact (occurs.here named.symm).1.form
    · exact Covers.form covered fun foreign => formed (List.forall_mem_cons.mpr ⟨named, foreign⟩)

/-- A member goes to its field, or is passed over. -/
theorem addField_of : ∀ {fields : List Field} {slots : Slots fields} {row : Row fields},
    (fields.map Field.name).Nodup → Filled fields slots row before →
    Covers fields row (before ++ m :: after) → (Foreign fields m → Form .value m.2) →
    skipBlank s = ':' :: t → skipBlank t = m.2 ++ rest → Ends rest →
    ∃ next, (addField fields slots m.1 s).Leaves next rest ∧ Filled fields next row (before ++ [m])
  | [], (), (), _, _, _, formed, colon, front, ends => by
    have passes := (formed (List.forall_mem_nil _)).passed.2 t rest ends front
    exact ⟨(), (readAfterColon_leaves colon).mpr (readNothing_leaves.mpr passes), trivial⟩
  | f :: fields, (slot, slots), (value, row), distinct, ⟨own, others⟩, ⟨occurs, covered⟩, formed, colon, front,
      ends => by
    obtain ⟨fresh, distinct⟩ := List.nodup_cons.mp distinct
    by_cases named : f.name = m.1
    · obtain ⟨spelled, missing⟩ := occurs.here named.symm
      have unread : slot = none := by
        rw [own, if_neg]
        rw [List.any_eq_true]
        rintro ⟨other, member, same⟩
        exact missing other member (of_decide_eq_true same)
      have foreign : Foreign fields m := fun g member same =>
        fresh (List.mem_map.mpr ⟨g, member, same.trans named.symm⟩)
      obtain ⟨last, taken, left⟩ := (readAfterColon_leaves colon).mpr (f.kind.read_spelled spelled ends front)
      refine ⟨(some value, slots), ⟨last, ?_, left⟩, ?_, others.foreign foreign⟩
      · rw [addField, if_pos named, unread]
        simp only [Option.isSome_none, Bool.false_eq_true, if_false, taken]
      · simp [named]
    · obtain ⟨next, ⟨last, taken, left⟩, filled⟩ := addField_of distinct others covered
        (fun foreign => formed (List.forall_mem_cons.mpr ⟨named, foreign⟩)) colon front ends
      refine ⟨(slot, next), ⟨last, ?_, left⟩, ?_, filled⟩
      · rw [addField, if_neg named, taken]
      · rw [own, any_append_other (Ne.symm named)]

/-- When all members were read, the row is complete. -/
theorem Filled.complete {ms : List (String × List Char)} : ∀ {fields : List Field} {slots : Slots fields}
    {row : Row fields}, Filled fields slots row ms → Covers fields row ms → slots.complete fields = .ok row
  | [], (), (), _, _ => rfl
  | f :: fields, (slot, slots), (value, row), ⟨own, others⟩, ⟨occurs, covered⟩ => by
    have found : slot.or f.kind.absent? = some value := by
      cases occurs with
      | @once s only spelled =>
        have member : (f.name, s) ∈ ms.filter (·.1 = f.name) := by simp [only]
        have read : ms.any (·.1 = f.name) = true :=
          List.any_eq_true.mpr ⟨_, (List.mem_filter.mp member).1, (List.mem_filter.mp member).2⟩
        rw [own, if_pos read]
        rfl
      | absent none optional =>
        have unread : ¬ ms.any (·.1 = f.name) = true := by
          rw [List.any_eq_true]
          rintro ⟨m, member, same⟩
          exact none m member (of_decide_eq_true same)
        rw [own, if_neg unread, optional]
        rfl
    simp only [Slots.complete, found, others.complete covered]

/-- What a member of an object shows to its reader. -/
theorem SpelledEntry.shows {c d : Char} {others : List Char} (entry : SpelledEntry m s)
    (text : m.2 = d :: others) (solid : isBlank d = false) (stop : c ∈ stops) (tail : List Char) :
    ∃ quoted here inner left, skipBlank (s ++ c :: tail) = '"' :: quoted ∧
      (readText quoted).Leaves m.1 here ∧ skipBlank here = ':' :: inner ∧
      skipBlank inner = m.2 ++ left ∧ Ends left ∧ skipBlank left = c :: tail := by
  cases entry with
  | @mk name before letters between front value after leading spelled blanks first trailing =>
    obtain rfl : value = d :: others := text
    refine ⟨letters ++ '"' :: (between ++ ':' :: (front ++ (d :: others ++ (after ++ c :: tail)))), _,
      front ++ (d :: others ++ (after ++ c :: tail)), after ++ c :: tail, ?_,
      readText_spelled spelled _, ?_, ?_, Ends.after trailing stop tail, ?_⟩
    · rw [List.append_assoc, skipBlank_append leading, List.cons_append, skipBlank_cons rfl]
      simp
    · rw [skipBlank_append blanks, skipBlank_cons rfl]
    · rw [skipBlank_append first, List.cons_append, skipBlank_cons solid]
    · rw [skipBlank_append trailing, skipBlank_stop stop]

section

variable {fields : List Field} {slots : Slots fields} {row : Row fields} {ms : List (String × List Char)}
  {first : Bool} {u : List Char}

/-- The members that are left fill the slots of their fields. -/
theorem readMembers_entries (distinct : (fields.map Field.name).Nodup) (entries : SpelledEntries ms s)
    (continues : Continues first u (s ++ Text.closeBrace :: rest)) (filled : Filled fields slots row before)
    (covers : Covers fields row (before ++ ms)) (formed : ∀ m ∈ ms, Foreign fields m → Form .value m.2) :
    ∃ final, (readMembers (addField fields) slots first u).Leaves final rest ∧
      Filled fields final row (before ++ ms) := by
  induction entries generalizing first u slots before with
  | @one m s entry =>
    obtain ⟨d, others, text, solid, -⟩ := (covers.form (formed m (by simp))).passed.1
    obtain ⟨quoted, here, inner, left, quote, name, colon, front, ends, closed⟩ :=
      entry.shows text solid (c := Text.closeBrace) (by decide) rest
    obtain ⟨next, member, filled⟩ := addField_of distinct filled covers (formed m (by simp)) colon front ends
    have done := readMembers_done (addField fields) next false closed
    exact ⟨next, (readMembers_of continues quote name member.yields done.yields).leaves ⟨trivial, trivial⟩, filled⟩
  | @more m ms s t entry _ ih =>
    obtain ⟨own, later⟩ := List.forall_mem_cons.mp formed
    rw [List.append_assoc, List.cons_append] at continues
    obtain ⟨d, others, text, solid, -⟩ := (covers.form own).passed.1
    obtain ⟨quoted, here, inner, left, quote, name, colon, front, ends, comma⟩ :=
      entry.shows text solid (c := ',') (by decide) (t ++ Text.closeBrace :: rest)
    obtain ⟨next, member, filled⟩ := addField_of distinct filled covers own colon front ends
    rw [List.append_cons] at covers
    obtain ⟨final, further, filled⟩ := ih (.later comma) filled covers later
    refine ⟨final, ?_, ?_⟩
    · exact (readMembers_of continues quote name member.yields further.yields).leaves ⟨trivial, trivial⟩
    · rwa [List.append_cons]

end

end

section

variable {s t rest : List Char} {shape : Shape} {row : Row shape.fields} {ms : List (String × List Char)}

theorem readRecord_object {slots : Slots shape.fields} (front : skipBlank t = Text.openBrace :: s)
    (members : (readMembers (addField shape.fields) (.empty shape.fields) true s).Leaves slots rest)
    (complete : slots.complete shape.fields = .ok row) : (readRecord shape t).Leaves row rest := by
  obtain ⟨last, taken, left⟩ := members
  have other : ¬ Text.openBrace = '[' := by decide
  rw [readRecord, Taken.leaves_afterBlank]
  generalize skipBlank t = object at front
  subst front
  simp only [if_neg other, if_true, taken, complete]
  exact ⟨_, rfl, left⟩

theorem readDocument_of {α : Type} {read : (s : List Char) → Taken α s} {text : String} {a : α}
    (leaves : (read text.toList).Leaves a rest) (blanks : Blanks rest) : readDocument read text = .ok a := by
  obtain ⟨last, taken, rfl⟩ := leaves
  have nothing : skipBlank last.val = [] := by
    have none := skipBlank_append blanks []
    rwa [List.append_nil] at none
  rw [readDocument, taken]
  simp only [nothing, List.isEmpty_nil, if_true]

theorem skipBlank_brace (leading : Blanks t) (rest : List Char) :
    skipBlank (t ++ Text.openBrace :: rest) = Text.openBrace :: rest := by
  rw [skipBlank_append leading, skipBlank_cons rfl]

/-- The members of an object fill all slots. -/
theorem SpelledObject.read {cs : List Char} (object : SpelledObject ms cs)
    (distinct : (shape.fields.map Field.name).Nodup) (covers : Covers shape.fields row ms)
    (formed : ∀ m ∈ ms, Foreign shape.fields m → Form .value m.2) :
    ∃ slots inner after, skipBlank cs = Text.openBrace :: inner ∧ Blanks after ∧
      (readMembers (addField shape.fields) (.empty shape.fields) true inner).Leaves slots after ∧
      Filled shape.fields slots row ms := by
  have nothing := filled_empty shape.fields row
  cases object with
  | @empty before s after leading blanks trailing =>
    have closed : skipBlank (s ++ Text.closeBrace :: after) = Text.closeBrace :: after := by
      rw [skipBlank_append blanks, skipBlank_cons rfl]
    exact ⟨_, _, _, skipBlank_brace leading _, trailing, readMembers_done _ _ true closed, nothing⟩
  | entries leading entries trailing =>
    obtain ⟨slots, members, filled⟩ := readMembers_entries distinct entries .first nothing covers formed
    exact ⟨slots, _, _, skipBlank_brace leading _, trailing, members, filled⟩

/-- An object is read as the row that its members spell. -/
theorem Shape.parse_object {text : String} (distinct : (shape.fields.map Field.name).Nodup)
    (object : SpelledObject ms text.toList) (covers : Covers shape.fields row ms)
    (formed : ∀ m ∈ ms, Foreign shape.fields m → Form .value m.2) : shape.parse text = .ok row := by
  obtain ⟨slots, inner, after, front, trailing, members, filled⟩ := object.read distinct covers formed
  exact readDocument_of (readRecord_object front members (filled.complete covers)) trailing

end

end Throughput.Json
