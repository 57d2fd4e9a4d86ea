import Throughput.Proofs.Json.Documents
import Throughput.Proofs.Json.Record

/-! Which objects are read as a record, and as which: a field has the value that its only member
spells, or none if it may be absent and is. -/
namespace Throughput.Json

section

variable {s t u rest left : List Char}

theorem Taken.Leaves.unique {α : Type} {taken : Taken α s} {a b : α} (one : taken.Leaves a rest)
    (other : taken.Leaves b left) : a = b ∧ rest = left := by
  obtain ⟨last, rfl, rfl⟩ := one
  exact Taken.leaves_ok.mp other

theorem Passes.unique {skipped : Except Error (Rest s)} (one : Passes skipped rest) (other : Passes skipped left) :
    rest = left := by
  obtain ⟨last, rfl, rfl⟩ := one
  obtain ⟨again, same, rfl⟩ := other
  rw [Except.ok.inj same]

/-- What has the form of a value is a text, a number or `null`, or starts with another mark. -/
theorem Form.value_cases (form : Form .value s) :
    (∃ letters, s = '"' :: (letters ++ ['"']) ∧ Form .letters letters) ∨ (∃ n : Numeral, n.Spelled s) ∨
      s = ['n', 'u', 'l', 'l'] ∨ ∃ c others, s = c :: others ∧ c ∈ ['t', 'f', '[', Text.openBrace] := by
  cases form with
  | text letters => exact .inl ⟨_, rfl, letters⟩
  | number spelled => exact .inr (.inl ⟨_, spelled⟩)
  | null => exact .inr (.inr (.inl rfl))
  | _ => exact .inr (.inr (.inr ⟨_, _, rfl, by decide⟩))

/-- A value in front of what is left is a text if a quote comes first. -/
theorem Form.of_quote (form : Form .value s) (same : s ++ rest = '"' :: u) :
    ∃ letters, s = '"' :: (letters ++ ['"']) ∧ Form .letters letters := by
  rcases form.value_cases with text | ⟨n, spelled⟩ | rfl | ⟨c, others, rfl, mark⟩
  · exact text
  · obtain ⟨c, others, rfl, first⟩ := spelled.front
    exact absurd (List.cons.inj same).1 (ne_of_number first rfl (by decide))
  · exact absurd (List.cons.inj same).1 (by decide)
  · obtain rfl : c = '"' := (List.cons.inj same).1
    exact absurd mark (by decide)

theorem Form.of_number {c : Char} (form : Form .value s) (same : s ++ rest = c :: u)
    (first : c = '-' ∨ Text.isDigit c = true) : ∃ n : Numeral, n.Spelled s := by
  have other (l : Char) (noDigit : Text.isDigit l = false) (noMinus : l ≠ '-') := ne_of_number first noDigit noMinus
  rcases form.value_cases with ⟨letters, rfl, -⟩ | number | rfl | ⟨d, others, rfl, mark⟩
  · exact absurd (List.cons.inj same).1.symm (other '"' rfl (by decide))
  · exact number
  · exact absurd (List.cons.inj same).1.symm (other 'n' rfl (by decide))
  · obtain rfl : d = c := (List.cons.inj same).1
    simp only [List.mem_cons, List.not_mem_nil, or_false] at mark
    rcases mark with rfl | rfl | rfl | rfl <;> exact absurd rfl (other _ rfl (by decide))

theorem Form.of_null (form : Form .value s) (same : s ++ rest = 'n' :: u) : s = ['n', 'u', 'l', 'l'] := by
  rcases form.value_cases with ⟨letters, rfl, -⟩ | ⟨n, spelled⟩ | null | ⟨c, others, rfl, mark⟩
  · exact absurd (List.cons.inj same).1 (by decide)
  · obtain ⟨c, others, rfl, first⟩ := spelled.front
    exact absurd (List.cons.inj same).1 (ne_of_number first rfl (by decide))
  · exact null
  · obtain rfl : c = 'n' := (List.cons.inj same).1
    exact absurd mark (by decide)

/-- The letters before a quote, if they have the form of letters, are told by the whole text. -/
theorem Form.letters_unique {letters others : List Char} (one : Form .letters letters) (other : Form .letters others)
    (same : letters ++ '"' :: rest = others ++ '"' :: left) : letters = others ∧ rest = left := by
  have passes := one.passed rest
  rw [same] at passes
  obtain rfl := passes.unique (other.passed left)
  exact ⟨List.append_cancel_right same, rfl⟩

theorem readTextField_cases {text : String} (leaves : (readTextField t).Leaves text left) :
    ∃ letters, SpelledChars text.toList letters ∧ skipBlank t = '"' :: (letters ++ '"' :: left) := by
  rw [readTextField, Taken.leaves_afterBlank] at leaves
  generalize skipBlank t = front at leaves ⊢
  cases front with
  | nil => simp at leaves
  | cons c u =>
    simp only at leaves
    split_ifs at leaves with quote
    · cases taken : readText u with
      | error e => simp [taken] at leaves
      | ok found =>
        obtain ⟨name, r⟩ := found
        simp only [taken, Taken.leaves_ok] at leaves
        obtain ⟨rfl, left⟩ := leaves
        obtain ⟨letters, spelled, rfl⟩ := readText_spelling ⟨r, taken, left⟩
        exact ⟨letters, spelled, by rw [quote]⟩
    · simp at leaves

theorem wordOf_eq_ok {x : Number} {w : UInt32} (word : wordOf x = .ok w) : x = .integer w.toNat := by
  cases x with
  | float x => cases word
  | integer n =>
    rw [wordOf] at word
    split_ifs at word with bounds
    simp only [Bool.and_eq_true, decide_eq_true_eq] at bounds
    obtain rfl := Except.ok.inj word
    have number : (UInt32.ofNat n.toNat).toNat = n.toNat := UInt32.toNat_ofNat_of_lt' (by omega)
    rw [number, Int.toNat_of_nonneg bounds.1]

theorem readWordField_cases {w : UInt32} (leaves : (readWordField t).Leaves w left) :
    ∃ c u x, skipBlank t = c :: u ∧ (c = '-' ∨ Text.isDigit c = true) ∧ (readNumber (c :: u)).Leaves x left ∧
      wordOf x = .ok w := by
  rw [readWordField, Taken.leaves_afterBlank] at leaves
  generalize skipBlank t = front at leaves ⊢
  cases front with
  | nil => simp at leaves
  | cons c u =>
    simp only at leaves
    split_ifs at leaves with first
    · cases taken : readNumber (c :: u) with
      | error e => simp [taken] at leaves
      | ok found =>
        obtain ⟨x, r⟩ := found
        simp only [taken] at leaves
        cases word : wordOf x with
        | error e => simp [word] at leaves
        | ok v =>
          simp only [word, Taken.leaves_ok] at leaves
          obtain ⟨rfl, left⟩ := leaves
          exact ⟨c, u, x, rfl, by simpa using first, ⟨r, taken, left⟩, word⟩
    · simp at leaves

theorem readOptionalField_cases {value : Option String} (leaves : (readOptionalField t).Leaves value left) :
    (value = none ∧ skipBlank t = 'n' :: 'u' :: 'l' :: 'l' :: left) ∨
      ∃ text, value = some text ∧ (readTextField t).Leaves text left := by
  rw [readOptionalField] at leaves
  split at leaves
  case h_1 u front =>
    rw [Taken.leaves_afterBlank] at leaves
    cases taken : readScalar (skipBlank t) with
    | error e => simp [taken] at leaves
    | ok found =>
      obtain ⟨scalar, r⟩ := found
      simp only [taken, Taken.leaves_ok] at leaves
      obtain ⟨rfl, left⟩ := leaves
      have reading : (readScalar ('n' :: u)).Leaves scalar r.val := front ▸ ⟨r, taken, rfl⟩
      have literal : (readLiteral Scalar.null ['u', 'l', 'l'] 'n' u).Leaves scalar r.val := reading
      obtain ⟨-, text⟩ := readLiteral_spelling literal
      exact .inl ⟨rfl, by rw [front, text, left]; rfl⟩
  case h_2 =>
    cases taken : readTextField t with
    | error e => simp [taken] at leaves
    | ok found =>
      obtain ⟨text, r⟩ := found
      simp only [taken, Taken.leaves_ok] at leaves
      obtain ⟨rfl, left⟩ := leaves
      exact .inr ⟨text, rfl, r, rfl, left⟩

/-- A text that was read from a value is what the value spells. -/
theorem readTextField_form {text : String} (form : Form .value s) (front : skipBlank t = s ++ rest)
    (leaves : (readTextField t).Leaves text left) :
    (∃ letters, SpelledChars text.toList letters ∧ s = '"' :: (letters ++ ['"'])) ∧ left = rest := by
  obtain ⟨letters, spelled, quote⟩ := readTextField_cases leaves
  rw [front] at quote
  obtain ⟨others, rfl, formed⟩ := form.of_quote quote
  have same : others ++ '"' :: rest = letters ++ '"' :: left := by simpa using quote
  obtain ⟨rfl, rfl⟩ := formed.letters_unique spelled.form same
  exact ⟨⟨others, spelled, rfl⟩, rfl⟩

theorem readWordField_form {w : UInt32} (form : Form .value s) (ends : Ends rest) (front : skipBlank t = s ++ rest)
    (leaves : (readWordField t).Leaves w left) : Kind.Spelled .word w s ∧ left = rest := by
  obtain ⟨c, u, x, mark, first, reading, word⟩ := readWordField_cases leaves
  rw [front] at mark
  obtain ⟨n, spelled⟩ := form.of_number mark first
  obtain ⟨last, taken, ended⟩ := readNumeral_spelled .endOfValue spelled ends
  rw [← mark, readNumber, taken] at reading
  cases value : n.value with
  | error e => simp [value] at reading
  | ok y =>
    simp only [value, Taken.leaves_ok] at reading
    obtain ⟨rfl, rfl⟩ := reading
    rw [wordOf_eq_ok word] at value
    exact ⟨.word spelled value, ended⟩

/-- What was read from a value is what the value spells. -/
theorem Kind.read_form {kind : Kind} {value : kind.Holds} (form : Form .value s) (ends : Ends rest)
    (front : skipBlank t = s ++ rest) (leaves : (kind.read t).Leaves value left) :
    kind.Spelled value s ∧ left = rest := by
  cases kind with
  | text =>
    obtain ⟨⟨letters, spelled, rfl⟩, same⟩ := readTextField_form form front leaves
    exact ⟨.text spelled, same⟩
  | word => exact readWordField_form form ends front leaves
  | optionalText =>
    rcases readOptionalField_cases leaves with ⟨rfl, null⟩ | ⟨text, rfl, present⟩
    · rw [front] at null
      obtain rfl := form.of_null null
      exact ⟨.null, by simpa using null.symm⟩
    · obtain ⟨⟨letters, spelled, rfl⟩, same⟩ := readTextField_form form front present
      exact ⟨.present spelled, same⟩

end

section

variable {s t rest left : List Char} {m : String × List Char} {before after ms : List (String × List Char)}

/-- What a slot says of the members that were read. -/
inductive Heard (f : Field) (ms : List (String × List Char)) : Option f.kind.Holds → Prop
  | none (absent : ms.filter (·.1 = f.name) = []) : Heard f ms none
  | some {value : f.kind.Holds} {s : List Char} (only : ms.filter (·.1 = f.name) = [(f.name, s)])
      (spelled : f.kind.Spelled value s) : Heard f ms (some value)

/-- What all slots say. -/
def Told : (fields : List Field) → Slots fields → List (String × List Char) → Prop
  | [], (), _ => True
  | f :: fields, (slot, slots), ms => Heard f ms slot ∧ Told fields slots ms

theorem told_empty : ∀ fields : List Field, Told fields (.empty fields) []
  | [] => trivial
  | _ :: fields => ⟨.none rfl, told_empty fields⟩

theorem filter_append_other {name : String} (other : m.1 ≠ name) :
    (before ++ [m]).filter (·.1 = name) = before.filter (·.1 = name) := by
  simp [other]

theorem Heard.other {f : Field} {slot : Option f.kind.Holds} (heard : Heard f before slot) (other : m.1 ≠ f.name) :
    Heard f (before ++ [m]) slot := by
  cases heard with
  | none absent => exact .none ((filter_append_other other).trans absent)
  | some only spelled => exact .some ((filter_append_other other).trans only) spelled

/-- A member that is no field tells nothing of them. -/
theorem Told.foreign : ∀ {fields : List Field} {slots : Slots fields}, Told fields slots before →
    Foreign fields m → Told fields slots (before ++ [m])
  | [], (), _, _ => trivial
  | f :: fields, (slot, slots), ⟨own, others⟩, foreign => by
    obtain ⟨first, later⟩ := List.forall_mem_cons.mp foreign
    exact ⟨own.other (Ne.symm first), Told.foreign others later⟩

/-- A member that is taken tells its field's slot what it spells, and it is read to its end. -/
theorem addField_told : ∀ {fields : List Field} {slots next : Slots fields}, (fields.map Field.name).Nodup →
    Told fields slots before → Form .value m.2 → skipBlank s = ':' :: t → skipBlank t = m.2 ++ rest → Ends rest →
    (addField fields slots m.1 s).Leaves next left → Told fields next (before ++ [m]) ∧ left = rest
  | [], (), (), _, _, form, colon, front, ends, leaves => by
    have passes := readNothing_leaves.mp ((readAfterColon_leaves colon).mp leaves)
    exact ⟨trivial, passes.unique (form.passed.2 t rest ends front)⟩
  | f :: fields, (slot, slots), next, distinct, ⟨own, others⟩, form, colon, front, ends, leaves => by
    obtain ⟨fresh, distinct⟩ := List.nodup_cons.mp distinct
    rw [addField] at leaves
    split_ifs at leaves with named given
    · simp at leaves
    · cases taken : readAfterColon f.kind.read s with
      | error e => simp [taken] at leaves
      | ok found =>
        obtain ⟨value, r⟩ := found
        simp only [taken, Taken.leaves_ok] at leaves
        obtain ⟨rfl, left⟩ := leaves
        obtain ⟨spelled, same⟩ := Kind.read_form form ends front ((readAfterColon_leaves colon).mp ⟨r, taken, left⟩)
        have foreign : Foreign fields m := fun g member same =>
          fresh (List.mem_map.mpr ⟨g, member, same.trans named.symm⟩)
        refine ⟨⟨?_, others.foreign foreign⟩, same⟩
        cases own with
        | some only spelled => simp at given
        | none absent =>
          refine .some ?_ spelled
          rw [List.filter_append, absent]
          simp [named]
    · cases taken : addField fields slots m.1 s with
      | error e => simp [taken] at leaves
      | ok found =>
        obtain ⟨later, r⟩ := found
        simp only [taken, Taken.leaves_ok] at leaves
        obtain ⟨rfl, left⟩ := leaves
        obtain ⟨told, same⟩ := addField_told distinct others form colon front ends ⟨r, taken, left⟩
        exact ⟨⟨own.other (Ne.symm named), told⟩, same⟩

/-- A row is complete if its fields were told, or may be absent and were not. -/
theorem Told.covers : ∀ {fields : List Field} {slots : Slots fields} {row : Row fields}, Told fields slots ms →
    slots.complete fields = .ok row → Covers fields row ms
  | [], (), (), _, _ => trivial
  | f :: fields, (slot, slots), row, ⟨own, others⟩, complete => by
    rw [Slots.complete] at complete
    cases found : slot.or f.kind.absent? with
    | none => simp [found] at complete
    | some value =>
      simp only [found] at complete
      cases later : slots.complete fields with
      | error e => simp [later] at complete
      | ok more =>
        simp only [later, Except.ok.injEq] at complete
        obtain rfl := complete
        refine ⟨?_, others.covers later⟩
        cases own with
        | none absent => exact .absent (filter_eq_nil.mp absent) found
        | some only spelled =>
          obtain rfl := Option.some.inj found
          exact .once only spelled

theorem Continues.unique {first : Bool} {t' : List Char} (one : Continues first s t) (other : Continues first s t') :
    t = t' := by
  cases one with
  | first =>
    cases other
    rfl
  | later comma =>
    cases other with
    | later same => exact (List.cons.inj (comma.symm.trans same)).2

/-- Where a member comes next, the object does not end. -/
theorem Continues.not_closed {first : Bool} {quoted : List Char} (continues : Continues first s t)
    (quote : skipBlank t = '"' :: quoted) : skipBlank s ≠ Text.closeBrace :: left := by
  cases continues with
  | first => simp [quote, Text.closeBrace]
  | later comma => simp [comma, Text.closeBrace]

section

variable {σ : Type} {step : σ → String → (s : List Char) → Taken σ s} {state final : σ} {first : Bool}

/-- Where a member comes next, it is the one that is read. -/
theorem readMembers_next {name : String} {quoted here : List Char} (continues : Continues first s t)
    (quote : skipBlank t = '"' :: quoted) (named : (readText quoted).Leaves name here)
    (leaves : (readMembers step state first s).Leaves final left) :
    ∃ after rest, (step state name here).Leaves after rest ∧ (readMembers step after false rest).Leaves final left := by
  rcases readMembers_cases leaves with
    ⟨-, closed⟩ | ⟨found, after, t', u, here', rest, continues', quote', named', member, -, others⟩
  · exact absurd closed (continues.not_closed quote)
  · obtain rfl := continues.unique continues'
    obtain rfl := (List.cons.inj (quote.symm.trans quote')).2
    obtain ⟨rfl, rfl⟩ := named.unique named'
    exact ⟨after, rest, member, others⟩

end

section

variable {fields : List Field} {slots final : Slots fields} {first : Bool} {u : List Char}

/-- The members that are left tell their fields, and the object ends after them. -/
theorem readMembers_told (distinct : (fields.map Field.name).Nodup) (entries : SpelledEntries ms s)
    (formed : ∀ m ∈ ms, Form .value m.2) (continues : Continues first u (s ++ Text.closeBrace :: rest))
    (told : Told fields slots before) (leaves : (readMembers (addField fields) slots first u).Leaves final left) :
    Told fields final (before ++ ms) ∧ left = rest := by
  induction entries generalizing first u slots before with
  | @one m s entry =>
    have form := formed m (by simp)
    obtain ⟨d, others, text, solid, -⟩ := form.passed.1
    obtain ⟨quoted, here, inner, after, quote, name, colon, front, ends, closed⟩ :=
      entry.shows text solid (c := Text.closeBrace) (by decide) rest
    obtain ⟨next, after', member, following⟩ := readMembers_next continues quote name leaves
    obtain ⟨told, rfl⟩ := addField_told distinct told form colon front ends member
    obtain ⟨rfl, rfl⟩ := following.unique (readMembers_done (addField fields) next false closed)
    exact ⟨told, rfl⟩
  | @more m ms s t entry _ ih =>
    obtain ⟨form, later⟩ := List.forall_mem_cons.mp formed
    rw [List.append_assoc, List.cons_append] at continues
    obtain ⟨d, others, text, solid, -⟩ := form.passed.1
    obtain ⟨quoted, here, inner, after, quote, name, colon, front, ends, comma⟩ :=
      entry.shows text solid (c := ',') (by decide) (t ++ Text.closeBrace :: rest)
    obtain ⟨next, after', member, following⟩ := readMembers_next continues quote name leaves
    obtain ⟨told, rfl⟩ := addField_told distinct told form colon front ends member
    obtain ⟨told, rfl⟩ := ih later (.later comma) told following
    rw [List.append_cons]
    exact ⟨told, rfl⟩

end

section

variable {shape : Shape} {row : Row shape.fields}

theorem readRecord_cases {inner : List Char} (front : skipBlank t = Text.openBrace :: inner)
    (leaves : (readRecord shape t).Leaves row left) : ∃ slots,
      (readMembers (addField shape.fields) (.empty shape.fields) true inner).Leaves slots left ∧
        slots.complete shape.fields = .ok row := by
  have other : ¬ Text.openBrace = '[' := by decide
  rw [readRecord, Taken.leaves_afterBlank] at leaves
  generalize skipBlank t = object at front leaves
  subst front
  simp only [if_neg other, if_true] at leaves
  cases members : readMembers (addField shape.fields) (.empty shape.fields) true inner with
  | error e => simp [members] at leaves
  | ok found =>
    obtain ⟨slots, last⟩ := found
    simp only [members] at leaves
    cases complete : slots.complete shape.fields with
    | error e => simp [complete] at leaves
    | ok full =>
      simp only [complete, Taken.leaves_ok] at leaves
      obtain ⟨rfl, left⟩ := leaves
      exact ⟨slots, ⟨last, rfl, left⟩, complete⟩

theorem SpelledObject.covers {cs : List Char} (object : SpelledObject ms cs)
    (distinct : (shape.fields.map Field.name).Nodup) (formed : ∀ m ∈ ms, Form .value m.2)
    (leaves : (readRecord shape cs).Leaves row left) : Covers shape.fields row ms := by
  have nothing := told_empty shape.fields
  cases object with
  | @empty before s after leading blanks trailing =>
    have closed : skipBlank (s ++ Text.closeBrace :: after) = Text.closeBrace :: after := by
      rw [skipBlank_append blanks, skipBlank_cons rfl]
    obtain ⟨slots, members, complete⟩ := readRecord_cases (skipBlank_brace leading _) leaves
    obtain ⟨rfl, -⟩ := members.unique (readMembers_done (addField shape.fields) _ true closed)
    exact nothing.covers complete
  | @entries ms before s after leading entries trailing =>
    obtain ⟨slots, members, complete⟩ := readRecord_cases (skipBlank_brace leading _) leaves
    obtain ⟨told, -⟩ := readMembers_told distinct entries formed .first nothing members
    exact told.covers complete

theorem readDocument_leaves {α : Type} {read : (s : List Char) → Taken α s} {text : String} {a : α}
    (parsed : readDocument read text = .ok a) : ∃ rest, (read text.toList).Leaves a rest := by
  rw [readDocument] at parsed
  cases taken : read text.toList with
  | error e => simp [taken] at parsed
  | ok found =>
    obtain ⟨b, last⟩ := found
    simp only [taken] at parsed
    split_ifs at parsed
    obtain rfl := Except.ok.inj parsed
    exact ⟨last.val, last, rfl, rfl⟩

/-- The text of an object, its members each of the form of JSON. -/
structure ObjectText (ms : List (String × List Char)) (text : String) : Prop where
  object : SpelledObject ms text.toList
  formed : ∀ m ∈ ms, Form .value m.2

/-- An object is read as a row if and only if its members cover the row. -/
theorem Shape.parse_object_iff {text : String} (distinct : (shape.fields.map Field.name).Nodup)
    (told : ObjectText ms text) : shape.parse text = .ok row ↔ Covers shape.fields row ms := by
  constructor
  · intro parsed
    obtain ⟨rest, leaves⟩ := readDocument_leaves parsed
    exact told.object.covers distinct told.formed leaves
  · exact fun covers => parse_object distinct told.object covers fun m member _ => told.formed m member

end

end

section

variable {ms others : List (String × List Char)}

/-- An object without a member of this name, or with one that is `null`. -/
def Void (name : String) (ms : List (String × List Char)) : Prop :=
  ms.filter (·.1 = name) = [] ∨ ms.filter (·.1 = name) = [(name, ['n', 'u', 'l', 'l'])]

/-- Two objects with the same members of this name, or with no value for it. -/
def Alike (name : String) (ms others : List (String × List Char)) : Prop :=
  ms.filter (·.1 = name) = others.filter (·.1 = name) ∨ Void name ms ∧ Void name others

theorem Alike.symm {name : String} (alike : Alike name ms others) : Alike name others ms :=
  alike.imp Eq.symm And.symm

theorem Occurs.congr {f : Field} {value : f.kind.Holds} (occurs : Occurs f value ms)
    (same : ms.filter (·.1 = f.name) = others.filter (·.1 = f.name)) : Occurs f value others := by
  cases occurs with
  | once only spelled => exact .once (same.symm.trans only) spelled
  | absent none optional => exact .absent (filter_eq_nil.mp (same.symm.trans (filter_eq_nil.mpr none))) optional

theorem spelled_null {value : Option String} {s : List Char} (spelled : Kind.Spelled .optionalText value s)
    (null : s = ['n', 'u', 'l', 'l']) : value = none := by
  cases spelled with
  | null => rfl
  | present letters => exact absurd (List.cons.inj null).1 (by decide)

/-- An optional text is the same absent and `null`. -/
theorem occurs_of_void {name : String} {value : Option String} (void : Void name ms) :
    Occurs ⟨name, .optionalText⟩ value ms ↔ value = none := by
  constructor
  · intro occurs
    cases occurs with
    | once only spelled =>
      rcases void with none | null
      · cases only.symm.trans none
      · obtain ⟨same, -⟩ := List.cons.inj (only.symm.trans null)
        exact spelled_null spelled (Prod.mk.inj same).2
    | absent none optional => exact (Option.some.inj optional).symm
  · rintro rfl
    rcases void with none | null
    · exact .absent (filter_eq_nil.mp none) rfl
    · exact .once null .null

theorem Covers.alike : ∀ {fields : List Field} {row : Row fields}, (∀ f ∈ fields, f.kind = .optionalText) →
    (∀ f ∈ fields, Alike f.name ms others) → Covers fields row ms → Covers fields row others
  | [], (), _, _, _ => trivial
  | ⟨name, kind⟩ :: fields, (value, row), optional, alike, ⟨own, covered⟩ => by
    obtain ⟨first, later⟩ := List.forall_mem_cons.mp optional
    obtain ⟨same, further⟩ := List.forall_mem_cons.mp alike
    obtain rfl : kind = .optionalText := first
    refine ⟨?_, Covers.alike later further covered⟩
    rcases same with same | ⟨void, void'⟩
    · exact own.congr same
    · exact (occurs_of_void void').mpr ((occurs_of_void void).mp own)

end

end Throughput.Json
