import Throughput.Proofs.Json.Printed
import Throughput.Proofs.Json.Record

/-! Rows as they are written. Every text of what is written for a row is read as the row. -/
namespace Throughput.Json

/-- The value that is written for one of a kind. -/
def Kind.toValue : (kind : Kind) → kind.Holds → Value
  | text, t => .text t
  | word, w => .natural w.toNat
  | optionalText, t => .optional t

/-- The members that are written for a row, in the order of the fields. -/
def Row.members : (fields : List Field) → Row fields → List (String × Value)
  | [], () => []
  | f :: fields, (value, row) => (f.name, f.kind.toValue value) :: Row.members fields row

/-- The text of a member and its value. -/
def SpelledAs (m : String × Value) (text : String × List Char) : Prop := text.1 = m.1 ∧ Spelled m.2 text.2

theorem SpelledMember.entry {m : String × Value} {s : List Char} (member : SpelledMember m s) :
    ∃ text, SpelledEntry text s ∧ SpelledAs m text := by
  cases member with
  | mk leading spelled blanks item =>
    cases item with
    | mk first value trailing => exact ⟨_, .mk leading spelled blanks first trailing, rfl, value⟩

theorem SpelledMembers.entries {ms : List (String × Value)} {s : List Char} (spelled : SpelledMembers ms s) :
    ∃ texts, SpelledEntries texts s ∧ List.Forall₂ SpelledAs ms texts := by
  induction ms generalizing s with
  | nil => cases spelled
  | cons m ms ih =>
    cases spelled with
    | one member =>
      obtain ⟨text, entry, as⟩ := member.entry
      exact ⟨[text], .one entry, .cons as .nil⟩
    | more member others =>
      obtain ⟨text, entry, as⟩ := member.entry
      obtain ⟨texts, entries, all⟩ := ih others
      exact ⟨text :: texts, .more entry entries, .cons as all⟩

theorem SpelledItem.object {ms : List (String × Value)} {s : List Char} (item : SpelledItem (.object ms) s) :
    ∃ texts, SpelledObject texts s ∧ List.Forall₂ SpelledAs ms texts := by
  cases item with
  | mk leading spelled trailing =>
    cases spelled with
    | @noMembers s blanks =>
      refine ⟨[], ?_, .nil⟩
      simpa using SpelledObject.empty leading blanks trailing
    | @members ms s spelled =>
      obtain ⟨texts, entries, all⟩ := spelled.entries
      refine ⟨texts, ?_, all⟩
      simpa using SpelledObject.entries leading entries trailing

theorem Kind.spelled_of_value {kind : Kind} {value : kind.Holds} {s : List Char}
    (spelled : Json.Spelled (kind.toValue value) s) : kind.Spelled value s := by
  cases kind with
  | text =>
    cases spelled with
    | text letters => exact .text letters
  | word =>
    cases spelled with
    | number spelled value => exact .word spelled value
  | optionalText =>
    cases value with
    | none =>
      cases spelled with
      | null => exact .null
    | some t =>
      cases spelled with
      | text letters => exact .present letters

/-- What is written for fields bears their names. -/
theorem Row.names_of_members : ∀ {fields : List Field} {row : Row fields} {texts : List (String × List Char)},
    List.Forall₂ SpelledAs (Row.members fields row) texts → texts.map Prod.fst = fields.map Field.name
  | [], (), _, .nil => rfl
  | _ :: _, (_, _), _, .cons as others => congrArg₂ List.cons as.1 (names_of_members others)

theorem Row.covers_of_members : ∀ {fields : List Field} {row : Row fields} {before texts : List (String × List Char)},
    (fields.map Field.name).Nodup → (∀ m ∈ before, Foreign fields m) →
    List.Forall₂ SpelledAs (Row.members fields row) texts → Covers fields row (before ++ texts)
  | [], (), _, _, _, _, _ => trivial
  | f :: fields, (value, row), before, (name, s) :: texts, distinct, foreign, .cons as others => by
    obtain ⟨rfl, spelled⟩ := as
    obtain ⟨fresh, distinct⟩ := List.nodup_cons.mp distinct
    have names := names_of_members others
    have earlier : before.filter (·.1 = f.name) = [] :=
      filter_eq_nil.mpr fun m member => Ne.symm (foreign m member f List.mem_cons_self)
    have later : texts.filter (·.1 = f.name) = [] := by
      refine filter_eq_nil.mpr fun m member same => fresh ?_
      rw [← names, ← same]
      exact List.mem_map_of_mem member
    constructor
    · refine .once ?_ (Kind.spelled_of_value spelled)
      simp [earlier, later]
    · rw [List.append_cons]
      refine covers_of_members distinct (fun m member g known => ?_) others
      rcases List.mem_append.mp member with member | own
      · exact foreign m member g (List.mem_cons_of_mem f known)
      · obtain rfl := List.mem_singleton.mp own
        exact fun same => fresh (List.mem_map.mpr ⟨g, known, same⟩)

/-- Every text of the members of a row is read as the row. -/
theorem Shape.parse_members {shape : Shape} {row : Row shape.fields} {text : String}
    (distinct : (shape.fields.map Field.name).Nodup)
    (spelled : SpelledItem (.object (row.members shape.fields)) text.toList) : shape.parse text = .ok row := by
  obtain ⟨texts, object, all⟩ := spelled.object
  have covers := Row.covers_of_members distinct (List.forall_mem_nil _) all
  refine parse_object distinct object covers fun m member foreign => ?_
  have named : m.1 ∈ shape.fields.map Field.name := by
    rw [← Row.names_of_members all]
    exact List.mem_map_of_mem member
  obtain ⟨f, known, same⟩ := List.mem_map.mp named
  exact absurd same (foreign f known)

theorem Kind.legible_toValue : ∀ (kind : Kind) (value : kind.Holds), (kind.toValue value).Legible
  | text, _ => trivial
  | word, w => .natural (Nat.lt_trans w.toNat_lt (by decide))
  | optionalText, none => trivial
  | optionalText, some _ => trivial

theorem Row.legible_members : ∀ {fields : List Field} (row : Row fields), Value.LegibleMembers (row.members fields)
  | [], () => trivial
  | f :: _, (value, row) => ⟨f.kind.legible_toValue value, legible_members row⟩

theorem Row.render_spelled {fields : List Field} (row : Row fields) :
    SpelledItem (.object (row.members fields)) (Value.object (row.members fields)).render.toList :=
  Value.render_spelled (legible_members row)

end Throughput.Json
