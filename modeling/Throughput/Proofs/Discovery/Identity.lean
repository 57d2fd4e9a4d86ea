import Throughput.Discovery
import Throughput.Proofs.Json.Record
import Throughput.Proofs.Text.Digits
import Throughput.Proofs.Text.Lines

/-! The identity that the platform published is the one that is found, however its texts and its
index are spelled. -/
namespace Throughput.Discovery

open Json (SpelledChars SpelledEntries SpelledObject Form Occurs Foreign plain_spelled plain_entry)
open Text (SpelledNatural isBlank isDigit)

/-- The digits of an index after any zeros, perhaps behind a plus, with blanks around them. -/
def SpelledIndex (index : UInt32) (text : String) : Prop :=
  ∃ front digits back, text.toList = front ++ digits ++ back ∧ SpelledNatural index.toNat digits ∧
    (∀ c ∈ front, isBlank c = true) ∧ ∀ c ∈ back, isBlank c = true

/-- The only member of this name spells this text. -/
def Holds (ms : List (String × List Char)) (name text : String) : Prop :=
  ∃ letters, ms.filter (·.1 = name) = [(name, '"' :: (letters ++ ['"']))] ∧ SpelledChars text.toList letters

/-- An object whose members hold the texts of an identity. -/
structure Published (x : Identity) (application : String) (ms : List (String × List Char)) : Prop where
  object : SpelledObject ms application.toList
  id : Holds ms "application_id" x.applicationId
  name : Holds ms "application_name" x.applicationName
  space : Holds ms "space_name" x.spaceName
  organization : Holds ms "organization_name" x.organizationName
  others : ∀ m ∈ ms, Foreign applicationShape.fields m → Form .value m.2

theorem solid_of_isDigit {c : Char} (digit : isDigit c = true) : isBlank c = false := by
  have bounds := Text.isDigit_iff.mp digit
  simp only [isBlank, Bool.or_eq_false_iff, Bool.and_eq_false_iff, beq_eq_false_iff_ne, decide_eq_false_iff_not]
  omega

theorem solid_of_natural {n : Nat} {digits : List Char} (spelled : SpelledNatural n digits) :
    ∀ c ∈ digits, isBlank c = false := by
  cases spelled with
  | bare zeros => exact fun c member => solid_of_isDigit (Text.isDigit_of_mem_padded member)
  | plus zeros =>
    rw [List.forall_mem_cons]
    exact ⟨by decide, fun c member => solid_of_isDigit (Text.isDigit_of_mem_padded member)⟩

theorem parseIndex_eq_some {text : String} {index : UInt32} :
    parseIndex text = some index ↔ SpelledIndex index text := by
  rw [parseIndex, Option.map_eq_some_iff]
  constructor
  · rintro ⟨n, read, rfl⟩
    obtain ⟨spelled, bound⟩ := Text.below?_eq_some.mp read
    have number : (UInt32.ofNat n).toNat = n := UInt32.toNat_ofNat_of_lt bound
    obtain ⟨front, back, whole, leading, trailing⟩ := Text.trimChars_between text.toList
    exact ⟨front, _, back, whole, number.symm ▸ spelled, leading, trailing⟩
  · rintro ⟨front, digits, back, whole, spelled, leading, trailing⟩
    refine ⟨index.toNat, ?_, UInt32.ofNat_toNat⟩
    rw [whole, Text.trimChars_around leading (solid_of_natural spelled) trailing]
    exact Text.below?_eq_some.mpr ⟨spelled, index.toNat_lt_size⟩

theorem parseIndex_eq_none {text : String} : parseIndex text = none ↔ ∀ index, ¬ SpelledIndex index text := by
  simp only [Option.eq_none_iff_forall_ne_some, ne_eq, parseIndex_eq_some]

theorem Holds.occurs {ms : List (String × List Char)} {name text : String} (holds : Holds ms name text) :
    Occurs ⟨name, .text⟩ text ms := by
  obtain ⟨letters, only, spelled⟩ := holds
  exact .once only (.text spelled)

theorem Published.parse {x : Identity} {application : String} {ms : List (String × List Char)}
    (published : Published x application ms) : applicationShape.parse application =
      .ok (x.applicationId, x.applicationName, x.spaceName, x.organizationName, ()) := by
  refine Json.Shape.parse_object (by decide) published.object ?_ published.others
  exact ⟨published.id.occurs, published.name.occurs, published.space.occurs, published.organization.occurs, trivial⟩

/-- Members in another order and one that is no field, and an escaped letter. -/
def reordered : String :=
  "\x7b \"space_name\": \"prod\", \"limits\": [null], \"application_name\": \"\\u006frders\"," ++
    " \"application_id\": \"5c6b\", \"organization_name\": \"acme\"\x7d"

theorem published_reordered : Published ⟨"5c6b", 7, "orders", "prod", "acme"⟩ reordered
    [("space_name", "\"prod\"".toList), ("limits", "[null]".toList),
      ("application_name", "\"\\u006frders\"".toList), ("application_id", "\"5c6b\"".toList),
      ("organization_name", "\"acme\"".toList)] := by
  constructor
  case object =>
    have entries := SpelledEntries.more (plain_entry "space_name" "\"prod\"" (by decide))
      (.more (plain_entry "limits" "[null]" (by decide))
      (.more (plain_entry "application_name" "\"\\u006frders\"" (by decide))
      (.more (plain_entry "application_id" "\"5c6b\"" (by decide))
      (.one (plain_entry "organization_name" "\"acme\"" (by decide))))))
    have object := SpelledObject.entries Json.blanks_nil entries Json.blanks_nil
    exact (congrArg (SpelledObject _) (by decide +kernel)).mpr object
  case id => exact ⟨"5c6b".toList, by decide, plain_spelled (by decide)⟩
  case name =>
    have first : Json.SpelledChar 'o' "\\u006f".toList := .code (n := 0x6f) rfl rfl rfl
    exact ⟨"\\u006frders".toList, by decide, .cons first (plain_spelled (by decide : "rders".toList.flatMap _ = _))⟩
  case space => exact ⟨"prod".toList, by decide, plain_spelled (by decide)⟩
  case organization => exact ⟨"acme".toList, by decide, plain_spelled (by decide)⟩
  case others =>
    have list := Form.list (.lastItem (.item Json.blanks_nil .null Json.blanks_nil))
    intro m member foreign
    obtain ⟨id, foreign⟩ := List.forall_mem_cons.mp foreign
    obtain ⟨name, foreign⟩ := List.forall_mem_cons.mp foreign
    obtain ⟨space, foreign⟩ := List.forall_mem_cons.mp foreign
    obtain ⟨organization, -⟩ := List.forall_mem_cons.mp foreign
    simp only [List.mem_cons] at member
    rcases member with rfl | rfl | rfl | rfl | rfl | none
    · exact absurd rfl space
    · exact list
    · exact absurd rfl name
    · exact absurd rfl id
    · exact absurd rfl organization
    · cases none

/-- What is found in the texts of two variables. -/
structure Recovers (env : Environment) (application index : String) : Prop where
  found : ∀ x ms, Published x application ms → SpelledIndex x.instanceIndex index → identity env = .ok x
  valid : ∀ x ms, Published x application ms → ∃ row, applicationShape.parse application = .ok row
  /-- Any other text for an index is refused as it was given. -/
  refused : ∀ row, applicationShape.parse application = .ok row → (∀ i, ¬ SpelledIndex i index) →
    identity env = .error (.invalidInstanceIndex index)

theorem recovers_of_told {env : Environment} {application index : String}
    (told : env applicationVariable = some application) (numbered : env instanceIndexVariable = some index) :
    Recovers env application index := by
  have reading : identity env = parseIdentity application index := by simp only [identity, told, numbered]
  constructor
  case found =>
    intro x ms published spelled
    simp only [reading, parseIdentity, published.parse, parseIndex_eq_some.mpr spelled]
  case valid => exact fun x ms published => ⟨_, published.parse⟩
  case refused =>
    intro row valid other
    simp only [reading, parseIdentity, valid, parseIndex_eq_none.mpr other]

/-- A published identity is found by an index with a plus and zeros, and not by a negative one. -/
theorem recovers_of_reordered :
    identity (.ofList [(applicationVariable, reordered), (instanceIndexVariable, " +007\n")]) =
        .ok ⟨"5c6b", 7, "orders", "prod", "acme"⟩ ∧
      identity (.ofList [(applicationVariable, reordered), (instanceIndexVariable, "-1")]) =
        .error (.invalidInstanceIndex "-1") := by
  have told (index : String) : Environment.ofList [(applicationVariable, reordered), (instanceIndexVariable, index)]
      applicationVariable = some reordered := by simp [Environment.ofList]
  have numbered (index : String) : Environment.ofList
      [(applicationVariable, reordered), (instanceIndexVariable, index)] instanceIndexVariable = some index := by
    simp [Environment.ofList, applicationVariable, instanceIndexVariable, List.lookup_cons]
  constructor
  · have spelled : SpelledIndex 7 " +007\n" := ⟨[' '], ['+', '0', '0', '7'], ['\n'], by decide, .plus 2,
      List.forall_mem_singleton.mpr rfl, List.forall_mem_singleton.mpr rfl⟩
    exact (recovers_of_told (told _) (numbered _)).found _ _ published_reordered spelled
  · have other : parseIndex "-1" = none := by decide
    exact (recovers_of_told (told _) (numbered _)).refused _ published_reordered.parse (parseIndex_eq_none.mp other)

end Throughput.Discovery
