import Mathlib.Data.List.TakeWhile
import Throughput.Configuration.Arguments

/-! Which texts a command line gives. Whether an argument is an option is seen from itself, so a
text is given by one argument or by two in a row. -/
namespace Throughput.Configuration

theorem Wish.ofLong?_long (s : Setting) : Wish.ofLong? s.long = some (.setting s) := by
  rcases s with s | s | s <;> cases s <;> decide +kernel

theorem Wish.ofLong?_eq_setting {name : List Char} {s : Setting} :
    Wish.ofLong? name = some (.setting s) ↔ name = s.long := by
  constructor
  · intro named
    unfold Wish.ofLong? at named
    split at named
    · cases named
    · split at named
      · cases named
      · obtain ⟨found, search, same⟩ := Option.map_eq_some_iff.mp named
        cases same
        have same := List.find?_some search
        exact (beq_iff_eq.mp same).symm
  · rintro rfl
    exact Wish.ofLong?_long s

theorem Wish.ofShort?_eq_setting {c : Char} {s : Setting} :
    Wish.ofShort? c = some (.setting s) ↔ s.short? = some c := by
  constructor
  · intro named
    unfold Wish.ofShort? at named
    split at named
    · cases named
    · split at named
      · cases named
      · obtain ⟨found, search, same⟩ := Option.map_eq_some_iff.mp named
        cases same
        have same := List.find?_some search
        exact beq_iff_eq.mp same
  · intro letter
    rcases s with s | s | s <;> cases s <;> cases letter <;> decide

namespace Arguments

/-- The value among the characters after a letter, from an equals sign on if that is the first. -/
def valueAfter : List Char → Option (List Char)
  | [] => none
  | '=' :: value => some value
  | value => some value

/-- Letters up to that of a text, with the value after it. Only switches come before. -/
inductive Letters (t : TextSetting) : List Char → Option (List Char) → Prop
  | last {c : Char} (named : (Setting.text t).short? = some c) (rest : List Char) :
      Letters t (c :: rest) (valueAfter rest)
  | switch {c : Char} {s : SwitchSetting} {rest : List Char} {value? : Option (List Char)}
      (named : (Setting.switch s).short? = some c) (later : Letters t rest value?) :
      Letters t (c :: rest) value?

/-- An argument that names a text, with the value if it holds that too. -/
inductive Names (t : TextSetting) : List Char → Option (List Char) → Prop
  | long : Names t ('-' :: '-' :: (Setting.text t).long) none
  | equals (value : List Char) :
      Names t ('-' :: '-' :: ((Setting.text t).long ++ '=' :: value)) (some value)
  | letters {cs : List Char} {value? : Option (List Char)} (letters : Letters t cs value?) :
      Names t ('-' :: cs) value?

/-- A hyphen alone is a value. -/
def isOption : List Char → Bool
  | '-' :: _ :: _ => true
  | _ => false

/-- A command line on which a text is given. -/
inductive Gives (t : TextSetting) : List String → List Char → Prop
  | held {argument : String} {value : List Char} (names : Names t argument.toList (some value))
      (rest : List String) : Gives t (argument :: rest) value
  | next {argument value : String} (names : Names t argument.toList none)
      (plain : isOption value.toList = false) (rest : List String) :
      Gives t (argument :: value :: rest) value.toList
  | later {rest : List String} {value : List Char} (argument : String) (gives : Gives t rest value) :
      Gives t (argument :: rest) value

section

variable {t : TextSetting} {value? : Option (List Char)} {cs name value : List Char} {c : Char}

/-- No name has an equals sign. -/
theorem long_plain (s : Setting) : '=' ∉ s.long := by
  rcases s with s | s | s <;> cases s <;> decide +kernel

theorem eq_plain (plain : '=' ∉ name) :
    cs = name ↔ cs.takeWhile (· ≠ '=') = name ∧ cs.dropWhile (· ≠ '=') = [] := by
  constructor
  · rintro rfl
    have all : ∀ c ∈ cs, decide (c ≠ '=') = true := fun c member => by
      simpa using ne_of_mem_of_not_mem member plain
    exact ⟨List.takeWhile_eq_self_iff.mpr all, List.dropWhile_eq_nil_iff.mpr all⟩
  · rintro ⟨rfl, nothing⟩
    conv => lhs; rw [← List.takeWhile_append_dropWhile (p := (· ≠ '=')) (l := cs), nothing, List.append_nil]

theorem eq_append_equals (plain : '=' ∉ name) :
    cs = name ++ '=' :: value ↔
      cs.takeWhile (· ≠ '=') = name ∧ cs.dropWhile (· ≠ '=') = '=' :: value := by
  constructor
  · rintro rfl
    have all : ∀ c ∈ name, decide (c ≠ '=') = true := fun c member => by
      simpa using ne_of_mem_of_not_mem member plain
    rw [List.takeWhile_append_of_pos all, List.dropWhile_append_of_pos all]
    simp
  · rintro ⟨rfl, after⟩
    rw [← after, List.takeWhile_append_dropWhile]

theorem equals_of_dropWhile (after : cs.dropWhile (· ≠ '=') = c :: value) : c = '=' := by
  have stops := List.head?_dropWhile_not (· ≠ '=') cs
  rw [after] at stops
  simpa using stops

theorem not_letters_nil : ¬ Letters t [] value? := fun letters => nomatch letters

theorem not_letters_hyphen : ¬ Letters t ('-' :: cs) value? := by
  have no (s : Setting) : s.short? ≠ some '-' := by
    rcases s with s | s | s <;> cases s <;> decide
  intro letters
  cases letters with
  | last named | switch named => exact no _ named

theorem letters_of_value {wish : Wish} (named : Wish.ofShort? c = some wish)
    (takes : Reading.takesValue wish = true) :
    Letters t (c :: cs) value? ↔ wish = .setting (.text t) ∧ valueAfter cs = value? := by
  constructor
  · intro letters
    cases letters with
    | last letter =>
      have same := Wish.ofShort?_eq_setting.mpr letter
      exact ⟨Option.some.inj (named.symm.trans same), rfl⟩
    | switch letter =>
      rw [Wish.ofShort?_eq_setting.mpr letter] at named
      cases named
      cases takes
  · rintro ⟨rfl, rfl⟩
    exact .last (Wish.ofShort?_eq_setting.mp named) cs

theorem letters_of_switch {s : SwitchSetting} (named : Wish.ofShort? c = some (.setting (.switch s))) :
    Letters t (c :: cs) value? ↔ Letters t cs value? := by
  constructor
  · intro letters
    cases letters with
    | last letter =>
      rw [Wish.ofShort?_eq_setting.mpr letter] at named
      cases named
    | switch _ later => exact later
  · exact .switch (Wish.ofShort?_eq_setting.mp named)

theorem names_hyphens : Names t ('-' :: '-' :: cs) value? ↔
    cs.takeWhile (· ≠ '=') = (Setting.text t).long ∧
      (cs.dropWhile (· ≠ '=') = [] ∧ value? = none ∨
        ∃ value, cs.dropWhile (· ≠ '=') = '=' :: value ∧ value? = some value) := by
  constructor
  · intro names
    cases names with
    | long =>
      obtain ⟨name, nothing⟩ := (eq_plain (long_plain (.text t))).mp rfl
      exact ⟨name, .inl ⟨nothing, rfl⟩⟩
    | equals value =>
      obtain ⟨name, after⟩ := (eq_append_equals (long_plain (.text t))).mp rfl
      exact ⟨name, .inr ⟨value, after, rfl⟩⟩
    | letters letters => exact absurd letters not_letters_hyphen
  · rintro ⟨name, ⟨nothing, rfl⟩ | ⟨value, after, rfl⟩⟩
    · obtain rfl := (eq_plain (long_plain (.text t))).mpr ⟨name, nothing⟩
      exact .long
    · obtain rfl := (eq_append_equals (long_plain (.text t))).mpr ⟨name, after⟩
      exact .equals value

theorem names_letters (other : c ≠ '-') :
    Names t ('-' :: c :: cs) value? ↔ Letters t (c :: cs) value? := by
  constructor
  · intro names
    cases names with
    | long | equals => exact absurd rfl other
    | letters letters => exact letters
  · exact .letters

theorem isOption_of_names (names : Names t cs value?) : isOption cs = true := by
  cases names with
  | long | equals => rfl
  | letters letters =>
    cases letters with
    | last | switch => rfl

/-- The two hyphens that end the options name nothing. -/
theorem not_names_end : ¬ Names t ['-', '-'] value? := by
  rw [names_hyphens]
  rintro ⟨name, -⟩
  revert name
  cases t <;> decide +kernel

theorem not_gives_nil : ¬ Gives t [] value := fun gives => nomatch gives

theorem gives_cons {argument : String} {rest : List String} :
    Gives t (argument :: rest) value ↔ Names t argument.toList (some value) ∨
      (Names t argument.toList none ∧ ∃ word ∈ rest.head?, isOption word.toList = false ∧ word.toList = value) ∨
      Gives t rest value := by
  constructor
  · intro gives
    cases gives with
    | held names => exact .inl names
    | next names plain => exact .inr (.inl ⟨names, _, rfl, plain, rfl⟩)
    | later _ gives => exact .inr (.inr gives)
  · rintro (names | ⟨names, word, first, plain, rfl⟩ | gives)
    · exact .held names rest
    · obtain ⟨more, rfl⟩ := List.head?_eq_some_iff.mp first
      exact .next names plain more
    · exact .later argument gives

end

namespace Reading

variable {r r' : Reading} {t : TextSetting} {value : List Char}

/-- The value of a text is known. -/
def Has (r : Reading) (t : TextSetting) (value : List Char) : Prop :=
  r.given.text t = some (.ofList value) ∨ r.pending = some (.text t, some value)

def Awaits (r : Reading) (t : TextSetting) : Prop := r.pending = some (.text t, none)

theorem text_of_turnOn {a a' : Arguments} {s : SwitchSetting} (turned : a.turnOn s = .ok a') :
    a'.text = a.text := by
  unfold turnOn at turned
  split at turned
  · cases turned
  · cases turned
    rfl

theorem text_of_store {a a' : Arguments} {s : Setting} {found : List Char} (stored : a.store s found = .ok a') :
    a'.text t = some (.ofList value) ↔
      a.text t = some (.ofList value) ∨ s = .text t ∧ found = value := by
  cases s with
  | number n =>
    simp only [store] at stored
    split at stored
    · cases stored
    · split at stored
      · cases stored
        simp [setNumber]
      · cases stored
  | switch s =>
    rw [text_of_turnOn stored]
    simp
  | text u =>
    simp only [store] at stored
    split at stored
    · cases stored
    case isFalse first =>
      split at stored
      · cases stored
      · cases stored
        by_cases same : t = u
        · subst same
          have absent : a.text t = none := by simpa using first
          simp [setText, absent, String.ofList_inj]
        · simp [setText, same, Ne.symm same]

theorem has_of_settle {a : Arguments} (settled : r.settle = .ok a) :
    (∀ value, a.text t = some (.ofList value) ↔ r.Has t value) ∧ ¬ r.Awaits t := by
  obtain ⟨given, pending⟩ := r
  match pending with
  | none =>
    cases settled
    simp [Has, Awaits]
  | some (s, none) => cases settled
  | some (s, some found) =>
    constructor
    · intro value
      rw [text_of_store settled]
      simp [Has]
    · simp [Awaits]

/-- What an option does for a text; `names` holds of the value with which it names it. No option
comes where a value is waited for. -/
structure Took (r r' : Reading) (t : TextSetting) (names : Option (List Char) → Prop) : Prop where
  has : ∀ value, r'.Has t value ↔ r.Has t value ∨ names (some value)
  awaits : r'.Awaits t ↔ names none
  idle : ¬ r.Awaits t

theorem Took.congr {names names' : Option (List Char) → Prop} (took : Took r r' t names)
    (same : ∀ value?, names' value? ↔ names value?) : Took r r' t names' :=
  ⟨fun value => by rw [took.has, same], by rw [took.awaits, same], took.idle⟩

/-- What comes after an option that does nothing for a text. -/
theorem Took.trans {r'' : Reading} {names names' : Option (List Char) → Prop} (took : Took r r' t names)
    (other : ∀ value?, ¬ names value?) (later : Took r' r'' t names') : Took r r'' t names' := by
  refine ⟨fun value => ?_, later.awaits, took.idle⟩
  rw [later.has, took.has, or_iff_left (other _)]

theorem took_of_take {wish : Wish} {value? : Option (List Char)} (taken : r.take wish value? = .ok r') :
    Took r r' t fun found => wish = .setting (.text t) ∧ value? = found := by
  simp only [take] at taken
  cases settled : r.settle with
  | error e => simp [settled] at taken
  | ok given =>
    rw [settled] at taken
    obtain ⟨before, idle⟩ := has_of_settle (t := t) settled
    obtain ⟨has, awaits⟩ : (∀ value, r'.Has t value ↔
        given.text t = some (.ofList value) ∨ wish = .setting (.text t) ∧ value? = some value) ∧
        (r'.Awaits t ↔ wish = .setting (.text t) ∧ value? = none) := by
      match wish, value? with
      | .help, _ | .version, _ => cases taken
      | .setting (.switch s), _ =>
        simp only at taken
        split at taken
        case h_1 given' turned =>
          cases taken
          simp [Has, Awaits, text_of_turnOn turned]
        case h_2 => cases taken
      | .setting (.number n), none | .setting (.text u), none =>
        cases taken
        simp [Has, Awaits]
      | .setting (.number n), some found | .setting (.text u), some found =>
        simp only at taken
        split at taken
        case h_1 given' stored =>
          cases taken
          simp [Has, Awaits, text_of_store stored]
        case h_2 => cases taken
    exact ⟨fun value => by rw [has, before], awaits, idle⟩

/-- An option by its name, with or without a value. -/
theorem took_of_readLong {cs : List Char} (read : r.readLong cs = .ok r') :
    Took r r' t (Names t ('-' :: '-' :: cs)) := by
  simp only [readLong] at read
  cases named : Wish.ofLong? (cs.takeWhile (· ≠ '=')) with
  | none =>
    simp only [named] at read
    cases read
  | some wish =>
    have long : cs.takeWhile (· ≠ '=') = (Setting.text t).long ↔ wish = .setting (.text t) := by
      rw [← Wish.ofLong?_eq_setting, named, Option.some.injEq]
    simp only [named] at read
    cases after : cs.dropWhile (· ≠ '=') with
    | nil =>
      rw [after] at read
      refine (took_of_take read).congr fun value? => ?_
      rw [names_hyphens, long, after]
      simp [eq_comm]
    | cons c rest =>
      obtain rfl := equals_of_dropWhile after
      rw [after] at read
      simp only at read
      split at read
      · cases read
      · refine (took_of_take read).congr fun value? => ?_
        rw [names_hyphens, long, after]
        simp [eq_comm]

/-- A letter takes what follows as its value, or is that of a switch. -/
theorem readShort_cons {c : Char} {cs : List Char} (read : r.readShort (c :: cs) = .ok r') :
    (∃ wish, Wish.ofShort? c = some wish ∧ takesValue wish = true ∧
      r.take wish (valueAfter cs) = .ok r') ∨
    ∃ s next, Wish.ofShort? c = some (.setting (.switch s)) ∧
      r.take (.setting (.switch s)) none = .ok next ∧ next.readShort cs = .ok r' := by
  simp only [readShort] at read
  split at read
  · cases read
  case h_2 wish named =>
    split at read
    case isTrue takes => exact .inl ⟨wish, named, takes, read⟩
    case isFalse plain =>
      split at read
      case h_1 next taken =>
        match wish with
        | .help | .version =>
          simp only [take] at taken
          split at taken <;> cases taken
        | .setting (.number n) | .setting (.text u) => exact absurd rfl plain
        | .setting (.switch s) => exact .inr ⟨s, next, named, taken, read⟩
      case h_2 => cases read

/-- Options by their letters. -/
theorem took_of_readShort {c : Char} {cs : List Char} (read : r.readShort (c :: cs) = .ok r') :
    Took r r' t (Letters t (c :: cs)) := by
  induction cs generalizing c r with
  | nil =>
    rcases readShort_cons read with ⟨wish, named, takes, taken⟩ | ⟨s, next, named, taken, rest⟩
    · exact (took_of_take taken).congr fun value? => letters_of_value named takes
    · cases rest
      refine (took_of_take taken).congr fun value? => ?_
      rw [letters_of_switch named]
      simp [not_letters_nil]
  | cons d cs ih =>
    rcases readShort_cons read with ⟨wish, named, takes, taken⟩ | ⟨s, next, named, taken, rest⟩
    · exact (took_of_take taken).congr fun value? => letters_of_value named takes
    · have later := (took_of_take taken).trans (by simp) (ih rest)
      exact later.congr fun value? => letters_of_switch named

theorem has_of_readOther {cs : List Char} (read : r.readOther cs = .ok r') :
    (∀ value, r'.Has t value ↔ r.Has t value ∨ r.Awaits t ∧ cs = value) ∧ ¬ r'.Awaits t := by
  obtain ⟨given, pending⟩ := r
  match pending with
  | none | some (_, some _) => cases read
  | some (s, none) =>
    cases read
    simp [Has, Awaits]

/-- One argument; nothing may follow two hyphens alone. -/
def advance (r : Reading) (last : Bool) : List Char → Except Stop Reading
  | '-' :: '-' :: [] => if last then .ok r else .error (.usage .unknownArgument)
  | '-' :: '-' :: cs => r.readLong cs
  | '-' :: c :: cs => r.readShort (c :: cs)
  | cs => r.readOther cs

/-- One argument is read after the other. -/
theorem readAll_eq_bind (r : Reading) (argument : String) (rest : List String) :
    r.readAll (argument :: rest) = (r.advance rest.isEmpty argument.toList).bind (·.readAll rest) := by
  grind [readAll, advance, Except.bind]

theorem readAll_cons {argument : String} {rest : List String} {a : Arguments}
    (read : r.readAll (argument :: rest) = .ok a) :
    ∃ next, r.advance rest.isEmpty argument.toList = .ok next ∧ next.readAll rest = .ok a := by
  rw [readAll_eq_bind] at read
  cases advanced : r.advance rest.isEmpty argument.toList with
  | error e => simp [advanced, Except.bind] at read
  | ok next =>
    rw [advanced] at read
    exact ⟨next, rfl, read⟩

/-- What one argument does for a text. -/
structure Advances (r r' : Reading) (t : TextSetting) (argument : List Char) : Prop where
  has : ∀ value, r'.Has t value ↔ r.Has t value ∨ Names t argument (some value) ∨
    r.Awaits t ∧ isOption argument = false ∧ argument = value
  awaits : r'.Awaits t ↔ Names t argument none

theorem Took.advances {cs : List Char} (took : Took r r' t (Names t cs)) : Advances r r' t cs :=
  ⟨fun value => by rw [took.has]; simp [took.idle], took.awaits⟩

theorem advances_of_advance {argument : List Char} {last : Bool} (more : argument ≠ ['-', '-'])
    (advanced : r.advance last argument = .ok r') : Advances r r' t argument := by
  unfold advance at advanced
  split at advanced
  case h_1 => exact absurd rfl more
  case h_2 cs _ => exact (took_of_readLong advanced).advances
  case h_3 c cs _ other =>
    have took := took_of_readShort (t := t) advanced
    have named := took.congr fun value? => names_letters (by rintro rfl; exact other rfl)
    exact named.advances
  case h_4 word _ _ other =>
    have plain : isOption argument = false := by
      unfold isOption
      split
      · exact absurd rfl (other _ _)
      · rfl
    obtain ⟨has, awaits⟩ := has_of_readOther (t := t) advanced
    have unnamed (value? : Option (List Char)) : ¬ Names t argument value? := fun names => by
      simp [isOption_of_names names] at plain
    constructor
    case has => exact fun value => by simp [has, unnamed, plain]
    case awaits => simp [awaits, unnamed]

theorem has_of_readAll_nil {a : Arguments} (read : r.readAll [] = .ok a) :
    (∀ value, a.text t = some (.ofList value) ↔ r.Has t value) ∧ ¬ r.Awaits t := by
  simp only [readAll] at read
  cases settled : r.settle with
  | error e => simp [settled, Except.mapError] at read
  | ok given =>
    rw [settled] at read
    cases read
    exact has_of_settle settled

/-- The rest of a command line gives a text that is not known yet. -/
theorem text_of_readAll {arguments : List String} {a : Arguments} (read : r.readAll arguments = .ok a) :
    a.text t = some (.ofList value) ↔ r.Has t value ∨
      (r.Awaits t ∧ ∃ word ∈ arguments.head?, isOption word.toList = false ∧ word.toList = value) ∨
      Gives t arguments value := by
  induction arguments generalizing r with
  | nil =>
    obtain ⟨has, idle⟩ := has_of_readAll_nil (t := t) read
    simp [has, idle, not_gives_nil]
  | cons argument rest ih =>
    obtain ⟨next, advanced, later⟩ := readAll_cons read
    by_cases ends : argument.toList = ['-', '-']
    · cases rest with
      | cons word rest => simp [ends, advance] at advanced
      | nil =>
        obtain rfl : r = next := by simpa [ends, advance] using advanced
        obtain ⟨has, idle⟩ := has_of_readAll_nil (t := t) later
        rw [gives_cons, ends]
        simp [has, idle, not_names_end, not_gives_nil]
    · obtain ⟨has, awaits⟩ := advances_of_advance (t := t) ends advanced
      rw [ih later, has, awaits, gives_cons]
      simp only [List.head?_cons, Option.mem_some_iff, exists_eq_left']
      grind

end Reading

/-- A text that is given is the value that the line has for it, and nothing else. -/
theorem text_of_parse {arguments : List String} {a : Arguments} (parsed : parse arguments = .ok a)
    (t : TextSetting) (value : String) : a.text t = some value ↔ Gives t arguments value.toList := by
  have read : a.text t = some (.ofList value.toList) ↔ _ := Reading.text_of_readAll parsed
  rw [String.ofList_toList] at read
  rw [read]
  simp [Reading.Has, Reading.Awaits, Reading.begin]

end Arguments
end Throughput.Configuration
