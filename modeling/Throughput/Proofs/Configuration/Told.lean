import Throughput.Configuration
import Throughput.Proofs.Configuration.CommandLine
import Throughput.Proofs.Configuration.Spelling
import Throughput.Proofs.Configuration.Variables

/-! What the agent is told of each text: what the command line gives, letter for letter, and else
the value of a variable, spelled anew. -/
namespace Throughput.Configuration

/-- A text among the settings of the agent. -/
def told (settings : Agent.Settings) : TextSetting → Option String
  | .environmentVariable => settings.environmentVariable
  | .basicUrl => settings.overrides.basicUrl
  | .basicUsername => settings.overrides.basicUsername
  | .basicPassword => settings.overrides.basicPassword
  | .mtlsUrl => settings.overrides.mtlsUrl
  | .mtlsCertificate => settings.overrides.mtlsCertificate
  | .mtlsKey => settings.overrides.mtlsKey
  | .mtlsDirectory => settings.overrides.mtlsDirectory

theorem told_agentSettings (c : Configuration) (t : TextSetting) : told c.agentSettings t = c.text t := by
  cases t <;> rfl

section

variable {v : Variables} {a : Arguments} {c : Configuration} {t : TextSetting}

theorem load_eq_ok : load v a = .ok c ↔ v.faults = [] ∧ c =
    { number := fun n => (a.number n).getD (((v.number? n).toOption.join).getD n.default)
      switch := fun s => ((v.switch? s).toOption.join).getD false || a.switch s
      text := fun t => (a.text t).or (v.text? t).toOption.join } := by
  unfold load
  split
  case h_1 e faults found => simp [found]
  case h_2 found => simp [found, eq_comm]

theorem faults_eq_nil : v.faults = [] ↔ ∀ s, v.fault? s = none := by
  simp only [Variables.faults, List.filterMap_eq_nil_iff]
  exact ⟨fun none s => none s (Setting.mem_all s), fun none s _ => none s⟩

/-- What a text is read from is no path. -/
theorem readable_of_faults (fits : v.fault? (.text t) = none) {x : Value} (found : v.value? (.text t) = some x) :
    ∃ u, x.toText = .ok u := by
  simp only [Variables.fault?, Variables.text?, Variables.read?, found] at fits
  cases read : x.toText with
  | ok u => exact ⟨u, rfl⟩
  | error e => simp [read] at fits

theorem text?_eq_some (fits : v.fault? (.text t) = none) {u : String} :
    (v.text? t).toOption.join = some u ↔ ∃ s, Sets (.text t) v s ∧ Respelled s u := by
  have plain : v.value? (.text t) ≠ some .group ∧ v.value? (.text t) ≠ some .sequence := by
    constructor <;>
    · intro found
      obtain ⟨u, read⟩ := readable_of_faults fits found
      cases read
  have sets (x : Value) := value?_eq_some (x := x) plain
  cases found : v.value? (.text t) with
  | none =>
    simp only [found, reduceCtorEq, false_iff, not_exists, not_and] at sets
    simp only [Variables.text?, Variables.read?, found]
    constructor
    · intro missing
      cases missing
    · rintro ⟨s, set, -⟩
      exact absurd rfl (sets _ s set)
  | some x =>
    obtain ⟨s, set, rfl⟩ := (sets x).mp found
    obtain ⟨w, respelled⟩ := exists_respelled s
    have same : (v.text? t).toOption.join = some w := by
      simp [Variables.text?, Variables.read?, found, respelled.toText, Except.toOption]
    rw [same, Option.some.injEq]
    constructor
    · rintro rfl
      exact ⟨s, set, respelled⟩
    · rintro ⟨other, again, spelled⟩
      obtain rfl := set.unique again
      exact respelled.unique spelled

theorem told_of_load (loaded : load v a = .ok c) {u : String} :
    told c.agentSettings t = some u ↔
      a.text t = some u ∨ a.text t = none ∧ ∃ s, Sets (.text t) v s ∧ Respelled s u := by
  obtain ⟨fits, rfl⟩ := load_eq_ok.mp loaded
  rw [← text?_eq_some (faults_eq_nil.mp fits _), told_agentSettings, Option.or_eq_some_iff]

theorem told_of_variable (loaded : load v a = .ok c) (free : a.text t = none) {s : String}
    (sets : Sets (.text t) v s) {u : String} : told c.agentSettings t = some u ↔ Respelled s u := by
  rw [told_of_load loaded, free]
  constructor
  · rintro (given | ⟨-, other, again, respelled⟩)
    · cases given
    · obtain rfl := sets.unique again
      exact respelled
  · exact fun respelled => .inr ⟨rfl, s, sets, respelled⟩

end

/-- How a text reaches the agent. -/
structure Told (v : Variables) (a : Arguments) (c : Configuration) (t : TextSetting) : Prop where
  /-- The command line counts first, and what it gives is not touched. -/
  given : ∀ s, a.text t = some s → told c.agentSettings t = some s
  line : ∀ arguments, Arguments.parse arguments = .ok a →
    ∀ s, a.text t = some s ↔ Arguments.Gives t arguments s.toList
  /-- The value of the variable is spelled anew, -/
  respelled : a.text t = none → ∀ s, Sets (.text t) v s →
    ∀ u, told c.agentSettings t = some u ↔ Respelled s u
  /-- which changes nothing if it is no truth value and no number. -/
  kept : a.text t = none → ∀ s, Sets (.text t) v s → ¬ IsTruth s → Text.int64? s.toList = none →
    Binary64.ofText? s.toList = none → told c.agentSettings t = some s
  path : a.text t = none → ∀ s, Sets (.text t) v s → '/' ∈ s.toList → told c.agentSettings t = some s
  /-- Zeros before other digits are lost. -/
  zero : a.text t = none → ∀ s, Sets (.text t) v s → ∀ digit rest, s.toList = '0' :: digit :: rest →
    (∃ n, Text.int64? s.toList = some n) → told c.agentSettings t ≠ some s
  absent : a.text t = none → (∀ s, ¬ Sets (.text t) v s) → told c.agentSettings t = none
  /-- No other setting matters. -/
  alone : ∀ v' a' c', load v' a' = .ok c' → a'.text t = a.text t →
    (∀ s, Sets (.text t) v' s ↔ Sets (.text t) v s) → told c'.agentSettings t = told c.agentSettings t

theorem told_of_loaded {v : Variables} {a : Arguments} {c : Configuration} (loaded : load v a = .ok c)
    (t : TextSetting) : Told v a c t := by
  constructor
  case given => exact fun s given => (told_of_load loaded).mpr (.inl given)
  case line => exact fun arguments parsed s => Arguments.text_of_parse parsed t s
  case respelled => exact fun free s sets u => told_of_variable loaded free sets
  case kept =>
    exact fun free s sets other whole number => (told_of_variable loaded free sets).mpr (.text other whole number)
  case path =>
    exact fun free s sets slash => (told_of_variable loaded free sets).mpr (respelled_of_slash slash)
  case zero =>
    rintro free s sets digit rest zero ⟨n, whole⟩ kept
    exact not_respelled_of_zero zero whole ((told_of_variable loaded free sets).mp kept)
  case absent =>
    intro free unset
    rw [Option.eq_none_iff_forall_ne_some]
    intro u found
    rcases (told_of_load loaded).mp found with given | ⟨-, s, sets, -⟩
    · cases free.symm.trans given
    · exact unset s sets
  case alone =>
    intro v' a' c' other same sets
    refine Option.ext fun u => ?_
    rw [told_of_load other, told_of_load loaded, same]
    simp only [sets]

theorem Setting.key_inj {s s' : Setting} (same : s.key = s'.key) : s = s' := by
  rcases s with s | s | s <;> rcases s' with s' | s' | s' <;> cases s <;> cases s' <;>
    first | rfl | exact absurd same (by decide)

/-- One variable of a text can always be read. -/
theorem exists_load {name : String} {t : TextSetting} (named : Text.lower name = (Setting.text t).variable)
    (value : String) (a : Arguments) : ∃ c, load [(name, value)] a = .ok c := by
  have found (s : Setting) : Variables.value? [(name, value)] s =
      if s = .text t then some (.ofText value) else none := by
    rw [value?_cons, entryOf?_variable named]
    by_cases same : s = .text t
    · subst same
      simp [Variables.value?, Variables.entries]
    · have other : (s.key == (Setting.text t).key) = false :=
        beq_false_of_ne fun key => same (Setting.key_inj key)
      simp [Variables.value?, Variables.entries, List.lookup_cons, other, same]
  have fits : Variables.faults [(name, value)] = [] := by
    obtain ⟨u, respelled⟩ := exists_respelled value
    rw [faults_eq_nil]
    rintro (n | s | w)
    · simp [Variables.fault?, Variables.number?, Variables.read?, found]
    · simp [Variables.fault?, Variables.switch?, Variables.read?, found]
    · by_cases same : w = t <;>
        simp [Variables.fault?, Variables.text?, Variables.read?, found, same, respelled.toText]
  exact ⟨_, load_eq_ok.mpr ⟨fits, rfl⟩⟩

theorem password_named : Text.lower "CME_BASIC_PASSWORD" = (Setting.text .basicPassword).variable := by
  rw [Text.lower_of_ascii (by simp)]
  decide

/-- A password from a variable, and two texts from a command line. -/
theorem told_of_password :
    ∃ a c, Arguments.parse ["-e", "STAGE", "--mtls-url=https://b"] = .ok a ∧
      load [("CME_BASIC_PASSWORD", "007")] a = .ok c ∧ ∀ t, Told [("CME_BASIC_PASSWORD", "007")] a c t := by
  obtain ⟨a, parsed⟩ : ∃ a, Arguments.parse ["-e", "STAGE", "--mtls-url=https://b"] = .ok a := ⟨_, rfl⟩
  obtain ⟨c, loaded⟩ := exists_load password_named "007" a
  exact ⟨a, c, parsed, loaded, told_of_loaded loaded⟩

/-- A password loses its zeros. -/
theorem password_altered : ¬ ∀ v a c t s, load v a = .ok c → a.text t = none → Sets (.text t) v s →
    told c.agentSettings t = some s := by
  intro kept
  obtain ⟨c, loaded⟩ := exists_load password_named "007" {}
  have sets : Sets (.text .basicPassword) [("CME_BASIC_PASSWORD", "007")] "007" :=
    .last password_named "007" (by simp)
  have same := kept _ _ c _ _ loaded rfl sets
  rw [told_of_variable loaded rfl sets] at same
  have zero : "007".toList = ['0', '0', '7'] := by decide
  have whole : Text.int64? "007".toList = some 7 := by decide +kernel
  exact not_respelled_of_zero zero whole same

end Throughput.Configuration
