import Mathlib.Data.List.TakeWhile
import Throughput.Configuration.Variables

/-! Which variable a setting is read from. Names are compared in lower case, the last variable of a
name counts, and a path sets no value. -/
namespace Throughput.Configuration

/-- The name of a setting's variable in lower case. -/
def Setting.variable (s : Setting) : String := "cme_" ++ s.key

/-- The value of a setting's variable, or of the last one if several have the name. -/
inductive Sets (s : Setting) : Variables → String → Prop
  | last {name : String} (named : Text.lower name = s.variable) (value : String) {rest : Variables}
      (only : ∀ other ∈ rest, Text.lower other.1 ≠ s.variable) : Sets s ((name, value) :: rest) value
  | later (first : String × String) {rest : Variables} {value : String} (sets : Sets s rest value) :
      Sets s (first :: rest) value

section

variable {s : Setting} {v : Variables} {name value found : String} {x : Value}

theorem sets_or_unnamed (s : Setting) (v : Variables) :
    (∃ value, Sets s v value) ∨ ∀ other ∈ v, Text.lower other.1 ≠ s.variable := by
  induction v with
  | nil => exact .inr (by simp)
  | cons first rest ih =>
    rcases ih with ⟨value, sets⟩ | unnamed
    · exact .inl ⟨value, .later first sets⟩
    · by_cases named : Text.lower first.1 = s.variable
      · exact .inl ⟨first.2, .last named first.2 unnamed⟩
      · exact .inr (List.forall_mem_cons.mpr ⟨named, unnamed⟩)

theorem not_sets (unnamed : ∀ other ∈ v, Text.lower other.1 ≠ s.variable) : ¬ Sets s v value := by
  intro sets
  induction sets with
  | last named =>
    have other := (List.forall_mem_cons.mp unnamed).1
    exact other named
  | later _ _ ih => exact ih (List.forall_mem_cons.mp unnamed).2

/-- A variable counts if none after it has the name. -/
theorem sets_cons : Sets s ((name, found) :: v) value ↔ Sets s v value ∨
    (∀ other, ¬ Sets s v other) ∧ Text.lower name = s.variable ∧ found = value := by
  constructor
  · intro sets
    cases sets with
    | last named _ only => exact .inr ⟨fun _ => not_sets only, named, rfl⟩
    | later _ sets => exact .inl sets
  · rintro (sets | ⟨nothing, named, rfl⟩)
    · exact .later _ sets
    · rcases sets_or_unnamed s v with ⟨other, sets⟩ | only
      · exact absurd sets (nothing other)
      · exact .last named found only

/-- At most one value counts. -/
theorem Sets.unique {other : String} (sets : Sets s v value) (again : Sets s v other) : value = other := by
  induction sets with
  | last named value only =>
    cases again with
    | last => rfl
    | later _ again => exact absurd again (not_sets only)
  | later first sets ih =>
    cases again with
    | last _ _ only => exact absurd sets (not_sets only)
    | later _ again => exact ih again

theorem lower_eq_variable :
    Text.lower name = s.variable ↔ (Text.lower name).toList = commonPrefix ++ s.key.toList := by
  rw [← String.toList_inj, Setting.variable, String.toList_append]
  rfl

theorem entry_key (s : Setting) (value : String) : entry s.key.toList value = (s.key, .ofText value) := by
  have all : s.key.toList.all isNameChar = true := by
    rcases s with s | s | s <;> cases s <;> decide +kernel
  have plain := List.all_eq_true.mp all
  rw [entry, List.takeWhile_eq_self_iff.mpr plain, List.dropWhile_eq_nil_iff.mpr plain]
  simp [isPath]

/-- A path sets its first name, but not to a value that a setting can have. -/
theorem entry_cases (key : List Char) (value : String) : entry key value = (.ofList key, .ofText value) ∨
    (entry key value).2 = .group ∨ (entry key value).2 = .sequence := by
  simp only [entry]
  split
  · exact .inl rfl
  · split
    · exact .inr (.inl rfl)
    · exact .inr (.inr rfl)
    · exact .inl rfl

theorem entryOf?_variable (named : Text.lower name = s.variable) :
    entryOf? name value = some (s.key, .ofText value) := by
  rw [lower_eq_variable] at named
  simp [entryOf?, named, entry_key]

theorem entryOf?_other (other : Text.lower name ≠ s.variable)
    (set : entryOf? name value = some (s.key, x)) :
    x = .group ∨ x = .sequence := by
  rw [Ne, lower_eq_variable] at other
  unfold entryOf? at set
  generalize (Text.lower name).toList = lower at other set
  simp only [Option.ite_none_right_eq_some, Option.some.injEq] at set
  obtain ⟨front, set⟩ := set
  obtain ⟨key, rfl⟩ := List.isPrefixOf_iff_prefix.mp front
  rw [List.drop_left] at set
  rcases entry_cases key value with whole | path
  · have same := congrArg Prod.fst (whole.symm.trans set)
    rw [← String.toList_inj, String.toList_ofList] at same
    exact absurd (congrArg _ same) other
  · rwa [set] at path

theorem entries_cons :
    Variables.entries ((name, found) :: v) = Variables.entries v ++ (entryOf? name found).toList := by
  unfold Variables.entries
  cases set : entryOf? name found <;> simp [set]

theorem value?_cons : Variables.value? ((name, found) :: v) s =
    (v.value? s).or ((entryOf? name found).toList.lookup s.key) := by
  rw [Variables.value?, entries_cons, List.lookup_append]
  rfl

/-- What one variable sets of a setting if it is not a path. -/
theorem lookup_entryOf? (plain : (entryOf? name found).toList.lookup s.key ≠ some .group ∧
    (entryOf? name found).toList.lookup s.key ≠ some .sequence) :
    (entryOf? name found).toList.lookup s.key =
      if Text.lower name = s.variable then some (.ofText found) else none := by
  split
  case isTrue named => simp [entryOf?_variable named]
  case isFalse other =>
    cases set : entryOf? name found with
    | none => rfl
    | some entry =>
      obtain ⟨key, x⟩ := entry
      by_cases same : key = s.key
      · subst same
        rw [set] at plain
        rcases entryOf?_other other set with rfl | rfl <;> simp at plain
      · simp [List.lookup_cons, beq_false_of_ne (Ne.symm same)]

/-- The value of a setting that no path turns into something else. -/
theorem value?_eq_some (plain : v.value? s ≠ some .group ∧ v.value? s ≠ some .sequence) :
    v.value? s = some x ↔ ∃ value, Sets s v value ∧ x = .ofText value := by
  induction v generalizing x with
  | nil =>
    constructor
    · intro found
      cases found
    · rintro ⟨value, sets, rfl⟩
      cases sets
  | cons first rest ih =>
    obtain ⟨name, found⟩ := first
    rw [value?_cons] at plain ⊢
    cases before : Variables.value? rest s with
    | some y =>
      rw [before] at plain ih
      obtain ⟨value, sets, rfl⟩ := (ih plain).mp rfl
      rw [Option.or, Option.some.injEq]
      constructor
      · rintro rfl
        exact ⟨value, .later _ sets, rfl⟩
      · rintro ⟨other, again, rfl⟩
        rw [Sets.unique (.later _ sets) again]
    | none =>
      rw [before, Option.none_or] at plain
      rw [before] at ih
      have nothing (value : String) : ¬ Sets s rest value := fun sets =>
        nomatch (ih (by simp)).mpr ⟨value, sets, rfl⟩
      rw [Option.none_or, lookup_entryOf? plain]
      simp only [sets_cons, nothing]
      split <;> simp [*, eq_comm]

end

end Throughput.Configuration
