import Mathlib.Data.List.TakeWhile
import Throughput.Configuration.Value
import Throughput.Proofs.Text.Case
import Throughput.Proofs.Text.Digits

/-! How the value of a variable is spelled once its kind has been guessed. -/
namespace Throughput.Configuration

/-- A truth value in words. -/
def IsTruth (s : String) : Prop := Text.lower s = "true" ∨ Text.lower s = "false"

/-- How a text is spelled once it has been read: truth values in lower case, numbers anew, all else
as it is. -/
inductive Respelled (s : String) : String → Prop
  | yes (word : Text.lower s = "true") : Respelled s "true"
  | no (word : Text.lower s = "false") : Respelled s "false"
  | integer {n : Int64} (other : ¬ IsTruth s) (whole : Text.int64? s.toList = some n) :
      Respelled s (toString n.toInt)
  | decimal {x : Binary64} (other : ¬ IsTruth s) (fraction : Text.int64? s.toList = none)
      (number : Binary64.ofText? s.toList = some x) : Respelled s x.plainText
  | text (other : ¬ IsTruth s) (fraction : Text.int64? s.toList = none)
      (word : Binary64.ofText? s.toList = none) : Respelled s s

theorem Respelled.toText {s spelled : String} (respelled : Respelled s spelled) :
    (Value.ofText s).toText = .ok spelled := by
  cases respelled with
  | yes word => simp [Value.ofText, word, Value.toText]
  | no word => simp [Value.ofText, word, Value.toText]
  | integer other whole =>
    obtain ⟨yes, no⟩ := not_or.mp other
    simp [Value.ofText, yes, no, whole, Value.toText]
  | decimal other fraction number =>
    obtain ⟨yes, no⟩ := not_or.mp other
    simp [Value.ofText, yes, no, fraction, number, Value.toText]
  | text other fraction word =>
    obtain ⟨yes, no⟩ := not_or.mp other
    simp [Value.ofText, yes, no, fraction, word, Value.toText]

theorem exists_respelled (s : String) : ∃ spelled, Respelled s spelled := by
  by_cases yes : Text.lower s = "true"
  · exact ⟨_, .yes yes⟩
  · by_cases no : Text.lower s = "false"
    · exact ⟨_, .no no⟩
    · have other := not_or.mpr ⟨yes, no⟩
      cases whole : Text.int64? s.toList with
      | some n => exact ⟨_, .integer other whole⟩
      | none =>
        cases number : Binary64.ofText? s.toList with
        | some x => exact ⟨_, .decimal other whole number⟩
        | none => exact ⟨_, .text other whole number⟩

theorem Respelled.unique {s spelled spelled' : String} (respelled : Respelled s spelled)
    (again : Respelled s spelled') : spelled = spelled' :=
  Except.ok.inj (respelled.toText.symm.trans again.toText)

section Slash

variable {cs : List Char}

theorem slash_mem_splitSign (slash : '/' ∈ cs) : '/' ∈ (Text.splitSign cs).2 := by
  unfold Text.splitSign
  split
  · simpa using slash
  · simpa using slash
  · exact slash

theorem natural?_of_slash (slash : '/' ∈ cs) : Text.natural? cs = none := by
  have other : ¬ cs.all Text.isDigit = true := fun all => by
    have digit := List.all_eq_true.mp all '/' slash
    exact absurd digit (by decide)
  simp [Text.natural?, other]

theorem int64?_of_slash (slash : '/' ∈ cs) : Text.int64? cs = none := by
  simp only [Text.int64?, natural?_of_slash (slash_mem_splitSign slash)]

theorem exponent?_of_slash (slash : '/' ∈ cs) : Binary64.exponent? cs = none := by
  cases cs with
  | nil => cases slash
  | cons c rest =>
    simp only [Binary64.exponent?]
    split
    case isTrue mark =>
      have inside : '/' ∈ rest := by
        rcases List.mem_cons.mp slash with rfl | inside
        · exact absurd mark (by decide)
        · exact inside
      simp [natural?_of_slash (slash_mem_splitSign inside)]
    case isFalse => rfl

theorem slash_mem_dropWhile (slash : '/' ∈ cs) : '/' ∈ cs.dropWhile Text.isDigit := by
  rw [← List.takeWhile_append_dropWhile (p := Text.isDigit) (l := cs)] at slash
  rcases List.mem_append.mp slash with digit | rest
  · exact absurd (List.mem_takeWhile_imp digit) (by decide)
  · exact rest

theorem decimal?_of_slash (negative : Bool) (slash : '/' ∈ cs) : Binary64.decimal? negative cs = none := by
  have rest := slash_mem_dropWhile slash
  simp only [Binary64.decimal?]
  split
  case h_1 fraction point =>
    rw [point] at rest
    have inside : '/' ∈ fraction := by simpa using rest
    simp [exponent?_of_slash (slash_mem_dropWhile inside)]
  case h_2 => simp [exponent?_of_slash rest]

theorem ofText?_of_slash (slash : '/' ∈ cs) : Binary64.ofText? cs = none := by
  have rest := slash_mem_splitSign slash
  have inside : '/' ∈ (String.ofList ((Text.splitSign cs).2.map Char.toLower)).toList := by
    rw [String.toList_ofList]
    exact List.mem_map.mpr ⟨'/', rest, by decide⟩
  have other (word : String) (plain : '/' ∉ word.toList) :
      String.ofList ((Text.splitSign cs).2.map Char.toLower) ≠ word := by
    rintro rfl
    exact plain inside
  simp [Binary64.ofText?, other "inf" (by decide), other "infinity" (by decide), other "nan" (by decide),
    decimal?_of_slash _ rest]

theorem slash_mem_lowerChars (before : List Char) (slash : '/' ∈ cs) : '/' ∈ Text.lowerChars before cs := by
  induction cs generalizing before with
  | nil => cases slash
  | cons c rest ih =>
    rw [Text.lowerChars, List.mem_append]
    rcases List.mem_cons.mp slash with rfl | inside
    · have own : Text.lowerChar '/' = ['/'] := Text.lowerChar_of_ascii (by decide)
      simp [own]
    · exact .inr (ih _ inside)

theorem slash_mem_lower {s : String} (slash : '/' ∈ s.toList) : '/' ∈ (Text.lower s).toList := by
  rw [Text.lower, String.toList_ofList]
  exact slash_mem_lowerChars [] slash

/-- A text with a slash, such as a path, is left as it is. -/
theorem respelled_of_slash {s : String} (slash : '/' ∈ s.toList) : Respelled s s := by
  refine .text ?_ (int64?_of_slash slash) (ofText?_of_slash slash)
  have inside := slash_mem_lower slash
  rintro (word | word) <;> exact absurd (word ▸ inside) (by decide)

end Slash

/-- No whole number is spelled with a zero before other digits. -/
theorem toString_zero_head {n : Int} {rest : List Char} (zero : (toString n).toList = '0' :: rest) :
    rest = [] := by
  rw [Int.toString_eq_repr] at zero
  cases n with
  | ofNat m =>
    have digits : Nat.toDigits 10 m = '0' :: rest := by simpa [Int.repr] using zero
    have alone := Text.toDigits_zero_head (by rw [digits]; rfl)
    exact (List.cons.inj (digits.symm.trans alone)).2
  | negSucc m => simp [Int.repr] at zero

/-- A text in digits loses the zeros before them. -/
theorem not_respelled_of_zero {s : String} {c : Char} {rest : List Char} {n : Int64}
    (zero : s.toList = '0' :: c :: rest) (whole : Text.int64? s.toList = some n) : ¬ Respelled s s := by
  intro kept
  have lower : (Text.lower s).toList = '0' :: Text.lowerChars ['0'] (c :: rest) := by
    have own : Text.lowerChar '0' = ['0'] := Text.lowerChar_of_ascii (by decide)
    rw [Text.lower, String.toList_ofList, zero, Text.lowerChars, own]
    rfl
  have other : ¬ IsTruth s := by
    rintro (word | word) <;> rw [word] at lower <;> cases lower
  have spelled := kept.unique (.integer other whole)
  rw [spelled] at zero
  exact absurd (toString_zero_head zero) (by simp)

end Throughput.Configuration
