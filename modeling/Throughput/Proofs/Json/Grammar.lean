import Throughput.Json.Reader
import Throughput.Proofs.Json.Sequence

/-! The grammar of documents. A spelled value is read if it is not too deep, as that value with the
members of its objects in order. -/
namespace Throughput.Json

mutual

/-- The ways to spell a value. -/
inductive Spelled : Value → List Char → Prop where
  | null : Spelled .null ['n', 'u', 'l', 'l']
  | yes : Spelled (.bool true) ['t', 'r', 'u', 'e']
  | no : Spelled (.bool false) ['f', 'a', 'l', 's', 'e']
  | number {n : Numeral} {x : Number} {s : List Char} : n.Spelled s → n.value = .ok x → Spelled (.number x) s
  | text {t : String} {s : List Char} : SpelledChars t.toList s → Spelled (.text t) ('"' :: (s ++ ['"']))
  | noItems {s : List Char} : Blanks s → Spelled (.list []) ('[' :: (s ++ [']']))
  | items {vs : List Value} {s : List Char} : SpelledItems vs s → Spelled (.list vs) ('[' :: (s ++ [']']))
  | noMembers {s : List Char} : Blanks s → Spelled (.object []) (Text.openBrace :: (s ++ [Text.closeBrace]))
  | members {ms : List (String × Value)} {s : List Char} : SpelledMembers ms s →
      Spelled (.object ms) (Text.openBrace :: (s ++ [Text.closeBrace]))

/-- A value with blanks around it. -/
inductive SpelledItem : Value → List Char → Prop where
  | mk {v : Value} {before s after : List Char} : Blanks before → Spelled v s → Blanks after →
      SpelledItem v (before ++ (s ++ after))

/-- Values with commas between them. -/
inductive SpelledItems : List Value → List Char → Prop where
  | one {v : Value} {s : List Char} : SpelledItem v s → SpelledItems [v] s
  | more {v : Value} {vs : List Value} {s t : List Char} : SpelledItem v s → SpelledItems vs t →
      SpelledItems (v :: vs) (s ++ ',' :: t)

/-- A name in quotes, a colon and a value. -/
inductive SpelledMember : String × Value → List Char → Prop where
  | mk {name : String} {v : Value} {before letters between s : List Char} : Blanks before →
      SpelledChars name.toList letters → Blanks between → SpelledItem v s →
      SpelledMember (name, v) (before ++ '"' :: (letters ++ '"' :: (between ++ ':' :: s)))

inductive SpelledMembers : List (String × Value) → List Char → Prop where
  | one {m : String × Value} {s : List Char} : SpelledMember m s → SpelledMembers [m] s
  | more {m : String × Value} {ms : List (String × Value)} {s t : List Char} : SpelledMember m s →
      SpelledMembers ms t → SpelledMembers (m :: ms) (s ++ ',' :: t)

end

theorem blanks_nil : Blanks [] := List.forall_mem_nil _

theorem SpelledItem.of_spelled {v : Value} {s : List Char} (spelled : Spelled v s) : SpelledItem v s := by
  have item := SpelledItem.mk blanks_nil spelled blanks_nil
  rwa [List.append_nil] at item

namespace Value

mutual

/-- How many lists and objects are open at once. -/
def height : Value → Nat
  | list items => heightItems items + 1
  | object members => heightMembers members + 1
  | _ => 0

def heightItems : List Value → Nat
  | [] => 0
  | v :: rest => max v.height (heightItems rest)

def heightMembers : List (String × Value) → Nat
  | [] => 0
  | (_, v) :: rest => max v.height (heightMembers rest)

end

mutual

/-- The document as it is read: of members with one name the last, in the order of names. -/
def sorted : Value → Value
  | list items => list (sortedItems items)
  | object members => object (sortedMembers [] members)
  | v => v

def sortedItems : List Value → List Value
  | [] => []
  | v :: rest => v.sorted :: sortedItems rest

/-- Members put in their places among those before them. -/
def sortedMembers (before : List (String × Value)) : List (String × Value) → List (String × Value)
  | [] => before
  | (name, v) :: rest => sortedMembers (insertMember name v.sorted before) rest

end

end Value

section

variable {s t u rest left : List Char} {depth : Nat} {room : Prop} {v w : Value}

theorem Ends.cons {c : Char} (stop : c ∈ [',', ']', Text.closeBrace]) : Ends (c :: rest) := by
  rintro d ⟨⟩
  simp only [List.mem_cons, List.not_mem_nil, or_false] at stop
  rcases stop with rfl | rfl | rfl <;> exact ⟨rfl, by decide, by decide, by decide⟩

theorem Ends.blanks (ends : Ends rest) (blanks : Blanks s) : Ends (s ++ rest) := by
  cases s with
  | nil => exact ends
  | cons c s =>
    rintro d ⟨⟩
    have blank := blanks c List.mem_cons_self
    simp only [isBlank, Bool.or_eq_true, beq_iff_eq] at blank
    rcases blank with ((rfl | rfl) | rfl) | rfl <;> exact ⟨rfl, by decide, by decide, by decide⟩

theorem Ends.after {c : Char} (blanks : Blanks s) (stop : c ∈ [',', ']', Text.closeBrace]) (rest : List Char) :
    Ends (s ++ c :: rest) :=
  (Ends.cons stop).blanks blanks

theorem Numeral.Spelled.front {n : Numeral} (spelled : n.Spelled s) :
    ∃ c others, s = c :: others ∧ (c = '-' ∨ Text.isDigit c = true) := by
  obtain ⟨some, -, fraction, exponent, -, -, rfl⟩ := spelled
  obtain ⟨d, others, first, digit⟩ := some.cons_of
  cases n.negative with
  | true => exact ⟨'-', n.whole ++ (fraction ++ exponent), rfl, .inl rfl⟩
  | false => exact ⟨d, others ++ (fraction ++ exponent), by rw [first]; rfl, .inr digit⟩

/-- What a number starts with is nothing else. -/
theorem ne_of_number {c l : Char} (first : c = '-' ∨ Text.isDigit c = true) (noDigit : Text.isDigit l = false)
    (noMinus : l ≠ '-') : c ≠ l := by
  rintro rfl
  rcases first with minus | digit
  · exact noMinus minus
  · exact Bool.noConfusion (digit.symm.trans noDigit)

theorem isBlank_of_number {c : Char} (first : c = '-' ∨ Text.isDigit c = true) : isBlank c = false := by
  simp [isBlank, ne_of_number first (l := ' ') rfl (by decide), ne_of_number first (l := '\t') rfl (by decide),
    ne_of_number first (l := '\n') rfl (by decide), ne_of_number first (l := '\r') rfl (by decide)]

@[simp]
theorem Scalar.height_toValue (scalar : Scalar) : scalar.toValue.height = 0 := by
  cases scalar <;> rfl

@[simp]
theorem Scalar.sorted_toValue (scalar : Scalar) : scalar.toValue.sorted = scalar.toValue := by
  cases scalar <;> rfl

/-- A value starts neither with a blank nor with what closes a list. -/
theorem Spelled.front (spelled : Spelled v s) : ∃ c others, s = c :: others ∧ isBlank c = false ∧ c ≠ ']' := by
  cases spelled with
  | number spelled _ =>
    obtain ⟨c, others, rfl, first⟩ := spelled.front
    exact ⟨c, others, rfl, isBlank_of_number first, ne_of_number first rfl (by decide)⟩
  | _ => exact ⟨_, _, rfl, rfl, by decide⟩

theorem readScalar_text {text : String} {letters : List Char} (spelled : SpelledChars text.toList letters)
    (rest : List Char) : (readScalar ('"' :: (letters ++ '"' :: rest))).Leaves (.text text) rest := by
  obtain ⟨last, taken, left⟩ := readText_spelled spelled rest
  rw [readScalar]
  simp only [Char.reduceEq, if_false, if_true, taken]
  exact ⟨_, rfl, left⟩

theorem readScalar_number {n : Numeral} {x : Number} (spelled : n.Spelled s) (value : n.value = .ok x)
    (ends : Ends rest) : (readScalar (s ++ rest)).Leaves (.number x) rest := by
  have reading := readNumber_spelled spelled value ends
  obtain ⟨c, others, rfl, first⟩ := spelled.front
  have other (l : Char) (noDigit : Text.isDigit l = false) (noMinus : l ≠ '-') := ne_of_number first noDigit noMinus
  rw [List.cons_append] at reading ⊢
  obtain ⟨last, taken, left⟩ := reading
  refine ⟨last, ?_, left⟩
  rw [readScalar, if_neg (other 'n' rfl (by decide)), if_neg (other 't' rfl (by decide)),
    if_neg (other 'f' rfl (by decide)), if_neg (other '"' rfl (by decide)), if_pos (by simpa using first)]
  simp only [taken]

theorem readValue_scalar {c : Char} {scalar : Scalar} (front : skipBlank t = c :: s)
    (bracket : c ≠ '[') (brace : c ≠ Text.openBrace) (reading : (readScalar (c :: s)).Leaves scalar rest) :
    (readValue depth t).Yields (scalar.toValue.height ≤ depth) scalar.toValue rest := by
  obtain ⟨last, taken, left⟩ := reading
  have leaves : (readValue depth t).Leaves scalar.toValue rest := by
    rw [readValue, Taken.leaves_afterBlank]
    generalize skipBlank t = text at front
    subst front
    simp only [if_neg bracket, if_neg brace, taken]
    exact ⟨last, rfl, left⟩
  exact leaves.yields.of_iff (by simp)

/-- No list or object is opened where none may be. -/
theorem readValue_full {c : Char} (front : skipBlank t = c :: s) (opens : c = '[' ∨ c = Text.openBrace) :
    (readValue 0 t).Yields False v rest := by
  rw [readValue]
  apply Taken.Yields.afterBlank
  generalize skipBlank t = text at front
  subst front
  refine ⟨False.elim, fun _ => ?_⟩
  rcases opens with rfl | rfl <;> rfl

theorem readValue_list {items : List Value} (front : skipBlank t = '[' :: s)
    (reading : (readItems (readValue depth) true s).Yields room items rest) :
    (readValue (depth + 1) t).Yields room (.list items) rest := by
  rw [readValue]
  apply Taken.Yields.afterBlank
  generalize skipBlank t = text at front
  subst front
  constructor
  · intro there
    obtain ⟨last, taken, left⟩ := reading.leaves there
    simp only [if_true, taken]
    exact ⟨_, rfl, left⟩
  · intro none
    simp only [if_true, reading.refused none]

theorem readValue_object {members : List (String × Value)} (front : skipBlank t = Text.openBrace :: s)
    (reading : (readMembers (addMember (readValue depth)) [] true s).Yields room members rest) :
    (readValue (depth + 1) t).Yields room (.object members) rest := by
  have other : ¬ Text.openBrace = '[' := by decide
  rw [readValue]
  apply Taken.Yields.afterBlank
  generalize skipBlank t = text at front
  subst front
  constructor
  · intro there
    obtain ⟨last, taken, left⟩ := reading.leaves there
    simp only [if_true, if_neg other, taken]
    exact ⟨_, rfl, left⟩
  · intro none
    simp only [if_true, if_neg other, reading.refused none]

theorem addMember_of {read : (s : List Char) → Taken Value s} (members : List (String × Value)) (name : String)
    (colon : skipBlank s = ':' :: t) (value : (read t).Yields room v rest) :
    (addMember read members name s).Yields room (insertMember name v members) rest := by
  obtain ⟨r, passed, rfl⟩ := readColon_of colon
  constructor
  · intro there
    obtain ⟨last, taken, left⟩ := value.leaves there
    rw [addMember, passed]
    simp only [taken]
    exact ⟨_, rfl, left⟩
  · intro none
    simp only [addMember, passed, value.refused none]

/-- Past the blanks before it a value is at the front. -/
theorem Spelled.skipBlank_append (spelled : Spelled v s) (blanks : Blanks u) (rest : List Char) :
    skipBlank (u ++ (s ++ rest)) = s ++ rest := by
  obtain ⟨c, others, rfl, front, -⟩ := spelled.front
  rw [Json.skipBlank_append blanks]
  exact skipBlank_cons front (others ++ rest)

theorem readItems_item {items : List Value} {first : Bool} {more : Prop} (blanks : Blanks u) (spelled : Spelled v s)
    (continues : Continues first t (u ++ (s ++ rest)))
    (item : ∀ {start}, skipBlank start = s ++ rest → (readValue depth start).Yields room w rest)
    (others : (readItems (readValue depth) false rest).Yields more items left) :
    (readItems (readValue depth) first t).Yields (room ∧ more) (w :: items) left := by
  have front := spelled.skipBlank_append blanks rest
  obtain ⟨c, letters, rfl, -, bracket⟩ := spelled.front
  exact readItems_of continues front bracket item others

end

namespace Value

mutual

/-- A spelled value is read if it is not too deep. -/
theorem readValue_spelled : ∀ {v : Value} {s t rest : List Char} (depth : Nat), Spelled v s → Ends rest →
    skipBlank t = s ++ rest → (readValue depth t).Yields (v.height ≤ depth) v.sorted rest
  | null, _, _, _, _, .null, _, front => readValue_scalar front (by decide) (by decide) ⟨_, rfl, rfl⟩
  | bool _, _, _, _, _, .yes, _, front => readValue_scalar front (by decide) (by decide) ⟨_, rfl, rfl⟩
  | bool _, _, _, _, _, .no, _, front => readValue_scalar front (by decide) (by decide) ⟨_, rfl, rfl⟩
  | number x, _, _, _, _, .number spelled value, ends, front => by
    obtain ⟨c, others, rfl, first⟩ := spelled.front
    have bracket : c ≠ '[' := ne_of_number first rfl (by decide)
    have brace : c ≠ Text.openBrace := ne_of_number first rfl (by decide)
    exact readValue_scalar front bracket brace (readScalar_number spelled value ends)
  | text x, _, t, rest, _, .text spelled, _, front => by
    rw [List.cons_append, List.append_assoc] at front
    exact readValue_scalar front (by decide) (by decide) (readScalar_text spelled rest)
  -- A list or an object takes one level, so there is no room for it at depth zero.
  | list vs, _, t, rest, 0, spelled, _, front => by
    have opens : ∃ others, skipBlank t = '[' :: others := by
      cases spelled <;> exact ⟨_, front⟩
    obtain ⟨others, bracket⟩ := opens
    exact (readValue_full bracket (.inl rfl)).of_iff (by simp [height])
  | list _, _, t, rest, depth + 1, .noItems blanks, _, front => by
    rw [List.cons_append, List.append_assoc] at front
    exact (readValue_list front (readItems_done _ true (skipBlank_append blanks _)).yields).of_iff
      (by simp [height, heightItems])
  | list vs, _, t, rest, depth + 1, .items spelled, _, front => by
    rw [List.cons_append, List.append_assoc] at front
    exact (readValue_list front (readItems_spelled depth rest spelled .first)).of_iff (by simp [height])
  | object ms, _, t, rest, 0, spelled, _, front => by
    have opens : ∃ others, skipBlank t = Text.openBrace :: others := by
      cases spelled <;> exact ⟨_, front⟩
    obtain ⟨others, brace⟩ := opens
    exact (readValue_full brace (.inr rfl)).of_iff (by simp [height])
  | object _, _, t, rest, depth + 1, .noMembers blanks, _, front => by
    rw [List.cons_append, List.append_assoc] at front
    exact (readValue_object front (readMembers_done _ [] true (skipBlank_append blanks _)).yields).of_iff
      (by simp [height, heightMembers])
  | object ms, _, t, rest, depth + 1, .members spelled, _, front => by
    rw [List.cons_append, List.append_assoc] at front
    exact (readValue_object front (readMembers_spelled depth rest [] spelled .first)).of_iff (by simp [height])

theorem readItems_spelled : ∀ {vs : List Value} {s u : List Char} {first : Bool} (depth : Nat)
    (rest : List Char), SpelledItems vs s → Continues first u (s ++ ']' :: rest) →
    (readItems (readValue depth) first u).Yields (heightItems vs ≤ depth) (sortedItems vs) rest
  | [v], _, u, first, depth, rest, .one (.mk blanks spelled trailing), continues => by
    rw [List.append_assoc, List.append_assoc] at continues
    have ends := Ends.after trailing (c := ']') (by decide) rest
    have done := readItems_done (readValue depth) false (skipBlank_append trailing (']' :: rest))
    exact (readItems_item blanks spelled continues (readValue_spelled depth spelled ends) done.yields).of_iff
      (by simp [heightItems])
  | v :: vs, _, u, first, depth, rest, .more (.mk blanks spelled trailing) others, continues => by
    rw [List.append_assoc, List.append_assoc, List.append_assoc, List.cons_append] at continues
    have ends := Ends.after trailing (c := ',') (by decide)
    have following := readItems_spelled depth rest others (.comma trailing _)
    exact (readItems_item blanks spelled continues (readValue_spelled depth spelled (ends _)) following).of_iff
      (by simp only [heightItems, Nat.max_le])

theorem readMembers_spelled : ∀ {ms : List (String × Value)} {s u : List Char} {first : Bool} (depth : Nat)
    (rest : List Char) (state : List (String × Value)), SpelledMembers ms s →
    Continues first u (s ++ Text.closeBrace :: rest) →
    (readMembers (addMember (readValue depth)) state first u).Yields (heightMembers ms ≤ depth)
      (sortedMembers state ms) rest
  | [(name, v)], _, u, first, depth, rest, state,
      .one (.mk leading spelledName between (.mk blanks spelled trailing)), continues => by
    simp only [List.append_assoc, List.cons_append] at continues
    have ends := Ends.after trailing (c := Text.closeBrace) (by decide) rest
    have value := readValue_spelled depth spelled ends (spelled.skipBlank_append blanks _)
    have done := readMembers_done (addMember (readValue depth)) (insertMember name v.sorted state) false
      (skipBlank_append trailing (Text.closeBrace :: rest))
    exact (readMembers_of continues (skipBlank_append leading _) (readText_spelled spelledName _)
      (addMember_of state name (skipBlank_append between _) value) done.yields).of_iff (by simp [heightMembers])
  | (name, v) :: ms, _, u, first, depth, rest, state,
      .more (.mk leading spelledName between (.mk blanks spelled trailing)) others, continues => by
    simp only [List.append_assoc, List.cons_append] at continues
    have ends := Ends.after trailing (c := ',') (by decide)
    have value (t : List Char) := readValue_spelled depth spelled (ends t) (spelled.skipBlank_append blanks _)
    have following := readMembers_spelled depth rest (insertMember name v.sorted state) others (.comma trailing _)
    exact (readMembers_of continues (skipBlank_append leading _) (readText_spelled spelledName _)
      (addMember_of state name (skipBlank_append between _) (value _)) following).of_iff
        (by simp only [heightMembers, Nat.max_le])

end

end Value

end Throughput.Json
