import Throughput.Proofs.Json.Grammar

/-! Texts of documents. A text is read if and only if it spells a document that is not too deep. -/
namespace Throughput.Json

section

variable {s rest left : List Char} {depth : Nat} {w : Value}

theorem skipLetters_eq_ok {letters : List Char} {r : { rest : List Char // rest.length ≤ s.length }}
    (skipped : skipLetters letters s = .ok r) : s = letters ++ r.val := by
  induction letters generalizing s with
  | nil =>
    obtain rfl := Except.ok.inj skipped
    rfl
  | cons l letters ih =>
    cases s with
    | nil => simp [skipLetters] at skipped
    | cons c s =>
      rw [skipLetters] at skipped
      split_ifs at skipped with same
      cases further : skipLetters letters s with
      | error e => simp [further] at skipped
      | ok after =>
        simp only [further, Except.ok.injEq] at skipped
        obtain rfl := skipped
        rw [same, List.cons_append]
        exact congrArg (c :: ·) (ih further)

theorem readLiteral_spelling {α : Type} {value a : α} {letters : List Char} {c : Char}
    (leaves : (readLiteral value letters c s).Leaves a rest) : a = value ∧ c :: s = c :: letters ++ rest := by
  rw [readLiteral] at leaves
  cases skipped : skipLetters letters s with
  | error e => simp [skipped] at leaves
  | ok r =>
    simp only [skipped, Taken.leaves_ok] at leaves
    obtain ⟨rfl, rfl⟩ := leaves
    exact ⟨rfl, congrArg (c :: ·) (skipLetters_eq_ok skipped)⟩

theorem readScalar_spelling {scalar : Scalar} (leaves : (readScalar s).Leaves scalar rest) :
    ∃ piece, Spelled scalar.toValue piece ∧ s = piece ++ rest := by
  cases s with
  | nil => simp [readScalar] at leaves
  | cons c s =>
    rw [readScalar] at leaves
    split_ifs at leaves with null yes no quote number
    · obtain ⟨rfl, text⟩ := readLiteral_spelling leaves
      exact ⟨_, .null, null ▸ text⟩
    · obtain ⟨rfl, text⟩ := readLiteral_spelling leaves
      exact ⟨_, .yes, yes ▸ text⟩
    · obtain ⟨rfl, text⟩ := readLiteral_spelling leaves
      exact ⟨_, .no, no ▸ text⟩
    · cases taken : readText s with
      | error e => simp [taken] at leaves
      | ok found =>
        obtain ⟨name, r⟩ := found
        simp only [taken, Taken.leaves_ok] at leaves
        obtain ⟨rfl, left⟩ := leaves
        obtain ⟨letters, spelled, text⟩ := readText_spelling ⟨r, taken, left⟩
        refine ⟨_, .text spelled, ?_⟩
        rw [quote, text]
        simp
    · cases taken : readNumber (c :: s) with
      | error e => simp [taken] at leaves
      | ok found =>
        obtain ⟨x, r⟩ := found
        simp only [taken, Taken.leaves_ok] at leaves
        obtain ⟨rfl, left⟩ := leaves
        obtain ⟨n, piece, spelled, value, text⟩ := readNumber_spelling ⟨r, taken, left⟩
        exact ⟨piece, .number spelled value, text⟩
    · simp at leaves

theorem addMember_cases {read : (s : List Char) → Taken Value s} {members after : List (String × Value)}
    {name : String} (leaves : (addMember read members name s).Leaves after rest) :
    ∃ t v, skipBlank s = ':' :: t ∧ (read t).Leaves v rest ∧ after = insertMember name v members := by
  rw [addMember] at leaves
  cases colon : readColon s with
  | error e => simp [colon] at leaves
  | ok r =>
    simp only [colon] at leaves
    cases value : read r.val with
    | error e => simp [value] at leaves
    | ok found =>
      obtain ⟨v, last⟩ := found
      simp only [value, Taken.leaves_ok] at leaves
      obtain ⟨rfl, left⟩ := leaves
      exact ⟨r.val, v, readColon_eq_ok colon, ⟨last, value, left⟩, rfl⟩

/-- A value that is not too deep is spelled in front of what is left. -/
def SpelledBefore (depth : Nat) (w : Value) (s rest : List Char) : Prop :=
  ∃ v piece, Spelled v piece ∧ skipBlank s = piece ++ rest ∧ v.sorted = w ∧ v.height ≤ depth

/-- Blanks stand around the spelling. -/
theorem SpelledBefore.item {t rest : List Char} (before : SpelledBefore depth w t rest) :
    ∃ v s, SpelledItem v s ∧ t = s ++ skipBlank rest ∧ v.sorted = w ∧ v.height ≤ depth := by
  obtain ⟨v, piece, spelled, text, sorted, low⟩ := before
  obtain ⟨leading, blanks, split⟩ := blanks_skipBlank t
  obtain ⟨trailing, blanks', split'⟩ := blanks_skipBlank rest
  refine ⟨v, leading ++ (piece ++ trailing), .mk blanks spelled blanks', ?_, sorted, low⟩
  rw [split, text, List.append_assoc, List.append_assoc, ← split']

section

variable (sound : ∀ {s rest : List Char} {w : Value}, (readValue depth s).Leaves w rest →
  SpelledBefore depth w s rest)
include sound

/-- The items that were read were spelled; what is left gets shorter with each. -/
theorem readItems_spelling {first : Bool} {items : List Value}
    (leaves : (readItems (readValue depth) first s).Leaves items left) :
    (items = [] ∧ skipBlank s = ']' :: left) ∨ ∃ vs t, SpelledItems vs t ∧
      Continues first s (t ++ ']' :: left) ∧ Value.sortedItems vs = items ∧ Value.heightItems vs ≤ depth := by
  induction length : s.length using Nat.strongRecOn generalizing s first items with
  | ind n ih =>
    rcases readItems_cases leaves with
      closed | ⟨a, others, t, start, rest, rfl, continues, same, shorter, item, following⟩
    · exact .inl closed
    · right
      have before : SpelledBefore depth a t rest := by
        rw [SpelledBefore, ← same]
        exact sound item
      obtain ⟨v, s', spelled, rfl, rfl, low⟩ := before.item
      rcases ih rest.length (length ▸ shorter) following rfl with
        ⟨rfl, closed⟩ | ⟨vs, t', spelled', next, rfl, low'⟩
      · rw [closed] at continues
        exact ⟨[v], s', .one spelled, continues, rfl, by simpa [Value.heightItems] using low⟩
      · cases next with
        | later comma =>
          rw [comma] at continues
          refine ⟨v :: vs, s' ++ ',' :: t', .more spelled spelled', ?_, rfl, Nat.max_le.mpr ⟨low, low'⟩⟩
          rwa [List.append_assoc]

/-- The members that were read have been added to those before them. -/
theorem readMembers_spelling {first : Bool} {state members : List (String × Value)}
    (leaves : (readMembers (addMember (readValue depth)) state first s).Leaves members left) :
    (members = state ∧ skipBlank s = Text.closeBrace :: left) ∨ ∃ ms t, SpelledMembers ms t ∧
      Continues first s (t ++ Text.closeBrace :: left) ∧ Value.sortedMembers state ms = members ∧
      Value.heightMembers ms ≤ depth := by
  induction length : s.length using Nat.strongRecOn generalizing s first state with
  | ind n ih =>
    rcases readMembers_cases leaves with
      closed | ⟨name, after, t, u, here, rest, continues, quote, named, member, shorter, following⟩
    · exact .inl closed
    · right
      obtain ⟨letters, spelledName, rfl⟩ := readText_spelling named
      obtain ⟨text, a, colon, value, rfl⟩ := addMember_cases member
      obtain ⟨v, s', spelled, rfl, rfl, low⟩ := (sound value).item
      obtain ⟨leading, blanks, split⟩ := blanks_skipBlank t
      obtain ⟨between, blanks', split'⟩ := blanks_skipBlank here
      have spelledMember := SpelledMember.mk blanks spelledName blanks' spelled
      rw [split, quote, split', colon] at continues
      rcases ih rest.length (length ▸ shorter) following rfl with
        ⟨rfl, closed⟩ | ⟨ms, t', spelled', next, rfl, low'⟩
      · refine ⟨[(name, v)], _, .one spelledMember, ?_, rfl, by simpa [Value.heightMembers] using low⟩
        simpa [closed] using continues
      · cases next with
        | later comma =>
          refine ⟨(name, v) :: ms, _, .more spelledMember spelled', ?_, rfl, Nat.max_le.mpr ⟨low, low'⟩⟩
          simpa [comma] using continues

end

/-- A value that was read is a scalar, or a list or an object one level deeper. -/
theorem readValue_cases (leaves : (readValue depth s).Leaves w rest) :
    (∃ scalar, w = scalar.toValue ∧ (readScalar (skipBlank s)).Leaves scalar rest) ∨
    (∃ d t items, depth = d + 1 ∧ w = .list items ∧ skipBlank s = '[' :: t ∧
      (readItems (readValue d) true t).Leaves items rest) ∨
    (∃ d t members, depth = d + 1 ∧ w = .object members ∧ skipBlank s = Text.openBrace :: t ∧
      (readMembers (addMember (readValue d)) [] true t).Leaves members rest) := by
  rw [readValue, Taken.leaves_afterBlank] at leaves
  generalize skipBlank s = text at leaves ⊢
  cases text with
  | nil => simp at leaves
  | cons c t =>
    simp only at leaves
    split_ifs at leaves with bracket brace
    · subst bracket
      cases depth with
      | zero => simp at leaves
      | succ d =>
        cases taken : readItems (readValue d) true t with
        | error e => simp [taken] at leaves
        | ok found =>
          obtain ⟨items, last⟩ := found
          simp only [taken, Taken.leaves_ok] at leaves
          obtain ⟨rfl, left⟩ := leaves
          exact .inr (.inl ⟨d, t, items, rfl, rfl, rfl, last, taken, left⟩)
    · subst brace
      cases depth with
      | zero => simp at leaves
      | succ d =>
        cases taken : readMembers (addMember (readValue d)) [] true t with
        | error e => simp [taken] at leaves
        | ok found =>
          obtain ⟨members, last⟩ := found
          simp only [taken, Taken.leaves_ok] at leaves
          obtain ⟨rfl, left⟩ := leaves
          exact .inr (.inr ⟨d, t, members, rfl, rfl, rfl, last, taken, left⟩)
    · cases taken : readScalar (c :: t) with
      | error e => simp [taken] at leaves
      | ok found =>
        obtain ⟨scalar, last⟩ := found
        simp only [taken, Taken.leaves_ok] at leaves
        obtain ⟨rfl, left⟩ := leaves
        exact .inl ⟨scalar, rfl, last, rfl, left⟩

theorem readValue_spelling (leaves : (readValue depth s).Leaves w rest) : SpelledBefore depth w s rest := by
  induction depth using Nat.strongRecOn generalizing s w rest with
  | ind depth ih =>
    rcases readValue_cases leaves with ⟨scalar, rfl, reading⟩ |
      ⟨d, t, items, rfl, rfl, front, reading⟩ | ⟨d, t, members, rfl, rfl, front, reading⟩
    · obtain ⟨piece, spelled, text⟩ := readScalar_spelling reading
      exact ⟨scalar.toValue, piece, spelled, text, scalar.sorted_toValue, by simp⟩
    · rcases readItems_spelling (ih d (Nat.lt_succ_self d)) reading with
        ⟨rfl, closed⟩ | ⟨vs, text, spelled, continues, rfl, low⟩
      · obtain ⟨blanks, all, split⟩ := blanks_skipBlank t
        refine ⟨.list [], _, .noItems all, ?_, rfl, Nat.succ_le_succ (Nat.zero_le d)⟩
        rw [front, split, closed]
        simp
      · cases continues with
        | first =>
          refine ⟨.list vs, _, .items spelled, ?_, rfl, Nat.succ_le_succ low⟩
          rw [front]
          simp
    · rcases readMembers_spelling (ih d (Nat.lt_succ_self d)) reading with
        ⟨rfl, closed⟩ | ⟨ms, text, spelled, continues, rfl, low⟩
      · obtain ⟨blanks, all, split⟩ := blanks_skipBlank t
        refine ⟨.object [], _, .noMembers all, ?_, rfl, Nat.succ_le_succ (Nat.zero_le d)⟩
        rw [front, split, closed]
        simp
      · cases continues with
        | first =>
          refine ⟨.object ms, _, .members spelled, ?_, rfl, Nat.succ_le_succ low⟩
          rw [front]
          simp

end

namespace Value

/-- A spelled document is read if it is not too deep, and refused if it is. -/
theorem parse_spelled {v : Value} {text : String} (spelled : SpelledItem v text.toList) :
    parse text = if v.height ≤ depthLimit then .ok v.sorted else .error .recursionLimit := by
  generalize written : text.toList = letters at spelled
  cases spelled with
  | @mk _ before s after blanks spelled trailing =>
    have ends : Ends after := by
      rw [← List.append_nil after]
      exact ends_nil.blanks trailing
    have reading := readValue_spelled depthLimit spelled ends (spelled.skipBlank_append blanks after)
    rw [← written] at reading
    split_ifs with shallow
    · obtain ⟨last, taken, rfl⟩ := reading.leaves shallow
      have blank : skipBlank last.val = [] := by
        have none := skipBlank_append trailing []
        rwa [List.append_nil] at none
      rw [parse, readDocument, taken]
      simp only [blank, List.isEmpty_nil, if_true]
    · simp only [parse, readDocument, reading.refused shallow]

/-- A text is read if it spells a document that is not too deep. -/
theorem parse_eq_ok_iff {text : String} {document : Value} : parse text = .ok document ↔
    ∃ v, SpelledItem v text.toList ∧ v.height ≤ depthLimit ∧ v.sorted = document := by
  constructor
  · intro read
    rw [parse, readDocument] at read
    cases taken : readValue depthLimit text.toList with
    | error e => simp [taken] at read
    | ok found =>
      obtain ⟨w, last⟩ := found
      simp only [taken] at read
      split_ifs at read with blank
      obtain rfl := Except.ok.inj read
      obtain ⟨v, s, spelled, split, sorted, low⟩ := (readValue_spelling ⟨last, taken, rfl⟩).item
      rw [List.isEmpty_iff.mp blank, List.append_nil] at split
      exact ⟨v, split ▸ spelled, low, sorted⟩
  · rintro ⟨v, spelled, low, rfl⟩
    rw [parse_spelled spelled, if_pos low]

end Value

end Throughput.Json
