import Mathlib.Tactic.SplitIfs
import Throughput.Json.Sequence
import Throughput.Proofs.Json.Numeral

/-! The punctuation of lists and objects, with blanks wherever they may stand. -/
namespace Throughput.Json

variable {α σ : Type} {s t u rest left : List Char} {a : α} {room more : Prop}

def Blanks (s : List Char) : Prop := ∀ c ∈ s, isBlank c = true

theorem skipBlank_append (blanks : Blanks s) (t : List Char) : skipBlank (s ++ t) = skipBlank t :=
  List.dropWhile_append_of_pos blanks

theorem skipBlank_cons {c : Char} (front : isBlank c = false) (rest : List Char) :
    skipBlank (c :: rest) = c :: rest :=
  List.dropWhile_cons_of_neg (by simp [front])

/-- A text is its blanks and what follows them. -/
theorem blanks_skipBlank (s : List Char) : ∃ blanks, Blanks blanks ∧ s = blanks ++ skipBlank s := by
  exact ⟨s.takeWhile isBlank, List.all_eq_true.mp List.all_takeWhile, List.takeWhile_append_dropWhile.symm⟩

@[simp]
theorem skipBlank_skipBlank (s : List Char) : skipBlank (skipBlank s) = skipBlank s := by
  obtain ⟨blanks, all, split⟩ := blanks_skipBlank s
  calc skipBlank (skipBlank s) = skipBlank (blanks ++ skipBlank s) := (skipBlank_append all _).symm
    _ = skipBlank s := congrArg skipBlank split.symm

/-- Taken if there is room for it, refused as too deep if there is none. -/
structure Taken.Yields (t : Taken α s) (room : Prop) (a : α) (rest : List Char) : Prop where
  leaves : room → t.Leaves a rest
  refused : ¬ room → t = .error .recursionLimit

theorem Taken.Leaves.yields {t : Taken α s} (leaves : t.Leaves a rest) : t.Yields True a rest :=
  ⟨fun _ => leaves, fun none => absurd trivial none⟩

theorem Taken.Yields.of_iff {t : Taken α s} (yields : t.Yields room a rest) (same : room ↔ more) :
    t.Yields more a rest :=
  ⟨fun there => yields.leaves (same.mpr there), fun none => yields.refused fun there => none (same.mp there)⟩

@[simp]
theorem Taken.leaves_afterBlank {t : Taken α (skipBlank s)} :
    (Taken.afterBlank t).Leaves a rest ↔ t.Leaves a rest := by
  cases t with
  | error e => simp [Taken.afterBlank]
  | ok found =>
    obtain ⟨b, last⟩ := found
    simp [Taken.afterBlank]

theorem Taken.Yields.afterBlank {t : Taken α (skipBlank s)} (yields : t.Yields room a rest) :
    (Taken.afterBlank t).Yields room a rest where
  leaves there := Taken.leaves_afterBlank.mpr (yields.leaves there)
  refused none := by
    obtain rfl := yields.refused none
    rfl

/-- What follows the opening bracket, or the comma after an element. -/
inductive Continues : Bool → List Char → List Char → Prop where
  | first {s : List Char} : Continues true s s
  | later {s t : List Char} : skipBlank s = ',' :: t → Continues false s t

theorem Continues.comma (blanks : Blanks s) (t : List Char) : Continues false (s ++ ',' :: t) t :=
  .later (skipBlank_append blanks (',' :: t))

theorem nextItem_item {first : Bool} {c : Char} (continues : Continues first s t)
    (front : skipBlank t = c :: rest) (bracket : c ≠ ']') :
    ∃ start, nextItem first s = .ok (.item start) ∧ skipBlank start.val = c :: rest := by
  cases continues with
  | first =>
    unfold nextItem
    split
    case h_1 none => cases front.symm.trans none
    case h_2 d others read =>
      obtain ⟨rfl, -⟩ := List.cons.inj (front.symm.trans read)
      rw [if_neg bracket, if_pos rfl]
      exact ⟨_, rfl, (skipBlank_skipBlank s).trans front⟩
  | later comma =>
    unfold nextItem
    split
    case h_1 none => cases comma.symm.trans none
    case h_2 d others read =>
      obtain ⟨rfl, rfl⟩ := List.cons.inj (comma.symm.trans read)
      rw [if_neg (by decide), if_neg (by decide), if_pos rfl]
      split
      case h_1 none => cases front.symm.trans none
      case h_2 others closed => exact absurd (List.cons.inj (front.symm.trans closed)).1 bracket
      case h_3 => exact ⟨_, rfl, front⟩

theorem nextItem_done (first : Bool) (closed : skipBlank s = ']' :: rest) :
    ∃ r, nextItem first s = .ok (.done r) ∧ r.val = rest := by
  unfold nextItem
  split
  case h_1 none => cases closed.symm.trans none
  case h_2 c others read =>
    obtain ⟨rfl, rfl⟩ := List.cons.inj (closed.symm.trans read)
    rw [if_pos rfl]
    exact ⟨_, rfl, rfl⟩

/-- A list ends, or it goes on with an item. -/
theorem nextItem_cases {first : Bool} {next : NextItem s} (read : nextItem first s = .ok next) :
    (∃ r, next = .done r ∧ skipBlank s = ']' :: r.val) ∨
    ∃ start t, next = .item start ∧ Continues first s t ∧ skipBlank start.val = skipBlank t := by
  unfold nextItem at read
  split at read
  case h_1 => cases read
  case h_2 c others front =>
    split_ifs at read with bracket opening comma
    · obtain rfl := Except.ok.inj read
      have closed : skipBlank s = ']' :: others := bracket ▸ front
      exact .inl ⟨_, rfl, closed⟩
    · obtain rfl := Except.ok.inj read
      subst opening
      exact .inr ⟨_, s, rfl, .first, skipBlank_skipBlank s⟩
    · split at read
      case h_1 => cases read
      case h_2 => cases read
      case h_3 =>
        obtain rfl := Except.ok.inj read
        rw [Bool.not_eq_true] at opening
        subst opening comma
        exact .inr ⟨_, others, rfl, .later front, rfl⟩

/-- Reading an item, and the items that follow it. -/
theorem readItems_of {read : (s : List Char) → Taken α s} {first : Bool} {items : List α} {c : Char}
    (continues : Continues first s t) (front : skipBlank t = c :: u) (bracket : c ≠ ']')
    (item : ∀ {start}, skipBlank start = c :: u → (read start).Yields room a rest)
    (others : (readItems read false rest).Yields more items left) :
    (readItems read first s).Yields (room ∧ more) (a :: items) left := by
  obtain ⟨start, next, here⟩ := nextItem_item continues front bracket
  constructor
  · rintro ⟨there, further⟩
    obtain ⟨r, taken, rfl⟩ := (item here).leaves there
    obtain ⟨last, following, rfl⟩ := others.leaves further
    rw [readItems, next]
    simp only [taken, following]
    exact ⟨_, rfl, rfl⟩
  · intro none
    rw [readItems, next]
    by_cases there : room
    · obtain ⟨r, taken, rfl⟩ := (item here).leaves there
      simp only [taken, others.refused fun further => none ⟨there, further⟩]
    · simp only [(item here).refused there]

theorem readItems_done (read : (s : List Char) → Taken α s) (first : Bool) (closed : skipBlank s = ']' :: rest) :
    (readItems read first s).Leaves [] rest := by
  obtain ⟨r, ends, left⟩ := nextItem_done first closed
  rw [readItems, ends]
  exact ⟨r, rfl, left⟩

/-- What was read as items is none, or one and others after it. -/
theorem readItems_cases {read : (s : List Char) → Taken α s} {first : Bool} {items : List α}
    (leaves : (readItems read first s).Leaves items left) :
    (items = [] ∧ skipBlank s = ']' :: left) ∨ ∃ a others t start rest, items = a :: others ∧
      Continues first s t ∧ skipBlank start = skipBlank t ∧ rest.length < s.length ∧
      (read start).Leaves a rest ∧ (readItems read false rest).Leaves others left := by
  rw [readItems] at leaves
  cases next : nextItem first s with
  | error e => simp [next] at leaves
  | ok found =>
    simp only [next] at leaves
    rcases nextItem_cases next with ⟨r, rfl, closed⟩ | ⟨start, t, rfl, continues, same⟩
    · simp only [Taken.leaves_ok] at leaves
      obtain ⟨rfl, rfl⟩ := leaves
      exact .inl ⟨rfl, closed⟩
    · simp only at leaves
      cases item : read start.val with
      | error e => simp [item] at leaves
      | ok found =>
        obtain ⟨a, r⟩ := found
        simp only [item] at leaves
        cases following : readItems read false r.val with
        | error e => simp [following] at leaves
        | ok found =>
          obtain ⟨others, last⟩ := found
          simp only [following, Taken.leaves_ok] at leaves
          obtain ⟨rfl, left⟩ := leaves
          exact .inr ⟨a, others, t, start.val, r.val, rfl, continues, same,
            Nat.lt_of_lt_of_le r.property start.property, ⟨r, item, rfl⟩, ⟨last, following, left⟩⟩

variable {name : String}

theorem nextMember_member {first : Bool} (continues : Continues first s t) (quote : skipBlank t = '"' :: u)
    (reading : (readText u).Leaves name rest) : ∃ r, nextMember first s = .ok (.member name r) ∧ r.val = rest := by
  obtain ⟨last, taken, left⟩ := reading
  cases continues with
  | first =>
    unfold nextMember
    split
    case h_1 none => cases quote.symm.trans none
    case h_2 c others read =>
      obtain ⟨rfl, rfl⟩ := List.cons.inj (quote.symm.trans read)
      rw [if_neg (by decide), if_pos rfl, if_pos rfl, NextMember.named]
      simp only [Rest.afterBlank, taken]
      exact ⟨_, rfl, left⟩
  | later comma =>
    unfold nextMember
    split
    case h_1 none => cases comma.symm.trans none
    case h_2 c others read =>
      obtain ⟨rfl, rfl⟩ := List.cons.inj (comma.symm.trans read)
      rw [if_neg (by decide), if_neg (by decide), if_pos rfl]
      split
      case h_1 none => cases quote.symm.trans none
      case h_2 d others named =>
        obtain ⟨rfl, rfl⟩ := List.cons.inj (quote.symm.trans named)
        rw [if_pos rfl, NextMember.named]
        simp only [Rest.outside, Rest.afterBlank, taken]
        exact ⟨_, rfl, left⟩

theorem nextMember_done (first : Bool) (closed : skipBlank s = Text.closeBrace :: rest) :
    ∃ r, nextMember first s = .ok (.done r) ∧ r.val = rest := by
  unfold nextMember
  split
  case h_1 none => cases closed.symm.trans none
  case h_2 c others read =>
    obtain ⟨rfl, rfl⟩ := List.cons.inj (closed.symm.trans read)
    rw [if_pos rfl]
    exact ⟨_, rfl, rfl⟩

theorem named_eq_ok {r : Rest s} {next : NextMember s} (read : NextMember.named r = .ok next) :
    ∃ name last, next = .member name last ∧ (readText r.val).Leaves name last.val := by
  rw [NextMember.named] at read
  cases taken : readText r.val with
  | error e => simp [taken] at read
  | ok found =>
    obtain ⟨name, last⟩ := found
    simp only [taken] at read
    obtain rfl := Except.ok.inj read
    exact ⟨name, _, rfl, last, rfl, rfl⟩

/-- An object ends, or it goes on with a name. -/
theorem nextMember_cases {first : Bool} {next : NextMember s} (read : nextMember first s = .ok next) :
    (∃ r, next = .done r ∧ skipBlank s = Text.closeBrace :: r.val) ∨
    ∃ name r t u, next = .member name r ∧ Continues first s t ∧ skipBlank t = '"' :: u ∧
      (readText u).Leaves name r.val := by
  unfold nextMember at read
  split at read
  case h_1 => cases read
  case h_2 c others front =>
    split_ifs at read with brace opening quote comma
    · obtain rfl := Except.ok.inj read
      have closed : skipBlank s = Text.closeBrace :: others := brace ▸ front
      exact .inl ⟨_, rfl, closed⟩
    · obtain ⟨name, last, same, named⟩ := named_eq_ok read
      subst opening quote
      exact .inr ⟨name, last, s, _, same, .first, front, named⟩
    · split at read
      case h_1 => cases read
      case h_2 d others' second =>
        split_ifs at read with quote
        obtain ⟨name, last, same, named⟩ := named_eq_ok read
        rw [Bool.not_eq_true] at opening
        subst opening comma quote
        exact .inr ⟨name, last, others, _, same, .later front, second, named⟩

theorem readColon_of (colon : skipBlank s = ':' :: rest) : ∃ r, readColon s = .ok r ∧ r.val = rest := by
  unfold readColon
  split
  case h_1 none => cases colon.symm.trans none
  case h_2 c others read =>
    obtain ⟨rfl, rfl⟩ := List.cons.inj (colon.symm.trans read)
    rw [if_pos rfl]
    exact ⟨_, rfl, rfl⟩

theorem readColon_eq_ok {r : Rest s} (read : readColon s = .ok r) : skipBlank s = ':' :: r.val := by
  unfold readColon at read
  split at read
  case h_1 => cases read
  case h_2 c others front =>
    split_ifs at read with colon
    obtain rfl := Except.ok.inj read
    exact colon ▸ front

section

variable {step : σ → String → (s : List Char) → Taken σ s} {state after final : σ} {first : Bool}

/-- Reading a member, and the members that follow it. -/
theorem readMembers_of {here last : List Char} (continues : Continues first s t) (quote : skipBlank t = '"' :: u)
    (named : (readText u).Leaves name here) (member : (step state name here).Yields room after left)
    (others : (readMembers step after false left).Yields more final last) :
    (readMembers step state first s).Yields (room ∧ more) final last := by
  obtain ⟨r, next, rfl⟩ := nextMember_member continues quote named
  constructor
  · rintro ⟨there, further⟩
    obtain ⟨inner, taken, rfl⟩ := member.leaves there
    obtain ⟨last, following, rfl⟩ := others.leaves further
    rw [readMembers, next]
    simp only [taken, following]
    exact ⟨_, rfl, rfl⟩
  · intro none
    rw [readMembers, next]
    by_cases there : room
    · obtain ⟨inner, taken, rfl⟩ := member.leaves there
      simp only [taken, others.refused fun further => none ⟨there, further⟩]
    · simp only [member.refused there]

theorem readMembers_done (step : σ → String → (s : List Char) → Taken σ s) (state : σ) (first : Bool)
    (closed : skipBlank s = Text.closeBrace :: rest) : (readMembers step state first s).Leaves state rest := by
  obtain ⟨r, ends, left⟩ := nextMember_done first closed
  rw [readMembers, ends]
  exact ⟨r, rfl, left⟩

/-- What was read as members is none, or one and others after it. -/
theorem readMembers_cases (leaves : (readMembers step state first s).Leaves final left) :
    (final = state ∧ skipBlank s = Text.closeBrace :: left) ∨ ∃ name after t u here rest,
      Continues first s t ∧ skipBlank t = '"' :: u ∧ (readText u).Leaves name here ∧
      (step state name here).Leaves after rest ∧ rest.length < s.length ∧
      (readMembers step after false rest).Leaves final left := by
  rw [readMembers] at leaves
  cases next : nextMember first s with
  | error e => simp [next] at leaves
  | ok found =>
    simp only [next] at leaves
    rcases nextMember_cases next with ⟨r, rfl, closed⟩ | ⟨name, r, t, u, rfl, continues, quote, named⟩
    · simp only [Taken.leaves_ok] at leaves
      obtain ⟨rfl, rfl⟩ := leaves
      exact .inl ⟨rfl, closed⟩
    · simp only at leaves
      cases member : step state name r.val with
      | error e => simp [member] at leaves
      | ok found =>
        obtain ⟨after, inner⟩ := found
        simp only [member] at leaves
        cases following : readMembers step after false inner.val with
        | error e => simp [following] at leaves
        | ok found =>
          obtain ⟨others, last⟩ := found
          simp only [following, Taken.leaves_ok] at leaves
          obtain ⟨rfl, left⟩ := leaves
          exact .inr ⟨name, after, t, u, r.val, inner.val, continues, quote, named, ⟨inner, member, rfl⟩,
            Nat.lt_trans inner.property r.property, ⟨last, following, left⟩⟩

end

end Throughput.Json
