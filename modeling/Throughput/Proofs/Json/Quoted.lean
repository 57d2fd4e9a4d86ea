import Mathlib.Tactic.SplitIfs
import Throughput.Json.Printer
import Throughput.Json.Quoted

/-! Texts in quotes: every way to spell their characters is read, and nothing else. The way they
are written is one of them. -/
namespace Throughput.Json

variable {α : Type} {s : List Char}

/-- What was taken from the front of a text, and what it leaves of it. -/
def Taken.Leaves (t : Taken α s) (a : α) (rest : List Char) : Prop :=
  ∃ last : Rest s, t = .ok (a, last) ∧ last.val = rest

@[simp]
theorem Taken.leaves_ok {a b : α} {r : Rest s} {rest : List Char} :
    Taken.Leaves (.ok (a, r)) b rest ↔ a = b ∧ r.val = rest := by
  constructor
  · rintro ⟨last, same, rfl⟩
    obtain ⟨rfl, rfl⟩ := Prod.mk.inj (Except.ok.inj same)
    exact ⟨rfl, rfl⟩
  · rintro ⟨rfl, rfl⟩
    exact ⟨r, rfl, rfl⟩

@[simp]
theorem Taken.leaves_error {e : Error} {a : α} {rest : List Char} :
    ¬ Taken.Leaves (.error e : Taken α s) a rest := by
  rintro ⟨last, same, -⟩
  cases same

@[simp]
theorem Taken.leaves_outside {r : Rest s} {t : Taken α r.val} {a : α} {rest : List Char} :
    (Taken.outside r t).Leaves a rest ↔ t.Leaves a rest := by
  cases t with
  | error e => simp [Taken.outside]
  | ok found =>
    obtain ⟨b, last⟩ := found
    simp [Taken.outside, Rest.outside]

/-- The ways to spell a character between quotes: as it is, by a letter after a backslash, by its
number, or by the numbers of two surrogates. -/
inductive SpelledChar : Char → List Char → Prop where
  | plain {c : Char} : c ≠ '"' → c ≠ '\\' → ¬ c < ' ' → SpelledChar c [c]
  | letter {l c : Char} : plainEscape? l = some c → SpelledChar c ['\\', l]
  | code {a b c d : Char} {n : Nat} : hexNumber? a b c d = some n → isLowSurrogate n = false →
      isHighSurrogate n = false → SpelledChar (.ofNat n) ['\\', 'u', a, b, c, d]
  | pair {a b c d e f g h : Char} {high low : Nat} : hexNumber? a b c d = some high →
      isLowSurrogate high = false → isHighSurrogate high = true → hexNumber? e f g h = some low →
      isLowSurrogate low = true →
      SpelledChar (.ofNat (joinSurrogates high low)) ['\\', 'u', a, b, c, d, '\\', 'u', e, f, g, h]

inductive SpelledChars : List Char → List Char → Prop where
  | nil : SpelledChars [] []
  | cons {c : Char} {cs piece spelling : List Char} : SpelledChar c piece → SpelledChars cs spelling →
      SpelledChars (c :: cs) (piece ++ spelling)

section

variable {c : Char} {cs rest : List Char} (reading : (readChars s).Leaves cs rest)
include reading

/-- A character that stands for itself. -/
theorem readChars_cons (quote : c ≠ '"') (backslash : c ≠ '\\') (plain : ¬ c < ' ') :
    (readChars (c :: s)).Leaves (c :: cs) rest := by
  obtain ⟨last, taken, left⟩ := reading
  refine ⟨(Rest.tail c s).outside last, ?_, left⟩
  rw [readChars, if_neg quote, if_neg backslash, if_neg plain, taken]

theorem readChars_escaped {mark : List Char} (escaped : (readEscape mark).Leaves c s) :
    (readChars ('\\' :: mark)).Leaves (c :: cs) rest := by
  obtain ⟨after, escape, rfl⟩ := escaped
  obtain ⟨last, taken, left⟩ := reading
  refine ⟨(Rest.tail '\\' mark).outside (after.outside last), ?_, left⟩
  rw [readChars, if_neg (by decide), if_pos rfl, escape]
  simp only [taken]

end

theorem readEscape_letter {l c : Char} (plain : plainEscape? l = some c) :
    (readEscape (l :: s)).Leaves c s := by
  have letter : l ≠ 'u' := by
    rintro rfl
    cases plain
  refine ⟨.tail l s, ?_, rfl⟩
  rw [readEscape, if_neg letter]
  simp only [plain]

theorem readUnit_hex {a b c d : Char} {n : Nat} (number : hexNumber? a b c d = some n) (s : List Char) :
    (readUnit (a :: b :: c :: d :: s)).Leaves n s := by
  refine ⟨⟨s, ?_⟩, ?_, rfl⟩
  · simp only [List.length_cons]
    omega
  · simp only [readUnit, number]

theorem readEscape_unicode {mark : List Char} {c : Char} (unicode : (readUnicode mark).Leaves c s) :
    (readEscape ('u' :: mark)).Leaves c s := by
  rw [readEscape, if_pos rfl]
  exact Taken.leaves_outside.mpr unicode

theorem readUnicode_code {a b c d : Char} {n : Nat} (number : hexNumber? a b c d = some n)
    (low : isLowSurrogate n = false) (high : isHighSurrogate n = false) :
    (readUnicode (a :: b :: c :: d :: s)).Leaves (.ofNat n) s := by
  obtain ⟨r, unit, left⟩ := readUnit_hex number s
  refine ⟨r, ?_, left⟩
  rw [readUnicode, unit]
  simp only [low, high, Bool.false_eq_true, if_false]

theorem readUnicode_pair {a b c d e f g h : Char} {high low : Nat} (first : hexNumber? a b c d = some high)
    (notLow : isLowSurrogate high = false) (isHigh : isHighSurrogate high = true)
    (second : hexNumber? e f g h = some low) (isLow : isLowSurrogate low = true) :
    (readUnicode (a :: b :: c :: d :: '\\' :: 'u' :: e :: f :: g :: h :: s)).Leaves
      (.ofNat (joinSurrogates high low)) s := by
  obtain ⟨r, unit, left⟩ := readUnit_hex first ('\\' :: 'u' :: e :: f :: g :: h :: s)
  have half : (readLowSurrogate high r.val).Leaves (.ofNat (joinSurrogates high low)) s := by
    obtain ⟨inner, other, after⟩ := readUnit_hex second s
    rw [left, readLowSurrogate, other]
    simp only [isLow, if_true]
    exact ⟨_, rfl, after⟩
  rw [readUnicode, unit]
  simp only [notLow, isHigh, Bool.false_eq_true, if_false, if_true]
  exact Taken.leaves_outside.mpr half

theorem readChars_spelledChar {c : Char} {cs piece rest : List Char} (reading : (readChars s).Leaves cs rest)
    (spelled : SpelledChar c piece) : (readChars (piece ++ s)).Leaves (c :: cs) rest := by
  cases spelled with
  | plain quote backslash plain => exact readChars_cons reading quote backslash plain
  | letter plain => exact readChars_escaped reading (readEscape_letter plain)
  | code number low high =>
    exact readChars_escaped reading (readEscape_unicode (readUnicode_code number low high))
  | pair first notLow isHigh second isLow =>
    exact readChars_escaped reading (readEscape_unicode (readUnicode_pair first notLow isHigh second isLow))

theorem readChars_quote (rest : List Char) : (readChars ('"' :: rest)).Leaves [] rest :=
  ⟨.tail '"' rest, by rw [readChars, if_pos rfl], rfl⟩

theorem readChars_spelled {cs spelling : List Char} (spelled : SpelledChars cs spelling) (rest : List Char) :
    (readChars (spelling ++ '"' :: rest)).Leaves cs rest := by
  induction spelled with
  | nil => exact readChars_quote rest
  | cons piece _ ih =>
    rw [List.append_assoc]
    exact readChars_spelledChar ih piece

/-- A text is read from after its opening quote. -/
theorem readText_spelled {text : String} {spelling : List Char} (spelled : SpelledChars text.toList spelling)
    (rest : List Char) : (readText (spelling ++ '"' :: rest)).Leaves text rest := by
  obtain ⟨last, taken, left⟩ := readChars_spelled spelled rest
  refine ⟨last, ?_, left⟩
  rw [readText, taken]
  simp only [String.ofList_toList]

section

variable {c : Char} {rest : List Char}

theorem readUnit_cases {n : Nat} (leaves : (readUnit s).Leaves n rest) :
    ∃ a b c d, hexNumber? a b c d = some n ∧ s = a :: b :: c :: d :: rest := by
  unfold readUnit at leaves
  split at leaves
  case h_1 a b c d others =>
    cases number : hexNumber? a b c d with
    | none => simp [number] at leaves
    | some m =>
      simp only [number, Taken.leaves_ok] at leaves
      obtain ⟨rfl, rfl⟩ := leaves
      exact ⟨a, b, c, d, number, rfl⟩
  case h_2 => simp at leaves

theorem readLowSurrogate_cases {high : Nat} (leaves : (readLowSurrogate high s).Leaves c rest) :
    ∃ low others, s = '\\' :: 'u' :: others ∧ (readUnit others).Leaves low rest ∧
      isLowSurrogate low = true ∧ c = .ofNat (joinSurrogates high low) := by
  unfold readLowSurrogate at leaves
  split at leaves
  case h_1 others =>
    cases unit : readUnit others with
    | error e => simp [unit] at leaves
    | ok found =>
      obtain ⟨low, r⟩ := found
      simp only [unit] at leaves
      split_ifs at leaves with isLow
      · obtain ⟨same, left⟩ := Taken.leaves_ok.mp leaves
        exact ⟨low, others, rfl, ⟨r, unit, left⟩, isLow, same.symm⟩
      · simp at leaves
  all_goals simp at leaves

theorem readUnicode_spelling (leaves : (readUnicode s).Leaves c rest) :
    ∃ piece, SpelledChar c ('\\' :: 'u' :: piece) ∧ s = piece ++ rest := by
  rw [readUnicode] at leaves
  cases unit : readUnit s with
  | error e => simp [unit] at leaves
  | ok found =>
    obtain ⟨n, r⟩ := found
    obtain ⟨a, b, c', d, number, text⟩ := readUnit_cases ⟨r, unit, rfl⟩
    simp only [unit] at leaves
    split_ifs at leaves with low high
    · simp at leaves
    · obtain ⟨second, others, escape, unit', isLow, same⟩ :=
        readLowSurrogate_cases (Taken.leaves_outside.mp leaves)
      obtain ⟨e, f, g, h, number', text'⟩ := readUnit_cases unit'
      refine ⟨[a, b, c', d, '\\', 'u', e, f, g, h], ?_, ?_⟩
      · rw [same]
        exact .pair number (by simpa using low) high number' isLow
      · rw [text, escape, text']
        rfl
    · obtain ⟨rfl, rfl⟩ := Taken.leaves_ok.mp leaves
      exact ⟨[a, b, c', d], .code number (by simpa using low) (by simpa using high), text⟩

theorem readEscape_spelling (leaves : (readEscape s).Leaves c rest) :
    ∃ piece, SpelledChar c ('\\' :: piece) ∧ s = piece ++ rest := by
  cases s with
  | nil => simp [readEscape] at leaves
  | cons l s =>
    rw [readEscape] at leaves
    split_ifs at leaves with unicode
    · obtain ⟨piece, spelled, rfl⟩ := readUnicode_spelling (Taken.leaves_outside.mp leaves)
      exact ⟨'u' :: piece, spelled, by rw [unicode]; rfl⟩
    · cases letter : plainEscape? l with
      | none => simp [letter] at leaves
      | some d =>
        simp only [letter, Taken.leaves_ok] at leaves
        obtain ⟨rfl, rfl⟩ := leaves
        exact ⟨[l], .letter letter, rfl⟩

theorem readChars_spelling {cs : List Char} (leaves : (readChars s).Leaves cs rest) :
    ∃ spelling, SpelledChars cs spelling ∧ s = spelling ++ '"' :: rest := by
  fun_induction readChars s generalizing cs with
  | case2 s =>
    obtain ⟨rfl, rfl⟩ := Taken.leaves_ok.mp leaves
    exact ⟨[], .nil, rfl⟩
  | case5 s d r escape others last following _ ih =>
    obtain ⟨rfl, left⟩ := Taken.leaves_ok.mp leaves
    obtain ⟨spelling, spelled, after⟩ := ih ⟨last, following, left⟩
    obtain ⟨piece, letter, text⟩ := readEscape_spelling ⟨r, escape, after⟩
    exact ⟨'\\' :: piece ++ spelling, .cons letter spelled, by rw [text]; simp⟩
  | case8 c s quote backslash plain others last following ih =>
    obtain ⟨rfl, left⟩ := Taken.leaves_ok.mp leaves
    obtain ⟨spelling, spelled, text⟩ := ih ⟨last, following, left⟩
    exact ⟨c :: spelling, .cons (.plain quote backslash plain) spelled, congrArg (c :: ·) text⟩
  | _ => simp at leaves

theorem readText_spelling {text : String} (leaves : (readText s).Leaves text rest) :
    ∃ spelling, SpelledChars text.toList spelling ∧ s = spelling ++ '"' :: rest := by
  rw [readText] at leaves
  cases read : readChars s with
  | error e => simp [read] at leaves
  | ok found =>
    obtain ⟨cs, r⟩ := found
    simp only [read, Taken.leaves_ok] at leaves
    obtain ⟨rfl, rfl⟩ := leaves
    rw [String.toList_ofList]
    exact readChars_spelling ⟨r, read, rfl⟩

end

theorem hexNumber?_control : ∀ n < 32,
    hexNumber? '0' '0' (Nat.digitChar (n / 16)) (Nat.digitChar (n % 16)) = some n := by
  decide

/-- The three ways in which a character is written. -/
theorem escape_cases (c : Char) : (∃ l, plainEscape? l = some c ∧ escape c = ['\\', l]) ∨
    (c < ' ' ∧ escape c = '\\' :: 'u' :: '0' :: '0' :: hexPair c.toNat) ∨
    (c ≠ '"' ∧ c ≠ '\\' ∧ ¬ c < ' ' ∧ escape c = [c]) := by
  by_cases letter : c = '"' ∨ c = '\\' ∨ c = '\x08' ∨ c = '\x0c' ∨ c = '\n' ∨ c = '\r' ∨ c = '\t'
  · left
    rcases letter with rfl | rfl | rfl | rfl | rfl | rfl | rfl
    · exact ⟨'"', rfl, rfl⟩
    · exact ⟨'\\', rfl, rfl⟩
    · exact ⟨'b', rfl, rfl⟩
    · exact ⟨'f', rfl, rfl⟩
    · exact ⟨'n', rfl, rfl⟩
    · exact ⟨'r', rfl, rfl⟩
    · exact ⟨'t', rfl, rfl⟩
  · simp only [not_or] at letter
    obtain ⟨quote, backslash, others⟩ := letter
    by_cases control : c < ' '
    · exact .inr (.inl ⟨control, by simp [escape, quote, backslash, others, control]⟩)
    · exact .inr (.inr ⟨quote, backslash, control, by simp [escape, quote, backslash, others, control]⟩)

theorem escape_spelled (c : Char) : SpelledChar c (escape c) := by
  rcases escape_cases c with ⟨l, plain, written⟩ | ⟨control, written⟩ | ⟨quote, backslash, plain, written⟩ <;>
    rw [written]
  · exact .letter plain
  · have small : c.toNat < 32 := control
    have surrogates : isLowSurrogate c.toNat = false ∧ isHighSurrogate c.toNat = false := by
      constructor <;>
        simp only [isLowSurrogate, isHighSurrogate, Bool.and_eq_false_iff, decide_eq_false_iff_not] <;> omega
    have code := SpelledChar.code (hexNumber?_control c.toNat small) surrogates.1 surrogates.2
    rwa [Char.ofNat_toNat] at code
  · exact .plain quote backslash plain

theorem escapes_spelled (cs : List Char) : SpelledChars cs (cs.flatMap escape) := by
  induction cs with
  | nil => exact .nil
  | cons c cs ih => exact .cons (escape_spelled c) ih

end Throughput.Json
