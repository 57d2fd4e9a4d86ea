import Throughput.Json.Numeral
import Throughput.Json.Printer
import Throughput.Proofs.Binary64.Whole
import Throughput.Proofs.Json.Quoted

/-! Numbers: every spelling of one is read, and nothing else. Naturals within 64 bits and floats
that are whole are written in such a spelling. -/
namespace Throughput.Json

open Text (isDigit digitValue toDigits_eq_cons toDigits_head_ne toDigits_zero_head isDigit_of_mem_toDigits
  takeWhile_digits)

/-- A number ends here: nothing follows that goes on with it. -/
def Ends (rest : List Char) : Prop :=
  ∀ c ∈ rest.head?, isDigit c = false ∧ c ≠ '.' ∧ c ≠ 'e' ∧ c ≠ 'E'

theorem ends_nil : Ends [] := by
  rintro c ⟨⟩

/-- One digit or more. -/
def Digits (s : List Char) : Prop := s ≠ [] ∧ ∀ c ∈ s, isDigit c = true

inductive SpelledFraction : Option (List Char) → List Char → Prop where
  | none : SpelledFraction none []
  | some {digits : List Char} : Digits digits → SpelledFraction (some digits) ('.' :: digits)

/-- The sign of an exponent; a plus may be left out. -/
inductive SpelledSign : Bool → List Char → Prop where
  | none : SpelledSign false []
  | plus : SpelledSign false ['+']
  | minus : SpelledSign true ['-']

inductive SpelledExponent : Option (Bool × List Char) → List Char → Prop where
  | none : SpelledExponent none []
  | some {mark : Char} {negative : Bool} {sign digits : List Char} : mark = 'e' ∨ mark = 'E' →
      SpelledSign negative sign → Digits digits →
      SpelledExponent (some (negative, digits)) (mark :: (sign ++ digits))

/-- A number is spelled by its digits, of which the first before the point is zero only if it is
the only one. -/
structure Numeral.Spelled (n : Numeral) (spelling : List Char) : Prop where
  digits : Digits n.whole
  zero : n.whole.head? = some '0' → n.whole = ['0']
  parts : ∃ fraction exponent, SpelledFraction n.fraction fraction ∧
    SpelledExponent n.exponent exponent ∧
    spelling = (if n.negative then ['-'] else []) ++ (n.whole ++ (fraction ++ exponent))

section

variable (atEnd : Error) {s text digits rest : List Char}

theorem readDigits_append (some : Digits digits) (ends : ∀ c ∈ rest.head?, isDigit c = false) :
    (readDigits atEnd (digits ++ rest)).Leaves digits rest := by
  cases digits with
  | nil => exact absurd rfl some.1
  | cons c digits =>
    obtain ⟨taken, left⟩ := takeWhile_digits (fun d member => some.2 d (List.mem_cons_of_mem c member)) ends
    simp only [List.cons_append, readDigits, if_pos (some.2 c List.mem_cons_self), taken]
    exact ⟨_, rfl, left⟩

theorem readWhole_append (some : Digits digits) (zero : digits.head? = .some '0' → digits = ['0'])
    (ends : ∀ c ∈ rest.head?, isDigit c = false) : (readWhole atEnd (digits ++ rest)).Leaves digits rest := by
  have reading := readDigits_append atEnd some ends
  cases digits with
  | nil => exact absurd rfl some.1
  | cons d digits =>
    by_cases front : d = '0'
    · subst front
      obtain rfl : digits = [] := (List.cons.inj (zero rfl)).2
      cases rest with
      | nil => exact reading
      | cons c rest =>
        have taken : readWhole atEnd ('0' :: c :: rest) = .ok (['0'], .tail '0' (c :: rest)) := by
          rw [readWhole, if_neg (by simp [ends c rfl])]
        exact ⟨.tail '0' (c :: rest), taken, rfl⟩
    · have unread : readWhole atEnd (d :: (digits ++ rest)) = readDigits atEnd (d :: (digits ++ rest)) := by
        rw [readWhole]
        rintro c others zero
        exact front (List.cons.inj zero).1
      rw [List.cons_append] at reading ⊢
      rwa [unread]

theorem readFraction_spelled {fraction : Option (List Char)} {r : Rest s} (spelled : SpelledFraction fraction text)
    (here : r.val = text ++ rest) (ends : ∀ c ∈ rest.head?, isDigit c = false ∧ c ≠ '.') :
    (readFraction atEnd r).Leaves fraction rest := by
  cases spelled with
  | none =>
    unfold readFraction
    split
    case h_1 rest point =>
      rw [here, List.nil_append] at point
      exact absurd rfl (ends '.' (by rw [point]; rfl)).2
    case h_2 => exact ⟨r, rfl, here⟩
  | @some digits some =>
    obtain ⟨last, taken, left⟩ := readDigits_append atEnd some fun c front => (ends c front).1
    unfold readFraction
    split
    case h_1 other same =>
      obtain rfl : digits ++ rest = other := by
        rw [here, List.cons_append, List.cons.injEq] at same
        exact same.2
      simp only [taken]
      exact ⟨_, rfl, left⟩
    case h_2 none => exact absurd here (none _)

theorem readSign_spelled {negative : Bool} {sign : List Char} (spelled : SpelledSign negative sign)
    (some : Digits digits) (rest : List Char) :
    readSign (sign ++ (digits ++ rest)) = (negative, digits ++ rest) := by
  cases spelled with
  | plus => rfl
  | minus => rfl
  | none =>
    cases digits with
    | nil => exact absurd rfl some.1
    | cons d digits =>
      have digit := some.2 d List.mem_cons_self
      rw [List.nil_append, List.cons_append, readSign]
      · rintro others plus
        rw [(List.cons.inj plus).1] at digit
        exact absurd digit (by decide)
      · rintro others minus
        rw [(List.cons.inj minus).1] at digit
        exact absurd digit (by decide)

theorem readExponent_spelled {exponent : Option (Bool × List Char)} {r : Rest s}
    (spelled : SpelledExponent exponent text) (here : r.val = text ++ rest)
    (ends : ∀ c ∈ rest.head?, isDigit c = false ∧ c ≠ 'e' ∧ c ≠ 'E') :
    (readExponent atEnd r).Leaves exponent rest := by
  cases spelled with
  | none =>
    unfold readExponent
    split
    case h_1 c others front =>
      have other := (ends c (by rw [← List.nil_append rest, ← here, front]; rfl)).2
      exact ⟨r, by simp [other], here⟩
    case h_2 => exact ⟨r, rfl, here⟩
  | @some mark negative sign digits marked signed some =>
    unfold readExponent
    split
    case h_1 c others front =>
      rw [here, List.cons_append, List.append_assoc] at front
      obtain ⟨rfl, rfl⟩ := List.cons.inj front
      have signRead := readSign_spelled signed some rest
      have which : (readSign (sign ++ (digits ++ rest))).1 = negative := by rw [signRead]
      have value : (readDigits atEnd (readSign (sign ++ (digits ++ rest))).2).Leaves digits rest := by
        rw [signRead]
        exact readDigits_append atEnd some fun c front => (ends c front).1
      obtain ⟨last, taken, left⟩ := value
      rw [if_pos (by simpa using marked), taken]
      subst which
      exact ⟨_, rfl, left⟩
    case h_2 empty =>
      rw [here] at empty
      cases empty

theorem SpelledFraction.head {fraction : Option (List Char)} (spelled : SpelledFraction fraction text) :
    ∀ c ∈ text.head?, c = '.' := by
  cases spelled <;> simp

theorem SpelledExponent.head {exponent : Option (Bool × List Char)} (spelled : SpelledExponent exponent text) :
    ∀ c ∈ text.head?, c = 'e' ∨ c = 'E' := by
  cases spelled with
  | none => simp
  | some marked _ _ => simpa using marked

/-- What holds of the first character of two texts holds of the first of both together. -/
theorem head?_append {P : Char → Prop} {front : List Char} (first : ∀ c ∈ front.head?, P c)
    (after : ∀ c ∈ rest.head?, P c) : ∀ c ∈ (front ++ rest).head?, P c := by
  cases front with
  | nil => exact after
  | cons c front => exact first

/-- The parts of a number follow each other, and each ends where the next begins. -/
theorem readUnsigned_spelled {n : Numeral} {fraction exponent : List Char} (digits : Digits n.whole)
    (zero : n.whole.head? = some '0' → n.whole = ['0']) (fractioned : SpelledFraction n.fraction fraction)
    (exponented : SpelledExponent n.exponent exponent) (ends : Ends rest) :
    (readUnsigned atEnd n.negative (n.whole ++ (fraction ++ (exponent ++ rest)))).Leaves n rest := by
  have noDigit : ∀ c ∈ (exponent ++ rest).head?, isDigit c = false ∧ c ≠ '.' := by
    apply head?_append
    · intro c first
      rcases exponented.head c first with rfl | rfl <;> decide
    · exact fun c first => ⟨(ends c first).1, (ends c first).2.1⟩
  have noPoint : ∀ c ∈ (fraction ++ (exponent ++ rest)).head?, isDigit c = false := by
    apply head?_append
    · intro c first
      rw [fractioned.head c first]
      decide
    · exact fun c first => (noDigit c first).1
  obtain ⟨r, whole, afterWhole⟩ := readWhole_append atEnd digits zero noPoint
  obtain ⟨r', point, afterPoint⟩ := readFraction_spelled atEnd fractioned afterWhole noDigit
  obtain ⟨last, power, left⟩ := readExponent_spelled atEnd exponented afterPoint
    fun c first => ⟨(ends c first).1, (ends c first).2.2⟩
  refine ⟨last, ?_, left⟩
  rw [readUnsigned, whole]
  simp only [point, power]

theorem Digits.cons_of (some : Digits digits) : ∃ d others, digits = d :: others ∧ isDigit d = true := by
  obtain ⟨d, others, rfl⟩ := List.exists_cons_of_ne_nil some.1
  exact ⟨d, others, rfl, some.2 d List.mem_cons_self⟩

theorem readNumeral_spelled {n : Numeral} (spelled : n.Spelled text) (ends : Ends rest) :
    (readNumeral atEnd (text ++ rest)).Leaves n rest := by
  obtain ⟨digits, zero, fraction, exponent, fractioned, exponented, rfl⟩ := spelled
  have reading := readUnsigned_spelled atEnd digits zero fractioned exponented ends
  rw [List.append_assoc, List.append_assoc, List.append_assoc]
  cases sign : n.negative with
  | true =>
    rw [sign] at reading
    exact Taken.leaves_outside.mpr reading
  | false =>
    rw [sign] at reading
    obtain ⟨d, others, first, digit⟩ := digits.cons_of
    rw [first] at reading ⊢
    have unsigned : d ≠ '-' := by
      rintro rfl
      exact absurd digit (by decide)
    rw [List.cons_append] at reading ⊢
    change (readNumeral atEnd (d :: (others ++ (fraction ++ (exponent ++ rest))))).Leaves n rest
    rwa [readNumeral]
    rintro after minus
    exact unsigned (List.cons.inj minus).1

/-- A number is read if its spelling has a value. -/
theorem readNumber_spelled {n : Numeral} {x : Number} (spelled : n.Spelled text) (value : n.value = .ok x)
    (ends : Ends rest) : (readNumber (text ++ rest)).Leaves x rest := by
  obtain ⟨last, taken, left⟩ := readNumeral_spelled .endOfValue spelled ends
  refine ⟨last, ?_, left⟩
  rw [readNumber, taken]
  simp only [value]

end

section

variable {atEnd : Error} {s digits rest : List Char}

theorem readDigits_spelling (leaves : (readDigits atEnd s).Leaves digits rest) :
    Digits digits ∧ s = digits ++ rest := by
  cases s with
  | nil => simp [readDigits] at leaves
  | cons c s =>
    rw [readDigits] at leaves
    split_ifs at leaves with digit
    · obtain ⟨rfl, rfl⟩ := Taken.leaves_ok.mp leaves
      refine ⟨⟨List.cons_ne_nil _ _, ?_⟩, ?_⟩
      · rintro d member
        rcases List.mem_cons.mp member with rfl | member
        · exact digit
        · exact List.all_eq_true.mp List.all_takeWhile d member
      · exact congrArg (c :: ·) List.takeWhile_append_dropWhile.symm
    · simp at leaves

theorem readWhole_spelling (leaves : (readWhole atEnd s).Leaves digits rest) :
    Digits digits ∧ (digits.head? = some '0' → digits = ['0']) ∧ s = digits ++ rest := by
  unfold readWhole at leaves
  split at leaves
  case h_1 c others =>
    split_ifs at leaves with digit
    · simp at leaves
    · obtain ⟨rfl, rfl⟩ := Taken.leaves_ok.mp leaves
      exact ⟨⟨List.cons_ne_nil _ _, by simp [isDigit]⟩, fun _ => rfl, rfl⟩
  case h_2 others single =>
    obtain ⟨some, text⟩ := readDigits_spelling leaves
    refine ⟨some, fun zero => ?_, text⟩
    obtain ⟨d, more, rfl, -⟩ := some.cons_of
    obtain rfl := Option.some.inj zero
    cases more with
    | nil => rfl
    | cons e more => exact absurd text (single e (more ++ rest))

theorem readFraction_spelling {fraction : Option (List Char)} {r : Rest s}
    (leaves : (readFraction atEnd r).Leaves fraction rest) :
    ∃ text, SpelledFraction fraction text ∧ r.val = text ++ rest := by
  unfold readFraction at leaves
  split at leaves
  case h_1 others point =>
    cases taken : readDigits atEnd others with
    | error e => simp [taken] at leaves
    | ok found =>
      obtain ⟨digits, last⟩ := found
      simp only [taken, Taken.leaves_ok] at leaves
      obtain ⟨rfl, left⟩ := leaves
      obtain ⟨some, text⟩ := readDigits_spelling ⟨last, taken, left⟩
      exact ⟨'.' :: digits, .some some, by rw [point, text]; rfl⟩
  case h_2 =>
    obtain ⟨rfl, left⟩ := Taken.leaves_ok.mp leaves
    exact ⟨[], .none, left⟩

theorem readSign_spelling (s : List Char) :
    ∃ text, SpelledSign (readSign s).1 text ∧ s = text ++ (readSign s).2 := by
  unfold readSign
  split
  case h_1 => exact ⟨['+'], .plus, rfl⟩
  case h_2 => exact ⟨['-'], .minus, rfl⟩
  case h_3 => exact ⟨[], .none, rfl⟩

theorem readExponent_spelling {exponent : Option (Bool × List Char)} {r : Rest s}
    (leaves : (readExponent atEnd r).Leaves exponent rest) :
    ∃ text, SpelledExponent exponent text ∧ r.val = text ++ rest := by
  have absent (left : none = exponent ∧ r.val = rest) :
      ∃ text, SpelledExponent exponent text ∧ r.val = text ++ rest := by
    obtain ⟨rfl, left⟩ := left
    exact ⟨[], .none, left⟩
  unfold readExponent at leaves
  split at leaves
  case h_1 c others front =>
    split_ifs at leaves with mark
    · cases taken : readDigits atEnd (readSign others).2 with
      | error e => simp [taken] at leaves
      | ok found =>
        obtain ⟨digits, last⟩ := found
        simp only [taken, Taken.leaves_ok] at leaves
        obtain ⟨rfl, left⟩ := leaves
        obtain ⟨some, digitsText⟩ := readDigits_spelling ⟨last, taken, left⟩
        obtain ⟨sign, signed, signText⟩ := readSign_spelling others
        refine ⟨c :: (sign ++ digits), .some (by simpa using mark) signed some, ?_⟩
        rw [front, signText, digitsText]
        simp
    · exact absent (Taken.leaves_ok.mp leaves)
  case h_2 => exact absent (Taken.leaves_ok.mp leaves)

theorem readUnsigned_spelling {negative : Bool} {n : Numeral}
    (leaves : (readUnsigned atEnd negative s).Leaves n rest) :
    n.negative = negative ∧ ∃ text, { n with negative := false }.Spelled text ∧ s = text ++ rest := by
  rw [readUnsigned] at leaves
  cases whole : readWhole atEnd s with
  | error e => simp [whole] at leaves
  | ok found =>
    obtain ⟨digits, r⟩ := found
    simp only [whole] at leaves
    cases point : readFraction atEnd r with
    | error e => simp [point] at leaves
    | ok found =>
      obtain ⟨fraction, r'⟩ := found
      simp only [point] at leaves
      cases power : readExponent atEnd r' with
      | error e => simp [power] at leaves
      | ok found =>
        obtain ⟨exponent, last⟩ := found
        simp only [power, Taken.leaves_ok] at leaves
        obtain ⟨rfl, left⟩ := leaves
        obtain ⟨some, zero, wholeText⟩ := readWhole_spelling ⟨r, whole, rfl⟩
        obtain ⟨pointed, fractioned, pointText⟩ := readFraction_spelling ⟨r', point, rfl⟩
        obtain ⟨powered, exponented, powerText⟩ := readExponent_spelling ⟨last, power, left⟩
        refine ⟨rfl, digits ++ (pointed ++ powered), ?_, ?_⟩
        · exact ⟨some, zero, pointed, powered, fractioned, exponented, rfl⟩
        · rw [wholeText, pointText, powerText]
          simp

theorem readNumeral_spelling {n : Numeral} (leaves : (readNumeral atEnd s).Leaves n rest) :
    ∃ text, n.Spelled text ∧ s = text ++ rest := by
  unfold readNumeral at leaves
  split at leaves
  case h_1 others =>
    obtain ⟨negative, text, spelled, rfl⟩ := readUnsigned_spelling (Taken.leaves_outside.mp leaves)
    obtain ⟨some, zero, fraction, exponent, fractioned, exponented, rfl⟩ := spelled
    refine ⟨'-' :: (n.whole ++ (fraction ++ exponent)), ?_, rfl⟩
    refine ⟨some, zero, fraction, exponent, fractioned, exponented, ?_⟩
    rw [negative]
    rfl
  case h_2 =>
    obtain ⟨positive, text, spelled, rfl⟩ := readUnsigned_spelling leaves
    rw [← positive] at spelled
    exact ⟨text, spelled, rfl⟩

theorem readNumber_spelling {x : Number} (leaves : (readNumber s).Leaves x rest) :
    ∃ (n : Numeral) (text : List Char), n.Spelled text ∧ n.value = .ok x ∧ s = text ++ rest := by
  rw [readNumber] at leaves
  cases taken : readNumeral .endOfValue s with
  | error e => simp [taken] at leaves
  | ok found =>
    obtain ⟨n, r⟩ := found
    simp only [taken] at leaves
    cases value : n.value with
    | error e => simp [value] at leaves
    | ok y =>
      simp only [value, Taken.leaves_ok] at leaves
      obtain ⟨rfl, left⟩ := leaves
      obtain ⟨text, spelled, same⟩ := readNumeral_spelling ⟨r, taken, left⟩
      exact ⟨n, text, spelled, value, same⟩

end

/-- Nothing is left out of digits that fit. -/
theorem accumulate_eq {digits : List Char} {n : Nat}
    (fits : Nat.ofDigitChars 10 digits n < UInt64.size) :
    accumulate n digits = (Nat.ofDigitChars 10 digits n, 0) := by
  induction digits generalizing n with
  | nil => rfl
  | cons c digits ih =>
    rw [Nat.ofDigitChars_cons, Nat.mul_comm] at fits ⊢
    have least : n * 10 + digitValue c < UInt64.size :=
      Nat.lt_of_le_of_lt (Text.le_ofDigitChars digits _) fits
    rw [accumulate, if_pos least]
    exact ih fits

theorem accumulate_toDigits {n : Nat} (fits : n < UInt64.size) : accumulate 0 (Nat.toDigits 10 n) = (n, 0) := by
  have whole : Nat.ofDigitChars 10 (Nat.toDigits 10 n) 0 = n :=
    Nat.ofDigitChars_toDigits (by decide) (by decide)
  rw [accumulate_eq (whole.symm ▸ fits), whole]

theorem value_natural {n : Nat} (fits : n < UInt64.size) :
    Numeral.value ⟨false, Nat.toDigits 10 n, none, none⟩ = .ok (.integer n) := by
  simp [Numeral.value, accumulate_toDigits fits]

/-- A zero after the point multiplies by ten and divides again. -/
theorem value_whole {n : Nat} (small : n * 10 < 2 ^ 53) :
    Numeral.value ⟨false, Nat.toDigits 10 n, some ['0'], none⟩ = .ok (.float (.ofNat n)) := by
  have fits : n < UInt64.size ∧ n * 10 < UInt64.size := by
    constructor <;> simp only [UInt64.size] <;> omega
  have shifted : accumulate n ['0'] = (n * 10, 0) := by
    simp [accumulate, digitValue, fits.2]
  have tenth : scaleTen (.ofNat (n * 10)) (-1) = some (.ofNat n) := by
    have quotient := Binary64.divMagnitude_ofNat (b := 10) (by decide) small (by decide)
    rw [scaleTen, if_neg (by decide), if_neg (by decide), if_neg (by decide)]
    exact congrArg some quotient
  have positive : (Binary64.ofNat n).withSign false = .ofNat n := by
    obtain ⟨k, whole⟩ := Binary64.whole_ofNat (n := n) (by omega)
    rw [whole, Binary64.withSign]
  simp [Numeral.value, accumulate_toDigits fits.1, shifted, Numeral.power, tenth, positive]

/-- The numbers that are read back: naturals within 64 bits, and floats that are whole. -/
inductive Number.Legible : Number → Prop
  | natural {n : Nat} (fits : n < UInt64.size) : Legible (.integer n)
  | whole {n : Nat} (small : n * 10 < 2 ^ 53) : Legible (.float (.ofNat n))

theorem print_natural (n : Nat) : (Number.integer n).print = Nat.toDigits 10 n :=
  String.toList_ofList

theorem print_whole {n : Nat} (small : n < 2 ^ 53) :
    (Number.float (.ofNat n)).print = Nat.toDigits 10 n ++ ['.', '0'] :=
  Binary64.pointedText_ofNat small

theorem digits_toDigits (n : Nat) : Digits (Nat.toDigits 10 n) :=
  ⟨Nat.toDigits_ne_nil, fun _ member => isDigit_of_mem_toDigits member⟩

/-- A number is written as it may be spelled. -/
theorem Number.Legible.print_spelled {n : Number} (legible : n.Legible) :
    ∃ numeral : Numeral, numeral.Spelled n.print ∧ numeral.value = .ok n := by
  cases legible with
  | @natural k fits =>
    refine ⟨⟨false, Nat.toDigits 10 k, none, none⟩, ?_, value_natural fits⟩
    exact ⟨digits_toDigits k, toDigits_zero_head, [], [], .none, .none, by simp [print_natural]⟩
  | @whole k small =>
    have zero : Digits ['0'] := ⟨List.cons_ne_nil _ _, by simp [isDigit]⟩
    refine ⟨⟨false, Nat.toDigits 10 k, some ['0'], none⟩, ?_, value_whole small⟩
    exact ⟨digits_toDigits k, toDigits_zero_head, ['.', '0'], [], .some zero, .none,
      by simp [print_whole (show k < 2 ^ 53 by omega)]⟩

end Throughput.Json
