import Throughput.Json.Skip
import Throughput.Proofs.Json.Grammar

/-! The form of values that are passed over: numbers of any size, escapes of any characters and
values of any depth. A value of this form is passed over to its end. -/
namespace Throughput.Json

inductive Part where
  | letter | letters | value | item | items | member | members

/-- The texts that have the form of a part. -/
inductive Form : Part → List Char → Prop
  | plain {c : Char} (quote : c ≠ '"') (backslash : c ≠ '\\') (plain : ¬ c < ' ') : Form .letter [c]
  | escape {l c : Char} (escape : plainEscape? l = some c) : Form .letter ['\\', l]
  | code {a b c d : Char} {n : Nat} (number : hexNumber? a b c d = some n) :
      Form .letter ['\\', 'u', a, b, c, d]
  | noLetters : Form .letters []
  | letters {s t : List Char} (first : Form .letter s) (others : Form .letters t) : Form .letters (s ++ t)
  | null : Form .value ['n', 'u', 'l', 'l']
  | yes : Form .value ['t', 'r', 'u', 'e']
  | no : Form .value ['f', 'a', 'l', 's', 'e']
  | number {n : Numeral} {s : List Char} (spelled : n.Spelled s) : Form .value s
  | text {s : List Char} (letters : Form .letters s) : Form .value ('"' :: (s ++ ['"']))
  | noItems {s : List Char} (blanks : Blanks s) : Form .value ('[' :: (s ++ [']']))
  | list {s : List Char} (items : Form .items s) : Form .value ('[' :: (s ++ [']']))
  | noMembers {s : List Char} (blanks : Blanks s) :
      Form .value (Text.openBrace :: (s ++ [Text.closeBrace]))
  | object {s : List Char} (members : Form .members s) :
      Form .value (Text.openBrace :: (s ++ [Text.closeBrace]))
  /-- A value with blanks around it. -/
  | item {before s after : List Char} (leading : Blanks before) (value : Form .value s)
      (trailing : Blanks after) : Form .item (before ++ (s ++ after))
  | lastItem {s : List Char} (item : Form .item s) : Form .items s
  | moreItems {s t : List Char} (item : Form .item s) (others : Form .items t) : Form .items (s ++ ',' :: t)
  /-- A name in quotes, a colon and a value. -/
  | member {before s between t : List Char} (leading : Blanks before) (name : Form .letters s)
      (blanks : Blanks between) (value : Form .item t) :
      Form .member (before ++ '"' :: (s ++ '"' :: (between ++ ':' :: t)))
  | lastMember {s : List Char} (member : Form .member s) : Form .members s
  | moreMembers {s t : List Char} (member : Form .member s) (others : Form .members t) :
      Form .members (s ++ ',' :: t)

/-- Something is passed over, and this is left. -/
def Passes {s : List Char} (skipped : Except Error (Rest s)) (rest : List Char) : Prop :=
  ∃ last, skipped = .ok last ∧ last.val = rest

section

variable {s t u rest left : List Char}

theorem skipText_quote (rest : List Char) : Passes (skipText ('"' :: rest)) rest :=
  ⟨.tail '"' rest, by rw [skipText, if_pos rfl], rfl⟩

theorem skipText_plain {c : Char} (quote : c ≠ '"') (backslash : c ≠ '\\') (plain : ¬ c < ' ')
    (others : Passes (skipText t) rest) : Passes (skipText (c :: t)) rest := by
  obtain ⟨last, skipped, left⟩ := others
  exact ⟨_, by rw [skipText, if_neg quote, if_neg backslash, if_neg plain, skipped], left⟩

theorem skipText_escape (escape : Passes (skipEscape s) t) (others : Passes (skipText t) rest) :
    Passes (skipText ('\\' :: s)) rest := by
  obtain ⟨after, escaped, rfl⟩ := escape
  obtain ⟨last, skipped, left⟩ := others
  refine ⟨(Rest.tail '\\' s).outside (after.outside last), ?_, left⟩
  rw [skipText, if_neg (by decide), if_pos rfl, escaped]
  simp only [skipped]

theorem skipEscape_letter {l c : Char} (escape : plainEscape? l = some c) (t : List Char) :
    Passes (skipEscape (l :: t)) t := by
  have notUnicode : l ≠ 'u' := by
    rintro rfl
    cases escape
  exact ⟨_, by rw [skipEscape, if_neg notUnicode, if_pos (by rw [escape]; rfl)], rfl⟩

theorem skipEscape_code {a b c d : Char} {n : Nat} (number : hexNumber? a b c d = some n) (t : List Char) :
    Passes (skipEscape ('u' :: a :: b :: c :: d :: t)) t := by
  obtain ⟨r, unit, left⟩ := readUnit_hex number t
  refine ⟨(Rest.tail 'u' _).outside r, ?_, left⟩
  rw [skipEscape, if_pos rfl, unit]

theorem skipScalar_text (text : Passes (skipText s) rest) : Passes (skipScalar ('"' :: s)) rest := by
  obtain ⟨last, skipped, left⟩ := text
  exact ⟨(Rest.tail '"' s).outside last, by rw [skipScalar, if_pos rfl, skipped], left⟩

theorem skipScalar_number {n : Numeral} (spelled : n.Spelled s) (ends : Ends rest) :
    Passes (skipScalar (s ++ rest)) rest := by
  have reading := readNumeral_spelled .invalidNumber spelled ends
  obtain ⟨c, others, rfl, first⟩ := spelled.front
  have quote : c ≠ '"' := ne_of_number first rfl (by decide)
  rw [List.cons_append] at reading ⊢
  obtain ⟨last, taken, left⟩ := reading
  refine ⟨last, ?_, left⟩
  rw [skipScalar, if_neg quote, if_pos (by simpa using first), taken]

theorem skipScalar_literal {c : Char} {scalar : Scalar} (quote : c ≠ '"') (minus : c ≠ '-')
    (digit : Text.isDigit c = false) (literal : (readScalar (c :: s)).Leaves scalar rest) :
    Passes (skipScalar (c :: s)) rest := by
  obtain ⟨last, taken, left⟩ := literal
  refine ⟨last, ?_, left⟩
  rw [skipScalar, if_neg quote, if_neg (by simp [minus, digit]), taken]

theorem skipValue_scalar {c : Char} (front : skipBlank t = c :: s) (bracket : c ≠ '[')
    (brace : c ≠ Text.openBrace) (scalar : Passes (skipScalar (c :: s)) rest) :
    Passes (skipValue t) rest := by
  obtain ⟨last, skipped, rfl⟩ := scalar
  rw [skipValue]
  split
  case h_1 none => cases front.symm.trans none
  case h_2 d others read =>
    obtain ⟨rfl, rfl⟩ := List.cons.inj (front.symm.trans read)
    rw [if_neg bracket, if_neg brace, skipped]
    exact ⟨_, rfl, rfl⟩

theorem skipValue_list (front : skipBlank t = '[' :: s) (items : Passes (skipItems true s) rest) :
    Passes (skipValue t) rest := by
  obtain ⟨last, skipped, rfl⟩ := items
  rw [skipValue]
  split
  case h_1 none => cases front.symm.trans none
  case h_2 d others read =>
    obtain ⟨rfl, rfl⟩ := List.cons.inj (front.symm.trans read)
    rw [if_pos rfl, skipped]
    exact ⟨_, rfl, rfl⟩

theorem skipValue_object (front : skipBlank t = Text.openBrace :: s)
    (members : Passes (skipMembers true s) rest) : Passes (skipValue t) rest := by
  obtain ⟨last, skipped, rfl⟩ := members
  rw [skipValue]
  split
  case h_1 none => cases front.symm.trans none
  case h_2 d others read =>
    obtain ⟨rfl, rfl⟩ := List.cons.inj (front.symm.trans read)
    rw [if_neg (by decide), if_pos rfl, skipped]
    exact ⟨_, rfl, rfl⟩

theorem skipItems_done (first : Bool) (closed : skipBlank s = ']' :: rest) :
    Passes (skipItems first s) rest := by
  rw [skipItems]
  split
  case h_1 none => cases closed.symm.trans none
  case h_2 d others read =>
    obtain ⟨rfl, rfl⟩ := List.cons.inj (closed.symm.trans read)
    exact ⟨_, if_pos rfl, rfl⟩

theorem skipItems_of {first : Bool} {c : Char} (continues : Continues first s t) (front : skipBlank t = c :: u)
    (bracket : c ≠ ']') (value : Passes (skipValue t) left) (others : Passes (skipItems false left) rest) :
    Passes (skipItems first s) rest := by
  obtain ⟨r, skipped, rfl⟩ := value
  obtain ⟨last, further, rfl⟩ := others
  rw [skipItems]
  cases continues with
  | first =>
    split
    case h_1 none => cases front.symm.trans none
    case h_2 d following read =>
      obtain ⟨rfl, rfl⟩ := List.cons.inj (front.symm.trans read)
      rw [if_neg bracket, if_pos rfl, skipped]
      simp only [further]
      exact ⟨_, rfl, rfl⟩
  | later comma =>
    split
    case h_1 none => cases comma.symm.trans none
    case h_2 d following read =>
      obtain ⟨rfl, rfl⟩ := List.cons.inj (comma.symm.trans read)
      rw [if_neg (by decide), if_neg (by decide), if_pos rfl, skipped]
      simp only [further]
      exact ⟨_, rfl, rfl⟩

theorem skipName_of (quote : skipBlank s = '"' :: t) (text : Passes (skipText t) u)
    (colon : skipBlank u = ':' :: rest) : Passes (skipName s) rest := by
  obtain ⟨r, skipped, rfl⟩ := text
  rw [skipName]
  split
  case h_1 none => cases quote.symm.trans none
  case h_2 d others read =>
    obtain ⟨rfl, rfl⟩ := List.cons.inj (quote.symm.trans read)
    rw [if_pos rfl, skipped]
    simp only
    split
    case h_1 none => cases colon.symm.trans none
    case h_2 d others mark =>
      obtain ⟨rfl, rfl⟩ := List.cons.inj (colon.symm.trans mark)
      exact ⟨_, if_pos rfl, rfl⟩

theorem skipMembers_done (first : Bool) (closed : skipBlank s = Text.closeBrace :: rest) :
    Passes (skipMembers first s) rest := by
  rw [skipMembers]
  split
  case h_1 none => cases closed.symm.trans none
  case h_2 d others read =>
    obtain ⟨rfl, rfl⟩ := List.cons.inj (closed.symm.trans read)
    exact ⟨_, if_pos rfl, rfl⟩

theorem skipMembers_of {first : Bool} {value : List Char} (continues : Continues first s t)
    (quote : skipBlank t = '"' :: u) (name : Passes (skipName t) value) (passed : Passes (skipValue value) left)
    (others : Passes (skipMembers false left) rest) : Passes (skipMembers first s) rest := by
  obtain ⟨n, named, rfl⟩ := name
  obtain ⟨r, skipped, rfl⟩ := passed
  obtain ⟨last, further, rfl⟩ := others
  rw [skipMembers]
  cases continues with
  | first =>
    split
    case h_1 none => cases quote.symm.trans none
    case h_2 d following read =>
      obtain ⟨rfl, rfl⟩ := List.cons.inj (quote.symm.trans read)
      rw [if_neg (by decide), if_pos rfl, named]
      simp only [skipped, further]
      exact ⟨_, rfl, rfl⟩
  | later comma =>
    split
    case h_1 none => cases comma.symm.trans none
    case h_2 d following read =>
      obtain ⟨rfl, rfl⟩ := List.cons.inj (comma.symm.trans read)
      rw [if_neg (by decide), if_neg (by decide), if_pos rfl, named]
      simp only [skipped, further]
      exact ⟨_, rfl, rfl⟩

end

/-- What may follow a value inside of a list or an object. -/
def stops : List Char := [',', ']', Text.closeBrace]

/-- What it means for each part to be passed over. -/
def Passed : Part → List Char → Prop
  | .letter, s => ∀ t rest, Passes (skipText t) rest → Passes (skipText (s ++ t)) rest
  | .letters, s => ∀ rest, Passes (skipText (s ++ '"' :: rest)) rest
  | .value, s => (∃ c others, s = c :: others ∧ isBlank c = false ∧ c ≠ ']') ∧
      ∀ t rest, Ends rest → skipBlank t = s ++ rest → Passes (skipValue t) rest
  | .item, s => (∀ rest, ∃ c others, skipBlank (s ++ rest) = c :: others ∧ c ≠ ']') ∧
      ∀ c ∈ stops, ∀ rest, ∃ left, Passes (skipValue (s ++ c :: rest)) left ∧ skipBlank left = c :: rest
  | .items, s => ∀ first t rest, Continues first t (s ++ ']' :: rest) → Passes (skipItems first t) rest
  | .member, s => ∀ c ∈ stops, ∀ rest, ∃ quoted value left, skipBlank (s ++ c :: rest) = '"' :: quoted ∧
      Passes (skipName (s ++ c :: rest)) value ∧ Passes (skipValue value) left ∧ skipBlank left = c :: rest
  | .members, s => ∀ first t rest, Continues first t (s ++ Text.closeBrace :: rest) →
      Passes (skipMembers first t) rest

section

variable {s t before between after : List Char}

theorem skipBlank_stop {c : Char} (stop : c ∈ stops) (rest : List Char) : skipBlank (c :: rest) = c :: rest := by
  simp only [stops, List.mem_cons, List.not_mem_nil, or_false] at stop
  rcases stop with rfl | rfl | rfl <;> exact skipBlank_cons rfl rest

theorem passed_literal {c : Char} {scalar : Scalar} (word : c = 'n' ∨ c = 't' ∨ c = 'f')
    (literal : ∀ rest, (readScalar (c :: (s ++ rest))).Leaves scalar rest) : Passed .value (c :: s) := by
  rcases word with rfl | rfl | rfl <;>
  · refine ⟨⟨_, _, rfl, rfl, by decide⟩, ?_⟩
    intro t rest _ front
    exact skipValue_scalar front (by decide) (by decide)
      (skipScalar_literal (by decide) (by decide) rfl (literal rest))

theorem passed_number {n : Numeral} (spelled : n.Spelled s) : Passed .value s := by
  obtain ⟨c, others, rfl, first⟩ := spelled.front
  have bracket : c ≠ '[' := ne_of_number first rfl (by decide)
  have brace : c ≠ Text.openBrace := ne_of_number first rfl (by decide)
  refine ⟨⟨c, others, rfl, isBlank_of_number first, ne_of_number first rfl (by decide)⟩, ?_⟩
  intro t rest ends front
  exact skipValue_scalar front bracket brace (skipScalar_number spelled ends)

theorem passed_text (letters : Passed .letters s) : Passed .value ('"' :: (s ++ ['"'])) := by
  refine ⟨⟨_, _, rfl, rfl, by decide⟩, ?_⟩
  intro t rest _ front
  rw [List.cons_append, List.append_assoc] at front
  exact skipValue_scalar front (by decide) (by decide) (skipScalar_text (letters rest))

theorem passed_list (items : ∀ rest, Passes (skipItems true (s ++ ']' :: rest)) rest) :
    Passed .value ('[' :: (s ++ [']'])) := by
  refine ⟨⟨_, _, rfl, rfl, by decide⟩, ?_⟩
  intro t rest _ front
  rw [List.cons_append, List.append_assoc] at front
  exact skipValue_list front (items rest)

theorem passed_object (members : ∀ rest, Passes (skipMembers true (s ++ Text.closeBrace :: rest)) rest) :
    Passed .value (Text.openBrace :: (s ++ [Text.closeBrace])) := by
  refine ⟨⟨_, _, rfl, rfl, by decide⟩, ?_⟩
  intro t rest _ front
  rw [List.cons_append, List.append_assoc] at front
  exact skipValue_object front (members rest)

theorem passed_item (leading : Blanks before) (value : Passed .value s) (trailing : Blanks after) :
    Passed .item (before ++ (s ++ after)) := by
  obtain ⟨⟨c, others, rfl, solid, bracket⟩, passes⟩ := value
  have front (rest : List Char) : skipBlank (before ++ (c :: others ++ after) ++ rest) =
      c :: others ++ (after ++ rest) := by
    rw [List.append_assoc, skipBlank_append leading, List.append_assoc, List.cons_append, skipBlank_cons solid]
  constructor
  · exact fun rest => ⟨c, _, front rest, bracket⟩
  · intro d stop rest
    refine ⟨after ++ d :: rest, passes _ _ (Ends.after trailing stop rest) (front _), ?_⟩
    rw [skipBlank_append trailing, skipBlank_stop stop]

theorem passed_lastItem (item : Passed .item s) : Passed .items s := by
  intro first t rest continues
  obtain ⟨front, passes⟩ := item
  obtain ⟨left, value, closed⟩ := passes ']' (by decide) rest
  obtain ⟨c, others, start, bracket⟩ := front (']' :: rest)
  exact skipItems_of continues start bracket value (skipItems_done false closed)

theorem passed_moreItems (item : Passed .item s) (others : Passed .items t) : Passed .items (s ++ ',' :: t) := by
  intro first u rest continues
  obtain ⟨front, passes⟩ := item
  rw [List.append_assoc, List.cons_append] at continues
  obtain ⟨left, value, comma⟩ := passes ',' (by decide) (t ++ ']' :: rest)
  obtain ⟨c, following, start, bracket⟩ := front (',' :: (t ++ ']' :: rest))
  exact skipItems_of continues start bracket value (others false left rest (.later comma))

theorem passed_member (leading : Blanks before) (name : Passed .letters s) (blanks : Blanks between)
    (value : Passed .item t) : Passed .member (before ++ '"' :: (s ++ '"' :: (between ++ ':' :: t))) := by
  intro c stop rest
  obtain ⟨left, passes, closed⟩ := value.2 c stop rest
  have quote : skipBlank (before ++ '"' :: (s ++ '"' :: (between ++ ':' :: t)) ++ c :: rest) =
      '"' :: (s ++ '"' :: (between ++ ':' :: (t ++ c :: rest))) := by
    rw [List.append_assoc, skipBlank_append leading, List.cons_append, skipBlank_cons rfl]
    simp
  have colon : skipBlank (between ++ ':' :: (t ++ c :: rest)) = ':' :: (t ++ c :: rest) := by
    rw [skipBlank_append blanks, skipBlank_cons rfl]
  exact ⟨_, _, left, quote, skipName_of quote (name _) colon, passes, closed⟩

theorem passed_lastMember (member : Passed .member s) : Passed .members s := by
  intro first t rest continues
  obtain ⟨quoted, value, left, quote, name, passes, closed⟩ := member Text.closeBrace (by decide) rest
  exact skipMembers_of continues quote name passes (skipMembers_done false closed)

theorem passed_moreMembers (member : Passed .member s) (others : Passed .members t) :
    Passed .members (s ++ ',' :: t) := by
  intro first u rest continues
  rw [List.append_assoc, List.cons_append] at continues
  obtain ⟨quoted, value, left, quote, name, passes, comma⟩ := member ',' (by decide) (t ++ Text.closeBrace :: rest)
  exact skipMembers_of continues quote name passes (others false left rest (.later comma))

end

theorem Form.passed {part : Part} {s : List Char} (form : Form part s) : Passed part s := by
  induction form with
  | plain quote backslash plain => exact fun t rest others => skipText_plain quote backslash plain others
  | escape escape => exact fun t rest others => skipText_escape (skipEscape_letter escape t) others
  | code number => exact fun t rest others => skipText_escape (skipEscape_code number t) others
  | noLetters => exact skipText_quote
  | letters _ _ first others =>
    intro rest
    rw [List.append_assoc]
    exact first _ _ (others rest)
  | null => exact passed_literal (.inl rfl) fun rest => ⟨_, rfl, rfl⟩
  | yes => exact passed_literal (.inr (.inl rfl)) fun rest => ⟨_, rfl, rfl⟩
  | no => exact passed_literal (.inr (.inr rfl)) fun rest => ⟨_, rfl, rfl⟩
  | number spelled => exact passed_number spelled
  | text _ letters => exact passed_text letters
  | noItems blanks => exact passed_list fun rest => skipItems_done true (skipBlank_append blanks _)
  | list _ items => exact passed_list fun rest => items true _ rest .first
  | noMembers blanks => exact passed_object fun rest => skipMembers_done true (skipBlank_append blanks _)
  | object _ members => exact passed_object fun rest => members true _ rest .first
  | item leading _ trailing value => exact passed_item leading value trailing
  | lastItem _ item => exact passed_lastItem item
  | moreItems _ _ item others => exact passed_moreItems item others
  | member leading _ blanks _ name value => exact passed_member leading name blanks value
  | lastMember _ member => exact passed_lastMember member
  | moreMembers _ _ member others => exact passed_moreMembers member others

end Throughput.Json
