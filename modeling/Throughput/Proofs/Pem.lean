import Throughput.Pem

/-! Sections of texts put together. A text that can be read ends outside of its sections, so
what follows it on lines of its own is read as if it stood alone. -/
namespace Throughput.Pem

theorem lines_of_end {c : Char} (ends : isLineEnd c = true) (rest : List Char) :
    lines (c :: rest) = [c] :: lines rest := by
  rw [lines, if_pos ends]

theorem lines_of_other {c : Char} (other : ¬ isLineEnd c = true) {rest line : List Char}
    {more : List (List Char)} (split : lines rest = line :: more) :
    lines (c :: rest) = (c :: line) :: more := by
  rw [lines, if_neg other, split]

theorem exists_line (c : Char) (rest : List Char) :
    ∃ line more, lines (c :: rest) = line :: more := by
  rw [lines]
  split
  · exact ⟨_, _, rfl⟩
  · split <;> exact ⟨_, _, rfl⟩

theorem lines_append_of_end {c : Char} (ends : isLineEnd c = true) (front rest : List Char) :
    lines (front ++ c :: rest) = lines (front ++ [c]) ++ lines rest := by
  induction front with
  | nil => simp [lines_of_end ends, lines]
  | cons d front ih =>
    by_cases other : isLineEnd d = true
    · simp only [List.cons_append, lines_of_end other, ih]
    · obtain ⟨line, more, split⟩ : ∃ line more, lines (front ++ [c]) = line :: more := by
        cases front with
        | nil => exact exists_line c []
        | cons e front => exact exists_line e (front ++ [c])
      rw [split, List.cons_append] at ih
      rw [List.cons_append, List.cons_append, lines_of_other other ih, lines_of_other other split,
        List.cons_append]

/-- One line feed more ends the last line, or is a line of its own. -/
theorem lines_feed (cs : List Char) : lines (cs ++ ['\n']) = lines cs ++ [['\n']] ∨
    ∃ front last, lines cs = front ++ [last] ∧
      lines (cs ++ ['\n']) = front ++ [last ++ ['\n']] := by
  induction cs with
  | nil => exact .inl rfl
  | cons c rest ih =>
    by_cases ends : isLineEnd c = true
    · rw [List.cons_append, lines_of_end ends, lines_of_end ends]
      rcases ih with apart | ⟨front, last, split, joined⟩
      · exact .inl (by rw [apart, List.cons_append])
      · exact .inr ⟨[c] :: front, last, by rw [split, List.cons_append],
          by rw [joined, List.cons_append]⟩
    · cases rest with
      | nil =>
        exact .inr ⟨[], [c], by simp [lines, ends],
          lines_of_other ends (lines_of_end (by decide) [])⟩
      | cons d rest =>
        obtain ⟨line, more, split⟩ := exists_line d rest
        rw [List.cons_append, lines_of_other ends split]
        rw [split] at ih
        rcases ih with apart | ⟨front, last, same, joined⟩
        · exact .inl (lines_of_other ends apart)
        · cases front with
          | nil =>
            obtain ⟨rfl, rfl⟩ := List.cons.inj same
            exact .inr ⟨[], c :: line, rfl, lines_of_other ends joined⟩
          | cons first front =>
            obtain ⟨rfl, rfl⟩ := List.cons.inj same
            exact .inr ⟨(c :: line) :: front, last, rfl, lines_of_other ends joined⟩

/-- What one line does between BEGIN and END lines: the sections that it completes, and the
open section with its body after it. -/
inductive Step (open? : Option (List Char)) (body line : List Char) :
    List Section → Option (List Char) → List Char → Prop
  | opens {label : List Char} (begins : beginMark.isPrefixOf line = true)
      (named : label? line = some label) : Step open? body line [] (some label) body
  | skips (plain : ¬ beginMark.isPrefixOf line = true) (outside : open? = none) :
      Step open? body line [] none body
  | closes {label : List Char} {content : Bytes} (plain : ¬ beginMark.isPrefixOf line = true)
      (inside : open? = some label) (ends : (endMark label).isPrefixOf line = true)
      (decoded : Base64.decodeLenient (Text.utf8 (.ofList body)) = .ok content) :
      Step open? body line [⟨label, content⟩] none []
  | adds {label : List Char} (plain : ¬ beginMark.isPrefixOf line = true)
      (inside : open? = some label) (runs : ¬ (endMark label).isPrefixOf line = true) :
      Step open? body line [] (some label) (body ++ strip line)

section Step

variable {open? next? : Option (List Char)} {body line content : List Char} {done : List Section}

theorem Step.read (step : Step open? body line done next? content) (rest : List (List Char)) :
    readLines open? body (line :: rest) = (readLines next? content rest).map (done ++ ·) := by
  have unchanged (result : Except Error (List Section)) : result.map ([] ++ ·) = result := by
    cases result <;> rfl
  cases step with
  | opens begins named => simp only [readLines, if_pos begins, named, unchanged]
  | skips plain outside =>
    subst outside
    simp only [readLines, if_neg plain, unchanged]
  | closes plain inside ends decoded =>
    subst inside
    simp only [readLines, if_neg plain, if_pos ends, decoded]
    cases readLines none [] rest <;> rfl
  | adds plain inside runs =>
    subst inside
    simp only [readLines, if_neg plain, if_neg runs, unchanged]

theorem exists_step {rest : List (List Char)} {found : List Section}
    (read : readLines open? body (line :: rest) = .ok found) :
    ∃ done next? content, Step open? body line done next? content := by
  by_cases begins : beginMark.isPrefixOf line = true
  · cases named : label? line with
    | none => simp [readLines, begins, named] at read
    | some label => exact ⟨_, _, _, .opens begins named⟩
  · cases open? with
    | none => exact ⟨_, _, _, .skips begins rfl⟩
    | some label =>
      by_cases ends : (endMark label).isPrefixOf line = true
      · cases decoded : Base64.decodeLenient (Text.utf8 (.ofList body)) with
        | error e => simp [readLines, begins, ends, decoded] at read
        | ok content => exact ⟨_, _, _, .closes begins rfl ends decoded⟩
      · exact ⟨_, _, _, .adds begins rfl ends⟩

/-- Outside of sections there is no body. -/
theorem Step.outside (step : Step open? body line done next? content)
    (outside : open? = none → body = []) : next? = none → content = [] := by
  cases step with
  | opens => simp
  | skips _ none => exact fun _ => outside none
  | closes => exact fun _ => rfl
  | adds => simp

/-- A line feed at the end of a line that leaves no section open does nothing. -/
theorem Step.feed (step : Step open? body line done none content) :
    Step open? body (line ++ ['\n']) done none content := by
  have plain_feed (plain : ¬ beginMark.isPrefixOf line = true) :
      ¬ beginMark.isPrefixOf (line ++ ['\n']) = true := by
    rw [List.isPrefixOf_iff_prefix] at plain ⊢
    intro begins
    -- the mark holds no line feed, so it ends before the new one
    rcases List.prefix_concat_iff.mp begins with whole | inside
    · have feed : '\n' ∈ beginMark := whole ▸ List.mem_concat_self
      exact absurd feed (by decide)
    · exact plain inside
  cases step with
  | skips plain outside => exact .skips (plain_feed plain) outside
  | closes plain inside ends decoded =>
    have prefixes := List.isPrefixOf_iff_prefix.mp ends
    have longer := prefixes.trans (List.prefix_append line ['\n'])
    exact .closes (plain_feed plain) inside (List.isPrefixOf_iff_prefix.mpr longer) decoded

end Step

theorem readLines_cons_ok {open? : Option (List Char)} {body line : List Char}
    {rest : List (List Char)} {found : List Section} :
    readLines open? body (line :: rest) = .ok found ↔ ∃ done next? content later,
      Step open? body line done next? content ∧ readLines next? content rest = .ok later ∧
      done ++ later = found := by
  constructor
  · intro read
    obtain ⟨done, next?, content, step⟩ := exists_step read
    rw [step.read] at read
    cases after : readLines next? content rest with
    | error e => simp [after, Except.map] at read
    | ok later =>
      rw [after] at read
      exact ⟨done, next?, content, later, step, after, Except.ok.inj read⟩
  · rintro ⟨done, next?, content, later, step, after, rfl⟩
    rw [step.read, after]
    rfl

theorem readLines_append {open? : Option (List Char)} {body : List Char}
    {first : List (List Char)} {found : List Section} (outside : open? = none → body = [])
    (read : readLines open? body first = .ok found) (second : List (List Char)) :
    readLines open? body (first ++ second) = (readLines none [] second).map (found ++ ·) := by
  induction first generalizing open? body found with
  | nil =>
    cases open? with
    | some label => simp [readLines] at read
    | none =>
      obtain rfl := Except.ok.inj read
      rw [outside rfl, List.nil_append]
      cases readLines none [] second <;> rfl
  | cons line rest ih =>
    obtain ⟨done, next?, content, later, step, after, rfl⟩ := readLines_cons_ok.mp read
    rw [List.cons_append, step.read, ih (step.outside outside) after]
    cases readLines none [] second with
    | error e => rfl
    | ok more => simp [Except.map]

theorem readLines_feed {open? : Option (List Char)} {body last : List Char}
    {front : List (List Char)} {found : List Section}
    (read : readLines open? body (front ++ [last]) = .ok found) :
    readLines open? body (front ++ [last ++ ['\n']]) = .ok found := by
  induction front generalizing open? body found with
  | nil =>
    obtain ⟨done, next?, content, later, step, after, rfl⟩ := readLines_cons_ok.mp read
    -- the last line leaves nothing open, or the text could not be read
    cases next? with
    | some label => simp [readLines] at after
    | none => exact readLines_cons_ok.mpr ⟨done, none, content, later, step.feed, after, rfl⟩
  | cons line rest ih =>
    obtain ⟨done, next?, content, later, step, after, rfl⟩ := readLines_cons_ok.mp read
    exact readLines_cons_ok.mpr ⟨done, next?, content, later, step, ih after, rfl⟩

/-- What follows a text that can be read is read alone if it starts on a line of its own. -/
theorem sections_append {first : String} {c : Char} {found : List Section}
    (last : first.toList.getLast? = some c) (ends : isLineEnd c = true)
    (read : sections first = .ok found) (second : String) :
    sections (first ++ second) = (sections second).map (found ++ ·) := by
  obtain ⟨front, whole⟩ := List.getLast?_eq_some_iff.mp last
  unfold sections at read ⊢
  rw [whole] at read
  rw [String.toList_append, whole, List.append_assoc, List.singleton_append,
    lines_append_of_end ends, readLines_append (fun _ => rfl) read]

theorem sections_feed {text : String} {found : List Section} (read : sections text = .ok found) :
    sections (text ++ "\n") = .ok found := by
  have feed : readLines none [] [['\n']] = .ok [] := rfl
  unfold sections at read ⊢
  rw [String.toList_append, show "\n".toList = ['\n'] from rfl]
  rcases lines_feed text.toList with apart | ⟨front, last, split, joined⟩
  · rw [apart, readLines_append (fun _ => rfl) read, feed, Except.map, List.append_nil]
  · rw [split] at read
    rw [joined, readLines_feed read]

/-- The contents of those sections that hold certificates. -/
def certified (found : List Section) : List Bytes :=
  (found.filter fun s => s.label = "CERTIFICATE".toList).map Section.content

@[simp] theorem certified_append (found later : List Section) :
    certified (found ++ later) = certified found ++ certified later := by
  simp [certified]

theorem certificates_ok_iff {text : String} {ders : List Bytes} :
    certificates text = .ok ders ↔ ∃ found, sections text = .ok found ∧ certified found = ders := by
  unfold certificates certified
  cases sections text <;> simp

theorem certificates_append {first : String} {c : Char} {ders : List Bytes}
    (last : first.toList.getLast? = some c) (ends : isLineEnd c = true)
    (read : certificates first = .ok ders) (second : String) :
    certificates (first ++ second) = (certificates second).map (ders ++ ·) := by
  obtain ⟨found, alone, rfl⟩ := certificates_ok_iff.mp read
  rw [certificates, sections_append last ends alone, certificates]
  cases sections second <;> simp [Except.map, certified]

theorem certificates_feed {text : String} {ders : List Bytes}
    (read : certificates text = .ok ders) : certificates (text ++ "\n") = .ok ders := by
  obtain ⟨found, alone, same⟩ := certificates_ok_iff.mp read
  exact certificates_ok_iff.mpr ⟨found, sections_feed alone, same⟩

end Throughput.Pem
