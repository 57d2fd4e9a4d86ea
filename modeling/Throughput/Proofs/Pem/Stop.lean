import Throughput.Proofs.Pem

/-! Texts that cannot be read to their end. Reading stops at one line for one reason, and the
sections before it are complete. -/
namespace Throughput.Pem

/-- Why the lines that are left cannot be read: a BEGIN line without a label, a section whose lines
are not base64, or one that does not end. -/
inductive Stops (open? : Option (List Char)) (body : List Char) : List (List Char) → Error → Prop
  | illegal {line : List Char} (begins : beginMark.isPrefixOf line = true) (unnamed : label? line = none)
      (rest : List (List Char)) : Stops open? body (line :: rest) (.illegalStart line)
  | undecoded {label line : List Char} {cause : Base64.Error}
      (plain : ¬ beginMark.isPrefixOf line = true) (inside : open? = some label)
      (ends : (endMark label).isPrefixOf line = true)
      (garbled : Base64.decodeLenient (Text.utf8 (.ofList body)) = .error cause)
      (rest : List (List Char)) : Stops open? body (line :: rest) (.base64 cause)
  | unended {label : List Char} (inside : open? = some label) : Stops open? body [] (.missingEnd label)

/-- The sections that lines complete, and why reading stops before their end if it does. -/
inductive Completes : Option (List Char) → List Char → List (List Char) → List Section →
    Option Error → Prop
  | outside {body : List Char} : Completes none body [] [] none
  | stopped {open? : Option (List Char)} {body : List Char} {rest : List (List Char)} {e : Error}
      (stops : Stops open? body rest e) : Completes open? body rest [] (some e)
  | step {open? next? : Option (List Char)} {body content line : List Char} {rest : List (List Char)}
      {done later : List Section} {stop? : Option Error} (step : Step open? body line done next? content)
      (after : Completes next? content rest later stop?) :
      Completes open? body (line :: rest) (done ++ later) stop?

section

variable {open? : Option (List Char)} {body line : List Char} {rest : List (List Char)}

/-- A line is read, or reading stops there whatever follows. -/
theorem step_or_stops (open? : Option (List Char)) (body line : List Char) :
    (∃ done next? content, Step open? body line done next? content) ∨
      ∃ e, ∀ rest, Stops open? body (line :: rest) e := by
  by_cases begins : beginMark.isPrefixOf line = true
  · cases named : label? line with
    | none => exact .inr ⟨_, .illegal begins named⟩
    | some label => exact .inl ⟨_, _, _, .opens begins named⟩
  · cases open? with
    | none => exact .inl ⟨_, _, _, .skips begins rfl⟩
    | some label =>
      by_cases ends : (endMark label).isPrefixOf line = true
      · cases decoded : Base64.decodeLenient (Text.utf8 (.ofList body)) with
        | error cause => exact .inr ⟨_, .undecoded begins rfl ends decoded⟩
        | ok content => exact .inl ⟨_, _, _, .closes begins rfl ends decoded⟩
      · exact .inl ⟨_, _, _, .adds begins rfl ends⟩

theorem exists_completes (open? : Option (List Char)) (body : List Char) (lines : List (List Char)) :
    ∃ done stop?, Completes open? body lines done stop? := by
  induction lines generalizing open? body with
  | nil =>
    cases open? with
    | none => exact ⟨_, _, .outside⟩
    | some label => exact ⟨_, _, .stopped (.unended rfl)⟩
  | cons line rest ih =>
    rcases step_or_stops open? body line with ⟨done, next?, content, step⟩ | ⟨e, stops⟩
    · obtain ⟨later, stop?, after⟩ := ih next? content
      exact ⟨_, _, .step step after⟩
    · exact ⟨_, _, .stopped (stops rest)⟩

theorem Stops.read {e : Error} (stops : Stops open? body rest e) :
    readLines open? body rest = .error e := by
  cases stops with
  | illegal begins unnamed => simp only [readLines, if_pos begins, unnamed]
  | undecoded plain inside ends garbled =>
    subst inside
    simp only [readLines, if_neg plain, if_pos ends, garbled]
  | unended inside =>
    subst inside
    rfl

/-- What is read of lines: all their sections, or none if reading stops. -/
theorem Completes.read {lines : List (List Char)} {done : List Section} {stop? : Option Error}
    (completes : Completes open? body lines done stop?) :
    readLines open? body lines = stop?.elim (.ok done) .error := by
  induction completes with
  | outside => rfl
  | stopped stops => exact stops.read
  | @step _ _ _ _ _ rest _ later stop? step _ ih =>
    rw [step.read, ih]
    cases stop? <;> rfl

theorem Step.not_stops {next? : Option (List Char)} {content : List Char} {done : List Section} {e : Error}
    (step : Step open? body line done next? content) : ¬ Stops open? body (line :: rest) e := by
  intro stops
  cases stops with
  | illegal begins unnamed =>
    cases step with
    | opens _ named => cases unnamed.symm.trans named
    | skips plain | closes plain | adds plain => exact plain begins
  | undecoded plain inside ends garbled =>
    cases step with
    | opens begins => exact plain begins
    | skips _ outside => cases inside.symm.trans outside
    | closes _ same _ decoded => cases garbled.symm.trans decoded
    | adds _ same runs =>
      obtain rfl := Option.some.inj (inside.symm.trans same)
      exact runs ends

/-- A line does one thing. -/
theorem Step.unique {done done' : List Section} {next? next?' : Option (List Char)}
    {content content' : List Char} (step : Step open? body line done next? content)
    (other : Step open? body line done' next?' content') :
    done = done' ∧ next? = next?' ∧ content = content' := by
  cases step with
  | opens begins named =>
    cases other with
    | opens _ same =>
      obtain rfl := Option.some.inj (named.symm.trans same)
      exact ⟨rfl, rfl, rfl⟩
    | skips plain | closes plain | adds plain => exact absurd begins plain
  | skips plain outside =>
    cases other with
    | opens begins => exact absurd begins plain
    | skips => exact ⟨rfl, rfl, rfl⟩
    | closes _ inside | adds _ inside => cases outside.symm.trans inside
  | closes plain inside ends decoded =>
    cases other with
    | opens begins => exact absurd begins plain
    | skips _ outside => cases inside.symm.trans outside
    | closes _ same _ again =>
      obtain rfl := Option.some.inj (inside.symm.trans same)
      obtain rfl := Except.ok.inj (decoded.symm.trans again)
      exact ⟨rfl, rfl, rfl⟩
    | adds _ same runs =>
      obtain rfl := Option.some.inj (inside.symm.trans same)
      exact absurd ends runs
  | adds plain inside runs =>
    cases other with
    | opens begins => exact absurd begins plain
    | skips _ outside => cases inside.symm.trans outside
    | closes _ same ends =>
      obtain rfl := Option.some.inj (inside.symm.trans same)
      exact absurd ends runs
    | adds _ same =>
      obtain rfl := Option.some.inj (inside.symm.trans same)
      exact ⟨rfl, rfl, rfl⟩

theorem Stops.unique {e e' : Error} (stops : Stops open? body rest e)
    (other : Stops open? body rest e') : e = e' :=
  Except.error.inj (stops.read.symm.trans other.read)

theorem Completes.unique {lines : List (List Char)} {done done' : List Section}
    {stop? stop?' : Option Error} (completes : Completes open? body lines done stop?)
    (other : Completes open? body lines done' stop?') : done = done' ∧ stop? = stop?' := by
  induction completes generalizing done' stop?' with
  | outside =>
    cases other with
    | outside => exact ⟨rfl, rfl⟩
    | stopped stops => nomatch stops
  | stopped stops =>
    cases other with
    | outside => nomatch stops
    | stopped again => exact ⟨rfl, congrArg some (stops.unique again)⟩
    | step step => exact absurd stops step.not_stops
  | step step after ih =>
    cases other with
    | stopped stops => exact absurd stops step.not_stops
    | step again later =>
      obtain ⟨rfl, rfl, rfl⟩ := step.unique again
      obtain ⟨rfl, rfl⟩ := ih later
      exact ⟨rfl, rfl⟩

end

/-- Lines after those that can be read are read as if they stood alone. -/
theorem Completes.append {open? : Option (List Char)} {body : List Char} {first second : List (List Char)}
    {done later : List Section} {stop? end? : Option Error}
    (completes : Completes open? body first done end?) (whole : end? = none)
    (outside : open? = none → body = []) (after : Completes none [] second later stop?) :
    Completes open? body (first ++ second) (done ++ later) stop? := by
  induction completes with
  | outside =>
    obtain rfl := outside rfl
    exact after
  | stopped => nomatch whole
  | step step _ ih =>
    rw [List.append_assoc]
    exact .step step (ih whole (step.outside outside))

theorem sections_ok_iff {text : String} {found : List Section} :
    sections text = .ok found ↔ Completes none [] (lines text.toList) found none := by
  constructor
  · intro read
    obtain ⟨done, stop?, completes⟩ := exists_completes none [] (lines text.toList)
    cases stop? with
    | some e => cases completes.read.symm.trans read
    | none =>
      obtain rfl : done = found := Except.ok.inj (completes.read.symm.trans read)
      exact completes
  · exact Completes.read

theorem sections_error_iff {text : String} {e : Error} :
    sections text = .error e ↔ ∃ found, Completes none [] (lines text.toList) found (some e) := by
  constructor
  · intro unread
    obtain ⟨done, stop?, completes⟩ := exists_completes none [] (lines text.toList)
    cases stop? with
    | none => cases completes.read.symm.trans unread
    | some other =>
      obtain rfl : other = e := Except.error.inj (completes.read.symm.trans unread)
      exact ⟨done, completes⟩
  · rintro ⟨found, completes⟩
    exact completes.read

theorem completes_append {first second : String} {c : Char} {found later : List Section}
    {stop? : Option Error} (last : first.toList.getLast? = some c) (ends : isLineEnd c = true)
    (read : sections first = .ok found) (after : Completes none [] (lines second.toList) later stop?) :
    Completes none [] (lines (first ++ second).toList) (found ++ later) stop? := by
  obtain ⟨front, whole⟩ := List.getLast?_eq_some_iff.mp last
  have alone := sections_ok_iff.mp read
  rw [whole] at alone
  rw [String.toList_append, whole, List.append_assoc, List.singleton_append, lines_append_of_end ends]
  exact alone.append rfl (fun _ => rfl) after

theorem certificates_error_iff {text : String} {e : Error} :
    certificates text = .error e ↔ sections text = .error e := by
  unfold certificates
  cases sections text <;> simp

end Throughput.Pem
