import Mathlib.Data.List.Induction
import Throughput.Text.Blank

/-! Lines of a text and the white space in them: what trimming leaves of a line, and where
in a text a part without line feeds can occur. -/
namespace Throughput.Text

def withoutBlank (cs : List Char) : List Char := cs.filter fun c => !isBlank c

theorem withoutBlank_append (a b : List Char) :
    withoutBlank (a ++ b) = withoutBlank a ++ withoutBlank b := List.filter_append ..

theorem withoutBlank_eq_nil_iff {cs : List Char} :
    withoutBlank cs = [] ↔ ∀ c ∈ cs, isBlank c = true := by
  simp [withoutBlank, List.filter_eq_nil_iff]

theorem withoutBlank_feed (cs : List Char) : withoutBlank ('\n' :: cs) = withoutBlank cs :=
  List.filter_cons_of_neg (by decide)

theorem withoutBlank_dropBlank (cs : List Char) : withoutBlank (dropBlank cs) = withoutBlank cs := by
  induction cs with
  | nil => rfl
  | cons c rest ih =>
    by_cases blank : isBlank c = true
    · simpa [dropBlank, withoutBlank, blank] using ih
    · simp [dropBlank, blank]

theorem withoutBlank_reverse (cs : List Char) :
    withoutBlank cs.reverse = (withoutBlank cs).reverse := List.filter_reverse ..

theorem withoutBlank_trimChars (cs : List Char) : withoutBlank (trimChars cs) = withoutBlank cs := by
  rw [trimChars, withoutBlank_reverse, withoutBlank_dropBlank, withoutBlank_reverse,
    List.reverse_reverse, withoutBlank_dropBlank]

theorem trimChars_occurs (cs : List Char) : trimChars cs <:+: cs := by
  have front : dropBlank cs <:+ cs := List.dropWhile_suffix _
  have back : trimChars cs <+: dropBlank cs := by
    have behind : dropBlank (dropBlank cs).reverse <:+ (dropBlank cs).reverse :=
      List.dropWhile_suffix _
    rw [trimChars, ← List.reverse_suffix, List.reverse_reverse]
    exact behind
  exact back.isInfix.trans front.isInfix

theorem trimChars_between (cs : List Char) : ∃ front back, cs = front ++ trimChars cs ++ back ∧
    (∀ c ∈ front, isBlank c = true) ∧ ∀ c ∈ back, isBlank c = true := by
  obtain ⟨front, back, whole⟩ := trimChars_occurs cs
  have parts : withoutBlank cs = withoutBlank front ++ withoutBlank cs ++ withoutBlank back := by
    rw [← withoutBlank_trimChars cs, ← withoutBlank_append, ← withoutBlank_append, whole,
      withoutBlank_trimChars]
  have lengths := congrArg List.length parts
  simp only [List.length_append] at lengths
  refine ⟨front, back, whole.symm, ?_, ?_⟩
  · exact withoutBlank_eq_nil_iff.mp (List.eq_nil_of_length_eq_zero (by omega))
  · exact withoutBlank_eq_nil_iff.mp (List.eq_nil_of_length_eq_zero (by omega))

theorem trimChars_concat {c : Char} (blank : isBlank c = true) (cs : List Char) :
    trimChars (cs ++ [c]) = trimChars cs := by
  have dropped : dropBlank (cs ++ [c]) =
      if (dropBlank cs).isEmpty then [] else dropBlank cs ++ [c] := by
    simp [dropBlank, List.dropWhile_append, blank]
  unfold trimChars
  rw [dropped]
  cases front : dropBlank cs with
  | nil => rfl
  | cons d rest => simp [dropBlank, blank]

theorem dropBlank_solid {cs : List Char} (solid : ∀ c ∈ cs, isBlank c = false) : dropBlank cs = cs := by
  cases cs with
  | nil => rfl
  | cons c rest => exact List.dropWhile_cons_of_neg (by simp [solid c List.mem_cons_self])

/-- Blanks around a text without any are all that is trimmed. -/
theorem trimChars_around {front core back : List Char} (leading : ∀ c ∈ front, isBlank c = true)
    (solid : ∀ c ∈ core, isBlank c = false) (trailing : ∀ c ∈ back, isBlank c = true) :
    trimChars (front ++ core ++ back) = core := by
  induction back using List.reverseRecOn with
  | nil =>
    have dropped : dropBlank (front ++ core) = core := by
      rw [dropBlank, List.dropWhile_append_of_pos leading]
      exact dropBlank_solid solid
    rw [List.append_nil, trimChars, dropped, dropBlank_solid (by simpa using solid), List.reverse_reverse]
  | append_singleton back c ih =>
    rw [← List.append_assoc, trimChars_concat (trailing c (by simp))]
    exact ih fun d member => trailing d (by simp [member])

/-- The carriage return of a line end is one more blank at the end of its line. -/
theorem trimChars_dropReturn (line : List Char) : trimChars (dropReturn line) = trimChars line := by
  unfold dropReturn
  split
  · rename_i ends
    obtain ⟨front, rfl⟩ := List.getLast?_eq_some_iff.mp ends
    rw [List.dropLast_concat, trimChars_concat (by decide)]
  · rfl

/-- A text is a line without a line feed, or such a line before a line feed and a text. -/
theorem line_induction {P : List Char → Prop} (last : ∀ line, '\n' ∉ line → P line)
    (more : ∀ line rest, '\n' ∉ line → P rest → P (line ++ '\n' :: rest)) (text : List Char) :
    P text := by
  by_cases feed : '\n' ∈ text
  · obtain ⟨line, rest, rfl, unbroken⟩ := List.eq_append_cons_of_mem feed
    exact more line rest unbroken (line_induction last more rest)
  · exact last text feed
termination_by text.length
decreasing_by
  subst_vars
  simp only [List.length_append, List.length_cons]
  omega

theorem splitOn_more {line : List Char} (unbroken : '\n' ∉ line) (rest : List Char) :
    (line ++ '\n' :: rest).splitOn '\n' = line :: rest.splitOn '\n' :=
  List.splitOn_append_cons_self_of_not_mem unbroken rest

theorem unbroken_of_mem_splitOn {text line : List Char} (member : line ∈ text.splitOn '\n') :
    '\n' ∉ line := by
  induction text using line_induction with
  | last single unbroken =>
    rw [List.splitOn_eq_singleton unbroken, List.mem_singleton] at member
    exact member ▸ unbroken
  | more first rest unbroken ih =>
    rw [splitOn_more unbroken, List.mem_cons] at member
    rcases member with rfl | later
    · exact unbroken
    · exact ih later

/-- Lines with their line feeds. -/
def ended (lines : List (List Char)) : List Char := lines.flatMap fun line => line ++ ['\n']

theorem withoutBlank_ended (lines : List (List Char)) :
    withoutBlank (ended lines) = lines.flatMap withoutBlank := by
  induction lines with
  | nil => rfl
  | cons line rest ih =>
    rw [ended, List.flatMap_cons, ← ended, List.append_assoc, withoutBlank_append,
      List.singleton_append, withoutBlank_feed, ih, List.flatMap_cons]

theorem splitOn_ended {lines : List (List Char)} (unbroken : ∀ line ∈ lines, '\n' ∉ line)
    (rest : List Char) : (ended lines ++ rest).splitOn '\n' = lines ++ rest.splitOn '\n' := by
  induction lines with
  | nil => rfl
  | cons line more ih =>
    obtain ⟨first, later⟩ := List.forall_mem_cons.mp unbroken
    rw [ended, List.flatMap_cons, ← ended, List.append_assoc, List.append_assoc]
    exact (splitOn_more first _).trans (congrArg (line :: ·) (ih later))

theorem intercalate_append {lines rest : List (List Char)} (more : rest ≠ []) :
    ['\n'].intercalate (lines ++ rest) = ended lines ++ ['\n'].intercalate rest := by
  induction lines with
  | nil => rfl
  | cons line later ih =>
    have follow : later ++ rest ≠ [] := fun none => more (List.append_eq_nil_iff.mp none).2
    rw [List.cons_append, List.intercalate_cons_of_ne_nil follow, ih, ended, ended, List.flatMap_cons,
      List.append_assoc _ _ (['\n'].intercalate rest)]

theorem eq_nil_of_prefix_feed {part rest : List Char} (unbroken : '\n' ∉ part)
    (starts : part <+: '\n' :: rest) : part = [] := by
  cases part with
  | nil => rfl
  | cons c tail =>
    have first := (List.cons_prefix_cons.mp starts).1
    exact absurd (first ▸ List.mem_cons_self) unbroken

/-- A part without line feeds occurs in a text where it occurs in one of its lines. -/
theorem infix_iff_line {part : List Char} (unbroken : '\n' ∉ part) (text : List Char) :
    part <:+: text ↔ ∃ line ∈ text.splitOn '\n', part <:+: line := by
  induction text using line_induction with
  | last line single => simp [List.splitOn_eq_singleton single]
  | more line rest single ih =>
    have apart : part <:+: line ++ '\n' :: rest ↔ part <:+: line ∨ part <:+: rest := by
      rw [List.infix_append_iff, List.infix_cons_iff]
      constructor
      · rintro (inside | (starts | inside) | ⟨front, back, rfl, ends, starts⟩)
        -- what would lie across the feed has to start with it beyond the line
        · exact .inl inside
        · rw [eq_nil_of_prefix_feed unbroken starts]
          exact .inl List.nil_infix
        · exact .inr inside
        · have unbrokenBack : '\n' ∉ back := fun feed => unbroken (List.mem_append_right _ feed)
          rw [eq_nil_of_prefix_feed unbrokenBack starts, List.append_nil]
          exact .inl ends.isInfix
      · rintro (inside | inside)
        · exact .inl inside
        · exact .inr (.inl (.inr inside))
    rw [apart, ih, splitOn_more single]
    simp

theorem occursIn_iff (part text : List Char) : occursIn part text = true ↔ part <:+: text := by
  induction text with
  | nil => simp [occursIn]
  | cons c rest ih => rw [occursIn, Bool.or_eq_true, ih, List.isPrefixOf_iff_prefix, List.infix_cons_iff]

end Throughput.Text
