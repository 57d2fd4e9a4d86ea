import Throughput.Proofs.Json.Documents

/-! A document that is written is read back, with the members of its objects in the order of
their names. -/
namespace Throughput.Json.Value

mutual

/-- All numbers in it are read back. -/
def Legible : Value → Prop
  | number n => n.Legible
  | list items => LegibleItems items
  | object members => LegibleMembers members
  | _ => True

def LegibleItems : List Value → Prop
  | [] => True
  | v :: rest => v.Legible ∧ LegibleItems rest

def LegibleMembers : List (String × Value) → Prop
  | [] => True
  | (_, v) :: rest => v.Legible ∧ LegibleMembers rest

end

theorem spelledMember_print {name : String} {v : Value} {s : List Char} (spelled : Spelled v s) :
    SpelledMember (name, v) (printText name ++ ':' :: s) := by
  have member := SpelledMember.mk blanks_nil (escapes_spelled name.toList) blanks_nil (.of_spelled spelled)
  simpa [printText] using member

mutual

/-- A document is written as it may be spelled. -/
theorem print_spelled : ∀ {v : Value}, v.Legible → Spelled v v.print
  | null, _ => .null
  | bool true, _ => .yes
  | bool false, _ => .no
  | number n, legible => by
    obtain ⟨numeral, spelled, value⟩ := Number.Legible.print_spelled legible
    exact .number spelled value
  | text s, _ => .text (escapes_spelled s.toList)
  | list [], _ => .noItems blanks_nil
  | list (v :: items), legible => .items (printItems_spelled (List.cons_ne_nil v items) legible)
  | object [], _ => .noMembers blanks_nil
  | object (m :: members), legible => .members (printMembers_spelled (List.cons_ne_nil m members) legible)

theorem printItems_spelled : ∀ {items : List Value}, items ≠ [] → LegibleItems items →
    SpelledItems items (printItems items)
  | [_], _, ⟨legible, _⟩ => .one (.of_spelled (print_spelled legible))
  | _ :: w :: items, _, ⟨legible, others⟩ =>
    .more (.of_spelled (print_spelled legible)) (printItems_spelled (List.cons_ne_nil w items) others)

theorem printMembers_spelled : ∀ {members : List (String × Value)}, members ≠ [] → LegibleMembers members →
    SpelledMembers members (printMembers members)
  | [(_, _)], _, ⟨legible, _⟩ => .one (spelledMember_print (print_spelled legible))
  | (_, _) :: m :: members, _, ⟨legible, others⟩ =>
    .more (spelledMember_print (print_spelled legible)) (printMembers_spelled (List.cons_ne_nil m members) others)

end

theorem render_spelled {v : Value} (legible : v.Legible) : SpelledItem v v.render.toList := by
  rw [render, String.toList_ofList]
  exact .of_spelled (print_spelled legible)

end Throughput.Json.Value
