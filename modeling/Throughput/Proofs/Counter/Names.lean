import Mathlib.Tactic.SplitIfs
import Throughput.Proofs.Counter
import Throughput.Proofs.Text.Order

/-! The names of a registry. They are kept in increasing order, each with one cell, and a search
finds those that match in the order of their bytes. -/
namespace Throughput.Counter

/-- A name is the pattern itself, or starts with what stands before a star at its end. -/
def Matches (pattern name : String) : Prop :=
  name = pattern ∨ ∃ start : List Char, pattern.toList = start ++ ['*'] ∧ start <+: name.toList

theorem matchesPattern_iff (pattern name : String) :
    matchesPattern pattern.toList name.toList = true ↔ Matches pattern name := by
  unfold matchesPattern Matches
  split
  case isTrue star =>
    obtain ⟨start, whole⟩ := List.getLast?_eq_some_iff.mp star
    rw [List.isPrefixOf_iff_prefix, whole, List.dropLast_concat]
    constructor
    · exact fun starts => .inr ⟨start, rfl, starts⟩
    · rintro (rfl | ⟨other, same, starts⟩)
      · exact ⟨['*'], whole.symm⟩
      · rwa [List.append_cancel_right same]
  case isFalse plain =>
    rw [beq_iff_eq, String.toList_inj]
    constructor
    · exact fun same => .inl same.symm
    · rintro (same | ⟨start, whole, -⟩)
      · exact same.symm
      · exact absurd (List.getLast?_eq_some_iff.mpr ⟨start, whole⟩) plain

namespace Registry

/-- Every name comes once, and they increase. -/
def Ordered (r : Registry) : Prop := r.names.Pairwise fun a b => a.1 < b.1

section Names

variable {names : List (String × Cell)} {name : String} {cell : Cell}

theorem lookup_cons_eq (entry : String × Cell) (rest : List (String × Cell)) (name : String) :
    (entry :: rest).lookup name = if name = entry.1 then some entry.2 else rest.lookup name := by
  rw [List.lookup_cons]
  by_cases first : name = entry.1
  · simp [first]
  · rw [beq_eq_false_iff_ne.mpr first, if_neg first]

theorem lookup_eq_none_cons {entry : String × Cell} {rest : List (String × Cell)}
    (absent : (entry :: rest).lookup name = none) : name ≠ entry.1 ∧ rest.lookup name = none := by
  rw [lookup_cons_eq] at absent
  split_ifs at absent with first
  exact ⟨first, absent⟩

theorem lookup_isSome_iff : (names.lookup name).isSome ↔ name ∈ names.map Prod.fst := by
  induction names with
  | nil => simp
  | cons entry rest ih =>
    rw [lookup_cons_eq, List.map_cons, List.mem_cons, ← ih]
    split_ifs with first <;> simp [first]

theorem lookup_insertName (absent : names.lookup name = none) (other : String) :
    (insertName name cell names).lookup other = if other = name then some cell else names.lookup other := by
  induction names with
  | nil => exact lookup_cons_eq (name, cell) [] other
  | cons entry rest ih =>
    obtain ⟨apart, later⟩ := lookup_eq_none_cons absent
    unfold insertName
    split
    · exact lookup_cons_eq (name, cell) (entry :: rest) other
    · rw [lookup_cons_eq, lookup_cons_eq, ih later]
      by_cases first : other = entry.1
      · rw [if_pos first, if_pos first, if_neg (first ▸ Ne.symm apart)]
      · rw [if_neg first, if_neg first]

theorem lookup_without (other : String) :
    (names.filter fun entry => entry.1 ≠ name).lookup other =
      if other = name then none else names.lookup other := by
  induction names with
  | nil => simp
  | cons entry rest ih =>
    rw [lookup_cons_eq entry rest]
    by_cases removed : entry.1 = name
    · rw [List.filter_cons_of_neg (by simpa using removed), ih]
      split_ifs with same first
      · rfl
      · exact absurd (first.trans removed) same
      · rfl
    · rw [List.filter_cons_of_pos (by simpa using removed), lookup_cons_eq, ih]
      by_cases first : other = entry.1
      · rw [if_pos first, if_pos first, if_neg (first ▸ removed)]
      · rw [if_neg first, if_neg first]

theorem insertName_pairwise (absent : names.lookup name = none)
    (ordered : names.Pairwise fun a b => a.1 < b.1) :
    (insertName name cell names).Pairwise fun a b => a.1 < b.1 := by
  induction names with
  | nil => exact List.pairwise_singleton _ _
  | cons entry rest ih =>
    obtain ⟨apart, later⟩ := lookup_eq_none_cons absent
    obtain ⟨least, increasing⟩ := List.pairwise_cons.mp ordered
    unfold insertName
    split
    case isTrue less =>
      refine List.pairwise_cons.mpr ⟨fun other member => ?_, ordered⟩
      rcases List.mem_cons.mp member with rfl | member
      · exact less
      · exact String.lt_trans less (least other member)
    case isFalse greater =>
      refine List.pairwise_cons.mpr ⟨fun other member => ?_, ih later increasing⟩
      rcases mem_insertName member with rfl | member
      · rcases Std.le_iff_lt_or_eq.mp (String.not_lt.mp greater) with less | same
        · exact less
        · exact absurd same.symm apart
      · exact least other member

end Names

theorem ordered_empty : empty.Ordered := .nil

theorem ordered_perform {r : Registry} (op : Operation) (ordered : r.Ordered) : (r.perform op).Ordered := by
  cases op with
  | register name =>
    cases found : r.get? name with
    | some cell =>
      rw [perform, register, found]
      exact ordered
    | none =>
      rw [perform, register, found]
      exact insertName_pairwise found ordered
  | unregister name => exact ordered.filter _
  | store cell value => exact ordered
  | add cell amount => exact ordered

section Search

variable {r : Registry} (pattern : String)

theorem mem_find (name : String) :
    name ∈ r.find pattern ↔ name ∈ r.names.map Prod.fst ∧ Matches pattern name := by
  rw [find, List.mem_filter, matchesPattern_iff]

theorem find_increasing (ordered : r.Ordered) : (r.find pattern).Pairwise Text.BytesBefore := by
  have increasing : (r.names.map Prod.fst).Pairwise (· < ·) := List.pairwise_map.mpr ordered
  exact (increasing.imp Text.bytesBefore_of_lt).filter _

theorem locate_eq : (r.locate pattern).1 =
    (r.find pattern).head?.bind fun name => (r.get? name).map (name, ·) := by
  unfold locate
  split <;> simp [*]

end Search

end Registry
end Throughput.Counter
