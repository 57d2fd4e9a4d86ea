import Mathlib.Data.List.Perm.Basic
import Throughput.Proofs.Json.Documents

/-! The order of members. A document that was read has them in the order of their names, so the
order in which they were written does not matter. -/
namespace Throughput.Json

section

variable {α : Type} {members : List (String × α)}

/-- Members in the order of their names, each name once. -/
def Ascending (members : List (String × α)) : Prop := members.Pairwise fun m n => m.1 < n.1

theorem lt_of_not_lt {x y : String} (less : ¬ x < y) (same : x ≠ y) : y < x := by
  rcases Std.le_iff_lt_or_eq.mp (String.not_lt.mp less) with greater | equal
  · exact greater
  · exact absurd equal.symm same

theorem mem_insertMember {name : String} {a : α} {m : String × α} (member : m ∈ insertMember name a members) :
    m = (name, a) ∨ m ∈ members := by
  induction members with
  | nil => exact .inl (List.mem_singleton.mp member)
  | cons n rest ih =>
    rw [insertMember] at member
    split_ifs at member
    · exact List.mem_cons.mp member
    · exact (List.mem_cons.mp member).imp_right (List.mem_cons_of_mem n)
    · rcases List.mem_cons.mp member with rfl | member
      · exact .inr List.mem_cons_self
      · exact (ih member).imp_right (List.mem_cons_of_mem n)

theorem Ascending.insertMember (ascending : Ascending members) (name : String) (a : α) :
    Ascending (insertMember name a members) := by
  induction members with
  | nil => exact List.pairwise_singleton _ _
  | cons n rest ih =>
    obtain ⟨least, ascending'⟩ := List.pairwise_cons.mp ascending
    rw [Json.insertMember]
    split_ifs with less same
    · refine List.pairwise_cons.mpr ⟨?_, ascending⟩
      rintro m member
      rcases List.mem_cons.mp member with rfl | member
      · exact less
      · exact String.lt_trans less (least m member)
    · subst same
      exact List.pairwise_cons.mpr ⟨least, ascending'⟩
    · refine List.pairwise_cons.mpr ⟨?_, ih ascending'⟩
      intro m member
      rcases mem_insertMember member with rfl | member
      · exact lt_of_not_lt less same
      · exact least m member

/-- Members of different names are put in their places in any order. -/
theorem insertMember_comm {x y : String} (differ : x ≠ y) (a b : α) (members : List (String × α)) :
    insertMember x a (insertMember y b members) = insertMember y b (insertMember x a members) := by
  induction members with
  | nil =>
    simp only [insertMember]
    grind
  | cons n rest ih =>
    -- by the places of both names before, at or after the first one there
    simp only [insertMember]
    grind [insertMember]

end

namespace Value

mutual

/-- The members of every object in it are in the order of their names. -/
def Ordered : Value → Prop
  | list items => OrderedItems items
  | object members => Ascending members ∧ OrderedMembers members
  | _ => True

def OrderedItems : List Value → Prop
  | [] => True
  | v :: rest => v.Ordered ∧ OrderedItems rest

def OrderedMembers : List (String × Value) → Prop
  | [] => True
  | (_, v) :: rest => v.Ordered ∧ OrderedMembers rest

end

theorem OrderedMembers.insertMember {members : List (String × Value)} (ordered : OrderedMembers members)
    (name : String) {v : Value} (value : v.Ordered) : OrderedMembers (insertMember name v members) := by
  induction members with
  | nil => exact ⟨value, trivial⟩
  | cons m rest ih =>
    rw [Json.insertMember]
    split_ifs
    · exact ⟨value, ordered⟩
    · exact ⟨value, ordered.2⟩
    · exact ⟨ordered.1, ih ordered.2⟩

mutual

theorem sorted_ordered : ∀ v : Value, v.sorted.Ordered
  | null => trivial
  | bool _ => trivial
  | number _ => trivial
  | text _ => trivial
  | list items => sortedItems_ordered items
  | object members => sortedMembers_ordered members .nil trivial

theorem sortedItems_ordered : ∀ items : List Value, OrderedItems (sortedItems items)
  | [] => trivial
  | v :: rest => ⟨sorted_ordered v, sortedItems_ordered rest⟩

theorem sortedMembers_ordered : ∀ (members : List (String × Value)) {before : List (String × Value)},
    Ascending before → OrderedMembers before →
    Ascending (sortedMembers before members) ∧ OrderedMembers (sortedMembers before members)
  | [], _, ascending, ordered => ⟨ascending, ordered⟩
  | (name, v) :: rest, _, ascending, ordered =>
    sortedMembers_ordered rest (ascending.insertMember name v.sorted)
      (ordered.insertMember name (sorted_ordered v))

end

/-- A document that was read is in order. -/
theorem parse_ordered {text : String} {document : Value} (read : parse text = .ok document) : document.Ordered := by
  obtain ⟨v, -, -, rfl⟩ := parse_eq_ok_iff.mp read
  exact v.sorted_ordered

mutual

/-- The same document but for the order in which members of different names stand. -/
inductive Reordered : Value → Value → Prop where
  | same (v : Value) : Reordered v v
  | items {vs ws : List Value} : ReorderedItems vs ws → Reordered (list vs) (list ws)
  | members {ms ns : List (String × Value)} : ReorderedMembers ms ns → Reordered (object ms) (object ns)
  | swap {m n : String × Value} (front rest : List (String × Value)) : m.1 ≠ n.1 →
      Reordered (object (front ++ m :: n :: rest)) (object (front ++ n :: m :: rest))
  | trans {u v w : Value} : Reordered u v → Reordered v w → Reordered u w

inductive ReorderedItems : List Value → List Value → Prop where
  | nil : ReorderedItems [] []
  | cons {v w : Value} {vs ws : List Value} : Reordered v w → ReorderedItems vs ws →
      ReorderedItems (v :: vs) (w :: ws)

inductive ReorderedMembers : List (String × Value) → List (String × Value) → Prop where
  | nil : ReorderedMembers [] []
  | cons {v w : Value} {ms ns : List (String × Value)} (name : String) : Reordered v w →
      ReorderedMembers ms ns → ReorderedMembers ((name, v) :: ms) ((name, w) :: ns)

end

/-- Members with names all different may stand in any order. -/
theorem Reordered.of_perm {ms ns : List (String × Value)} (distinct : (ms.map Prod.fst).Nodup)
    (perm : ms.Perm ns) : Reordered (object ms) (object ns) := by
  suffices any : ∀ front, Reordered (object (front ++ ms)) (object (front ++ ns)) from any []
  induction perm with
  | nil => exact fun front => .same _
  | cons m _ ih =>
    intro front
    have further := ih (List.nodup_cons.mp distinct).2 (front ++ [m])
    rwa [List.append_assoc, List.append_assoc] at further
  | swap m n rest =>
    intro front
    refine .swap front rest ?_
    intro same
    exact (List.nodup_cons.mp distinct).1 (List.mem_cons.mpr (.inl same))
  | trans first _ ih ih' =>
    intro front
    exact .trans (ih distinct front) (ih' ((first.map Prod.fst).nodup_iff.mp distinct) front)

theorem sortedMembers_append (before front rest : List (String × Value)) :
    sortedMembers before (front ++ rest) = sortedMembers (sortedMembers before front) rest := by
  induction front generalizing before with
  | nil => rfl
  | cons m front ih =>
    obtain ⟨name, v⟩ := m
    exact ih _

theorem heightMembers_append (front rest : List (String × Value)) :
    heightMembers (front ++ rest) = max (heightMembers front) (heightMembers rest) := by
  induction front with
  | nil => exact (Nat.zero_max _).symm
  | cons m front ih =>
    obtain ⟨name, v⟩ := m
    rw [List.cons_append, heightMembers, heightMembers, ih, Nat.max_assoc]

mutual

theorem Reordered.sorted_eq : ∀ {v w : Value}, Reordered v w → v.sorted = w.sorted ∧ v.height = w.height
  | _, _, .same _ => ⟨rfl, rfl⟩
  | _, _, .items items => by
    obtain ⟨sorted, height⟩ := items.sorted_eq
    exact ⟨congrArg list sorted, congrArg (· + 1) height⟩
  | _, _, .members members => by
    obtain ⟨sorted, height⟩ := members.sorted_eq
    exact ⟨congrArg object (sorted []), congrArg (· + 1) height⟩
  | _, _, .swap front rest differ => by
    simp only [sorted, height, sortedMembers_append, heightMembers_append, sortedMembers, heightMembers]
    refine ⟨?_, by omega⟩
    rw [insertMember_comm differ.symm]
  | _, _, .trans first second =>
    ⟨first.sorted_eq.1.trans second.sorted_eq.1, first.sorted_eq.2.trans second.sorted_eq.2⟩

theorem ReorderedItems.sorted_eq : ∀ {vs ws : List Value}, ReorderedItems vs ws →
    sortedItems vs = sortedItems ws ∧ heightItems vs = heightItems ws
  | _, _, .nil => ⟨rfl, rfl⟩
  | _, _, .cons value items => by
    rw [sortedItems, sortedItems, heightItems, heightItems, value.sorted_eq.1, value.sorted_eq.2,
      items.sorted_eq.1, items.sorted_eq.2]
    exact ⟨rfl, rfl⟩

theorem ReorderedMembers.sorted_eq : ∀ {ms ns : List (String × Value)}, ReorderedMembers ms ns →
    (∀ before, sortedMembers before ms = sortedMembers before ns) ∧ heightMembers ms = heightMembers ns
  | _, _, .nil => ⟨fun _ => rfl, rfl⟩
  | _, _, .cons name value members => by
    refine ⟨fun before => ?_, ?_⟩
    · rw [sortedMembers, sortedMembers, value.sorted_eq.1, members.sorted_eq.1]
    · rw [heightMembers, heightMembers, value.sorted_eq.2, members.sorted_eq.2]

end

/-- Reordered documents are read, or refused, alike. -/
theorem Reordered.parse_eq {v w : Value} {s t : String} (reordered : v.Reordered w)
    (first : SpelledItem v s.toList) (second : SpelledItem w t.toList) : parse s = parse t := by
  rw [parse_spelled first, parse_spelled second, reordered.sorted_eq.1, reordered.sorted_eq.2]

end Value

end Throughput.Json
