import Throughput.Proofs.Json.Order

/-! Places in a document, and the order in which they come: a place before those inside it,
members by their names, items by their numbers. -/
namespace Throughput.Json

/-- A step into a value. -/
inductive Step where
  | member (name : String)
  | item (index : Nat)

/-- The order of the steps into one value. -/
inductive Step.Before : Step → Step → Prop where
  | member {x y : String} : x < y → Before (.member x) (.member y)
  | item {i j : Nat} : i < j → Before (.item i) (.item j)

/-- The order of places. -/
def PathBefore (path other : List Step) : Prop := List.Lex Step.Before path other

theorem Step.Before.asymm {s t : Step} (before : s.Before t) : ¬ t.Before s := by
  cases before with
  | member less =>
    rintro (greater | _)
    exact String.lt_asymm less greater
  | item less =>
    rintro (_ | greater)
    exact Nat.lt_asymm less greater

theorem PathBefore.asymm {path other : List Step} (before : PathBefore path other) : ¬ PathBefore other path := by
  induction before with
  | nil => rintro ⟨⟩
  | cons _ ih =>
    rintro (_ | greater | further)
    · exact greater.asymm greater
    · exact ih further
  | rel less =>
    rintro (_ | greater | further)
    · exact less.asymm greater
    · exact less.asymm less

namespace Value

/-- What a step leads to. -/
def inside? : Value → Step → Option Value
  | object members, .member name => members.lookup name
  | list items, .item i => items[i]?
  | _, _ => none

/-- What stands at a place. -/
def at? (v : Value) : List Step → Option Value
  | [] => some v
  | step :: path => (v.inside? step).bind fun w => w.at? path

/-- The values right inside a value, as they stand there, and the step to each. -/
def children : Value → List (Step × Value)
  | object members => members.map fun m => (.member m.1, m.2)
  | list items => items.zipIdx.map fun item => (.item item.2, item.1)
  | _ => []

theorem at?_append (v : Value) (path further : List Step) :
    v.at? (path ++ further) = (v.at? path).bind fun w => w.at? further := by
  induction path generalizing v with
  | nil => rfl
  | cons step path ih =>
    rw [List.cons_append, at?, at?]
    cases v.inside? step with
    | none => rfl
    | some w => exact ih w

end Value

theorem Ascending.lookup_eq_some_iff {α : Type} {members : List (String × α)} (ascending : Ascending members)
    {name : String} {a : α} : members.lookup name = some a ↔ (name, a) ∈ members := by
  induction members with
  | nil => simp
  | cons m rest ih =>
    obtain ⟨other, b⟩ := m
    obtain ⟨least, ascending'⟩ := List.pairwise_cons.mp ascending
    rw [List.lookup_cons, List.mem_cons, Prod.mk.injEq]
    by_cases same : name = other
    · subst same
      have once : (name, a) ∉ rest := fun member => String.lt_irrefl name (least _ member)
      simp [once, eq_comm]
    · simp [beq_false_of_ne same, same, ih ascending']

namespace Value

variable {v w : Value} {step : Step}

theorem OrderedItems.of_mem {items : List Value} (ordered : OrderedItems items) (member : w ∈ items) : w.Ordered := by
  induction items with
  | nil => cases member
  | cons u rest ih =>
    rcases List.mem_cons.mp member with rfl | member
    · exact ordered.1
    · exact ih ordered.2 member

theorem OrderedMembers.of_mem {members : List (String × Value)} (ordered : OrderedMembers members) {name : String}
    (member : (name, w) ∈ members) : w.Ordered := by
  induction members with
  | nil => cases member
  | cons m rest ih =>
    rcases List.mem_cons.mp member with rfl | member
    · exact ordered.1
    · exact ih ordered.2 member

/-- In order, what a step leads to is the one child under that step. -/
theorem Ordered.mem_children (ordered : v.Ordered) : (step, w) ∈ v.children ↔ v.inside? step = some w := by
  cases v with
  | object members =>
    cases step with
    | item i => simp [children, inside?]
    | member name =>
      rw [inside?, ordered.1.lookup_eq_some_iff]
      simp [children]
  | list items =>
    cases step with
    | member name => simp [children, inside?]
    | item i => simp [children, inside?, List.mem_zipIdx_iff_getElem?]
  | _ => simp [children, inside?]

/-- The children stand in the order of the steps to them. -/
theorem Ordered.children_before (ordered : v.Ordered) : v.children.Pairwise fun c d => c.1.Before d.1 := by
  cases v with
  | object members => exact List.pairwise_map.mpr (ordered.1.imp .member)
  | list items =>
    have numbered : (items.zipIdx.map Prod.snd).Pairwise (· < ·) := by
      rw [List.zipIdx_map_snd]
      exact List.pairwise_lt_range'
    exact List.pairwise_map.mpr ((List.pairwise_map.mp numbered).imp .item)
  | _ => exact .nil

theorem Ordered.child (ordered : v.Ordered) (child : (step, w) ∈ v.children) : w.Ordered := by
  cases v with
  | object members =>
    obtain ⟨m, member, same⟩ := List.mem_map.mp child
    cases same
    exact OrderedMembers.of_mem ordered.2 member
  | list items =>
    obtain ⟨item, member, same⟩ := List.mem_map.mp child
    cases same
    exact OrderedItems.of_mem ordered (List.fst_mem_of_mem_zipIdx member)
  | _ => cases child

theorem sizeOf_child (child : (step, w) ∈ v.children) : sizeOf w < sizeOf v := by
  cases v with
  | object members =>
    obtain ⟨m, member, same⟩ := List.mem_map.mp child
    cases same
    have smaller := List.sizeOf_lt_of_mem member
    obtain ⟨name, w⟩ := m
    simp only [Prod.mk.sizeOf_spec, object.sizeOf_spec] at smaller ⊢
    omega
  | list items =>
    obtain ⟨item, member, same⟩ := List.mem_map.mp child
    cases same
    have smaller := List.sizeOf_lt_of_mem (List.fst_mem_of_mem_zipIdx member)
    simp only [list.sizeOf_spec]
    omega
  | _ => cases child

/-- What holds of a value if it holds of its children holds of all values. -/
theorem childrenInduction {P : Value → Prop} (step : ∀ v : Value, (∀ c ∈ v.children, P c.2) → P v)
    (v : Value) : P v := by
  induction size : sizeOf v using Nat.strongRecOn generalizing v with
  | ind n ih =>
    apply step
    intro c child
    exact ih (sizeOf c.2) (size ▸ sizeOf_child child) c.2 rfl

end Value
end Throughput.Json
