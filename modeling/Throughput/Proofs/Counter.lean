import Throughput.Counter

/-! What the operations on a registry do to one cell. A cell that was once made stays
readable, and its value is the one last written to it: names that come and go do not matter. -/
namespace Throughput.Counter.Registry

inductive Operation where
  | register (name : String)
  | unregister (name : String)
  | store (cell : Cell) (value : UInt64)
  | add (cell : Cell) (amount : UInt64)
  deriving DecidableEq, Repr

def perform (r : Registry) : Operation → Registry
  | .register name => (r.register name).2
  | .unregister name => (r.unregister name).2
  | .store cell value => r.store cell value
  | .add cell amount => r.add cell amount

/-- The value that an operation writes to a cell, if it writes to that one. -/
def written? (r : Registry) (cell : Cell) : Operation → Option UInt64
  | .register _ => none
  | .unregister _ => none
  | .store other value => if other = cell then some value else none
  | .add other amount => if other = cell then some (r.value cell + amount) else none

/-- The cell was made at some time. -/
def Has (r : Registry) (cell : Cell) : Prop := cell.index < r.values.length

/-- No name stands for a cell that was never made. -/
def Grounded (r : Registry) : Prop := ∀ entry ∈ r.names, r.Has entry.2

theorem grounded_empty : empty.Grounded := fun _ member => nomatch member

theorem mem_insertName {entry : String × Cell} {name : String} {cell : Cell}
    {names : List (String × Cell)} (member : entry ∈ insertName name cell names) :
    entry = (name, cell) ∨ entry ∈ names := by
  induction names with
  | nil => exact .inl (List.mem_singleton.mp member)
  | cons first rest ih =>
    unfold insertName at member
    split at member
    · exact List.mem_cons.mp member
    · rcases List.mem_cons.mp member with rfl | later
      · exact .inr (List.mem_cons_self ..)
      · exact (ih later).imp_right (List.mem_cons_of_mem _)

theorem has_of_get? {r : Registry} (grounded : r.Grounded) {name : String} {cell : Cell}
    (found : r.get? name = some cell) : r.Has cell := by
  obtain ⟨before, after, names, _⟩ := List.lookup_eq_some_iff.mp found
  exact grounded (name, cell) (by simp [names])

section Perform

variable {r : Registry} (op : Operation)

theorem length_perform : r.values.length ≤ (r.perform op).values.length := by
  cases op with
  | register name =>
    change _ ≤ (r.register name).2.values.length
    unfold register
    split
    · exact Nat.le_refl _
    · simp
  | unregister name => exact Nat.le_refl _
  | store cell value => exact Nat.le_of_eq (List.length_set ..).symm
  | add cell amount => exact Nat.le_of_eq (List.length_set ..).symm

theorem has_perform {cell : Cell} (has : r.Has cell) : (r.perform op).Has cell :=
  Nat.lt_of_lt_of_le has (length_perform op)

theorem grounded_perform (grounded : r.Grounded) : (r.perform op).Grounded := by
  have kept (entry) (member : entry ∈ r.names) : (r.perform op).Has entry.2 :=
    has_perform op (grounded entry member)
  cases op with
  | register name =>
    intro entry member
    cases found : r.get? name with
    | some cell =>
      rw [perform, register, found] at member
      exact kept entry member
    | none =>
      have names : (r.perform (.register name)).names = insertName name ⟨r.values.length⟩ r.names := by
        rw [perform, register, found]
      have length : (r.perform (.register name)).values.length = r.values.length + 1 := by
        rw [perform, register, found]
        exact List.length_append
      rw [names] at member
      rcases mem_insertName member with rfl | old
      · rw [Has, length]
        exact Nat.lt_succ_self _
      · exact kept entry old
  | unregister name => exact fun entry member => kept entry (List.mem_filter.mp member).1
  | store cell value => exact kept
  | add cell amount => exact kept

theorem value_store {cell : Cell} (has : r.Has cell) (other : Cell) (value : UInt64) :
    (r.store other value).value cell = if other = cell then value else r.value cell := by
  by_cases same : other = cell
  · subst same
    rw [if_pos rfl]
    simp [Registry.value, store, List.getElem?_set_self has]
  · have apart : other.index ≠ cell.index := fun index => same (congrArg Cell.mk index)
    rw [if_neg same]
    simp [Registry.value, store, List.getElem?_set_ne apart]

/-- The value of a cell changes by what is written to it, and by nothing else. -/
theorem value_perform {cell : Cell} (has : r.Has cell) :
    (r.perform op).value cell = (r.written? cell op).getD (r.value cell) := by
  cases op with
  | register name =>
    change (r.register name).2.value cell = r.value cell
    unfold register
    split
    · rfl
    · simp [Registry.value, List.getElem?_append_left has]
  | unregister name => rfl
  | store other value =>
    rw [perform, value_store has, written?]
    split <;> rfl
  | add other amount =>
    rw [perform, add, value_store has, written?]
    split
    · subst other
      rfl
    · rfl

end Perform

end Throughput.Counter.Registry
