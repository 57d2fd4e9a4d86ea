import Mathlib.Data.Finmap
import Throughput.Proofs.Counter.Names

/-! A registry as two finite maps, from names to cells and from cells to counts. Every operation
does to the registry what it does to the maps, with the same answer, and a search finds exactly the
names in the map that match. -/
namespace Throughput.Counter

open Registry (Operation)

/-- The cells that names stand for, and the counts of all cells that were ever made. -/
structure Table where
  cells : Finmap fun _ : String => Cell
  counts : Finmap fun _ : Cell => UInt64

namespace Registry

/-- The cell that an operation writes to. -/
def Operation.target? : Operation → Option Cell
  | register _ => none
  | unregister _ => none
  | store cell _ => some cell
  | add cell _ => some cell

/-- The cell that an operation answers. -/
def answer (r : Registry) : Operation → Option Cell
  | .register name => some (r.register name).1
  | .unregister name => (r.unregister name).1
  | .store _ _ => none
  | .add _ _ => none

/-- The answers to operations, each on what the ones before it left. -/
def answers : List Operation → Registry → List (Option Cell)
  | [], _ => []
  | op :: rest, r => r.answer op :: answers rest (r.perform op)

/-- What operations make of an empty registry. -/
def after (ops : List Operation) : Registry := ops.foldl perform empty

end Registry

namespace Table

def empty : Table := ⟨∅, ∅⟩

/-- What an operation does to the maps, and the cell that it answers. -/
inductive Step (t : Table) : Operation → Option Cell → Table → Prop
  | keeps {name : String} {cell : Cell} (present : t.cells.lookup name = some cell) :
      Step t (.register name) (some cell) t
  | makes {name : String} {cell : Cell} (absent : name ∉ t.cells) (fresh : cell ∉ t.counts) :
      Step t (.register name) (some cell) ⟨t.cells.insert name cell, t.counts.insert cell 0⟩
  | removes (name : String) :
      Step t (.unregister name) (t.cells.lookup name) { t with cells := t.cells.erase name }
  | stores {cell : Cell} (made : cell ∈ t.counts) (value : UInt64) :
      Step t (.store cell value) none { t with counts := t.counts.insert cell value }
  | adds {cell : Cell} {count : UInt64} (holds : t.counts.lookup cell = some count) (amount : UInt64) :
      Step t (.add cell amount) none { t with counts := t.counts.insert cell (count + amount) }
  /-- A cell that was never made is in nobody's hands. -/
  | ignores {op : Operation} {cell : Cell} (target : op.target? = some cell) (unmade : cell ∉ t.counts) :
      Step t op none t

/-- Operations one after the other, and their answers. -/
inductive Run : Table → List Operation → List (Option Cell) → Table → Prop
  | nil {t : Table} : Run t [] [] t
  | cons {t next last : Table} {op : Operation} {ops : List Operation} {answer : Option Cell}
      {answers : List (Option Cell)} (step : Step t op answer next) (rest : Run next ops answers last) :
      Run t (op :: ops) (answer :: answers) last

end Table

namespace Registry

section Register

variable {r : Registry} {name : String} (absent : r.get? name = none)
include absent

/-- The cell of a name that is not registered is new. -/
theorem register_fresh : ¬ r.Has (r.register name).1 := by
  rw [register, absent]
  exact Nat.lt_irrefl _

theorem value_register : (r.register name).2.value (r.register name).1 = 0 := by
  simp [register, absent, Registry.value]

end Register

/-- The maps say of names and cells what the registry says of them. -/
structure Shows (r : Registry) (t : Table) : Prop where
  cells : ∀ name, t.cells.lookup name = r.get? name
  counts : ∀ cell, t.counts.lookup cell = r.values[cell.index]?

theorem shows_empty : empty.Shows .empty :=
  ⟨fun _ => Finmap.lookup_empty _, fun _ => Finmap.lookup_empty _⟩

section Shows

variable {r : Registry} {t : Table}

theorem Shows.mem_cells (shown : r.Shows t) (name : String) :
    name ∈ t.cells ↔ name ∈ r.names.map Prod.fst := by
  rw [← Finmap.lookup_isSome, shown.cells, get?, lookup_isSome_iff]

theorem Shows.mem_counts (shown : r.Shows t) (cell : Cell) : cell ∈ t.counts ↔ r.Has cell := by
  rw [← Finmap.lookup_isSome, shown.counts]
  exact iff_of_eq (isSome_getElem? _ _)

theorem Shows.value (shown : r.Shows t) {cell : Cell} {count : UInt64}
    (holds : t.counts.lookup cell = some count) : r.value cell = count := by
  rw [shown.counts] at holds
  rw [Registry.value, List.getD_eq_getElem?_getD, holds, Option.getD_some]

/-- A write goes to the cell alone. -/
theorem Shows.store (shown : r.Shows t) {cell : Cell} (made : cell ∈ t.counts) (value : UInt64) :
    (r.store cell value).Shows { t with counts := t.counts.insert cell value } := by
  refine ⟨shown.cells, fun other => ?_⟩
  change _ = (r.values.set cell.index value)[other.index]?
  by_cases same : other = cell
  · subst same
    rw [Finmap.lookup_insert, List.getElem?_set_self ((shown.mem_counts other).mp made)]
  · have apart : cell.index ≠ other.index := fun index => same (congrArg Cell.mk index.symm)
    rw [Finmap.lookup_insert_of_ne _ same, List.getElem?_set_ne apart, shown.counts]

/-- Nothing is written to a cell that was never made. -/
theorem store_unmade {cell : Cell} (unmade : ¬ r.Has cell) (value : UInt64) : r.store cell value = r := by
  rw [Registry.store, List.set_eq_of_length_le (Nat.le_of_not_lt unmade)]

theorem Shows.register (shown : r.Shows t) {name : String} (absent : r.get? name = none) :
    (r.register name).2.Shows
      ⟨t.cells.insert name (r.register name).1, t.counts.insert (r.register name).1 0⟩ := by
  simp only [Registry.register, absent]
  constructor
  case cells =>
    intro other
    rw [get?, lookup_insertName absent]
    by_cases same : other = name
    · rw [same, Finmap.lookup_insert, if_pos rfl]
    · rw [Finmap.lookup_insert_of_ne _ same, if_neg same, shown.cells, get?]
  case counts =>
    intro cell
    by_cases new : cell = ⟨r.values.length⟩
    · rw [new, Finmap.lookup_insert, List.getElem?_concat_length]
    · have apart : cell.index ≠ r.values.length := fun index => new (congrArg Cell.mk index)
      rw [Finmap.lookup_insert_of_ne _ new, shown.counts]
      rcases Nat.lt_or_gt_of_ne apart with inside | beyond
      · rw [List.getElem?_append_left inside]
      · rw [List.getElem?_eq_none (Nat.le_of_lt beyond), List.getElem?_eq_none]
        rwa [List.length_append]

/-- Every operation does to the maps what it does to the registry, with the same answer. -/
theorem Shows.perform (shown : r.Shows t) (op : Operation) :
    ∃ next, t.Step op (r.answer op) next ∧ (r.perform op).Shows next := by
  cases op with
  | register name =>
    cases found : r.get? name with
    | some cell =>
      have same : r.register name = (cell, r) := by rw [Registry.register, found]
      rw [answer, Registry.perform, same]
      exact ⟨t, .keeps ((shown.cells name).trans found), shown⟩
    | none =>
      refine ⟨_, .makes ?_ ?_, shown.register found⟩
      · rw [← Finmap.lookup_eq_none, shown.cells, found]
      · rw [shown.mem_counts]
        exact register_fresh found
  | unregister name =>
    have removes := Table.Step.removes (t := t) name
    rw [shown.cells] at removes
    refine ⟨_, removes, fun other => ?_, shown.counts⟩
    rw [Registry.perform, Registry.unregister, get?, lookup_without]
    by_cases same : other = name
    · rw [same, Finmap.lookup_erase, if_pos rfl]
    · rw [Finmap.lookup_erase_ne same, if_neg same, shown.cells, get?]
  | store cell value =>
    by_cases made : cell ∈ t.counts
    · exact ⟨_, .stores made value, shown.store made value⟩
    · refine ⟨t, .ignores rfl made, ?_⟩
      rwa [Registry.perform, store_unmade (mt (shown.mem_counts cell).mpr made)]
  | add cell amount =>
    by_cases made : cell ∈ t.counts
    · obtain ⟨count, holds⟩ := Finmap.mem_iff.mp made
      refine ⟨_, .adds holds amount, ?_⟩
      rw [← shown.value holds]
      exact shown.store made _
    · refine ⟨t, .ignores rfl made, ?_⟩
      rwa [Registry.perform, Registry.add, store_unmade (mt (shown.mem_counts cell).mpr made)]

theorem Shows.run (shown : r.Shows t) (ops : List Operation) :
    ∃ last, Table.Run t ops (answers ops r) last ∧ (ops.foldl Registry.perform r).Shows last := by
  induction ops generalizing r t with
  | nil => exact ⟨t, .nil, shown⟩
  | cons op ops ih =>
    obtain ⟨next, step, follows⟩ := shown.perform op
    obtain ⟨last, rest, final⟩ := ih follows
    exact ⟨last, .cons step rest, final⟩

theorem Shows.size_eq_card (shown : r.Shows t) (ordered : r.Ordered) : r.size = t.cells.keys.card := by
  have apart : (r.names.map Prod.fst).Nodup := by
    rw [List.nodup_iff_pairwise_ne, List.pairwise_map]
    exact ordered.imp fun less => String.ne_of_lt less
  have keys : t.cells.keys = (r.names.map Prod.fst).toFinset := by
    ext name
    rw [Finmap.mem_keys, shown.mem_cells, List.mem_toFinset]
  rw [keys, List.toFinset_card_of_nodup apart, List.length_map, size]

theorem Shows.mem_find (shown : r.Shows t) (pattern name : String) :
    name ∈ r.find pattern ↔ name ∈ t.cells ∧ Matches pattern name := by
  rw [Registry.mem_find, shown.mem_cells]

/-- A name that is found has a cell, so nothing is located only if nothing matches. -/
theorem Shows.locate_eq_none (shown : r.Shows t) (pattern : String) :
    (r.locate pattern).1 = none ↔ ∀ name ∈ t.cells, ¬ Matches pattern name := by
  rw [locate_eq]
  constructor
  · intro unlocated name present matched
    cases names : r.find pattern with
    | nil => exact List.not_mem_nil (names ▸ (shown.mem_find pattern name).mpr ⟨present, matched⟩)
    | cons first rest =>
      obtain ⟨there, -⟩ := (shown.mem_find pattern first).mp (names ▸ List.mem_cons_self)
      obtain ⟨cell, entry⟩ := Finmap.mem_iff.mp there
      rw [shown.cells] at entry
      rw [names] at unlocated
      simp [entry] at unlocated
  · intro none
    have empty : r.find pattern = [] := by
      refine List.eq_nil_iff_forall_not_mem.mpr fun name member => ?_
      obtain ⟨present, matched⟩ := (shown.mem_find pattern name).mp member
      exact none name present matched
    rw [empty]
    rfl

end Shows

theorem after_append (ops more : List Operation) : after (ops ++ more) = more.foldl perform (after ops) :=
  List.foldl_append

theorem keeps_foldl {P : Registry → Prop} (keeps : ∀ r op, P r → P (r.perform op)) (ops : List Operation)
    {r : Registry} (first : P r) : P (ops.foldl perform r) := by
  induction ops generalizing r with
  | nil => exact first
  | cons op ops ih => exact ih (keeps r op first)

theorem ordered_after (ops : List Operation) : (after ops).Ordered :=
  keeps_foldl (fun _ => ordered_perform) ops ordered_empty

theorem grounded_after (ops : List Operation) : (after ops).Grounded :=
  keeps_foldl (fun _ => grounded_perform) ops grounded_empty

theorem has_foldl {r : Registry} {cell : Cell} (has : r.Has cell) (ops : List Operation) :
    (ops.foldl perform r).Has cell :=
  keeps_foldl (P := fun r => r.Has cell) (fun _ op => has_perform op) ops has

/-- A cell keeps its count for as long as nothing is written to it. -/
theorem value_foldl {r : Registry} {cell : Cell} (has : r.Has cell) (ops : List Operation)
    (unwritten : ∀ op ∈ ops, op.target? ≠ some cell) : (ops.foldl perform r).value cell = r.value cell := by
  induction ops generalizing r with
  | nil => rfl
  | cons op ops ih =>
    obtain ⟨first, later⟩ := List.forall_mem_cons.mp unwritten
    have none : r.written? cell op = none := by
      cases op with
      | register name => rfl
      | unregister name => rfl
      | store other value => exact if_neg fun same => first (congrArg some same)
      | add other amount => exact if_neg fun same => first (congrArg some same)
    rw [List.foldl_cons, ih (has_perform op has) later, value_perform op has, none, Option.getD_none]

/-- A name that is registered again has nothing in common with the cell that it had. -/
theorem register_renewed {before ops : List Operation} {name : String} {old : Cell} (earlier : before <+: ops)
    (present : (after before).get? name = some old) (absent : (after ops).get? name = none) :
    ((after ops).register name).1 ≠ old ∧
      (after (ops ++ [.register name])).value ((after ops).register name).1 = 0 ∧
      (after (ops ++ [.register name])).value old = (after ops).value old := by
  obtain ⟨later, rfl⟩ := earlier
  have made : (after (before ++ later)).Has old := by
    rw [after_append]
    exact has_foldl (has_of_get? (grounded_after before) present) later
  refine ⟨?_, ?_, ?_⟩
  · rintro rfl
    exact register_fresh absent made
  · rw [after_append]
    exact value_register absent
  · rw [after_append]
    exact value_foldl made _ (by simp [Operation.target?])

end Registry

open Registry (after answers)

/-- What became of an empty registry, told by maps that went through the same operations. -/
structure Refines (ops : List Operation) (t : Table) : Prop where
  run : Table.Run .empty ops (answers ops .empty) t
  cells : ∀ name, t.cells.lookup name = (after ops).get? name
  counts : ∀ cell count, t.counts.lookup cell = some count → (after ops).value cell = count
  size : (after ops).size = t.cells.keys.card
  isEmpty : (after ops).isEmpty = true ↔ (after ops).size = 0
  /-- A name that was there before comes back with a cell of its own, at zero. -/
  renewed : ∀ before name old, before <+: ops → (after before).get? name = some old →
    (after ops).get? name = none → ∃ new, (after ops).answer (.register name) = some new ∧ new ≠ old ∧
      (after (ops ++ [.register name])).value new = 0 ∧
      (after (ops ++ [.register name])).value old = (after ops).value old
  /-- What is written to other cells does not show in a cell. -/
  kept : ∀ cell ∈ t.counts, ∀ more : List Operation, (∀ op ∈ more, op.target? ≠ some cell) →
    (after (ops ++ more)).value cell = (after ops).value cell
  increasing : ∀ pattern, ((after ops).find pattern).Pairwise Text.BytesBefore
  found : ∀ pattern name, name ∈ (after ops).find pattern ↔ name ∈ t.cells ∧ Matches pattern name
  located : ∀ pattern name cell, ((after ops).locate pattern).1 = some (name, cell) ↔
    ((after ops).find pattern).head? = some name ∧ t.cells.lookup name = some cell
  unlocated : ∀ pattern, ((after ops).locate pattern).1 = none ↔ ∀ name ∈ t.cells, ¬ Matches pattern name

theorem refines_finite_map (ops : List Operation) : ∃ t, Refines ops t := by
  obtain ⟨t, run, shown⟩ := Registry.shows_empty.run ops
  change (after ops).Shows t at shown
  have ordered := Registry.ordered_after ops
  refine ⟨t, ?_⟩
  constructor
  case run => exact run
  case cells => exact shown.cells
  case counts => exact fun cell count => shown.value
  case size => exact shown.size_eq_card ordered
  case isEmpty => simp [Registry.isEmpty, Registry.size]
  case renewed =>
    exact fun before name old earlier present absent =>
      ⟨_, rfl, Registry.register_renewed earlier present absent⟩
  case kept =>
    intro cell made more unwritten
    rw [Registry.after_append]
    exact Registry.value_foldl ((shown.mem_counts cell).mp made) more unwritten
  case increasing => exact fun pattern => Registry.find_increasing pattern ordered
  case found => exact shown.mem_find
  case located =>
    intro pattern name cell
    rw [Registry.locate_eq, shown.cells]
    simp [Option.bind_eq_some_iff]
  case unlocated => exact shown.locate_eq_none

end Throughput.Counter
