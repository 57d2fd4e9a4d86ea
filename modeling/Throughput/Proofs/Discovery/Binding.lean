import Throughput.Discovery
import Throughput.Proofs.Json.Path
import Throughput.Proofs.Json.Printed

/-! Where the binding of a document is found. -/
namespace Throughput.Discovery

open Json (Value Step PathBefore)

/-- The object at the place has a binding as its own member. -/
def BindsAt (document : Value) (path : List Step) (found : List (String × Value)) : Prop :=
  ∃ own, document.at? path = some (.object own) ∧ own.lookup "custom_metrics" = some (.object found)

/-- A binding before which there is no other. -/
structure FirstBinding (document : Value) (path : List Step) (found : List (String × Value)) : Prop where
  binds : BindsAt document path found
  first : ∀ other members, BindsAt document other members → other = path ∨ PathBefore path other

/-- The binding that is a member of the value itself. -/
def ownBinding? : Value → Option (List (String × Value))
  | .object members =>
    match members.lookup "custom_metrics" with
    | some (.object found) => some found
    | _ => none
  | _ => none

theorem bindingInItems?_eq (items : List Value) : bindingInItems? items = items.findSome? binding? := by
  induction items with
  | nil => rfl
  | cons v rest ih =>
    rw [bindingInItems?, ih, List.findSome?_cons]
    cases binding? v <;> rfl

theorem bindingInMembers?_eq (members : List (String × Value)) :
    bindingInMembers? members = members.findSome? fun m => binding? m.2 := by
  induction members with
  | nil => rfl
  | cons m rest ih =>
    obtain ⟨name, v⟩ := m
    rw [bindingInMembers?, ih, List.findSome?_cons]
    cases binding? v <;> rfl

/-- The search takes the value's own binding, else the first that one of its children has. -/
theorem binding?_eq (v : Value) : binding? v = (ownBinding? v).or (v.children.findSome? fun c => binding? c.2) := by
  cases v with
  | object members =>
    have inside : (Value.object members).children.findSome? (fun c => binding? c.2) = bindingInMembers? members := by
      rw [Value.children, List.findSome?_map, bindingInMembers?_eq]
      rfl
    rw [inside, binding?, ownBinding?]
    cases members.lookup "custom_metrics" with
    | none => rfl
    | some w => cases w <;> rfl
  | list items =>
    have inside : (Value.list items).children.findSome? (fun c => binding? c.2) = bindingInItems? items := by
      calc (Value.list items).children.findSome? (fun c => binding? c.2)
        _ = (items.zipIdx.map Prod.fst).findSome? binding? := by
          rw [Value.children, List.findSome?_map, List.findSome?_map]
          rfl
        _ = bindingInItems? items := by rw [List.zipIdx_map_fst, bindingInItems?_eq]
    rw [inside, binding?]
    rfl
  | _ => rfl

theorem bindsAt_nil_iff {v : Value} {found : List (String × Value)} :
    BindsAt v [] found ↔ ownBinding? v = some found := by
  cases v with
  | object members =>
    simp only [BindsAt, Value.at?, Option.some.injEq, Value.object.injEq, exists_eq_left', ownBinding?]
    split <;> simp_all
  | _ => simp [BindsAt, Value.at?, ownBinding?]

theorem bindsAt_cons_iff {v : Value} {step : Step} {path : List Step} {found : List (String × Value)} :
    BindsAt v (step :: path) found ↔ ∃ w, v.inside? step = some w ∧ BindsAt w path found := by
  simp only [BindsAt, Value.at?, Option.bind_eq_some_iff]
  constructor
  · rintro ⟨own, ⟨w, inside, there⟩, binding⟩
    exact ⟨w, inside, own, there, binding⟩
  · rintro ⟨w, inside, own, there, binding⟩
    exact ⟨own, ⟨w, inside, there⟩, binding⟩

/-- A binding of the value's own is before all that are deeper in it. -/
theorem FirstBinding.own {v : Value} {found : List (String × Value)} (own : ownBinding? v = some found) :
    FirstBinding v [] found where
  binds := bindsAt_nil_iff.mpr own
  first other _ _ := by
    cases other with
    | nil => exact .inl rfl
    | cons step other => exact .inr .nil

/-- Without a binding of its own the first of a value is the first of the first child with one. -/
theorem FirstBinding.child {v w : Value} {step : Step} {path : List Step} {found : List (String × Value)}
    {before after : List (Step × Value)} (ordered : v.Ordered) (own : ownBinding? v = none)
    (split : v.children = before ++ (step, w) :: after)
    (skipped : ∀ c ∈ before, ∀ path members, ¬ BindsAt c.2 path members) (inner : FirstBinding w path found) :
    FirstBinding v (step :: path) found where
  binds := by
    have child : (step, w) ∈ v.children := by simp [split]
    exact bindsAt_cons_iff.mpr ⟨w, ordered.mem_children.mp child, inner.binds⟩
  first other members elsewhere := by
    cases other with
    | nil => exact absurd (bindsAt_nil_iff.mp elsewhere) (by simp [own])
    | cons step' other =>
      obtain ⟨w', inside, deeper⟩ := bindsAt_cons_iff.mp elsewhere
      have child := ordered.mem_children.mpr inside
      have apart := ordered.children_before
      rw [split, List.mem_append, List.mem_cons] at child
      rw [split, List.pairwise_append, List.pairwise_cons] at apart
      -- the other child has no binding, is the same one, or comes after it
      rcases child with earlier | same | later
      · exact absurd deeper (skipped _ earlier other members)
      · obtain ⟨rfl, rfl⟩ := Prod.mk.inj same
        rcases inner.first other members deeper with rfl | further
        · exact .inl rfl
        · exact .inr (.cons further)
      · exact .inr (.rel (apart.2.1.1 _ later))

/-- Without a result of the search there is no binding. -/
theorem no_binding (v : Value) : v.Ordered → binding? v = none → ∀ path found, ¬ BindsAt v path found := by
  induction v using Value.childrenInduction with
  | step v ih =>
    intro ordered unfound path found binds
    rw [binding?_eq, Option.or_eq_none_iff, List.findSome?_eq_none_iff] at unfound
    cases path with
    | nil => exact absurd (bindsAt_nil_iff.mp binds) (by simp [unfound.1])
    | cons step path =>
      obtain ⟨w, inside, deeper⟩ := bindsAt_cons_iff.mp binds
      have child := ordered.mem_children.mpr inside
      exact ih _ child (ordered.child child) (unfound.2 _ child) path found deeper

/-- What the search finds is the first binding. -/
theorem first_binding (v : Value) : v.Ordered →
    ∀ found, binding? v = some found → ∃ path, FirstBinding v path found := by
  induction v using Value.childrenInduction with
  | step v ih =>
    intro ordered found search
    rw [binding?_eq] at search
    cases own : ownBinding? v with
    | some members =>
      rw [own, Option.some_or] at search
      obtain rfl := Option.some.inj search
      exact ⟨[], .own own⟩
    | none =>
      rw [own, Option.none_or, List.findSome?_eq_some_iff] at search
      obtain ⟨before, ⟨step, w⟩, after, split, here, skipped⟩ := search
      have child : (step, w) ∈ v.children := by simp [split]
      obtain ⟨path, inner⟩ := ih _ child (ordered.child child) found here
      refine ⟨step :: path, .child ordered own split ?_ inner⟩
      intro c earlier
      have child' : (c.1, c.2) ∈ v.children := by simp [split, earlier]
      exact no_binding c.2 (ordered.child child') (skipped c earlier)

theorem FirstBinding.unique {v : Value} {path other : List Step} {found members : List (String × Value)}
    (first : FirstBinding v path found) (second : FirstBinding v other members) : found = members := by
  have same : other = path := by
    rcases first.first other members second.binds with same | before
    · exact same
    · rcases second.first path found first.binds with same | after
      · exact same.symm
      · exact absurd after before.asymm
  subst same
  obtain ⟨own, there, binding⟩ := first.binds
  obtain ⟨own', there', binding'⟩ := second.binds
  cases there.symm.trans there'
  cases binding.symm.trans binding'
  rfl

theorem binding?_eq_some_iff {v : Value} (ordered : v.Ordered) {found : List (String × Value)} :
    binding? v = some found ↔ ∃ path, FirstBinding v path found := by
  constructor
  · exact first_binding v ordered found
  · rintro ⟨path, first⟩
    cases search : binding? v with
    | none => exact absurd first.binds (no_binding v ordered search path found)
    | some members =>
      obtain ⟨other, second⟩ := first_binding v ordered members search
      rw [second.unique first]

theorem binding?_isSome_iff {v : Value} (ordered : v.Ordered) :
    (binding? v).isSome ↔ ∃ path found, BindsAt v path found := by
  constructor
  · intro some
    obtain ⟨found, search⟩ := Option.isSome_iff_exists.mp some
    obtain ⟨path, first⟩ := first_binding v ordered found search
    exact ⟨path, found, first.binds⟩
  · rintro ⟨path, found, binds⟩
    cases search : binding? v with
    | none => exact absurd binds (no_binding v ordered search path found)
    | some members => rfl

theorem setting?_eq_some_iff {members : List (String × Value)} {name s : String} :
    setting? members name = some s ↔ members.lookup name = some (.text s) ∧ s ≠ "" := by
  unfold setting?
  split
  case h_1 t found =>
    rw [found, Option.some.injEq, Value.text.injEq]
    by_cases empty : t = ""
    · have none : t.isEmpty = true := String.isEmpty_iff.mpr empty
      rw [if_pos none]
      simp only [reduceCtorEq, false_iff, not_and, not_not]
      intro same
      exact same ▸ empty
    · have some : t.isEmpty = false := by simp [empty]
      rw [some, if_neg Bool.false_ne_true, Option.some.injEq]
      constructor
      · rintro rfl
        exact ⟨rfl, empty⟩
      · exact And.left
  case h_2 other =>
    simp only [reduceCtorEq, false_iff, not_and]
    intro found
    exact absurd found (other s)

/-- The endpoint is what the first binding in the document says, and empty if there is none. -/
structure Answers (document : Value) (endpoint : Endpoint) : Prop where
  taken : ∀ path members, FirstBinding document path members → ∀ s,
    (endpoint.url = some s ↔ members.lookup "url" = some (.text s) ∧ s ≠ "") ∧
    (endpoint.username = some s ↔ members.lookup "username" = some (.text s) ∧ s ≠ "") ∧
    (endpoint.password = some s ↔ members.lookup "password" = some (.text s) ∧ s ≠ "") ∧
    (endpoint.mtlsUrl = some s ↔ members.lookup "mtls_url" = some (.text s) ∧ s ≠ "")
  empty : (∀ path members, ¬ BindsAt document path members) → endpoint = .empty

theorem endpointOf_answers {document : Value} (ordered : document.Ordered) :
    Answers document (endpointOf document) where
  taken path members first s := by
    have search := (binding?_eq_some_iff ordered).mpr ⟨path, first⟩
    simp only [endpointOf, search, setting?_eq_some_iff, and_self]
  empty none := by
    cases search : binding? document with
    | none => simp only [endpointOf, search]
    | some members =>
      obtain ⟨path, first⟩ := (binding?_eq_some_iff ordered).mp search
      exact absurd first.binds (none path members)

/-- What has a binding in it has one wherever it is a member, under the name of a binding too. -/
theorem BindsAt.inside {document w : Value} {path deeper : List Step} {own found : List (String × Value)}
    {name : String} (binds : BindsAt w deeper found) (there : document.at? path = some (.object own))
    (member : own.lookup name = some w) : BindsAt document (path ++ .member name :: deeper) found := by
  obtain ⟨last, below, binding⟩ := binds
  refine ⟨last, ?_, binding⟩
  rw [Value.at?_append, there, Option.bind_some, Value.at?, Value.inside?, member, Option.bind_some, below]

theorem parseEndpoint_eq_ok_iff {text : String} {endpoint : Endpoint} : parseEndpoint text = .ok endpoint ↔
    ∃ document, Value.parse text = .ok document ∧ endpointOf document = endpoint := by
  unfold parseEndpoint
  cases Value.parse text with
  | error e => simp
  | ok document => simp

/-- The binding is found wherever it is: the search has a result if and only if some object has a
binding, and it is the first of all, whatever else goes by its name. The order of members in the
text does not matter. -/
theorem parseEndpoint_finds_first :
    (∀ text document, Value.parse text = .ok document ↔
      ∃ v, Json.SpelledItem v text.toList ∧ v.height ≤ Json.depthLimit ∧ v.sorted = document) ∧
    (∀ text document, Value.parse text = .ok document → document.Ordered ∧
      ((binding? document).isSome ↔ ∃ path members, BindsAt document path members) ∧
      (∀ members, binding? document = some members ↔ ∃ path, FirstBinding document path members) ∧
      (∀ path own w deeper members, document.at? path = some (.object own) →
        own.lookup "custom_metrics" = some w → BindsAt w deeper members → (binding? document).isSome) ∧
      ∃ endpoint, parseEndpoint text = .ok endpoint ∧ Answers document endpoint) ∧
    ∀ v w : Value, ∀ s t : String, Json.SpelledItem v s.toList → Json.SpelledItem w t.toList → v.Reordered w →
      parseEndpoint s = parseEndpoint t := by
  refine ⟨fun _ _ => Value.parse_eq_ok_iff, ?_, ?_⟩
  · intro text document read
    have ordered := Value.parse_ordered read
    refine ⟨ordered, binding?_isSome_iff ordered, fun _ => binding?_eq_some_iff ordered, ?_, ?_⟩
    · intro path own w deeper members there member binds
      exact (binding?_isSome_iff ordered).mpr ⟨_, members, binds.inside there member⟩
    · exact ⟨endpointOf document, parseEndpoint_eq_ok_iff.mpr ⟨document, read, rfl⟩, endpointOf_answers ordered⟩
  · intro v w s t first second reordered
    rw [parseEndpoint, parseEndpoint, reordered.parse_eq first second]

/-- A binding in a list. -/
def userServices : String × Value :=
  ("user", .list [.bool true, .object [("custom_metrics", .object [("url", .text "https://one")])]])

/-- A list by the name of a binding, with a binding in it. -/
def autoServices : String × Value :=
  ("auto", .object [("custom_metrics", .list [.object [("custom_metrics",
    .object [("url", .text "https://two"), ("username", .null), ("password", .text "")])]])])

def services : Value := .object [userServices, autoServices]

def servicesMoved : Value := .object [autoServices, userServices]

theorem parseEndpoint_finds_first_of_services :
    Value.parse services.render = .ok services.sorted ∧ (binding? services.sorted).isSome ∧
    (∃ endpoint, parseEndpoint services.render = .ok endpoint ∧ Answers services.sorted endpoint ∧
      endpoint = { url := some "https://two" }) ∧
    services.Reordered servicesMoved ∧
    parseEndpoint services.render = parseEndpoint servicesMoved.render := by
  have legible : services.Legible ∧ servicesMoved.Legible := by
    simp [services, servicesMoved, userServices, autoServices, Value.Legible, Value.LegibleItems,
      Value.LegibleMembers]
  have shallow : services.height ≤ Json.depthLimit := by decide
  have read := (parseEndpoint_finds_first.1 services.render services.sorted).mpr
    ⟨services, Value.render_spelled legible.1, shallow, rfl⟩
  have reordered : services.Reordered servicesMoved := .of_perm (by decide) (.swap _ _ _)
  obtain ⟨-, -, -, -, endpoint, answer, answers⟩ := parseEndpoint_finds_first.2.1 _ _ read
  have found : (binding? services.sorted).isSome := by decide +kernel
  have computed : endpointOf services.sorted = { url := some "https://two" } := by decide +kernel
  refine ⟨read, found, ⟨endpoint, answer, answers, ?_⟩, reordered, ?_⟩
  · rw [parseEndpoint, read] at answer
    exact (Except.ok.inj answer).symm.trans computed
  · exact parseEndpoint_finds_first.2.2 services servicesMoved _ _ (Value.render_spelled legible.1)
      (Value.render_spelled legible.2) reordered

end Throughput.Discovery
