import Throughput.Discovery

/-! Documents without their passwords. The endpoint in a document of bindings is the same
but for its password, whatever the passwords in the document are, as long as they are not
empty: an empty one counts as none. -/
namespace Throughput

/-- What stands in the place of every password. -/
def passwordMask : String := "*"

def Endpoint.masked (e : Endpoint) : Endpoint :=
  { e with password := e.password.map fun _ => passwordMask }

namespace Json.Value

/-- A text with something in it becomes the mask. -/
def hideText : Value → Value
  | text s => text (if s.isEmpty then s else passwordMask)
  | v => v

/-- The member of an object, given its value with what is inside masked. -/
def hideMember (name : String) (v : Value) : Value := if name = "password" then v.hideText else v

mutual

/-- The document with the mask for each password, wherever in it the password stands. -/
def masked : Value → Value
  | list items => list (maskedItems items)
  | object members => object (maskedMembers members)
  | null => null
  | bool b => bool b
  | number n => number n
  | text s => text s

def maskedItems : List Value → List Value
  | [] => []
  | v :: rest => v.masked :: maskedItems rest

def maskedMembers : List (String × Value) → List (String × Value)
  | [] => []
  | (name, v) :: rest => (name, hideMember name v.masked) :: maskedMembers rest

end

theorem lookup_maskedMembers (members : List (String × Value)) (name : String) :
    (maskedMembers members).lookup name =
      (members.lookup name).map fun v => hideMember name v.masked := by
  induction members with
  | nil => rfl
  | cons member rest ih =>
    obtain ⟨other, v⟩ := member
    rw [maskedMembers, List.lookup_cons, List.lookup_cons, ih]
    by_cases same : name = other
    · subst same
      rw [beq_self_eq_true]
      rfl
    · rw [beq_false_of_ne same]

end Json.Value

namespace Discovery

open Json.Value

theorem binding?_hideMember (name : String) (v : Json.Value) :
    binding? (hideMember name v) = binding? v := by
  unfold hideMember
  split
  · cases v <;> rfl
  · rfl

mutual

theorem binding?_masked : ∀ v : Json.Value, binding? v.masked = (binding? v).map maskedMembers
  | .null | .bool _ | .number _ | .text _ => rfl
  | .list items => bindingInItems?_masked items
  | .object members => by
    rw [masked, binding?, binding?, lookup_maskedMembers]
    have inside := bindingInMembers?_masked members
    have kept (v : Json.Value) : hideMember "custom_metrics" v = v := if_neg (by decide)
    cases found : members.lookup "custom_metrics" with
    | none => exact inside
    | some v =>
      rw [Option.map_some, kept]
      cases v with
      | object found => rfl
      | _ => exact inside

theorem bindingInItems?_masked : ∀ items : List Json.Value,
    bindingInItems? (maskedItems items) = (bindingInItems? items).map maskedMembers
  | [] => rfl
  | v :: rest => by
    rw [maskedItems, bindingInItems?, bindingInItems?, binding?_masked v, bindingInItems?_masked rest,
      Option.map_or]

theorem bindingInMembers?_masked : ∀ members : List (String × Json.Value),
    bindingInMembers? (maskedMembers members) = (bindingInMembers? members).map maskedMembers
  | [] => rfl
  | (name, v) :: rest => by
    rw [maskedMembers, bindingInMembers?, bindingInMembers?, binding?_hideMember, binding?_masked v,
      bindingInMembers?_masked rest, Option.map_or]

end

/-- Every setting but the password is as it was. -/
theorem setting?_masked (members : List (String × Json.Value)) {name : String}
    (other : name ≠ "password") : setting? (maskedMembers members) name = setting? members name := by
  have kept (v : Json.Value) : hideMember name v = v := if_neg other
  unfold setting?
  rw [lookup_maskedMembers]
  cases members.lookup name with
  | none => rfl
  | some v =>
    rw [Option.map_some, kept]
    cases v <;> rfl

theorem setting?_masked_password (members : List (String × Json.Value)) :
    setting? (maskedMembers members) "password" =
      (setting? members "password").map fun _ => passwordMask := by
  unfold setting?
  rw [lookup_maskedMembers]
  cases members.lookup "password" with
  | none => rfl
  | some v =>
    cases v with
    | text s =>
      have hidden : hideMember "password" (masked (.text s)) =
          .text (if s.isEmpty then s else passwordMask) := if_pos rfl
      rw [Option.map_some, hidden]
      cases empty : s.isEmpty with
      | true => simp only [empty, if_true, Option.map_none]
      | false =>
        have mask : passwordMask.isEmpty = false := by decide
        simp only [empty, mask, Bool.false_eq_true, if_false, Option.map_some]
    | _ => rfl

theorem endpointOf_masked (document : Json.Value) :
    endpointOf document.masked = (endpointOf document).masked := by
  unfold endpointOf
  rw [binding?_masked]
  cases binding? document with
  | none => rfl
  | some members =>
    have url := setting?_masked members (show "url" ≠ "password" by decide)
    have username := setting?_masked members (show "username" ≠ "password" by decide)
    have mtlsUrl := setting?_masked members (show "mtls_url" ≠ "password" by decide)
    simp only [Option.map_some, Endpoint.masked, setting?_masked_password, url, username, mtlsUrl]

end Discovery
end Throughput
