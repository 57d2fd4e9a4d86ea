import Throughput.Configuration.Setting
import Throughput.Configuration.Value

/-! Settings from variables of the environment. Names are compared in lower case, and
those of the agent share their beginning. -/
namespace Throughput.Configuration

abbrev Variables := List (String × String)

def commonPrefix : List Char := "cme_".toList

def isNameChar (c : Char) : Bool := c.isAlphanum || c == ' ' || c == '_' || c == '-'

def isIndexBlank (c : Char) : Bool := c == ' ' || c == '\t' || c == '\r' || c == '\n'

/-- A number that can count the elements of a sequence, with blanks around it. -/
def isIndex (cs : List Char) : Bool :=
  let digits := ((cs.dropWhile isIndexBlank).reverse.dropWhile isIndexBlank).reverse
  (Text.int64? digits).isSome && digits.head? ≠ some '+'

def isPath : List Char → Bool
  | [] => true
  | '.' :: c :: rest => isNameChar c && isPath (rest.dropWhile isNameChar)
  | '[' :: rest =>
    rest.contains ']' && isIndex (rest.takeWhile (· ≠ ']')) &&
      isPath (rest.dropWhile (· ≠ ']')).tail
  | _ => false
termination_by cs => cs.length
decreasing_by
  · have := (List.dropWhile_sublist isNameChar (l := rest)).length_le
    simp only [List.length_cons]; omega
  · have := (List.dropWhile_sublist (· ≠ ']') (l := rest)).length_le
    simp only [List.length_tail, List.length_cons]; omega

/-- What a variable sets. A path sets its first name, to a group or a sequence. -/
def entry (key : List Char) (value : String) : String × Value :=
  let name := key.takeWhile isNameChar
  let rest := key.dropWhile isNameChar
  if name.isEmpty || !isPath rest then (.ofList key, .ofText value)
  else
    match rest with
    | '.' :: _ => (.ofList name, .group)
    | '[' :: _ => (.ofList name, .sequence)
    | _ => (.ofList key, .ofText value)

def entryOf? (name value : String) : Option (String × Value) :=
  let lower := (Text.lower name).toList
  if commonPrefix.isPrefixOf lower then some (entry (lower.drop commonPrefix.length) value)
  else none

namespace Variables

/-- What the variables set, the last first. -/
def entries (v : Variables) : List (String × Value) :=
  (v.filterMap fun (name, value) => entryOf? name value).reverse

def value? (v : Variables) (s : Setting) : Option Value := v.entries.lookup s.key

end Variables

structure Error where
  setting : Setting
  cause : Mismatch
  deriving DecidableEq, Repr

/-- Where a value comes from, if it is one variable's. -/
def Unexpected.place : Unexpected → String
  | group | sequence => ""
  | _ => " in the environment"

def Error.message (e : Error) : String :=
  "invalid type: " ++ e.cause.found.message ++ ", expected " ++ e.cause.expected ++
    " for key `" ++ e.setting.key ++ "`" ++ e.cause.found.place

namespace Variables

def read? (v : Variables) (s : Setting) (convert : Value → Except Mismatch α) :
    Except Error (Option α) :=
  match v.value? s with
  | none => .ok none
  | some value =>
    match convert value with
    | .ok a => .ok (some a)
    | .error cause => .error ⟨s, cause⟩

def number? (v : Variables) (n : NumberSetting) : Except Error (Option UInt64) :=
  v.read? (.number n) Value.toUInt64

def switch? (v : Variables) (s : SwitchSetting) : Except Error (Option Bool) :=
  v.read? (.switch s) Value.toBool

def text? (v : Variables) (t : TextSetting) : Except Error (Option String) :=
  v.read? (.text t) Value.toText

def fault? (v : Variables) : Setting → Option Error
  | .number n => match v.number? n with
    | .error e => some e
    | .ok _ => none
  | .switch s => match v.switch? s with
    | .error e => some e
    | .ok _ => none
  | .text t => match v.text? t with
    | .error e => some e
    | .ok _ => none

def faults (v : Variables) : List Error := Setting.all.filterMap v.fault?

end Variables
end Throughput.Configuration
