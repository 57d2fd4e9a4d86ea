import Throughput.Json.Reader
import Throughput.Json.Skip

/-! Records of named fields, read from an object or from a list in the order of the
fields. Unknown members are passed over. -/
namespace Throughput.Json

inductive Kind where
  | text
  | word
  /-- A text that may be absent or `null`. -/
  | optionalText
  deriving DecidableEq, Repr

abbrev Kind.Holds : Kind → Type
  | text => String
  | word => UInt32
  | optionalText => Option String

structure Field where
  name : String
  kind : Kind
  deriving DecidableEq, Repr

structure Shape where
  name : String
  fields : List Field
  deriving DecidableEq, Repr

def Shape.describe (shape : Shape) : String := "struct " ++ shape.name

abbrev Row : List Field → Type
  | [] => Unit
  | f :: fields => f.kind.Holds × Row fields

/-- The values of the fields that were read so far. -/
abbrev Slots : List Field → Type
  | [] => Unit
  | f :: fields => Option f.kind.Holds × Slots fields

def Slots.empty : (fields : List Field) → Slots fields
  | [] => ()
  | _ :: fields => (none, Slots.empty fields)

def readTextField (s : List Char) : Taken String s :=
  Taken.afterBlank <|
    match skipBlank s with
    | [] => .error .endOfValue
    | c :: rest =>
      if c = '"' then
        match readText rest with
        | .ok (text, r) => .ok (text, (Rest.tail c rest).outside r)
        | .error e => .error e
      else .error (mismatch "a string" (c :: rest))

def wordOf (n : Number) : Except Error UInt32 :=
  match n with
  | .float x => .error (.invalidType (.float x) "u32")
  | .integer n =>
    if 0 ≤ n && n < UInt32.size then .ok (.ofNat n.toNat)
    else .error (.invalidValue (.integer n) "u32")

def readWordField (s : List Char) : Taken UInt32 s :=
  Taken.afterBlank <|
    match skipBlank s with
    | [] => .error .endOfValue
    | c :: rest =>
      if c = '-' || Text.isDigit c then
        match readNumber (c :: rest) with
        | .error e => .error e
        | .ok (n, r) =>
          match wordOf n with
          | .ok n => .ok (n, r)
          | .error e => .error e
      else .error (mismatch "u32" (c :: rest))

def readOptionalField (s : List Char) : Taken (Option String) s :=
  match skipBlank s with
  | 'n' :: _ =>
    Taken.afterBlank <|
      match readScalar (skipBlank s) with
      | .ok (_, r) => .ok (none, r)
      | .error e => .error e
  | _ =>
    match readTextField s with
    | .ok (text, r) => .ok (some text, r)
    | .error e => .error e

def Kind.read : (kind : Kind) → (s : List Char) → Taken kind.Holds s
  | text => readTextField
  | word => readWordField
  | optionalText => readOptionalField

def readAfterColon (read : (s : List Char) → Taken α s) (s : List Char) : Taken α s :=
  match readColon s with
  | .error e => .error e
  | .ok r => (read r.val).outside r

def readNothing (s : List Char) : Taken Unit s :=
  match skipValue s with
  | .ok r => .ok ((), r)
  | .error e => .error e

/-- A member goes to its field, or is passed over if no field has its name. A field given
twice is refused before its second value. -/
def addField : (fields : List Field) → Slots fields → String → (s : List Char) →
    Taken (Slots fields) s
  | [], (), _, s => readAfterColon readNothing s
  | f :: fields, (slot, others), name, s =>
    if f.name = name then
      if slot.isSome then .error (.duplicateField name)
      else
        match readAfterColon f.kind.read s with
        | .ok (value, r) => .ok ((some value, others), r)
        | .error e => .error e
    else
      match addField fields others name s with
      | .ok (others, r) => .ok ((slot, others), r)
      | .error e => .error e

/-- The value of a field that was not given, if it may be absent. -/
def Kind.absent? : (kind : Kind) → Option kind.Holds
  | optionalText => some none
  | text => none
  | word => none

/-- Every field; the first one that was not given and may not be absent is missing. -/
def Slots.complete : (fields : List Field) → Slots fields → Except Error (Row fields)
  | [], () => .ok ()
  | f :: fields, (slot, others) =>
    match slot.or f.kind.absent? with
    | none => .error (.missingField f.name)
    | some value =>
      match Slots.complete fields others with
      | .ok row => .ok (value, row)
      | .error e => .error e

def readListEnd (s : List Char) : Except Error (Rest s) :=
  match h : skipBlank s with
  | [] => .error .endOfList
  | c :: rest =>
    if c = ']' then .ok (.afterBlank h)
    else if c = ',' then
      .error (if (skipBlank rest).head? = some ']' then .trailingComma else .trailingCharacters)
    else .error .trailingCharacters

/-- The fields as the items of a list, `count` of them read before. -/
def readFieldItems (shape : Shape) (count : Nat) :
    (fields : List Field) → (s : List Char) → Taken (Row fields) s
  | [], s =>
    match readListEnd s with
    | .ok last => .ok ((), last)
    | .error e => .error e
  | f :: fields, s =>
    match nextItem (count = 0) s with
    | .error e => .error e
    | .ok (.done _) => .error (.invalidLength count
        (shape.describe ++ " with " ++ toString shape.fields.length ++ " elements"))
    | .ok (.item start) =>
      match f.kind.read start.val with
      | .error e => .error e
      | .ok (value, r) =>
        match readFieldItems shape (count + 1) fields r.val with
        | .error e => .error e
        | .ok (row, last) => .ok ((value, row), ⟨last.val, by
            have := start.property; have := r.property; have := last.property; omega⟩)

def readRecord (shape : Shape) (s : List Char) : Taken (Row shape.fields) s :=
  Taken.afterBlank <|
    match skipBlank s with
    | [] => .error .endOfValue
    | c :: rest =>
      if c = '[' then (readFieldItems shape 0 shape.fields rest).outside (.tail c rest)
      else if c = Text.openBrace then
        match readMembers (addField shape.fields) (.empty shape.fields) true rest with
        | .error e => .error e
        | .ok (slots, last) =>
          match slots.complete shape.fields with
          | .ok row => .ok (row, (Rest.tail c rest).outside last)
          | .error e => .error e
      else .error (mismatch shape.describe (c :: rest))

/-- A record that is the whole of a text. -/
def Shape.parse (shape : Shape) (text : String) : Except Error (Row shape.fields) :=
  readDocument (readRecord shape) text

end Throughput.Json
