import Throughput.Configuration.Setting
import Throughput.Text.Digits

/-! Settings from the command line. Options have a name after two hyphens, some a letter
after one. A value follows as the next argument, after an equals sign, or after the letter
at once. -/
namespace Throughput.Configuration

inductive UsageError where
  | unknownArgument
  /-- A value that is missing, or empty where that means nothing. -/
  | noValue
  | notANumber
  | repeated
  /-- A value for a switch. -/
  | unneededValue
  deriving DecidableEq, Repr

inductive Stop where
  | help
  | version
  | usage (cause : UsageError)
  deriving DecidableEq, Repr

structure Arguments where
  number : NumberSetting → Option UInt64 := fun _ => none
  switch : SwitchSetting → Bool := fun _ => false
  text : TextSetting → Option String := fun _ => none

inductive Wish where
  | setting (s : Setting)
  | help
  | version
  deriving DecidableEq, Repr

namespace Wish

def ofLong? (name : List Char) : Option Wish :=
  if name = "help".toList then some help
  else if name = "version".toList then some version
  else (Setting.all.find? fun s => s.long == name).map setting

def ofShort? (c : Char) : Option Wish :=
  if c = 'h' then some help
  else if c = 'V' then some version
  else (Setting.all.find? fun s => s.short? == some c).map setting

end Wish

namespace Arguments

def setNumber (a : Arguments) (n : NumberSetting) (v : UInt64) : Arguments :=
  { a with number := fun m => if m = n then some v else a.number m }

def setSwitch (a : Arguments) (s : SwitchSetting) : Arguments :=
  { a with switch := fun t => t = s || a.switch t }

def setText (a : Arguments) (t : TextSetting) (v : String) : Arguments :=
  { a with text := fun u => if u = t then some v else a.text u }

/-- Turns a switch on, once. -/
def turnOn (a : Arguments) (s : SwitchSetting) : Except UsageError Arguments :=
  if a.switch s then .error .repeated else .ok (a.setSwitch s)

/-- Takes the value of an option, once. -/
def store (a : Arguments) (s : Setting) (value : List Char) : Except UsageError Arguments :=
  match s with
  | .switch s => a.turnOn s
  | .number n =>
    if (a.number n).isSome then .error .repeated
    else
      match Text.below? UInt64.size value with
      | some v => .ok (a.setNumber n (.ofNat v))
      | none => .error .notANumber
  | .text t =>
    if (a.text t).isSome then .error .repeated
    else if t.isPath && value.isEmpty then .error .noValue
    else .ok (a.setText t (.ofList value))

/-- Settings so far, and an option that is not settled yet: one that still waits for its
value, or one whose value is looked at when the next option begins or the line ends. -/
structure Reading where
  given : Arguments
  pending : Option (Setting × Option (List Char))

namespace Reading

def begin : Reading := ⟨{}, none⟩

def settle (r : Reading) : Except UsageError Arguments :=
  match r.pending with
  | none => .ok r.given
  | some (_, none) => .error .noValue
  | some (s, some value) => r.given.store s value

/-- An option after all before it are settled, with its value if that is at hand. -/
def take (r : Reading) (wish : Wish) (value : Option (List Char)) : Except Stop Reading :=
  match r.settle with
  | .error e => .error (.usage e)
  | .ok given =>
    match wish, value with
    | .help, _ => .error .help
    | .version, _ => .error .version
    | .setting (.switch s), _ =>
      match given.turnOn s with
      | .ok given => .ok ⟨given, none⟩
      | .error e => .error (.usage e)
    | .setting s, none => .ok ⟨given, some (s, none)⟩
    | .setting s, some value =>
      match given.store s value with
      | .ok given => .ok ⟨given, none⟩
      | .error e => .error (.usage e)

def takesValue : Wish → Bool
  | .setting (.number _) | .setting (.text _) => true
  | _ => false

def readLong (r : Reading) (cs : List Char) : Except Stop Reading :=
  let value := match cs.dropWhile (· ≠ '=') with
    | _ :: value => some value
    | [] => none
  match Wish.ofLong? (cs.takeWhile (· ≠ '=')) with
  | none => .error (.usage .unknownArgument)
  | some wish =>
    if value.isSome && !takesValue wish then .error (.usage .unneededValue)
    else r.take wish value

/-- Options by their letters. One that takes a value takes all that follows. -/
def readShort (r : Reading) : List Char → Except Stop Reading
  | [] => .ok r
  | c :: rest =>
    match Wish.ofShort? c with
    | none => .error (.usage .unknownArgument)
    | some wish =>
      if takesValue wish then
        r.take wish (match rest with
          | [] => none
          | '=' :: value => some value
          | value => some value)
      else
        match r.take wish none with
        | .ok r => readShort r rest
        | .error e => .error e

/-- Text that is no option is the value that is waited for. -/
def readOther (r : Reading) (cs : List Char) : Except Stop Reading :=
  match r.pending with
  | some (s, none) => .ok ⟨r.given, some (s, some cs)⟩
  | _ => .error (.usage .unknownArgument)

/-- Two hyphens alone end the options, and nothing may follow. -/
def readAll (r : Reading) : List String → Except Stop Arguments
  | [] => r.settle.mapError Stop.usage
  | argument :: rest =>
    let next : Except Stop Reading := match argument.toList with
      | '-' :: '-' :: [] => if rest.isEmpty then .ok r else .error (.usage .unknownArgument)
      | '-' :: '-' :: cs => r.readLong cs
      | '-' :: c :: cs => r.readShort (c :: cs)
      | cs => r.readOther cs
    match next with
    | .ok r => readAll r rest
    | .error e => .error e

end Reading

def parse (arguments : List String) : Except Stop Arguments := Reading.begin.readAll arguments

end Arguments
end Throughput.Configuration
