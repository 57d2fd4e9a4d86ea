import Throughput.Event
import Throughput.Text.Digits

/-! Which records are shown. A filter is a list of directives, each a level for a target
and those below it, or for all targets. The directive with the longest target decides, of
two for the same target the later one; a record that no directive speaks of is not shown. -/
namespace Throughput

/-- The least severe level that is shown, or nothing. -/
inductive Verbosity where
  | off
  | atLeast (level : Level)
  deriving DecidableEq, Repr

namespace Verbosity

def shows : Verbosity → Level → Bool
  | off, _ => false
  | .atLeast least, level => least.severity ≤ level.severity

/-- Levels by name, in letters of either case, or by number. -/
def ofText? (cs : List Char) : Option Verbosity :=
  match Text.natural? cs with
  | some 0 => some off
  | some 1 => some (.atLeast .error)
  | some 2 => some (.atLeast .warn)
  | some 3 => some (.atLeast .info)
  | some 4 => some (.atLeast .debug)
  | some 5 => some (.atLeast .trace)
  | some _ => none
  | none =>
    match String.ofList (cs.map Char.toLower) with
    | "off" => some off
    | "error" => some (.atLeast .error)
    | "warn" => some (.atLeast .warn)
    | "info" => some (.atLeast .info)
    | "debug" => some (.atLeast .debug)
    | "trace" => some (.atLeast .trace)
    | _ => none

end Verbosity

structure Directive where
  /-- The beginning of the targets; the empty one begins all. -/
  target : List Char
  verbosity : Verbosity
  deriving DecidableEq, Repr

namespace Directive

def startsTarget (c : Char) : Bool := c.isAlphanum || c == '_' || c == ':' || c == '-'

/-- `level`, `target` or `target=level`; a target without a level shows everything. -/
def ofText? (cs : List Char) : Option Directive :=
  if !(cs.head?.map startsTarget).getD false then none
  else
    let target := cs.takeWhile (· ≠ '=')
    match cs.dropWhile (· ≠ '=') with
    | [] => match Verbosity.ofText? target with
      | some verbosity => some ⟨[], verbosity⟩
      | none => some ⟨target, .atLeast .trace⟩
    | [_] => some ⟨target, .atLeast .trace⟩
    | _ :: level => (Verbosity.ofText? level).map fun verbosity => ⟨target, verbosity⟩

def stronger (a b : Directive) : Directive := if a.target.length ≤ b.target.length then b else a

end Directive

structure Filter where
  directives : List Directive
  deriving DecidableEq, Repr

namespace Filter

def uniform (level : Level) : Filter := ⟨[⟨[], .atLeast level⟩]⟩

/-- Directives between commas. Without any, errors are shown. -/
def ofText? (text : String) : Option Filter :=
  match ((text.toList.splitOn ',').filter (!·.isEmpty)).mapM Directive.ofText? with
  | none => none
  | some [] => some (uniform .error)
  | some directives => some ⟨directives⟩

def deciding? (f : Filter) (target : String) : Option Directive :=
  (f.directives.filter fun d => d.target.isPrefixOf target.toList).foldl
    (fun best d => some (match best with
      | some b => b.stronger d
      | none => d)) none

def shows (f : Filter) (target : String) (level : Level) : Bool :=
  match f.deciding? target with
  | some d => d.verbosity.shows level
  | none => false

end Filter
end Throughput
