import Throughput.FileSystem
import Throughput.Text.Blank

/-! The client certificate credential: certificate, key and trusted certificates as
text. It is complete or it is none at all. -/
namespace Throughput

namespace Credential

structure Material where
  certificate : String
  key : String
  trusted : String
  deriving DecidableEq, Repr

/-- Where the parts are kept; trusted certificates are the files of a directory. -/
structure Paths where
  certificate : Option String
  key : Option String
  directory : Option String
  deriving DecidableEq, Repr

def Paths.none : Paths := ⟨.none, .none, .none⟩

end Credential

abbrev Credential := Option Credential.Material

namespace Credential

/-- Every part must be there and hold more than white space. -/
def ofParts (certificate key trusted : Option String) : Credential :=
  match certificate, key, trusted with
  | some c, some k, some t =>
    if Text.allBlank c || Text.allBlank k || Text.allBlank t then Option.none else some ⟨c, k, t⟩
  | _, _, _ => Option.none

def withNewline (text : String) : String :=
  if text.toList.getLast? = some '\n' then text else text ++ "\n"

/-- The texts of the readable files, each ending in a line feed. -/
def bundle (fs : FileSystem) (files : List String) : Option String :=
  let text := String.join ((files.filterMap fs.readText).map withNewline)
  if text.isEmpty then Option.none else some text

def ofFiles (fs : FileSystem) (key certificate : String) (trusted : List String) : Credential :=
  ofParts (fs.readText certificate) (fs.readText key) (bundle fs trusted)

/-- All three paths are needed, and at least one certificate in the directory. -/
def load (fs : FileSystem) (paths : Paths) : Credential :=
  match paths.directory, paths.certificate, paths.key with
  | some directory, some certificate, some key =>
    let trusted := fs.filesWithExtension "crt" directory
    if trusted.isEmpty then Option.none else ofFiles fs key certificate trusted
  | _, _, _ => Option.none

/-- Sizes of the parts, never the key itself. -/
def describe : Credential → String
  | some m =>
    "Valid(MtlsMaterial \x7b cert_pem: " ++ toString (Text.byteCount m.certificate) ++
      " bytes, key_pem: \"<redacted>\", ca_pem: " ++ toString (Text.byteCount m.trusted) ++
      " bytes \x7d)"
  | Option.none => "Invalid"

end Credential
end Throughput
