import Throughput.Bytes
import Throughput.Text.Utf8

/-! What can be read from files: the bytes of a regular file and the entries of a
directory, by path. -/
namespace Throughput

structure DirectoryEntry where
  name : String
  isFile : Bool
  deriving DecidableEq, Repr

structure FileSystem where
  content : String → Option Bytes
  /-- The entries of a directory in any order. -/
  entries : String → Option (List DirectoryEntry)

namespace FileSystem

def empty : FileSystem := ⟨fun _ => none, fun _ => none⟩

def readText (fs : FileSystem) (path : String) : Option String :=
  (fs.content path).bind Text.ofUtf8?

def join (directory name : String) : String :=
  if directory.toList.getLast? = some '/' then directory ++ name else directory ++ "/" ++ name

/-- What follows the last dot of a name, if something stands before that dot. -/
def extension? (name : String) : Option (List Char) :=
  let after := name.toList.reverse.takeWhile (· ≠ '.')
  if after.length + 1 < name.toList.length then some after.reverse else none

/-- The regular files of a directory with an extension, sorted by name. -/
def filesWithExtension (fs : FileSystem) (extension directory : String) : List String :=
  let found := ((fs.entries directory).getD []).filter fun e =>
    e.isFile && extension? e.name == some extension.toList
  ((found.map DirectoryEntry.name).mergeSort fun a b => decide (a ≤ b)).map (join directory)

end FileSystem
end Throughput
