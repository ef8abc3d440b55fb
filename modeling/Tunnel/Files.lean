import Tunnel.Text.Split
import Tunnel.Text.Utf8

/-!
# Files

What a program sees of the file system: what paths lead to, the text of files, and creating
files.

## Main definitions

* `Node` — what a path leads to.
* `Node.readText` — the text of a file.
* `Files.create?` — a new empty file, in a folder that exists.
-/

namespace Tunnel

/-- What a path leads to. -/
inductive Node
  | missing
  | folder
  | file (content : Bytes)

/-- Why a file cannot be read as text. -/
inductive ReadError
  | notFound | isFolder | notText
  deriving DecidableEq, Repr, Inhabited

def ReadError.message : ReadError → String
  | .notFound => "No such file or directory (os error 2)"
  | .isFolder => "Is a directory (os error 21)"
  | .notText => "stream did not contain valid UTF-8"

/-- Whether a path leads anywhere. -/
def Node.found : Node → Bool
  | .missing => false
  | .folder | .file _ => true

/-- The text of a file. -/
def Node.readText : Node → Except ReadError String
  | .missing => .error .notFound
  | .folder => .error .isFolder
  | .file content =>
    match Utf8.decode? content with
    | some text => .ok text
    | none => .error .notText

/-- A file system, as the nodes at some paths. -/
abbrev Files := List (String × Node)

namespace Files

def node (files : Files) (path : String) : Node := (files.lookup path).getD .missing

/-- The folder that holds a path. -/
def parent (path : String) : String :=
  match Text.cutLast '/' path.toList with
  | none => "."
  | some ([], _) => "/"
  | some (dir, _) => String.ofList dir

/-- Whether a path can name a file. -/
def isFilePath (path : String) : Bool := !(path = "" || path.toList.getLast? = some '/')

/-- The files after a file was created, or emptied, at a path. The folder that holds it must
exist, and a folder cannot be replaced. -/
def create? (files : Files) (path : String) : Option Files :=
  match files.node path, files.node (parent path) with
  | .folder, _ => none
  | .file _, _ => some ((path, .file []) :: files)
  | .missing, .folder => if isFilePath path then some ((path, .file []) :: files) else none
  | .missing, _ => none

end Files

end Tunnel
