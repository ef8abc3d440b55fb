import Tunnel.Config.Json
import Tunnel.Config.Overrides
import Tunnel.Files

/-!
# Loading configurations

A configuration comes from a named file, or else from the default file if that exists, or else
it is the default one. Overrides of the environment apply to it, and then it must be usable.

## Main definitions

* `Config.load` — the configuration that a program runs with.
* `UserDirectories.configPath?` — where the default file is.
-/

namespace Tunnel

/-- Why there is no configuration. -/
inductive LoadError
  | unreadable (path : String) (cause : ReadError)
  | unparsable (path : String) (flaw : Json.Flaw)
  | unusable (problem : Config.Problem)
  deriving DecidableEq, Repr, Inhabited

def LoadError.message : LoadError → String
  | .unreadable path _ => s!"Failed to read config file {path}"
  | .unparsable path _ => s!"Failed to parse config file {path}"
  | .unusable problem => problem.message

/-- The configuration in a file. -/
def Config.ofFile (path : String) (node : Node) : Except LoadError Config :=
  match node.readText with
  | .error e => .error (.unreadable path e)
  | .ok text =>
    match Config.ofJson text with
    | .error e => .error (.unparsable path e)
    | .ok c => .ok c

/-- The configuration from the named file if there is one, or else from the default file. A named
file must exist. -/
def Config.source (files : String → Node) (named? default? : Option String) :
    Except LoadError Config :=
  match named? with
  | some path => Config.ofFile path (files path)
  | none =>
    match default? with
    | none => .ok {}
    | some path => if (files path).found then Config.ofFile path (files path) else .ok {}

/-- The configuration that a program runs with. -/
def Config.load (files : String → Node) (named? default? : Option String) (env : Environment) :
    Except LoadError Config :=
  match Config.source files named? default? with
  | .error e => .error e
  | .ok c =>
    let c := c.override env
    match c.validate with
    | .error problem => .error (.unusable problem)
    | .ok () => .ok c

/-- A path below a directory. -/
def joinPath (dir name : String) : String :=
  if dir = "" ∨ dir.toList.getLast? = some '/' then dir ++ name else dir ++ "/" ++ name

/-- What is known of a user's directories. -/
structure UserDirectories where
  /-- The home directory that the environment names. -/
  home? : Option String
  /-- The directory of configurations that the environment names. -/
  config? : Option String
  /-- The home directory of the user's account. -/
  account? : Option String := none
  deriving DecidableEq, Repr, Inhabited

namespace UserDirectories

/-- The home directory: the one that the environment names, or else that of the account. An
empty name counts as none. -/
def homeDir? (u : UserDirectories) : Option String := (u.home?.filter (· ≠ "")).or u.account?

/-- The directory of configurations: the one that the environment names, if its path is
absolute, or else the usual one in the home directory, if there is one. -/
def configDir? (u : UserDirectories) : Option String :=
  match u.config?.filter (·.toList.head? = some '/') with
  | some dir => some dir
  | none => u.homeDir?.map (joinPath · ".config")

/-- Where the default file is. -/
def configPath? (u : UserDirectories) : Option String :=
  u.configDir?.map fun dir => joinPath (joinPath dir "bepass-relay") "config.json"

end UserDirectories

end Tunnel
