import Tunnel.Config.Load
import Tunnel.Egress
import Tunnel.ListenAddress
import Tunnel.Server.Basic

/-!
# The command line

`serve`, the default, runs the server, and `config` prints the effective configuration. Both
take `--config`, before or after their name; `serve` also takes `--listen`.

## Main definitions

* `Invocation.ofArgs` — what the arguments ask for.
* `CommandLine.run` — what a call of the program does.
-/

namespace Tunnel

inductive Command
  | serve (listen? : Option String)
  | config
  deriving DecidableEq, Repr, Inhabited

/-- What the arguments ask for. -/
inductive Invocation
  | version
  | help
  | misuse
  | command (config? : Option String) (command : Command)
  deriving DecidableEq, Repr, Inhabited

namespace Invocation

/-- An option with a value, as it stands at the front of the arguments. -/
inductive Found
  /-- The option is not there. -/
  | absent
  /-- The option is there without a value. -/
  | bare
  | valued (value : String) (rest : List String)

/-- Whether an argument may be the value of an option. -/
def isValue (arg : String) : Bool := arg = "-" || arg.toList.head? ≠ some '-'

/-- Reads the option `name`, as `name value` or `name=value`. -/
def readOption (name : String) : List String → Found
  | [] => .absent
  | arg :: rest =>
    if arg = name then
      match rest with
      | value :: rest => if isValue value then .valued value rest else .bare
      | [] => .bare
    else
      match Text.cut '=' arg.toList with
      | (before, some value) =>
        if before = name.toList then .valued (String.ofList value) rest else .absent
      | (_, none) => .absent

/-- Whether an argument asks for help or for the version first. -/
def asked? (version : Bool) (arg : String) : Option Invocation :=
  if arg = "--help" then some .help
  else if version ∧ arg = "--version" then some .version
  else match arg.toList with
    | '-' :: 'h' :: _ => some .help
    | '-' :: 'V' :: _ => if version then some .version else none
    | _ => none

/-- The arguments after `serve`. -/
def ofServeArgs (outer? : Option String) : Nat → Option String → Option String → List String →
    Invocation
  | 0, _, _, _ => .misuse
  | n + 1, inner?, listen?, args =>
    match args with
    | [] => .command (inner?.or outer?) (.serve listen?)
    | ["--"] => .command (inner?.or outer?) (.serve listen?)
    | arg :: _ =>
      match asked? false arg, readOption "--config" args, readOption "--listen" args with
      | some asked, _, _ => asked
      | _, .valued value rest, _ =>
        if inner?.isSome || value = "" then .misuse
        else ofServeArgs outer? n (some value) listen? rest
      | _, _, .valued value rest =>
        if listen?.isSome then .misuse else ofServeArgs outer? n inner? (some value) rest
      | _, _, _ => .misuse

/-- The arguments after `config`. -/
def ofConfigArgs (outer? : Option String) : Nat → Option String → List String → Invocation
  | 0, _, _ => .misuse
  | n + 1, inner?, args =>
    match args with
    | [] => .command (inner?.or outer?) .config
    | ["--"] => .command (inner?.or outer?) .config
    | arg :: _ =>
      match asked? false arg, readOption "--config" args with
      | some asked, _ => asked
      | _, .valued value rest =>
        if inner?.isSome || value = "" then .misuse else ofConfigArgs outer? n (some value) rest
      | _, _ => .misuse

/-- The arguments after `help`. -/
def ofHelpArgs : List String → Invocation
  | [] => .help
  | ["serve"] => .help
  | ["config"] => .help
  | ["help"] => .help
  | _ => .misuse

/-- All arguments; each step reads at least one. -/
def ofArgsWithin : Nat → Option String → List String → Invocation
  | 0, _, _ => .misuse
  | n + 1, outer?, args =>
    match args with
    | [] => .command outer? (.serve none)
    | ["--"] => .command outer? (.serve none)
    | "serve" :: rest => ofServeArgs outer? (rest.length + 1) none none rest
    | "config" :: rest => ofConfigArgs outer? (rest.length + 1) none rest
    | "help" :: rest => ofHelpArgs rest
    | arg :: _ =>
      match asked? true arg, readOption "--config" args with
      | some asked, _ => asked
      | _, .valued value rest =>
        if outer?.isSome || value = "" then .misuse else ofArgsWithin n (some value) rest
      | _, _ => .misuse

/-- What the arguments ask for. -/
def ofArgs (args : List String) : Invocation := ofArgsWithin (args.length + 1) none args

end Invocation

namespace CommandLine

/-- Why a server cannot listen on an address. -/
inductive BindError
  | address (e : ListenAddress.Problem)
  /-- The system refuses the address. -/
  | refused
  deriving DecidableEq, Repr, Inhabited

/-- Why a command fails. -/
inductive Failure
  | logFile (path : String)
  | load (e : LoadError)
  | egress (e : Egress.Problem)
  | bind (address : String) (cause : BindError)
  deriving DecidableEq, Repr, Inhabited

def Failure.message : Failure → String
  | .logFile path => s!"Failed to create log file at {path}"
  | .load e => e.message
  | .egress e => e.message
  | .bind address _ => s!"Failed to bind {address}"

/-- What a call of the program comes to. -/
inductive Outcome
  | printed (text : String)
  | helped
  | misused
  | failed (failure : Failure)
  /-- The server runs on this address. -/
  | serving (address : ListenAddress) (server : Server) (engine : Engine)

/-- Exit codes: 0 for success, 1 for a failure and 2 for arguments that make no sense. -/
def Outcome.code : Outcome → Nat
  | .printed _ | .helped | .serving _ _ _ => 0
  | .failed _ => 1
  | .misused => 2

def versionText : String := "bepass-relay 0.1.0\n"

/-- What a program meets outside: its files, its environment, the home directory of its user's
account, chance, and which addresses the system lets it listen on. -/
structure Surroundings where
  files : Files
  env : Environment
  accountHome? : Option String := none
  random : Nat
  listens : ListenAddress → Bool

/-- The directories of the user. -/
def Surroundings.directories (out : Surroundings) : UserDirectories :=
  { home? := out.env "HOME", config? := out.env "XDG_CONFIG_HOME", account? := out.accountHome? }

/-- Starts a server: picks its fallback host and binds its address. -/
def serve (out : Surroundings) (config : Config) (listen? : Option String) : Outcome :=
  let config := { config with listenAddr := listen?.getD config.listenAddr }
  match (Egress.init none out.random config.fallbackEgress).1 with
  | .error e => .failed (.egress e)
  | .ok fallback =>
    match ListenAddress.ofText config.listenAddr with
    | .error e => .failed (.bind config.listenAddr (.address e))
    | .ok address =>
      if out.listens address then
        .serving address (.ofConfig config) (.ofConfig config fallback)
      else .failed (.bind config.listenAddr .refused)

/-- Executes what the arguments ask for. -/
def execute (out : Surroundings) : Invocation → Outcome
  | .version => .printed versionText
  | .help => .helped
  | .misuse => .misused
  | .command config? command =>
    match Config.load out.files.node config? out.directories.configPath? out.env with
    | .error e => .failed (.load e)
    | .ok config =>
      match command with
      | .config => .printed (config.toJson ++ "\n")
      | .serve listen? => serve out config listen?

/-- A call of the program. The log file is created before the arguments are looked at. -/
def run (out : Surroundings) (args : List String) : Outcome :=
  match out.env "BEPASS_LOG_FILE" with
  | none => execute out (.ofArgs args)
  | some path =>
    match out.files.create? path with
    | none => .failed (.logFile path)
    | some files => execute { out with files } (.ofArgs args)

end CommandLine

end Tunnel
