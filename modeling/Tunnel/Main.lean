import Tunnel.CommandLine

/-!
# The program

Reads what the command line needs from outside and prints what comes of it. There are no sockets
here, so that no address can be listened on and `serve` fails to bind.
-/

namespace Tunnel.Main

/-- What a path leads to. -/
def readNode (path : String) : IO Node := do
  try
    let content ← IO.FS.readBinFile path
    return .file content.toList
  catch
    | .noFileOrDirectory _ _ _ => return .missing
    | _ => return .folder

/-- Creates the log file, if one is asked for. -/
def createLog (path? : Option String) : IO Files := do
  match path? with
  | none => return []
  | some path =>
    try
      IO.FS.writeFile path ""
      return [(path, .file [])]
    catch _ => return [(path, .folder)]

/-- The configuration file that an invocation reads, if there is one. -/
def configFile? (env : Environment) : Invocation → Option String
  | .command (some path) _ => some path
  | .command none _ =>
    { home? := env "HOME", config? := env "XDG_CONFIG_HOME" : UserDirectories }.configPath?
  | .version | .help | .misuse => none

def names : List String :=
  ["HOME", "XDG_CONFIG_HOME", "BEPASS_LOG_FILE", "BEPASS_LISTEN", "BEPASS_CONNECT_PATH",
    "BEPASS_FALLBACK_EGRESS", "BEPASS_REPLAY_LIMIT"]

/-- The values of the variables that the program looks at. -/
def readEnvironment : IO Environment := do
  let vars ← names.filterMapM fun name => do
    return (← IO.getEnv name).map fun value => (name, value)
  return fun name => vars.lookup name

def run (args : List String) : IO UInt32 := do
  let env ← readEnvironment
  let log ← createLog (env "BEPASS_LOG_FILE")
  let config ← match configFile? env (.ofArgs args) with
    | some path => do pure [(path, ← readNode path)]
    | none => pure []
  let outcome := CommandLine.run
    { files := log ++ config, env, random := ← IO.rand 0 65535, listens := fun _ => false } args
  match outcome with
  | .printed text => IO.print text
  | .helped => IO.println "Usage: bepass-relay [OPTIONS] [COMMAND]"
  | .misused => IO.eprintln "Usage: bepass-relay [OPTIONS] [COMMAND]"
  | .failed failure => IO.eprintln s!"Error: {failure.message}"
  | .serving _ _ _ => pure ()
  return outcome.code.toUInt32

end Tunnel.Main

def main (args : List String) : IO UInt32 := Tunnel.Main.run args
