import Tunnel.Config.Basic
import Tunnel.Json.Reader
import Tunnel.Json.Writer

/-!
# Configurations as JSON

A configuration is written as an object with one field on each line. It is read from an object,
in which fields may come in any order, missing ones take their defaults and unknown ones are
skipped, or from a list of the fields in order, in which the last ones may be missing.

## Main definitions

* `Config.toJson` — the written form.
* `Config.ofJson` — the configuration of a text, or the first flaw of the text.
-/

namespace Tunnel.Config

open Tunnel.Json

/-- The fields of a configuration. -/
inductive Field
  | listenAddr | connectPath | fallbackEgress | eventQueueCapacity | remoteQueueCapacity
  | replayLimit
  deriving DecidableEq, Repr, Inhabited

namespace Field

/-- All fields, in order. -/
def all : List Field :=
  [listenAddr, connectPath, fallbackEgress, eventQueueCapacity, remoteQueueCapacity, replayLimit]

def key : Field → String
  | listenAddr => "listen_addr"
  | connectPath => "connect_path"
  | fallbackEgress => "fallback_egress"
  | eventQueueCapacity => "event_queue_capacity"
  | remoteQueueCapacity => "remote_queue_capacity"
  | replayLimit => "replay_limit"

/-- The field with a given key. -/
def ofKey? (key : String) : Option Field := all.find? (·.key = key)

/-- The value of a field, written. -/
def write (c : Config) : Field → List Char
  | listenAddr => writeString c.listenAddr
  | connectPath => writeString c.connectPath
  | fallbackEgress => writeTexts c.fallbackEgress
  | eventQueueCapacity => writeNatural c.eventQueueCapacity
  | remoteQueueCapacity => writeNatural c.remoteQueueCapacity
  | replayLimit => writeNatural c.replayLimit

/-- Reads the value of a field into a configuration. -/
def read (c : Config) : Field → List Char → Except Flaw (Config × List Char)
  | listenAddr, cs => (readText cs).map fun (v, rest) => ({ c with listenAddr := v }, rest)
  | connectPath, cs => (readText cs).map fun (v, rest) => ({ c with connectPath := v }, rest)
  | fallbackEgress, cs =>
    (readTextList cs).map fun (v, rest) => ({ c with fallbackEgress := v }, rest)
  | eventQueueCapacity, cs =>
    (readNatural cs).map fun (v, rest) => ({ c with eventQueueCapacity := v }, rest)
  | remoteQueueCapacity, cs =>
    (readNatural cs).map fun (v, rest) => ({ c with remoteQueueCapacity := v }, rest)
  | replayLimit, cs => (readNatural cs).map fun (v, rest) => ({ c with replayLimit := v }, rest)

end Field

/-! ### Writing -/

/-- A field with its key, on a line of its own. -/
def writeField (c : Config) (f : Field) : List Char :=
  "  ".toList ++ writeString f.key ++ ':' :: ' ' :: f.write c

/-- An object of some of the fields. -/
def writeFields (c : Config) (fields : List Field) : List Char :=
  '\x7b' :: '\n' :: (joinLines (fields.map c.writeField) ++ ['\n', '\x7d'])

/-- The configuration with two spaces of indentation and the fields in order. -/
def toJson (c : Config) : String := String.ofList (c.writeFields Field.all)

/-! ### Reading -/

/-- The entries of an object, read into a configuration of which the fields in `seen` are set.
At most `n` entries are read. -/
def readEntries : Nat → Bool → List Field → Config → List Char →
    Except Flaw (Config × List Char)
  | 0, _, _, _, _ => .error .malformed
  | n + 1, first, seen, c, cs =>
    match nextKey first cs with
    | .error e => .error e
    | .ok (none, cs) => .ok (c, cs)
    | .ok (some key, cs) =>
      match Field.ofKey? key with
      | none =>
        match (readColon cs).bind skipValue with
        | .error e => .error e
        | .ok cs => readEntries n false seen c cs
      | some f =>
        if f ∈ seen then .error .mistyped
        else match (readColon cs).bind (f.read c) with
          | .error e => .error e
          | .ok (c, cs) => readEntries n false (f :: seen) c cs

/-- The elements of a list, read into the given fields of a configuration. -/
def readElements : List Field → Bool → Config → List Char → Except Flaw (Config × List Char)
  | [], _, c, cs => .ok (c, cs)
  | f :: fields, first, c, cs =>
    match nextElement first cs with
    | .error e => .error e
    | .ok (false, cs) => .ok (c, cs)
    | .ok (true, cs) =>
      match f.read c cs with
      | .error e => .error e
      | .ok (c, cs) => readElements fields false c cs

/-- A configuration at the front of a text. A list with more elements than fields is malformed. -/
def readConfig (cs : List Char) : Except Flaw (Config × List Char) :=
  match skipSpace cs with
  | [] => .error .unfinished
  | '[' :: rest =>
    match readElements Field.all true {} rest with
    | .error e => .error e
    | .ok (c, cs) => (endList cs).map (c, ·)
  | '\x7b' :: rest =>
    match readEntries (rest.length + 1) true [] {} rest with
    | .error e => .error e
    | .ok (c, cs) => (endObject cs).map (c, ·)
  | cs => .error (refuse cs)

/-- The configuration that a text holds, with nothing but space around it. -/
def ofJson (text : String) : Except Flaw Config :=
  match readConfig text.toList with
  | .error e => .error e
  | .ok (c, rest) => if atEnd rest then .ok c else .error .malformed

end Tunnel.Config
