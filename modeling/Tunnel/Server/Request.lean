import Tunnel.Bytes
import Tunnel.Text.Split

/-!
# Upgrade requests

The head of an HTTP request, read byte by byte: a request line and header lines up to an empty
line.

## Main definitions

* `Request.read` — the request at the front of the bytes.
* `Request.path`, `Request.query` — the parts of its target.
* `Request.header?` — the first header of a name.
-/

namespace Tunnel

structure Request where
  method : String
  target : String
  /-- The digit after the point of the version. -/
  minorVersion : Nat
  headers : List (String × String)
  deriving DecidableEq, Repr, Inhabited

namespace Request

/-- What is wrong with the text of a request. -/
inductive Flaw
  | token | version | newLine | headerName | headerValue
  deriving DecidableEq, Repr, Inhabited

def Flaw.message : Flaw → String
  | .token => "invalid token"
  | .version => "invalid HTTP version"
  | .newLine => "invalid new line"
  | .headerName => "invalid header name"
  | .headerValue => "invalid header value"

/-- What reading gives: a value with the rest of the bytes, a flaw, or `incomplete` if the bytes
end too early. -/
inductive Answer (α : Type)
  | incomplete
  | flawed (f : Flaw)
  | done (value : α) (rest : Bytes)

def Answer.bind {α β : Type} (a : Answer α) (f : α → Bytes → Answer β) : Answer β :=
  match a with
  | .incomplete => .incomplete
  | .flawed e => .flawed e
  | .done value rest => f value rest

/-- The text of bytes, one character for each. -/
def text (bytes : Bytes) : String := String.ofList (bytes.map fun b => Char.ofNat b.toNat)

/-- The bytes that methods and header names are made of. -/
def isToken (b : UInt8) : Bool :=
  let c := Char.ofNat b.toNat
  c.isAlphanum || "!#$%&'*+-.^_|~".toList.contains c || b = 0x60

/-- The bytes that targets are made of. -/
def isTarget (b : UInt8) : Bool := 0x21 ≤ b && b ≠ 0x7F

/-- The bytes that header values are made of. -/
def isValue (b : UInt8) : Bool := b = 0x09 || (0x20 ≤ b && b ≠ 0x7F)

/-- A nonempty run of bytes and the byte after it, which must be `stop`. -/
def run (isPart : UInt8 → Bool) (stop : UInt8) (flaw : Flaw) (bytes : Bytes) : Answer Bytes :=
  let part := bytes.takeWhile isPart
  match bytes.dropWhile isPart with
  | [] => .incomplete
  | b :: rest => if b = stop ∧ part ≠ [] then .done part rest else .flawed flaw

/-- The end of a line. -/
def lineEnd (flaw : Flaw) : Bytes → Answer Unit
  | 10 :: rest => .done () rest
  | [13] => .incomplete
  | 13 :: 10 :: rest => .done () rest
  | [] => .incomplete
  | _ => .flawed flaw

/-- Empty lines before a request are skipped. -/
def skipEmptyLines : Bytes → Bytes
  | 13 :: 10 :: rest => skipEmptyLines rest
  | 10 :: rest => skipEmptyLines rest
  | bytes => bytes

/-- The version, of which only the last digit may vary. -/
def readVersion (bytes : Bytes) : Answer Nat :=
  let fixed := "HTTP/1.".toUTF8.toList
  let front := bytes.take fixed.length
  if front = fixed then
    match bytes.drop fixed.length with
    | [] => .incomplete
    | 48 :: rest => .done 0 rest
    | 49 :: rest => .done 1 rest
    | _ => .flawed .version
  else if bytes.length < 8 ∧ front.isPrefixOf fixed then .incomplete
  else .flawed .version

/-- The text without spaces and tabs at its two ends. -/
def trimBlanks (bytes : Bytes) : Bytes :=
  let blank (b : UInt8) : Bool := b = 0x20 || b = 0x09
  ((bytes.dropWhile blank).reverse.dropWhile blank).reverse

/-- Header lines up to the empty line, of which at most `n`. -/
def readHeaders : Nat → Bytes → Answer (List (String × String))
  | 0, _ => .flawed .headerName
  | n + 1, bytes =>
    match lineEnd .newLine bytes with
    | .done () rest => .done [] rest
    | .incomplete => .incomplete
    | .flawed e =>
      if bytes.head? = some 13 then .flawed e
      else
        (run isToken 0x3A .headerName bytes).bind fun name rest =>
          let value := rest.takeWhile isValue
          (lineEnd .headerValue (rest.dropWhile isValue)).bind fun () rest =>
            (readHeaders n rest).bind fun more rest =>
              .done ((text name, text (trimBlanks value)) :: more) rest

/-- The request at the front of the bytes. -/
def read (bytes : Bytes) : Answer Request :=
  (run isToken 0x20 .token (skipEmptyLines bytes)).bind fun method rest =>
    (run isTarget 0x20 .token rest).bind fun target rest =>
      (readVersion rest).bind fun minorVersion rest =>
        (lineEnd .newLine rest).bind fun () rest =>
          (readHeaders 125 rest).bind fun headers rest =>
            .done { method := text method, target := text target, minorVersion, headers } rest

/-- The target without its fragment, and without the scheme and authority of an absolute one. -/
def localTarget (r : Request) : List Char :=
  let whole := (Text.cut '#' r.target.toList).1
  match whole with
  | '/' :: _ => whole
  | _ =>
    match Text.cut ':' whole with
    | (_, some ('/' :: '/' :: rest)) => rest.dropWhile fun c => c ≠ '/' && c ≠ '?'
    | _ => whole

/-- The path of the target; an empty one is the root. -/
def path (r : Request) : String :=
  match (Text.cut '?' r.localTarget).1 with
  | [] => "/"
  | path => String.ofList path

/-- The query of the target, empty if there is none. -/
def query (r : Request) : String := String.ofList ((Text.cut '?' r.localTarget).2.getD [])

/-- Equality of texts up to the case of ASCII letters. -/
def sameName (a b : String) : Bool := a.toLower = b.toLower

/-- The value of the first header of a name. -/
def header? (r : Request) (name : String) : Option String :=
  (r.headers.find? fun h => sameName h.1 name).map (·.2)

end Request

end Tunnel
