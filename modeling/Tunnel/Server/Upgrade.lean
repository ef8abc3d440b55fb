import Tunnel.Query
import Tunnel.Server.Basic
import Tunnel.Server.Request
import Tunnel.Sha1
import Tunnel.Text.Base64

/-!
# Upgrades

What a server answers to a connection: a request on its connect path that asks for a WebSocket
is upgraded and becomes a session, whose destination its query names.

## Main definitions

* `Upgrade.of` — the answer to the bytes of a connection.
* `Server.happened` — what is logged about it.
-/

namespace Tunnel

/-- Why a handshake fails without a response. -/
inductive HandshakeError
  | wrongMethod | wrongVersion | noConnection | noUpgrade | noVersion | noKey | unfinished
  | flawed (f : Request.Flaw)
  deriving DecidableEq, Repr, Inhabited

namespace HandshakeError

def text : HandshakeError → String
  | wrongMethod => "Unsupported HTTP method used - only GET is allowed"
  | wrongVersion => "HTTP version must be 1.1 or higher"
  | noConnection => "No \"Connection: upgrade\" header"
  | noUpgrade => "No \"Upgrade: websocket\" header"
  | noVersion => "No \"Sec-WebSocket-Version: 13\" header"
  | noKey => "No \"Sec-WebSocket-Key\" header"
  | unfinished => "Handshake not finished"
  | flawed f => s!"httparse error: {f.message}"

/-- The text with those of the errors underneath. -/
def chain (e : HandshakeError) : String :=
  let last := match e with
    | flawed f => ": " ++ f.message
    | _ => ""
  s!"WebSocket protocol error: {e.text}: {e.text}" ++ last

end HandshakeError

/-- The answer to a connection. -/
inductive Upgrade
  | accepted (key : String) (destination : Destination)
  /-- The path is not the connect path. -/
  | notFound (path : String)
  | failed (e : HandshakeError)
  deriving DecidableEq, Repr, Inhabited

namespace Upgrade

/-- The value that proves that a key was seen. -/
def acceptKey (key : String) : String :=
  Text.base64 (Sha1.digest (key ++ "258EAFA5-E914-47DA-95CA-C5AB0DC85B11").toUTF8.toList)

/-- Whether a list with commas or spaces has the item `upgrade`. -/
def asksUpgrade (value : String) : Bool :=
  ((Text.pieces ',' value.toList).flatMap (Text.pieces ' ')).any fun piece =>
    Request.sameName (String.ofList piece) "upgrade"

/-- The key of a request for a WebSocket, or the first thing that is wrong with it. -/
def key (r : Request) : Except HandshakeError String :=
  if r.method ≠ "GET" then .error .wrongMethod
  else if r.minorVersion < 1 then .error .wrongVersion
  else if !(r.header? "Connection").any asksUpgrade then .error .noConnection
  else if !(r.header? "Upgrade").any (Request.sameName · "websocket") then .error .noUpgrade
  else if r.header? "Sec-WebSocket-Version" ≠ some "13" then .error .noVersion
  else match r.header? "Sec-WebSocket-Key" with
    | none => .error .noKey
    | some key => .ok key

/-- The answer to a request. -/
def ofRequest (connectPath : String) (r : Request) : Upgrade :=
  match key r with
  | .error e => .failed e
  | .ok key =>
    if r.path = connectPath then .accepted (acceptKey key) (.ofQuery r.query)
    else .notFound r.path

/-- The answer to the bytes of a connection, or `none` if more are needed. `last` tells that no
more will come. -/
def of (connectPath : String) (bytes : Bytes) (last : Bool) : Option Upgrade :=
  match Request.read bytes with
  | .incomplete => if last then some (.failed .unfinished) else none
  | .flawed f => some (.failed (.flawed f))
  | .done r _ => some (ofRequest connectPath r)

/-- The status of the response, if there is one. -/
def status? : Upgrade → Option Nat
  | accepted _ _ => some 101
  | notFound _ => some 404
  | failed _ => none

/-- The body of the response, if it is not an upgrade. -/
def body? : Upgrade → Option String
  | notFound _ => some "Not found"
  | accepted _ _ | failed _ => none

end Upgrade

namespace Server

/-- What is logged about the answer to a connection from `peer`. -/
def happened (peer : String) : Upgrade → List Happening
  | .accepted _ destination => [line .debug s!"{peer} upgraded for {destination}"]
  | .notFound path =>
    [line .debug s!"{peer} asked for {path}, rejecting",
      line .warn (s!"connection from {peer} dropped: WebSocket handshake failed: "
        ++ "HTTP error: 404 Not Found")]
  | .failed e =>
    [line .warn s!"connection from {peer} dropped: WebSocket handshake failed: {e.chain}"]

end Server

end Tunnel
