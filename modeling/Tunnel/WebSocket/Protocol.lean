import Tunnel.WebSocket.Frame

/-!
# The WebSocket protocol of a server

What a server makes of the bytes of its client, and what it sends: fragments are joined, pings
are answered, a close is answered once, and text must be UTF-8. Answers wait until the server
reads or writes again.

## Main definitions

* `Failure` — what ends the reading or a write.
* `Protocol.receive?` — reads on, by one frame or answer.
* `Protocol.send` — sends a message or a close.
-/

namespace Tunnel.WebSocket

/-- What ends the reading, or a write. -/
inductive Failure
  | connectionClosed
  | alreadyClosed
  | brokenPipe
  | tooLong (size limit : Nat)
  | badText
  | reset
  | sendAfterClosing
  | unexpectedContinuation
  | controlTooBig
  | badOpcode (n : Nat)
  | fragmentedControl
  | badClose
  | unmasked
  | reservedBits
  | expectedFragment (kind : Opcode)
  deriving DecidableEq, Repr, Inhabited

namespace Failure

/-- The text of a breach of the protocol, or `none` for other failures. -/
def violation? : Failure → Option String
  | reset => some "Connection reset without closing handshake"
  | sendAfterClosing => some "Sending after closing is not allowed"
  | unexpectedContinuation => some "Continue frame but nothing to continue"
  | controlTooBig => some "Control frame too big (payload must be 125 bytes or less)"
  | badOpcode n => some s!"Encountered invalid opcode: {n}"
  | fragmentedControl => some "Fragmented control frame"
  | badClose => some "Invalid close sequence"
  | unmasked => some "Received an unmasked frame from client"
  | reservedBits => some "Reserved bits are non-zero"
  | expectedFragment kind =>
    some ("While waiting for more fragments received: " ++ if kind = .text then "TEXT" else "BINARY")
  | connectionClosed | alreadyClosed | brokenPipe | tooLong _ _ | badText => none

def message (f : Failure) : String :=
  match f with
  | connectionClosed => "Connection closed normally"
  | alreadyClosed => "Trying to work with closed connection"
  | brokenPipe => "IO error: broken pipe"
  | tooLong size limit => s!"Space limit exceeded: Message too long: {size} > {limit}"
  | badText => "UTF-8 encoding error"
  | f => "WebSocket protocol error: " ++ f.violation?.getD ""

end Failure

/-- What a client sends, as far as it concerns others. -/
inductive Incoming
  | binary (data : Bytes)
  /-- A text, as its UTF-8 bytes. -/
  | text (data : Bytes)
  | ping
  | pong
  /-- A frame that is handed on unread. -/
  | raw
  | close (body : Option CloseBody)
  /-- The connection is closed, as both sides wanted. -/
  | closed
  | failed (reason : String)
  /-- Nothing comes any more. -/
  | ended
  deriving DecidableEq, Repr, Inhabited

/-- How far the closing handshake is. -/
inductive Handshake
  | active
  /-- We have sent a close. -/
  | closedByUs
  /-- The client has sent a close. -/
  | closedByPeer
  /-- The client has answered our close. -/
  | acknowledged
  | terminated
  deriving DecidableEq, Repr, Inhabited

/-- Whether frames of the client are still looked at. -/
def Handshake.canRead : Handshake → Bool
  | .active | .closedByUs => true
  | .closedByPeer | .acknowledged | .terminated => false

/-- A message of which more fragments are to come. -/
structure Partial where
  isText : Bool
  /-- The fragments so far, last first. -/
  fragments : List Bytes := []
  size : Nat := 0
  /-- Where the text so far ends. -/
  utf8 : Utf8.State := .start

def maxFrameSize : Nat := 16777216
def maxMessageSize : Nat := 67108864

namespace Partial

/-- The message with one more fragment. -/
def extend (m : Partial) (data : Bytes) : Except Failure Partial :=
  let size := m.size + data.length
  if maxMessageSize < size then .error (.tooLong size maxMessageSize)
  else
    let m := { m with fragments := data :: m.fragments, size }
    if m.isText then
      match Utf8.run? m.utf8 data with
      | none => .error .badText
      | some utf8 => .ok { m with utf8 }
    else .ok m

/-- The message, now that its last fragment is there. -/
def complete (m : Partial) : Except Failure Incoming :=
  let data := m.fragments.reverse.flatten
  if m.isText then
    if m.utf8.owed = 0 then .ok (.text data) else .error .badText
  else .ok (.binary data)

end Partial

structure Protocol where
  handshake : Handshake := .active
  /-- A message that waits for fragments. -/
  partialMessage : Option Partial := none
  /-- An answer that waits to be sent. -/
  reply : Option Frame := none
  /-- Bytes of the client that are not yet read. -/
  buffer : Bytes := []
  /-- Whether the client sends no more bytes. -/
  inputEnded : Bool := false
  /-- Whether the client is gone, so that nothing can be sent. -/
  peerGone : Bool := false
  /-- Frames that could not be sent. -/
  stuck : Bool := false
  /-- Frames sent so far, last first. -/
  sent : List Frame := []
  /-- Whether the reading has ended for good. -/
  ended : Bool := false

namespace Protocol

/-- Sends a frame, unless the client is gone. -/
def put (p : Protocol) (f : Frame) : Protocol :=
  if p.peerGone then { p with stuck := true } else { p with sent := f :: p.sent }

/-- Sends what waits to be sent. -/
def flush (p : Protocol) : Except Failure Unit × Protocol :=
  let p := match p.reply with
    | some f => { p.put f with reply := none }
    | none => p
  if p.stuck then (.error .brokenPipe, p)
  else if !p.handshake.canRead then (.error .connectionClosed, { p with handshake := .terminated })
  else (.ok (), p)

/-- An answer to send; it replaces a pong that waits, but no close. -/
def answer (p : Protocol) (f : Frame) : Protocol :=
  match p.reply with
  | some { opcode := .close, .. } => p
  | _ => { p with reply := some f }

/-- The body of a close frame. -/
def closeBody (payload : Bytes) : Except Failure (Option CloseBody) :=
  match payload with
  | [] => .ok none
  | [_] => .error .badClose
  | a :: b :: reason =>
    match Utf8.decode? reason with
    | none => .error .badText
    | some reason => .ok (some { code := 256 * a.toNat + b.toNat, reason })

/-- The client closes: its first close is answered with the same body, or with a violation. -/
def peerCloses (p : Protocol) (body : Option CloseBody) : Option Incoming × Protocol :=
  match p.handshake with
  | .active =>
    let body := body.map fun b => if b.allowed then b else .violation
    (some (.close body),
      { p with handshake := .closedByPeer }.answer
        { opcode := .close, payload := CloseBody.encode body })
  | .closedByUs => (some (.close body), { p with handshake := .acknowledged })
  | .closedByPeer | .acknowledged | .terminated => (none, p)

/-- What a control frame gives. -/
def control (p : Protocol) (h : Header) (payload : Bytes) :
    Except Failure (Option Incoming × Protocol) :=
  if !h.final then .error .fragmentedControl
  else if 125 < payload.length then .error .controlTooBig
  else match h.opcode with
    | .close => (closeBody payload).map p.peerCloses
    | .ping =>
      .ok (some .ping, if p.handshake = .active then p.answer { opcode := .pong, payload } else p)
    | _ => .ok (some .pong, p)

/-- A message after one more fragment: it is complete, or waits for more. -/
def withFragment (p : Protocol) (final : Bool) (m : Partial) (payload : Bytes) :
    Except Failure (Option Incoming × Protocol) :=
  match m.extend payload with
  | .error e => .error e
  | .ok m =>
    if final then m.complete.map fun item => (some item, { p with partialMessage := none })
    else .ok (none, { p with partialMessage := some m })

/-- What a data frame gives. -/
def content (p : Protocol) (h : Header) (payload : Bytes) :
    Except Failure (Option Incoming × Protocol) :=
  match h.opcode, p.partialMessage with
  | .continuation, some m => p.withFragment h.final m payload
  | .continuation, none => .error .unexpectedContinuation
  | kind, some _ => .error (.expectedFragment kind)
  | kind, none => p.withFragment h.final { isText := kind = .text } payload

/-- What a frame gives, if it concerns others. -/
def frame (p : Protocol) (h : Header) (payload : Bytes) :
    Except Failure (Option Incoming × Protocol) :=
  if h.reserved then .error .reservedBits
  else match h.mask with
    | none => .error .unmasked
    | some mask =>
      let payload := applyMask mask payload
      if h.opcode.isControl then p.control h payload else p.content h payload

/-- What reading one frame gives. -/
inductive FrameAnswer
  /-- There is no whole frame yet. -/
  | incomplete
  | failed (f : Failure)
  | gave (item : Option Incoming) (p : Protocol)

/-- Reads the frame at the front of the buffer. -/
def readFrame (p : Protocol) : FrameAnswer :=
  match Header.read p.buffer with
  | .incomplete => .incomplete
  | .badOpcode n => .failed (.badOpcode n)
  | .header h rest =>
    if maxFrameSize < h.length then .failed (.tooLong h.length maxFrameSize)
    else match split? h.length rest with
      | none => .incomplete
      | some (payload, buffer) =>
        match { p with buffer }.frame h payload with
        | .error f => .failed f
        | .ok (item, p) => .gave item p

/-- The reading is over, with the item that tells why. -/
def stop (p : Protocol) (f : Failure) : Option Incoming × Protocol :=
  let item := match f with
    | .connectionClosed | .alreadyClosed => Incoming.ended
    | f => .failed f.message
  (some item, { p with ended := true })

/-- The client's bytes end without a close. -/
def endInput (p : Protocol) : Option Incoming × Protocol :=
  let f : Failure := if p.handshake.canRead then .reset else .connectionClosed
  { p with handshake := .terminated }.stop f

/-- Reads on: sends an answer that waits, or reads one frame, which may give an item. It is
`none` if the next frame must be waited for. -/
def receive? (p : Protocol) : Option (Option Incoming × Protocol) :=
  if p.ended then some (some .ended, p)
  else if p.handshake = .terminated then some (p.stop .alreadyClosed)
  else if p.reply.isSome then
    match p.flush with
    | (.error f, p) => some (p.stop f)
    | (.ok (), p) => some (none, p)
  else if !p.handshake.canRead then
    some ({ p with handshake := .terminated }.stop .connectionClosed)
  else match p.readFrame with
    | .incomplete => if p.inputEnded then some p.endInput else none
    | .failed f => some (p.stop f)
    | .gave item p => some (item, p)

/-- Sends a message, or our close if there is no message. -/
def send (p : Protocol) (message : Option Bytes) : Except Failure Unit × Protocol :=
  match p.handshake with
  | .terminated => (.error .alreadyClosed, p)
  | .active =>
    let p := match message with
      | some data => p.put { opcode := .binary, payload := data }
      | none => { p with handshake := .closedByUs }.put { opcode := .close, payload := [] }
    p.flush
  | _ => (.error .sendAfterClosing, p)

end Protocol

end Tunnel.WebSocket
