import Tunnel.Client.Shutdown
import Tunnel.Remote.Transport
import Tunnel.Session.Error
import Tunnel.Text.Quoted

/-!
# Pumps

A pump sends every chunk that a remote connection's reader hands out to the client, in order
and one message for each, while the client is open. It fails at the first chunk that cannot be
sent and at a read error, and then requests the close of the client; at the end of the readable
side it finishes and leaves the client alone.

A pump of a second connection then waits for the connection's terminal outcome and closes the
client itself.

## Main definitions

* `PumpOutcome` — how a pump ends.
* `deliver` — what a pump does with one item, as a function of the client.
* `Pump`, `Plumbing` — the pumps at work on a transport, and their steps `Plumbing.step?`.
-/

namespace Tunnel

/-- How a pump ended, and whether any chunk reached it before. -/
inductive PumpOutcome
  | finished (delivered : Bool)
  | failed (delivered : Bool) (e : SessionError)
  deriving DecidableEq, Repr, Inhabited

def PumpOutcome.delivered : PumpOutcome → Bool
  | .finished delivered => delivered
  | .failed delivered _ => delivered

/-- What becomes of a pump at an item. -/
inductive Delivery
  | sent
  | failed (e : SessionError)
  | crashed (reason : String)
  deriving DecidableEq, Repr, Inhabited

section

variable {σ : Type} [ClientChannel σ]

/-- Sends a chunk to the client if the client is open. -/
def sendChunk (k : Coordinator σ) (chunk : Bytes) :
    Delivery × Coordinator σ × List Happening :=
  let readiness := ClientChannel.readyState k.client
  if readiness = .opened then
    let called := Happening.sendCalled readiness chunk
    match ClientChannel.send k.client chunk with
    | (.sent, client) => (.sent, { k with client }, [called, .sent chunk])
    | (.failed e, client) => (.failed (.client e), { k with client }, [called])
    | (.crashed reason, client) => (.crashed reason, { k with client }, [called])
  else (.failed .clientNotOpen, k, [])

/-- What a pump does with one item of its reader: a failure is logged and requests the close of
the client. -/
def deliver (k : Coordinator σ) (item : Except IoError Bytes) :
    Delivery × Coordinator σ × List Happening :=
  let (delivery, k, now) := match item with
    | .ok chunk => sendChunk k chunk
    | .error e => (.failed (.remote e), k, [])
  match delivery with
  | .failed e =>
    let note := Happening.log .error k.destination s!"remote to client pump has exception: {e}"
    let (_, k, later) := k.close "remote to client pump failed"
    (delivery, k, now ++ note :: later)
  | _ => (delivery, k, now)

end

/-- Where a pump is. -/
inductive Pump.Phase
  | running
  /-- It has its outcome and waits for the terminal outcome of its connection. -/
  | settling (outcome : PumpOutcome)
  | ended (outcome : PumpOutcome)
  | crashed (reason : String)
  deriving DecidableEq, Repr, Inhabited

/-- A task that pumps from one connection to the client. -/
structure Pump where
  connection : Nat
  /-- Whether it stays until the connection is terminal, and closes the client then. -/
  closesClient : Bool := false
  delivered : Bool := false
  phase : Pump.Phase := .running
  deriving DecidableEq, Repr, Inhabited

/-- What the owner of a pump learns when the pump is over. -/
def Pump.outcome? (id : Nat) (p : Pump) : Option PumpOutcome :=
  match p.phase with
  | .ended outcome => some outcome
  | .crashed reason => some (.failed false (.pumpAborted
      s!"task {id} panicked with message {Text.quote reason}"))
  | _ => none

/-- A client, a transport and the pumps between them, with the trace of what happened so far,
newest first. -/
structure Plumbing (σ : Type) where
  gate : Coordinator σ
  transport : Transport
  pumps : List Pump := []
  trace : List Happening := []

namespace Plumbing

variable {σ : Type}

/-- Adds what happened, in order. -/
def note (w : Plumbing σ) (happened : List Happening) : Plumbing σ :=
  { w with trace := happened.reverse ++ w.trace }

/-- Adds a log line under the session's destination. -/
def log (w : Plumbing σ) (level : Log.Level) (text : String) : Plumbing σ :=
  w.note [.log level w.gate.destination text]

def setPump (w : Plumbing σ) (k : Nat) (p : Pump) : Plumbing σ :=
  { w with pumps := w.pumps.set k p }

/-- Starts a pump on connection number `i`, and gives the pump's number. -/
def startPump (w : Plumbing σ) (i : Nat) (closesClient : Bool) : Nat × Plumbing σ :=
  (w.pumps.length, { w with pumps := w.pumps ++ [{ connection := i, closesClient }] })

/-- Lets go of the reader of connection number `i`. -/
def dropReader (w : Plumbing σ) (i : Nat) : Plumbing σ :=
  { w with transport := w.transport.modifyConnection i Connection.dropReader }

/-- The owner drops connection number `i`. -/
def dropConnection (w : Plumbing σ) (i : Nat) : Plumbing σ :=
  { w with transport := w.transport.modifyConnection i Connection.drop }

/-- Replaces the transport by the result of one of its operations. -/
def withTransport (w : Plumbing σ) (result : Transport × List Happening) : Plumbing σ :=
  { w with transport := result.1 }.note result.2

variable [ClientChannel σ]

/-- Requests the close of the client. -/
def close (w : Plumbing σ) (reason : String) : Plumbing σ :=
  let (_, gate, happened) := w.gate.close reason
  { w with gate }.note happened

/-- A pump has its outcome, and drops its reader. -/
def endPump (w : Plumbing σ) (k : Nat) (p : Pump) (outcome : PumpOutcome) : Plumbing σ :=
  let phase := if p.closesClient then .settling outcome else .ended outcome
  (w.dropReader p.connection).setPump k { p with phase }

/-- A pump crashes, and drops its reader. -/
def crashPump (w : Plumbing σ) (k : Nat) (p : Pump) (reason : String) : Plumbing σ :=
  (w.dropReader p.connection).setPump k { p with phase := .crashed reason }

/-- A running pump takes the next item of its reader. -/
def pumpItem? (w : Plumbing σ) (k : Nat) (p : Pump) : Option (Plumbing σ) :=
  match w.transport.receive p.connection with
  | (.pending, _) => none
  | (.ended, transport, happened) =>
    let w := (w.withTransport (transport, happened)).log .info
      s!"remote readable is closed with has_incoming_data is {p.delivered}"
    some (w.endPump k p (.finished p.delivered))
  | (.item item, transport, happened) =>
    let w := w.withTransport (transport, happened)
    let p := match item with
      | .ok _ => { p with delivered := true }
      | .error _ => p
    let (delivery, gate, happened) := deliver w.gate item
    let w := { w with gate }.note happened
    match delivery with
    | .sent => some (w.setPump k p)
    | .failed e => some (w.endPump k p (.failed p.delivered e))
    | .crashed reason => some (w.crashPump k p reason)

/-- A pump that has its outcome closes the client once its connection is terminal. -/
def settlePump? (w : Plumbing σ) (k : Nat) (p : Pump) (outcome : PumpOutcome) :
    Option (Plumbing σ) :=
  (w.transport.closed? p.connection).map fun closed =>
    let w := match closed with
      | .error e => w.log .error s!"retry connection closed with error: {e}"
      | .ok () => w
    (w.close "retry connection closed").setPump k { p with phase := .ended outcome }

/-- The next step of pump number `k`. -/
def pump? (w : Plumbing σ) (k : Nat) : Option (Plumbing σ) :=
  (w.pumps[k]?).bind fun p =>
    match p.phase with
    | .running => w.pumpItem? k p
    | .settling outcome => w.settlePump? k p outcome
    | .ended _ | .crashed _ => none

/-- A task that runs beside the session. -/
inductive Task
  | driver (connection : Nat) (part : Driver.Part)
  | pump (id : Nat)
  deriving DecidableEq, Repr, Inhabited

/-- The next step of a task, if it need not wait. -/
def step? (w : Plumbing σ) : Task → Option (Plumbing σ)
  | .driver i part => (w.transport.step? i part).map w.withTransport
  | .pump k => w.pump? k

end Plumbing

end Tunnel
