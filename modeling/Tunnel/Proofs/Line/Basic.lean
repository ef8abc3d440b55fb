import Tunnel.Proofs.History

/-!
# Lines

A line is a connection together with the pump that runs on it, if one does. Most of what happens
in a session concerns one line only. This module says once what can happen to a line, as a
relation between the line before and after with the data that moved; all that is proved about
lines rests on this relation and not on the functions behind it.

## Main definitions

* `Connection.proceed` — a connection whose driver goes on with two given loops.
* `Connection.Driven` — a step of the driver.
* `Line.Own` — a step of the driver or of the pump.
* `Line.Touch` — the same, or something that the session does to the line.
-/

namespace Tunnel

/-- Whether the loop goes on. -/
def Reading.live : Reading → Bool
  | .ended => false
  | _ => true

/-- What the loop has in hand. -/
def Reading.item : Reading → List (Except IoError Bytes)
  | .handing _ item => [item]
  | _ => []

/-- Whether the loop goes on. -/
def Writing.live : Writing → Bool
  | .ended => false
  | _ => true

/-- What the loop has in hand. -/
def Writing.rest : Writing → Bytes
  | .sending rest => rest
  | _ => []

namespace Connection

/-- The connection when its driver goes on with these loops; the driver stops if both have
ended. -/
def proceed (c : Connection) (dial : Nat) (reading : Reading) (writing : Writing) : Connection :=
  match reading, writing with
  | .ended, .ended => c.stop
  | _, _ => { c with driver := .streaming dial reading writing }

/-- What the read loop has in hand. -/
def inHand (c : Connection) : List (Except IoError Bytes) :=
  match c.driver with
  | .streaming _ reading _ => reading.item
  | _ => []

/-- The bytes that the stream has yet to accept. -/
def unwritten (c : Connection) : Bytes :=
  (match c.driver with
    | .streaming _ _ writing => writing.rest
    | _ => []) ++ c.outbox.flatten

/-- Whether the answer to the dial is known. -/
def decided (c : Connection) : Bool :=
  match c.driver with
  | .starting | .dialing _ => false
  | .streaming _ _ _ | .stopped => true

@[simp] theorem discarded_drop (c : Connection) : c.drop.discarded = true := by
  unfold drop
  dsimp only
  split <;> rfl

@[simp] theorem driver_drop (c : Connection) : c.drop.driver = c.driver := by
  unfold drop
  dsimp only
  split <;> rfl

section proceed

variable (c : Connection) (dial : Nat) (reading : Reading) (writing : Writing)

@[simp] theorem writable_stop : c.stop.writable = false := rfl
@[simp] theorem readable_stop : c.stop.readable = false := rfl
@[simp] theorem inHand_stop : c.stop.inHand = [] := rfl
@[simp] theorem decided_stop : c.stop.decided = true := rfl
@[simp] theorem stream?_stop : c.stop.stream? = none := rfl

/-- Going on with given loops changes nothing but the driver and, at its end, the queue of what
is to be written and the outcome. -/
theorem proceed_frame :
    (c.proceed dial reading writing).destination = c.destination ∧
    (c.proceed dial reading writing).capacity = c.capacity ∧
    (c.proceed dial reading writing).inbox = c.inbox ∧
    (c.proceed dial reading writing).delivered = c.delivered ∧
    (c.proceed dial reading writing).reader = c.reader ∧
    (c.proceed dial reading writing).discarded = c.discarded ∧
    (c.proceed dial reading writing).closedTaken = c.closedTaken := by
  unfold proceed
  split <;> exact ⟨rfl, rfl, rfl, rfl, rfl, rfl, rfl⟩

@[simp] theorem proceed_capacity : (c.proceed dial reading writing).capacity = c.capacity :=
  (c.proceed_frame dial reading writing).2.1

@[simp] theorem proceed_inbox : (c.proceed dial reading writing).inbox = c.inbox :=
  (c.proceed_frame dial reading writing).2.2.1

@[simp] theorem proceed_delivered : (c.proceed dial reading writing).delivered = c.delivered :=
  (c.proceed_frame dial reading writing).2.2.2.1

@[simp] theorem proceed_reader : (c.proceed dial reading writing).reader = c.reader :=
  (c.proceed_frame dial reading writing).2.2.2.2.1

@[simp] theorem proceed_discarded : (c.proceed dial reading writing).discarded = c.discarded :=
  (c.proceed_frame dial reading writing).2.2.2.2.2.1

@[simp] theorem proceed_writable : (c.proceed dial reading writing).writable = writing.live := by
  cases reading <;> cases writing <;> rfl

@[simp] theorem proceed_readable : (c.proceed dial reading writing).readable = reading.live := by
  cases reading <;> cases writing <;> rfl

@[simp] theorem proceed_inHand : (c.proceed dial reading writing).inHand = reading.item := by
  cases reading <;> cases writing <;> rfl

@[simp] theorem proceed_decided : (c.proceed dial reading writing).decided = true := by
  cases reading <;> cases writing <;> rfl

theorem proceed_unwritten (h : writing.live) :
    (c.proceed dial reading writing).unwritten = writing.rest ++ c.outbox.flatten := by
  cases reading <;> cases writing <;> first | rfl | cases h

theorem proceed_outbox_length :
    (c.proceed dial reading writing).outbox.length ≤ c.outbox.length := by
  cases reading <;> cases writing <;> simp [proceed, stop, resolve]

/-- The outcome is settled when both loops have ended, and not lost before. -/
theorem proceed_closed (h : c.closed.isSome) :
    (c.proceed dial reading writing).closed.isSome := by
  unfold proceed
  split
  · simp [stop, resolve]
  · exact h

end proceed

section streaming

variable {c : Connection} {dial : Nat} {reading : Reading} {writing : Writing}

theorem writable_of_streaming (hd : c.driver = .streaming dial reading writing) :
    c.writable = writing.live := by
  cases writing <;> simp [writable, hd, Writing.live]

theorem readable_of_streaming (hd : c.driver = .streaming dial reading writing) :
    c.readable = reading.live := by
  cases reading <;> simp [readable, hd, Reading.live]

theorem inHand_of_streaming (hd : c.driver = .streaming dial reading writing) :
    c.inHand = reading.item := by
  simp [inHand, hd]

theorem decided_of_streaming (hd : c.driver = .streaming dial reading writing) :
    c.decided = true := by
  simp [decided, hd]

theorem decided_of_not_readable (hr : c.readable = false) : c.decided = true := by
  cases hd : c.driver <;> simp_all [readable, decided]

end streaming

/-- A step of the driver of connection number `i`, with the data that it moved. -/
inductive Driven (i : Nat) (c : Connection) : Connection → List Happening → Prop
  | dial {dial : Nat} : c.driver = .starting → Driven i c { c with driver := .dialing dial } []
  | connect {dial : Nat} : c.driver = .dialing dial →
      Driven i c { c with driver := .streaming dial (.reading readBlockSize) .idle } []
  | refuse {dial : Nat} {outcome : Except IoError Unit} : c.driver = .dialing dial →
      Driven i c (c.resolve outcome).stop []
  | exhaust {dial room : Nat} {writing : Writing} :
      c.driver = .streaming dial (.reading room) writing →
      Driven i c ((c.resolve (.ok ())).proceed dial .ended writing) [.exhausted i dial]
  | failRead {dial room : Nat} {writing : Writing} {err : IoError} :
      c.driver = .streaming dial (.reading room) writing →
      Driven i c (c.proceed dial (.handing room (.error err)) writing) []
  | read {dial room : Nat} {writing : Writing} {data : Bytes} :
      c.driver = .streaming dial (.reading room) writing →
      data.length ≤ room → (0 < room → data ≠ []) →
      Driven i c (c.proceed dial (.handing (room - data.length) (.ok data)) writing)
        [.received i dial data]
  | giveUp {dial room : Nat} {item : Except IoError Bytes} {writing : Writing} :
      c.driver = .streaming dial (.handing room item) writing → c.reader = .dropped →
      Driven i c ((c.resolve (item.map fun _ => ())).proceed dial .ended writing) []
  | hand {dial room : Nat} {data : Bytes} {writing : Writing} :
      c.driver = .streaming dial (.handing room (.ok data)) writing → c.reader ≠ .dropped →
      c.inbox.length < c.capacity →
      Driven i c ({ c with inbox := c.inbox ++ [Except.ok data] }.proceed dial
        (.reading (if room = 0 then readBlockSize else room)) writing) []
  | handError {dial room : Nat} {err : IoError} {writing : Writing} :
      c.driver = .streaming dial (.handing room (.error err)) writing →
      c.reader ≠ .dropped → c.inbox.length < c.capacity →
      Driven i c (({ c with inbox := c.inbox ++ [Except.error err] }.resolve (.error err)).proceed dial
        .ended writing) []
  | leaveOff {dial : Nat} {reading : Reading} :
      c.driver = .streaming dial reading .idle → c.outbox = [] → c.discarded = true →
      Driven i c (c.proceed dial reading .ended) []
  | skip {dial : Nat} {reading : Reading} {outbox : List Bytes} :
      c.driver = .streaming dial reading .idle → c.outbox = [] :: outbox →
      Driven i c ({ c with outbox }.proceed dial reading .idle) []
  | pick {dial : Nat} {reading : Reading} {chunk : Bytes} {outbox : List Bytes} :
      c.driver = .streaming dial reading .idle → c.outbox = chunk :: outbox →
      Driven i c ({ c with outbox }.proceed dial reading (.sending chunk)) []
  | failWrite {dial : Nat} {reading : Reading} {rest : Bytes} :
      c.driver = .streaming dial reading (.sending rest) →
      Driven i c ({ c with outbox := [] }.proceed dial reading .ended) [.writeFailed i dial]
  | write {dial n : Nat} {reading : Reading} {rest : Bytes} :
      c.driver = .streaming dial reading (.sending rest) →
      Driven i c (c.proceed dial reading
          (if (rest.drop n).isEmpty then .idle else .sending (rest.drop n)))
        [.accepted i dial (rest.take n)]
  | discard : c.discarded = true → Driven i c c.stop []

/-- A step of the driver is nothing to the owner and the reader of the connection. -/
theorem Driven.frame {i : Nat} {c c' : Connection} {h : List Happening} (d : c.Driven i c' h) :
    c'.capacity = c.capacity ∧ c'.discarded = c.discarded ∧ c'.reader = c.reader ∧
    c'.delivered = c.delivered := by
  cases d <;> simp [resolve, stop]

/-- A driver that is gone does not come back, and its stream accepts nothing. -/
theorem Driven.stopped {i : Nat} {c c' : Connection} {h : List Happening} (d : c.Driven i c' h)
    (hs : c.driver = .stopped) : c'.driver = .stopped ∧ h = [] := by
  cases d <;> simp_all [stop, resolve]

end Connection

/-- A connection with the pump on it. -/
structure Line where
  connection : Connection
  pump : Option Pump

/-- The pump once it has its outcome. -/
def Pump.leave (p : Pump) (outcome : PumpOutcome) : Pump :=
  { p with phase := if p.closesClient then .settling outcome else .ended outcome }

namespace Line

/-- A step of the driver or the pump of line number `i`, with the data that it moved; the flag
says whether the close of the client is requested. -/
inductive Own (i : Nat) (l : Line) : Line → List Happening → Bool → Prop
  | drive {c : Connection} {h : List Happening} :
      l.connection.Driven i c h → Own i l { l with connection := c } h false
  | finish {p : Pump} : l.pump = some p → p.phase = .running →
      l.connection.inbox = [] → l.connection.readable = false →
      Own i l ⟨l.connection.dropReader, some (p.leave (.finished p.delivered))⟩ [] false
  | send {p : Pump} {chunk : Bytes} {inbox : List (Except IoError Bytes)} :
      l.pump = some p → p.phase = .running → l.connection.inbox = .ok chunk :: inbox →
      Own i l ⟨{ l.connection with inbox, delivered := true },
          some { p with delivered := true }⟩
        [.handedOut i chunk, .sendCalled .opened chunk, .sent chunk] false
  | fail {p : Pump} {chunk : Bytes} {inbox : List (Except IoError Bytes)} {e : SessionError}
      {called : List Happening} :
      l.pump = some p → p.phase = .running → l.connection.inbox = .ok chunk :: inbox →
      (called = [] ∨ called = [.sendCalled .opened chunk]) → (∀ err, e ≠ .remote err) →
      Own i l ⟨{ l.connection with inbox, delivered := true }.dropReader,
          some ({ p with delivered := true }.leave (.failed true e))⟩
        (.handedOut i chunk :: called) true
  | crash {p : Pump} {chunk : Bytes} {inbox : List (Except IoError Bytes)} {reason : String} :
      l.pump = some p → p.phase = .running → l.connection.inbox = .ok chunk :: inbox →
      Own i l ⟨{ l.connection with inbox, delivered := true }.dropReader,
          some { p with delivered := true, phase := .crashed reason }⟩
        [.handedOut i chunk, .sendCalled .opened chunk] false
  | failRead {p : Pump} {err : IoError} {inbox : List (Except IoError Bytes)} :
      l.pump = some p → p.phase = .running → l.connection.inbox = .error err :: inbox →
      Own i l ⟨{ l.connection with inbox }.dropReader,
        some (p.leave (.failed p.delivered (.remote err)))⟩ [] true
  | settle {p : Pump} {outcome : PumpOutcome} :
      l.pump = some p → p.phase = .settling outcome → l.connection.closed.isSome →
      Own i l { l with pump := some { p with phase := .ended outcome } } [] true

/-- A step of its own neither drops a line's connection nor turns its pump to another one. -/
theorem Own.frame {i : Nat} {l l' : Line} {h : List Happening} {asks : Bool}
    (o : l.Own i l' h asks) :
    l'.connection.capacity = l.connection.capacity ∧
    l'.connection.discarded = l.connection.discarded ∧
    l'.pump.map (fun p => (p.connection, p.closesClient)) =
      l.pump.map (fun p => (p.connection, p.closesClient)) := by
  cases o with
  | drive d => exact ⟨d.frame.1, d.frame.2.1, rfl⟩
  | finish hp | send hp | fail hp | crash hp | failRead hp | settle hp =>
    simp [hp, Pump.leave, Connection.dropReader]

theorem Own.pump_isSome {i : Nat} {l l' : Line} {h : List Happening} {asks : Bool}
    (o : l.Own i l' h asks) : l'.pump.isSome = l.pump.isSome := by
  simpa using congrArg Option.isSome o.frame.2.2

/-- What happens on a line opens no connection and takes nothing from the client. -/
theorem Own.flow {i : Nat} {l l' : Line} {h : List Happening} {asks : Bool}
    (o : l.Own i l' h asks) :
    opensFallback h = false ∧ passed .taken h = [] ∧ (∀ j, passed (.written j) h = []) ∧
    (∀ j chunk, .refused j chunk ∉ h) := by
  cases o with
  | drive d => cases d <;> simp [opensFallback, Happening.opens, Happening.at?, Happening.station?]
  | fail _ _ _ hc =>
    rcases hc with rfl | rfl <;>
      simp [opensFallback, Happening.opens, Happening.at?, Happening.station?]
  | finish | send | crash | failRead | settle =>
    simp [opensFallback, Happening.opens, Happening.at?, Happening.station?]

theorem Own.elsewhere {i j : Nat} {l l' : Line} {h : List Happening} {asks : Bool}
    (o : l.Own i l' h asks) (hj : j ≠ i) : Elsewhere j h := by
  have hj := hj.symm
  cases o with
  | drive d => cases d <;> simp [Happening.connection?, hj]
  | fail _ _ _ hc => rcases hc with rfl | rfl <;> simp [Happening.connection?, hj]
  | finish | send | crash | failRead | settle => simp [Happening.connection?, hj]

/-- What can happen to line number `i`: a step of its own, or something the session does. -/
inductive Touch (i : Nat) (l : Line) : Line → List Happening → Prop
  | own {l' : Line} {h : List Happening} {asks : Bool} : l.Own i l' h asks → Touch i l l' h
  | write {chunk : Bytes} : l.connection.writable = true →
      l.connection.outbox.length < l.connection.capacity →
      Touch i l
        { l with connection := { l.connection with outbox := l.connection.outbox ++ [chunk] } }
        [.written i chunk]
  | refuse {chunk : Bytes} : l.connection.writable = false → Touch i l l [.refused i chunk]
  | start (closesClient : Bool) : l.pump = none → l.connection.reader = .held →
      Touch i l ⟨{ l.connection with reader := .taken }, some { connection := i, closesClient }⟩ []
  | takeClosed : Touch i l { l with connection := l.connection.takeClosed.2 } []
  | drop : Touch i l { l with connection := l.connection.drop } []

/-- A line on which nothing has happened yet. -/
def fresh (d : Destination) (capacity : Nat) : Line := ⟨.fresh d capacity, none⟩

/-- What happens to line number `i` while other things happen elsewhere. -/
inductive Touches (i : Nat) (l : Line) : Line → List Happening → Prop
  | none {h : List Happening} : Elsewhere i h → Touches i l l h
  | touch {l' l'' : Line} {h h' : List Happening} :
      Touches i l l' h → l'.Touch i l'' h' → Touches i l l'' (h ++ h')
  | elsewhere {l' : Line} {h h' : List Happening} :
      Touches i l l' h → Elsewhere i h' → Touches i l l' (h ++ h')

end Line

end Tunnel
