import Tunnel.Proofs.Line.Draining
import Tunnel.Proofs.Line.Driver

/-!
# One connection by itself

A connection with the peer that answers its dial, in the hands of any owner: chunks are written
from any number of callers, the reader and the signal of the outcome are taken and dropped, the
owner drops the connection, and the peer does as it likes, all of this in any order and between any
two steps of the driver. This module says once what a use can do; what is proved of connections by
themselves rests on `Link.Step` and not on the functions behind it.

Calls to write that must wait are answered in the order of the calls. A connection is not dropped
while somebody waits to write to it.

## Main definitions

* `Link`, `Link.Use`, `Link.use?` — a connection with its peer, and what can be done with it.
* `Link.Entry`, `Link.run?` — what is seen of a use, and of a sequence of uses.
* `Connection.readLoop`, `Link.ReadMove` — where the read loop is, and how a step moves it.
* `Link.Step` — what a use can do.

## Main statements

* `Link.use?_step` — every use is such a step.
* `Link.run?_induction` — what steps keep, runs keep.
* `Link.Resting.unwritten_eq_nil`, `Link.Resting.driver_of_discarded` — what is true at rest.
-/

namespace Tunnel

/-- The item that a read loop makes of the answer to a read. -/
def ReadAnswer.item? : ReadAnswer → Option (Except IoError Bytes)
  | .chunk data => some (.ok data)
  | .failed e => some (.error e)
  | .ended | .pending => none

/-- A connection, the peer that answers its dial, and the chunks of the calls to write that wait for
room, first call first. -/
structure Link where
  connection : Connection
  peer : Peer
  waiting : List Bytes := []

namespace Link

/-- What is done with a connection, or happens around it. -/
inductive Use
  /-- A part of the driver takes a step. -/
  | drive (part : Driver.Part)
  /-- The peer changes its behaviour, or answers the dial. -/
  | turn (change : Peer → Peer)
  | write (chunk : Bytes)
  /-- The first call that waits to write is answered. -/
  | wake
  /-- A call that waits to write is given up by its caller. -/
  | abandon (n : Nat)
  | receive
  | takeReader
  | takeClosed
  | dropReader
  | drop

/-- What is seen of a use. -/
inductive Entry
  | answered (answer : DialAnswer)
  | read (answer : ReadAnswer)
  /-- The read loop queues an item for the reader. -/
  | queued (item : Except IoError Bytes)
  /-- The read loop finds the reader gone. -/
  | gaveUp (item : Except IoError Bytes)
  /-- The driver notices that the connection was dropped. -/
  | discarded
  /-- The driver shows something that concerns data. -/
  | shown (e : Happening)
  /-- A call to write. -/
  | called (chunk : Bytes)
  | returned (chunk : Bytes) (answer : Except IoError Unit)
  | received (receipt : Receipt)

/-- A connection that was just opened. -/
def start (d : Destination) (capacity : Nat) (peer : Peer) : Link where
  connection := .fresh d capacity
  peer

/-- The next step of a part of the driver, with what it shows. -/
def drive? (l : Link) : Driver.Part → Option (Link × List Happening)
  | .dial => (l.connection.dial? 0 0).map plain
  | .connect => (l.connection.connect? l.peer.answer).map plain
  | .read => (l.connection.read? 0 l.peer.endpoint).map commit
  | .write => (l.connection.write? 0 l.peer.endpoint).map commit
  | .discard => (l.connection.discard? 0).map plain
where
  plain (result : Connection × List Happening) : Link × List Happening :=
    ({ l with connection := result.1 }, result.2)
  commit (p : Connection.Progress) : Link × List Happening :=
    ({ l with connection := p.connection, peer := { l.peer with endpoint := p.endpoint } },
      p.happened)

/-- What a part of the driver learns and does at its next step. -/
def told (l : Link) : Driver.Part → List Entry
  | .dial | .write => []
  | .connect => [.answered l.peer.answer]
  | .read =>
    match l.connection.driver with
    | .streaming _ (.reading room) _ => [.read (l.peer.endpoint.read room).1]
    | .streaming _ (.handing _ item) _ =>
      [if l.connection.reader = .dropped then .gaveUp item else .queued item]
    | _ => []
  | .discard => [.discarded]

/-- What a use does and what is seen of it; `none` if it must wait or nobody can do it. -/
def use? (l : Link) : Use → Option (Link × List Entry)
  | .drive part => (l.drive? part).map fun (l', happened) =>
    (l', l.told part ++ (happened.filter Happening.concernsData).map .shown)
  | .turn change => some ({ l with peer := change l.peer }, [])
  | .write chunk =>
    if l.connection.discarded then none
    else if l.connection.writable ∧ l.waiting ≠ [] then
      some ({ l with waiting := l.waiting ++ [chunk] }, [.called chunk])
    else match l.connection.offer? chunk with
      | none => some ({ l with waiting := l.waiting ++ [chunk] }, [.called chunk])
      | some (answer, connection) =>
        some ({ l with connection }, [.called chunk, .returned chunk answer])
  | .wake =>
    match l.waiting with
    | [] => none
    | chunk :: waiting => (l.connection.offer? chunk).map fun (answer, connection) =>
      ({ l with connection, waiting }, [.returned chunk answer])
  | .abandon n => some ({ l with waiting := l.waiting.eraseIdx n }, [])
  | .receive =>
    if l.connection.reader = .taken then
      let (receipt, connection) := l.connection.receive
      some ({ l with connection }, [.received receipt])
    else none
  | .takeReader =>
    if l.connection.discarded then none
    else some ({ l with connection := l.connection.takeReader.2 }, [])
  | .takeClosed =>
    if l.connection.discarded then none
    else some ({ l with connection := l.connection.takeClosed.2 }, [])
  | .dropReader =>
    if l.connection.reader = .taken then
      some ({ l with connection := l.connection.dropReader }, [])
    else none
  | .drop =>
    if l.connection.discarded ∨ l.waiting ≠ [] then none
    else some ({ l with connection := l.connection.drop }, [])

/-- A sequence of uses with all that is seen; `none` if one of them is impossible. -/
def run? (l : Link) : List Use → Option (Link × List Entry)
  | [] => some (l, [])
  | u :: rest =>
    (l.use? u).bind fun (l', now) => (run? l' rest).map fun (l'', later) => (l'', now ++ later)

/-- Neither the driver nor a call that waits to write can go on. -/
def Resting (l : Link) : Prop := (∀ part, l.use? (.drive part) = none) ∧ l.use? .wake = none

end Link

/-! ### The read loop -/

/-- A stream that does not echo gives to read what it gave before, whatever is written. -/
theorem Endpoint.write_keeps (e : Endpoint) (bytes : Bytes) (he : e.echoes = false) :
    (e.write bytes).2.reads = e.reads ∧ (e.write bytes).2.echoes = false := by
  unfold write
  split <;> simp [he]

namespace Connection

theorem continueWith_endpoint (id : Nat) (c : Connection) (e : Endpoint) (dial : Nat)
    (reading : Reading) (writing : Writing) (h : List Happening) :
    (c.continueWith id e dial reading writing h).endpoint = e := by
  cases reading <;> cases writing <;> rfl

/-- Where the read loop is, once there is a stream or it is clear that there will be none. -/
def readLoop (c : Connection) : Option Reading :=
  match c.driver with
  | .starting | .dialing _ => none
  | .streaming _ reading _ => some reading
  | .stopped => some .ended

variable {c c' : Connection} {dial : Nat} {reading : Reading} {writing : Writing}

@[simp] theorem readLoop_proceed :
    (c.proceed dial reading writing).readLoop = some reading := by
  cases reading <;> cases writing <;> rfl

@[simp] theorem readLoop_stop : c.stop.readLoop = some .ended := rfl

theorem readLoop_of_streaming (hd : c.driver = .streaming dial reading writing) :
    c.readLoop = some reading := by
  simp [readLoop, hd]

theorem readLoop_of_stopped (hd : c.driver = .stopped) : c.readLoop = some .ended := by
  simp [readLoop, hd]

theorem readable_eq : c.readable = c.readLoop.all Reading.live := by
  rcases hd : c.driver with _ | _ | ⟨_, _ | _ | _, _⟩ | _ <;>
    simp [readable, readLoop, hd, Reading.live]

theorem inHand_eq : c.inHand = c.readLoop.elim [] Reading.item := by
  cases hd : c.driver <;> simp [inHand, readLoop, hd, Reading.item]

theorem decided_eq : c.decided = c.readLoop.isSome := by
  cases hd : c.driver <;> simp [decided, readLoop, hd]

/-- Going on with an ended read loop settles no outcome that is not settled yet. -/
theorem closed_proceed (h : reading.live = false → c.closed.isSome) :
    (c.proceed dial reading writing).closed = c.closed := by
  cases hr : reading.live with
  | true => cases reading <;> cases writing <;> first | rfl | cases hr
  | false =>
    obtain ⟨outcome, ho⟩ := Option.isSome_iff_exists.mp (h hr)
    cases reading <;> cases writing <;> simp [proceed, stop, resolve, ho]

end Connection

namespace Link

/-- The outcome that an entry settles, if none is settled before. -/
def Entry.outcome? : Entry → Option (Except IoError Unit)
  | .answered (.refused e) => some (.error e)
  | .answered .crashed => some (.ok ())
  | .read .ended => some (.ok ())
  | .queued (.error e) => some (.error e)
  | .gaveUp item => some (item.map fun _ => ())
  | .discarded => some (.ok ())
  | _ => none

/-- The room that is left in the block after an item was read. -/
def roomAfter (room : Nat) : Except IoError Bytes → Nat
  | .ok data => room - data.length
  | .error _ => room

/-- What a step of the driver does to the read loop and its queue, with what it tells. -/
inductive ReadMove (c : Connection) (e : Endpoint) : Connection → Endpoint → List Entry → Prop
  | still {c' : Connection} {e' : Endpoint} : c'.readLoop = c.readLoop → c'.inbox = c.inbox →
      (e.echoes = false → e'.reads = e.reads ∧ e'.echoes = false) →
      ReadMove c e c' e' []
  | connect {c' : Connection} : c.readLoop = none → c'.inbox = c.inbox →
      c'.readLoop = some (.reading readBlockSize) → ReadMove c e c' e [.answered .accepted]
  | refuse {c' : Connection} {answer : DialAnswer} : c.readLoop = none → c'.inbox = c.inbox →
      c'.driver = .stopped → answer ≠ .accepted → (Entry.answered answer).outcome?.isSome →
      ReadMove c e c' e [.answered answer]
  | exhaust {c' : Connection} {e' : Endpoint} {room : Nat} :
      c.readLoop = some (.reading room) → c'.inbox = c.inbox → e.read room = (.ended, e') →
      c'.readLoop = some .ended → ReadMove c e c' e' [.read .ended]
  | arrive {c' : Connection} {e' : Endpoint} {room : Nat} {answer : ReadAnswer}
      {item : Except IoError Bytes} : c.readLoop = some (.reading room) → c'.inbox = c.inbox →
      e.read room = (answer, e') → answer.item? = some item →
      c'.readLoop = some (.handing (roomAfter room item) item) →
      ReadMove c e c' e' [.read answer]
  | queue {c' : Connection} {room : Nat} {item : Except IoError Bytes} :
      c.readLoop = some (.handing room item) → c'.inbox = c.inbox ++ [item] →
      c.reader ≠ .dropped → c.inbox.length < c.capacity →
      c'.readLoop = some (Connection.afterItem room item) → ReadMove c e c' e [.queued item]
  | giveUp {c' : Connection} {room : Nat} {item : Except IoError Bytes} :
      c.readLoop = some (.handing room item) → c'.inbox = c.inbox → c.reader = .dropped →
      c'.readLoop = some .ended → ReadMove c e c' e [.gaveUp item]
  | discard {c' : Connection} : c.discarded = true → c'.inbox = c.inbox → c'.driver = .stopped →
      ReadMove c e c' e [.discarded]

/-- A step of the driver, as what it does to the connection, to the read loop and to the outcome. -/
structure Driven (c : Connection) (e : Endpoint) (c' : Connection) (e' : Endpoint)
    (told : List Entry) (h : List Happening) : Prop where
  driven : c.Driven 0 c' h
  move : ReadMove c e c' e' told
  closed : (c.readable = false → c.closed.isSome) →
    c'.closed = c.closed.or (told.findSome? Entry.outcome?)

section parts

variable {c c' : Connection} {e : Endpoint} {h : List Happening} {l : Link}

theorem dial_driven {dial : Nat} (hd : c.dial? 0 dial = some (c', h)) :
    Driven c e c' e [] (h.filter Happening.concernsData) := by
  refine ⟨Connection.dial?_driven hd, ?_, fun _ => ?_⟩ <;> unfold Connection.dial? at hd <;>
    split at hd <;> cases hd
  · exact .still (by simp [Connection.readLoop, *]) rfl (fun h => ⟨rfl, h⟩)
  · simp

theorem connect_driven {answer : DialAnswer} (hc : c.connect? answer = some (c', h)) :
    Driven c e c' e [.answered answer] (h.filter Happening.concernsData) := by
  have hdriven := Connection.connect?_driven (i := 0) hc
  unfold Connection.connect? at hc
  split at hc
  · rename_i dial hd
    have hloop : c.readLoop = none := by simp [Connection.readLoop, hd]
    cases answer with
    | undecided => cases hc
    | accepted =>
      cases hc
      exact ⟨hdriven, .connect hloop rfl rfl, fun _ => by simp [Entry.outcome?]⟩
    | refused err =>
      cases hc
      refine ⟨hdriven, .refuse hloop rfl rfl (by simp) rfl, fun _ => ?_⟩
      simp [Entry.outcome?, Connection.resolve, Connection.stop]
    | crashed =>
      cases hc
      refine ⟨hdriven, .refuse hloop rfl rfl (by simp) rfl, fun _ => ?_⟩
      simp [Entry.outcome?, Connection.resolve, Connection.stop]
  · cases hc

theorem discard_driven (hd : c.discard? 0 = some (c', h)) :
    Driven c e c' e [.discarded] (h.filter Happening.concernsData) := by
  have hdriven := Connection.discard?_driven hd
  unfold Connection.discard? at hd
  split at hd
  · have hc : c' = c.stop := by split at hd <;> cases hd <;> rfl
    subst hc
    refine ⟨hdriven, .discard ‹_› rfl rfl, fun _ => ?_⟩
    simp [Entry.outcome?, Connection.stop, Connection.resolve]
  · cases hd

/-- The write loop leaves the read loop alone. -/
theorem writing_driven {e' : Endpoint} {dial : Nat} {reading : Reading}
    {writing writing' : Writing} {happened : List Happening} (outbox : List Bytes)
    (hd : c.driver = .streaming dial reading writing)
    (hk : e.echoes = false → e'.reads = e.reads ∧ e'.echoes = false)
    (h : c.Driven 0 ({ c with outbox }.proceed dial reading writing') happened) :
    Driven c e ({ c with outbox }.proceed dial reading writing') e' [] happened := by
  have hr := Connection.readLoop_of_streaming hd
  refine ⟨h, .still (by simp [hr]) (by simp) hk, fun hc => ?_⟩
  have hclosed : ({ c with outbox }.proceed dial reading writing').closed = c.closed :=
    Connection.closed_proceed fun hl => hc (by simpa [Connection.readable_eq, hr] using hl)
  simp [hclosed]

theorem write_driven {p : Connection.Progress} (hw : c.write? 0 e = some p) :
    Driven c e p.connection p.endpoint [] (p.happened.filter Happening.concernsData) := by
  have hdriven := Connection.write?_driven hw
  have hsame : e.echoes = false → e.reads = e.reads ∧ e.echoes = false :=
    fun h => ⟨rfl, h⟩
  unfold Connection.write? at hw
  split at hw
  · rename_i dial reading hd
    split at hw
    · split at hw
      · cases hw
        rw [Connection.continueWith_connection] at hdriven ⊢
        exact Connection.continueWith_endpoint .. ▸ writing_driven c.outbox hd hsame hdriven
      · cases hw
    · cases hw
      rw [Connection.continueWith_connection] at hdriven ⊢
      exact Connection.continueWith_endpoint .. ▸ writing_driven _ hd hsame hdriven
    · cases hw
      rw [Connection.continueWith_connection] at hdriven ⊢
      exact Connection.continueWith_endpoint .. ▸ writing_driven _ hd hsame hdriven
  · rename_i dial reading rest hd
    have hkeep := e.write_keeps rest
    split at hw <;> rename_i he <;> rw [he] at hkeep
    · cases hw
    · cases hw
      rw [Connection.failWriting, Connection.continueWith_connection] at hdriven ⊢
      exact Connection.continueWith_endpoint .. ▸ writing_driven _ hd hkeep hdriven
    · cases hw
      rw [Connection.failWriting, Connection.continueWith_connection] at hdriven ⊢
      exact Connection.continueWith_endpoint .. ▸ writing_driven _ hd hkeep hdriven
    · cases hw
      rw [Connection.continueWith_connection] at hdriven ⊢
      exact Connection.continueWith_endpoint .. ▸ writing_driven c.outbox hd hkeep hdriven
  · cases hw

/-- The read loop settles the outcome as it tells, at the latest when it ends. -/
theorem reading_driven {e' : Endpoint} {dial : Nat} {reading : Reading} {writing : Writing}
    {told : List Entry} {happened : List Happening}
    (h : c.Driven 0 (c'.proceed dial reading writing) happened)
    (hm : ReadMove c e (c'.proceed dial reading writing) e' told)
    (hc : c'.closed = c.closed.or (told.findSome? Entry.outcome?))
    (hl : reading.live = false → c'.closed.isSome) :
    Driven c e (c'.proceed dial reading writing) e' told happened :=
  ⟨h, hm, fun _ => (Connection.closed_proceed hl).trans hc⟩

theorem read_driven {p : Connection.Progress}
    (hr : l.connection.read? 0 l.peer.endpoint = some p) :
    Driven l.connection l.peer.endpoint p.connection p.endpoint (l.told .read)
      (p.happened.filter Happening.concernsData) := by
  have hdriven := Connection.read?_driven hr
  unfold Connection.read? at hr
  split at hr
  · rename_i dial room writing hd
    have hloop := Connection.readLoop_of_streaming hd
    simp only [told, hd]
    split at hr <;> rename_i he
    · cases hr
    · cases hr
      rw [Connection.continueWith_connection] at hdriven ⊢
      rw [Connection.continueWith_endpoint, he]
      exact reading_driven hdriven (.exhaust hloop (by simp [Connection.resolve]) he (by simp))
        rfl (by simp [Connection.resolve])
    · cases hr
      rw [Connection.continueWith_connection] at hdriven ⊢
      rw [Connection.continueWith_endpoint, he]
      exact reading_driven hdriven (.arrive hloop (by simp) he rfl (by simp [roomAfter]))
        (by simp [Entry.outcome?]) (by simp [Reading.live])
    · cases hr
      rw [Connection.continueWith_connection] at hdriven ⊢
      rw [Connection.continueWith_endpoint, he]
      exact reading_driven hdriven (.arrive hloop (by simp) he rfl (by simp [roomAfter]))
        (by simp [Entry.outcome?]) (by simp [Reading.live])
  · rename_i dial room item writing hd
    have hloop := Connection.readLoop_of_streaming hd
    simp only [told, hd]
    split at hr
    · rename_i hgone
      cases hr
      rw [Connection.continueWith_connection] at hdriven ⊢
      rw [Connection.continueWith_endpoint, if_pos hgone]
      exact reading_driven hdriven
        (.giveUp hloop (by simp [Connection.resolve]) hgone (by simp)) rfl
        (by simp [Connection.resolve])
    split at hr
    · rename_i hgone hroom
      cases item with
      | ok data =>
        cases hr
        rw [Connection.continueWith_connection] at hdriven ⊢
        rw [Connection.continueWith_endpoint, if_neg hgone]
        exact reading_driven hdriven (.queue hloop (by simp) hgone hroom (by simp))
          (by simp [Entry.outcome?]) (by simp [Connection.afterItem, Reading.live])
      | error err =>
        cases hr
        rw [Connection.continueWith_connection] at hdriven ⊢
        rw [Connection.continueWith_endpoint, if_neg hgone]
        exact reading_driven hdriven (.queue hloop (by simp [Connection.resolve]) hgone hroom
          (by simp [Connection.afterItem])) rfl (by simp [Connection.resolve])
    · cases hr
  · cases hr

end parts

/-- A step of the driver, whatever part takes it. -/
theorem drive?_driven {l l' : Link} {part : Driver.Part} {h : List Happening}
    (hd : l.drive? part = some (l', h)) :
    ∃ c e, Driven l.connection l.peer.endpoint c e (l.told part)
      (h.filter Happening.concernsData) ∧
      l' = { l with connection := c, peer := { l.peer with endpoint := e } } := by
  cases part <;> obtain ⟨_, hc, he⟩ := Option.map_eq_some_iff.mp hd <;> cases he
  · exact ⟨_, _, dial_driven hc, rfl⟩
  · exact ⟨_, _, connect_driven hc, rfl⟩
  · exact ⟨_, _, read_driven hc, rfl⟩
  · exact ⟨_, _, write_driven hc, rfl⟩
  · exact ⟨_, _, discard_driven hc, rfl⟩

/-! ### Steps -/

/-- What a use can do, with what is seen of it. -/
inductive Step (l : Link) : Use → Link → List Entry → Prop
  | drive {part : Driver.Part} {c : Connection} {e : Endpoint} {told : List Entry}
      {h : List Happening} : Driven l.connection l.peer.endpoint c e told h →
      Step l (.drive part) { l with connection := c, peer := { l.peer with endpoint := e } }
        (told ++ h.map .shown)
  | turn (change : Peer → Peer) : Step l (.turn change) { l with peer := change l.peer } []
  | call {chunk : Bytes} : l.connection.writable = true →
      Step l (.write chunk) { l with waiting := l.waiting ++ [chunk] } [.called chunk]
  | write {chunk : Bytes} : l.connection.writable = true → l.waiting = [] →
      l.connection.outbox.length < l.connection.capacity →
      Step l (.write chunk)
        { l with connection := { l.connection with outbox := l.connection.outbox ++ [chunk] } }
        [.called chunk, .returned chunk (.ok ())]
  | refuse {chunk : Bytes} : l.connection.writable = false →
      Step l (.write chunk) l
        [.called chunk, .returned chunk (.error (.writableClosed chunk.length))]
  | resume {chunk : Bytes} {waiting : List Bytes} : l.waiting = chunk :: waiting →
      l.connection.writable = true → l.connection.outbox.length < l.connection.capacity →
      Step l .wake
        { l with
          connection := { l.connection with outbox := l.connection.outbox ++ [chunk] }, waiting }
        [.returned chunk (.ok ())]
  | turnAway {chunk : Bytes} {waiting : List Bytes} : l.waiting = chunk :: waiting →
      l.connection.writable = false →
      Step l .wake { l with waiting } [.returned chunk (.error (.writableClosed chunk.length))]
  | abandon (n : Nat) : Step l (.abandon n) { l with waiting := l.waiting.eraseIdx n } []
  | handOut {item : Except IoError Bytes} {inbox : List (Except IoError Bytes)} :
      l.connection.inbox = item :: inbox → l.connection.reader = .taken →
      Step l .receive
        { l with connection := { l.connection with
            inbox, delivered := l.connection.delivered || item.isOk } }
        [.received (.item item)]
  | finish : l.connection.inbox = [] → l.connection.readable = false →
      Step l .receive l [.received .ended]
  | pend : l.connection.inbox = [] → l.connection.readable = true →
      Step l .receive l [.received .pending]
  | takeReader : l.connection.reader = .held →
      Step l .takeReader { l with connection := { l.connection with reader := .taken } } []
  | keepReader : Step l .takeReader l []
  | takeClosed : Step l .takeClosed { l with connection := l.connection.takeClosed.2 } []
  | dropReader : l.connection.reader = .taken →
      Step l .dropReader { l with connection := l.connection.dropReader } []
  | drop : l.connection.discarded = false → l.waiting = [] → l.connection.reader ≠ .held →
      Step l .drop { l with connection := { l.connection with discarded := true } } []
  | dropBoth : l.connection.discarded = false → l.waiting = [] → l.connection.reader = .held →
      Step l .drop
        { l with connection := { l.connection with discarded := true }.dropReader } []

variable {l l' : Link} {u : Use} {es log : List Entry}

theorem offer?_of_not_writable {c : Connection} (hw : c.writable = false) (chunk : Bytes) :
    c.offer? chunk = some (.error (.writableClosed chunk.length), c) := by
  simp [Connection.offer?, hw]

theorem offer?_of_room {c : Connection} (hw : c.writable = true)
    (hr : c.outbox.length < c.capacity) (chunk : Bytes) :
    c.offer? chunk = some (.ok (), { c with outbox := c.outbox ++ [chunk] }) := by
  simp [Connection.offer?, hw, hr]

theorem offer?_of_full {c : Connection} (hw : c.writable = true)
    (hr : ¬c.outbox.length < c.capacity) (chunk : Bytes) : c.offer? chunk = none := by
  simp [Connection.offer?, hw, hr]

theorem write_step {chunk : Bytes} (h : l.use? (.write chunk) = some (l', es)) :
    l.Step (.write chunk) l' es := by
  unfold use? at h
  dsimp only at h
  split at h
  · cases h
  cases hw : l.connection.writable with
  | false =>
    rw [offer?_of_not_writable hw, hw, if_neg (by simp)] at h
    cases h
    exact .refuse hw
  | true =>
    by_cases hwait : l.waiting = []
    · rw [if_neg (by simp [hwait])] at h
      by_cases hr : l.connection.outbox.length < l.connection.capacity
      · rw [offer?_of_room hw hr] at h
        cases h
        exact .write hw hwait hr
      · rw [offer?_of_full hw hr] at h
        cases h
        exact .call hw
    · rw [if_pos ⟨hw, hwait⟩] at h
      cases h
      exact .call hw

theorem wake_step (h : l.use? .wake = some (l', es)) : l.Step .wake l' es := by
  unfold use? at h
  dsimp only at h
  split at h
  · cases h
  · rename_i chunk waiting hwait
    obtain ⟨⟨answer, c⟩, ho, he⟩ := Option.map_eq_some_iff.mp h
    cases he
    cases hw : l.connection.writable with
    | false =>
      rw [offer?_of_not_writable hw] at ho
      cases ho
      exact .turnAway hwait hw
    | true =>
      by_cases hr : l.connection.outbox.length < l.connection.capacity
      · rw [offer?_of_room hw hr] at ho
        cases ho
        exact .resume hwait hw hr
      · rw [offer?_of_full hw hr] at ho
        cases ho

theorem receive_step (h : l.use? .receive = some (l', es)) : l.Step .receive l' es := by
  unfold use? Connection.receive at h
  dsimp only at h
  split at h
  · rename_i ht
    cases hi : l.connection.inbox with
    | nil =>
      cases hr : l.connection.readable with
      | false =>
        simp only [hi, hr] at h
        cases h
        exact .finish hi hr
      | true =>
        simp only [hi, hr] at h
        cases h
        exact .pend hi hr
    | cons item inbox =>
      simp only [hi] at h
      cases h
      have hstep := Step.handOut hi ht
      cases item <;> simpa [Except.isOk, Except.toBool] using hstep
  · cases h

/-- A use is a step. -/
theorem use?_step (h : l.use? u = some (l', es)) : l.Step u l' es := by
  cases u with
  | drive part =>
    obtain ⟨⟨l'', h'⟩, hd, he⟩ := Option.map_eq_some_iff.mp h
    cases he
    obtain ⟨c, e, hdriven, rfl⟩ := drive?_driven hd
    exact .drive hdriven
  | turn change =>
    cases h
    exact .turn change
  | write chunk => exact write_step h
  | wake => exact wake_step h
  | abandon n =>
    cases h
    exact .abandon n
  | receive => exact receive_step h
  | takeReader =>
    unfold use? at h
    dsimp only at h
    split at h
    · cases h
    · cases h
      unfold Connection.takeReader
      split
      · exact .takeReader ‹_›
      · exact .keepReader
  | takeClosed =>
    unfold use? at h
    dsimp only at h
    split at h <;> cases h
    exact .takeClosed
  | dropReader =>
    unfold use? at h
    dsimp only at h
    split at h <;> cases h
    exact .dropReader ‹_›
  | drop =>
    unfold use? at h
    dsimp only at h
    split at h
    · cases h
    · rename_i hn
      cases h
      obtain ⟨hd, hw⟩ := not_or.mp hn
      unfold Connection.drop
      dsimp only
      split
      · exact .dropBoth (by simpa using hd) (by simpa using hw) ‹_›
      · exact .drop (by simpa using hd) (by simpa using hw) ‹_›

/-- A run is its first use and the rest of it. -/
theorem run?_cons {rest : List Use} (h : l.run? (u :: rest) = some (l', es)) :
    ∃ l₁ now later, l.use? u = some (l₁, now) ∧ l₁.run? rest = some (l', later) ∧
      es = now ++ later := by
  obtain ⟨⟨l₁, now⟩, hu, h⟩ := Option.bind_eq_some_iff.mp h
  obtain ⟨⟨l₂, later⟩, hrest, he⟩ := Option.map_eq_some_iff.mp h
  cases he
  exact ⟨l₁, now, later, hu, hrest, rfl⟩

/-- What the steps of these uses keep, runs keep. -/
theorem run?_induction {P : Link → List Entry → Prop} {uses : List Use}
    (hstep : ∀ u ∈ uses, ∀ l l' es log, P l log → l.Step u l' es → P l' (log ++ es))
    (h : l.run? uses = some (l', es)) (hl : P l log) : P l' (log ++ es) := by
  induction uses generalizing l es log with
  | nil =>
    cases h
    simpa using hl
  | cons u rest ih =>
    obtain ⟨l₁, now, later, hu, hrest, rfl⟩ := run?_cons h
    rw [← List.append_assoc]
    have hnow := hstep u List.mem_cons_self _ _ _ _ hl (use?_step hu)
    exact ih (fun u hu => hstep u (List.mem_cons_of_mem _ hu)) hrest hnow

/-! ### At rest -/

namespace Resting

theorem drive?_eq_none (hr : l.Resting) (part : Driver.Part) : l.drive? part = none := by
  simpa [use?] using hr.1 part

/-- The driver of a dropped connection is gone. -/
theorem driver_of_discarded (hr : l.Resting) (hd : l.connection.discarded = true) :
    l.connection.driver = .stopped :=
  Connection.discard?_eq_none hd (Option.map_eq_none_iff.mp (hr.drive?_eq_none .discard))

/-- A write loop with a stream that does not block has written everything. -/
theorem unwritten_eq_nil (hr : l.Resting) (hw : l.connection.writable = true)
    (hl : l.connection.readLoop ≠ none) (hm : l.peer.endpoint.mode ≠ .blocks)
    (hc : 0 < l.connection.capacity) : l.connection.unwritten = [] ∧ l.waiting = [] := by
  have h := Option.map_eq_none_iff.mp (hr.drive?_eq_none .write)
  cases hd : l.connection.driver with
  | starting | dialing => simp [Connection.readLoop, hd] at hl
  | stopped => simp [Connection.writable, hd] at hw
  | streaming dial reading writing =>
    rcases Connection.write?_eq_none hd h with rfl | ⟨rfl, ho⟩ | ⟨rest, rfl, hblocks⟩
    · simp [Connection.writable, hd] at hw
    · refine ⟨by simp [Connection.unwritten, hd, ho, Writing.rest], ?_⟩
      have hwake := hr.2
      cases hwaiting : l.waiting with
      | nil => rfl
      | cons chunk waiting =>
        have hoffer := offer?_of_room hw (by simpa [ho] using hc) chunk
        simp [use?, hwaiting, hoffer] at hwake
    · exact absurd hblocks hm

end Resting

end Link

end Tunnel
