import Tunnel.Session.Step

/-!
# Running to rest

One way to run tasks until none of them can step: in rounds, in each of which every task goes
on until it must wait. The session comes first, so that it takes all events that are queued
when it wakes up before tasks that it has started meanwhile get their turn.

## Main definitions

* `Plumbing.settle` — runs drivers and pumps to rest.
* `World.settle` — runs a session and the tasks beside it to rest.
-/

namespace Tunnel

/-- Runs tasks by rounds of lanes. The tasks of a lane are tried in order, and the lane has the
turn until none of them can step. -/
structure Scheduler (State Task : Type) where
  step? : State → Task → Option State
  /-- The lanes in the order of their turns. -/
  lanes : State → List (List Task)

namespace Scheduler

variable {State Task : Type} (s : Scheduler State Task)

/-- The state after the first of the tasks that can step. -/
def first? (w : State) (lane : List Task) : Option State := lane.findSome? (s.step? w)

/-- Runs one lane for at most `n` steps. -/
def turn (lane : List Task) : Nat → State → State
  | 0, w => w
  | n + 1, w =>
    match s.first? w lane with
    | none => w
    | some w => turn lane n w

/-- Gives every lane its turn, of at most `n` steps each. -/
def round (n : Nat) (w : State) : State := (s.lanes w).foldl (fun w lane => s.turn lane n w) w

/-- Plays at most `k` rounds, and stops at rest. -/
def play (n : Nat) : Nat → State → State
  | 0, w => w
  | k + 1, w =>
    if (s.lanes w).any fun lane => (s.first? w lane).isSome then play n k (s.round n w) else w

end Scheduler

/-! ### How much there is to do -/

/-- The sum of the weights of a list's elements. -/
def totalOf {α : Type} (weight : α → Nat) (xs : List α) : Nat :=
  xs.foldl (fun n x => n + weight x) 0

/-- A chunk counts for its bytes and once more for itself. -/
def Bytes.work (data : Bytes) : Nat := data.length + 1

namespace Endpoint

/-- What there is to read. -/
def work (e : Endpoint) : Nat := e.unread + e.reads.length + 1

end Endpoint

namespace Connection

/-- What waits in the connection. -/
def work (c : Connection) : Nat :=
  let inHand := match c.driver with
    | .streaming _ _ (.sending rest) => rest.length
    | _ => 0
  totalOf Bytes.work c.outbox + inHand + c.inbox.length + 8

end Connection

namespace Plumbing

variable {σ : Type}

/-- What waits on the way in either direction. -/
def work (w : Plumbing σ) : Nat :=
  totalOf (·.endpoint.work) w.transport.peers
    + totalOf Connection.work w.transport.connections + w.pumps.length + 8

/-- The lanes of the drivers and pumps. -/
def lanes (w : Plumbing σ) : List (List Task) :=
  (List.range w.transport.connections.length).flatMap (fun i =>
    [[.driver i .discard, .driver i .dial, .driver i .connect],
      [.driver i .read], [.driver i .write]])
  ++ (List.range w.pumps.length).map fun k => [.pump k]

variable [ClientChannel σ]

def scheduler : Scheduler (Plumbing σ) Task := { step?, lanes }

/-- Runs drivers and pumps until none of them can step. -/
def settle (w : Plumbing σ) : Plumbing σ :=
  let bound := 16 * w.work
  scheduler.play bound bound w

end Plumbing

namespace World

variable {σ : Type}

/-- What waits on the way, in the client's queue and in the session's hands. -/
def work (w : World σ) : Nat :=
  let inHand := match w.session.phase with
    | .writing chunk _ => Bytes.work chunk
    | .replaying _ rest => totalOf Bytes.work rest
    | _ => 0
  let event : ChannelEvent → Nat
    | .message data => Bytes.work data
    | _ => 1
  w.toPlumbing.work + totalOf event w.chunks.events.waiting
    + totalOf Bytes.work w.session.replay.chunks + inHand + 8

/-- The session's lane, and the lanes beside it. -/
def lanes (w : World σ) : List (List Task) :=
  [.session .abandon, .session .resume, .session .join, .session .take, .session .finish]
    :: w.toPlumbing.lanes.map (·.map .beside)

variable [ClientChannel σ]

def scheduler : Scheduler (World σ) Task := { step?, lanes }

/-- Runs the session and the tasks beside it until none of them can step. -/
def settle (w : World σ) : World σ :=
  let bound := 16 * w.work
  scheduler.play bound bound w

end World

end Tunnel
