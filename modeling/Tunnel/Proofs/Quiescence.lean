import Tunnel.Proofs.Relay.Run
import Tunnel.Session.Settle

/-!
# Sessions at rest

When no task can step, a session that is not over waits for its client, for its pump, or for room
in a queue that its connection does not empty.

## Main statements

* `World.quiescent_iff_lanes` — the tasks that are listed are all the tasks there are.
* `World.Quiescent.selecting_of_inHand` — a session with nothing in hand waits for its client or
  its pump.
* `World.Quiescent.blocked` — a session with chunks in hand waits for a full queue.
* `World.Quiescent.driver_blocked` — a write loop that leaves chunks in its queue waits for its
  stream.
* `World.Quiescent.driver_reading` — so does a read loop whose reader is gone.
* `World.Quiescent.driver_stopped` — the driver of a dropped connection is gone.
* `World.Quiescent.drained` — a pump that is at work has taken all that was read.
-/

namespace Tunnel

namespace World

variable {σ : Type} [ClientChannel σ] {w : World σ}

/-! ### The lanes of a scheduler -/

/-- A task that can step is in a lane. -/
theorem mem_lanes_of_step {t : Task} (h : (w.step? t).isSome) : ∃ lane ∈ w.lanes, t ∈ lane := by
  have hbeside : ∀ task, (∃ lane ∈ w.toPlumbing.lanes, task ∈ lane) →
      ∃ lane ∈ w.lanes, Task.beside task ∈ lane := by
    rintro task ⟨lane, hl, hm⟩
    exact ⟨_, List.mem_cons_of_mem _ (List.mem_map_of_mem hl), List.mem_map_of_mem hm⟩
  cases t with
  | session branch => exact ⟨_, List.mem_cons_self, by cases branch <;> simp⟩
  | beside task =>
    apply hbeside
    cases task with
    | driver i part =>
      have hi : i < w.transport.connections.length := by
        by_contra hi
        have hn := List.getElem?_eq_none (Nat.le_of_not_lt hi)
        simp [step?, Plumbing.step?, Transport.step?, hn] at h
      have hpart : ∃ lane ∈ [[Plumbing.Task.driver i .discard, .driver i .dial, .driver i .connect],
          [.driver i .read], [.driver i .write]], .driver i part ∈ lane := by
        cases part <;> simp
      obtain ⟨lane, hl, hm⟩ := hpart
      exact ⟨lane, List.mem_append_left _ (List.mem_flatMap.mpr ⟨i, List.mem_range.mpr hi, hl⟩), hm⟩
    | pump k =>
      have hk : k < w.pumps.length := by
        by_contra hk
        have hn := List.getElem?_eq_none (Nat.le_of_not_lt hk)
        simp [step?, Plumbing.step?, Plumbing.pump?, hn] at h
      exact ⟨_, List.mem_append_right _ (List.mem_map_of_mem (List.mem_range.mpr hk)),
        List.mem_singleton_self _⟩

/-- No task can step if none in the lanes can: a scheduler that stops has come to rest. -/
theorem quiescent_iff_lanes :
    w.Quiescent ↔ w.lanes.all (fun lane => (scheduler.first? w lane).isNone) = true := by
  simp only [List.all_eq_true, Option.isNone_iff_eq_none, Scheduler.first?,
    List.findSome?_eq_none_iff]
  constructor
  · exact fun hq _ _ t _ => hq t
  · intro h t
    by_contra ht
    obtain ⟨lane, hl, hm⟩ := mem_lanes_of_step (Option.isSome_iff_ne_none.mpr ht)
    exact ht (h lane hl t hm)

instance : Decidable w.Quiescent := decidable_of_iff _ quiescent_iff_lanes.symm

namespace Quiescent

/-- A session at rest was not told to stop. -/
theorem not_abortRequested (hq : w.Quiescent) (ho : w.session.isOver = false) :
    w.session.abortRequested = false := by
  have h : (if w.session.abortRequested then w.abandon? else none) = none :=
    hq (.session .abandon)
  by_contra ha
  rw [Bool.not_eq_false] at ha
  rw [if_pos ha, abandon?] at h
  cases hp : w.session.phase <;> simp_all [Session.isOver]

theorem branch_eq_none (hq : w.Quiescent) (ho : w.session.isOver = false) :
    w.join? = none ∧ w.resume? = none := by
  have ha := hq.not_abortRequested ho
  have hj : (if w.session.abortRequested then none else w.join?) = none := hq (.session .join)
  have hr : (if w.session.abortRequested then none else w.resume?) = none :=
    hq (.session .resume)
  simpa [ha] using And.intro hj hr

/-- The pump that is awaited goes on. -/
theorem outcome_eq_none {k : Nat} {p : Pump} (hq : w.Quiescent)
    (hp : w.session.phase = .selecting) (hk : w.session.pump = some k)
    (hj : w.pumps[k]? = some p) : p.outcome? k = none := by
  have h := (hq.branch_eq_none (by simp [Session.isOver, hp])).1
  simpa [join?, hp, hk, hj] using h

/-- The first connection is not left for long. -/
theorem phase_ne_leavingFirst (hq : w.Quiescent) (hs : w.relay.Sound) :
    w.session.phase ≠ .leavingFirst := by
  intro hp
  have h := (hq.branch_eq_none (by simp [Session.isOver, hp])).2
  simp only [resume?, hp, leaveFirst?] at h
  obtain ⟨-, -, hret, -, ha, -⟩ := hs.shape.stands.of_leavingFirst hp
  obtain ⟨p, hp0, he⟩ := hs.messages.retired hret
  obtain ⟨c, hc⟩ := hs.shape.connection_of_pump hp0
  -- The reader of the first connection is done, so its outcome is settled.
  have hr := hs.fits.readSide_of_pump hc hp0
  have hclosed := hr.connection.closed (hr.finished p false rfl (.inr he)).2.1
  have hcl : w.transport.closed? 0 = c.closed := by
    have hc : w.transport.connections[0]? = some c := hc
    simp [Transport.closed?, hc]
  have ha : w.session.active = some 0 ∨ w.session.active = none ∧ _ := ha
  rcases ha with ha | ⟨ha, -⟩
  · simp [ha, hcl] at h
    simp [h] at hclosed
  · simp [ha] at h

/-- A session at rest with nothing in hand waits for its client or its pump. -/
theorem selecting_of_inHand (hq : w.Quiescent) (hs : w.relay.Sound)
    (ho : w.session.isOver = false) (hi : w.session.inHand = []) :
    w.session.phase = .selecting := by
  cases hp : w.session.phase with
  | selecting => rfl
  | writing chunk kept => simp [Session.inHand, hp] at hi
  | leavingFirst => exact absurd hp (hq.phase_ne_leavingFirst hs)
  | replaying i rest =>
    obtain rfl : rest = [] := by simpa [Session.inHand, hp] using hi
    have h := (hq.branch_eq_none ho).2
    simp [resume?, hp, replay?] at h
  | ended | aborted | crashed => simp [Session.isOver, hp] at ho

/-- A session with chunks in hand waits for room in the queue of its connection. -/
theorem blocked (hq : w.Quiescent) (hs : w.relay.Sound) (hi : w.session.inHand ≠ []) :
    ∃ i c, w.session.current? = some i ∧ w.transport.connections[i]? = some c ∧
      c.writable = true ∧ c.outbox.length = c.capacity := by
  have hfull : ∀ i chunk, w.session.current? = some i → w.transport.offer? i chunk = none →
      ∃ c, w.transport.connections[i]? = some c ∧ c.writable = true ∧
        c.outbox.length = c.capacity := by
    intro i chunk hi ho
    obtain ⟨c, hc, -⟩ := hs.shape.connection_of_current (.inr hi)
    have hroom := (hs.fits.writeSide_of_connection hc).room
    have := Transport.offer?_cases chunk hc
    rw [ho] at this
    exact ⟨c, hc, this.1, le_antisymm hroom.2 this.2⟩
  cases hp : w.session.phase with
  | selecting | leavingFirst | ended | aborted | crashed => simp [Session.inHand, hp] at hi
  | writing chunk kept =>
    have h := (hq.branch_eq_none (by simp [Session.isOver, hp])).2
    obtain ⟨i, ha⟩ : ∃ i, w.session.active = some i := hs.shape.stands.active_of_writing hp
    have hcu : w.session.current? = some i := by simp [Session.current?, Session.target?, hp, ha]
    simp only [resume?, hp, resumeWrite?, ha, Option.map_eq_none_iff] at h
    exact ⟨i, (hfull i chunk hcu h).imp fun _ hc => ⟨hcu, hc⟩⟩
  | replaying i rest =>
    have h := (hq.branch_eq_none (by simp [Session.isOver, hp])).2
    have hcu : w.session.current? = some i := by simp [Session.current?, Session.target?, hp]
    cases rest with
    | nil => simp [Session.inHand, hp] at hi
    | cons chunk rest =>
      simp only [resume?, hp, replay?, Option.map_eq_none_iff] at h
      exact ⟨i, (hfull i chunk hcu h).imp fun _ hc => ⟨hcu, hc⟩⟩

/-- What a driver at rest has left to write waits for its stream. -/
theorem driver_blocked {i : Nat} {c : Connection} (hq : w.Quiescent)
    (hc : w.transport.connections[i]? = some c) (hd : c.decided) (hw : c.writable)
    (hn : c.unwritten ≠ [] ∨ c.outbox ≠ []) :
    ∃ dial reading rest, c.driver = .streaming dial reading (.sending rest) ∧
      (w.transport.endpoint dial).mode = .blocks := by
  have h := hq (.beside (.driver i .write))
  simp only [step?, Plumbing.step?, Option.map_eq_none_iff, Transport.step?, hc,
    Option.bind_some] at h
  cases hdr : c.driver with
  | starting | dialing | stopped => simp_all [Connection.decided, Connection.writable]
  | streaming dial reading writing =>
    rw [Connection.stream?, hdr, Option.bind_some, Option.map_eq_none_iff] at h
    rcases Connection.write?_eq_none hdr h with rfl | ⟨rfl, ho⟩ | ⟨rest, rfl, hm⟩
    · simp [Connection.writable, hdr] at hw
    · simp [Connection.unwritten, hdr, ho, Writing.rest] at hn
    · exact ⟨dial, reading, rest, rfl, hm⟩

/-- A driver at rest whose reader is gone waits for its stream. -/
theorem driver_reading {i : Nat} {c : Connection} (hq : w.Quiescent)
    (hc : w.transport.connections[i]? = some c) (hd : c.decided) (hread : c.readable)
    (hr : c.reader = .dropped) :
    ∃ dial room writing, c.driver = .streaming dial (.reading room) writing ∧
      ((w.transport.endpoint dial).read room).1 = .pending := by
  have h := hq (.beside (.driver i .read))
  simp only [step?, Plumbing.step?, Option.map_eq_none_iff, Transport.step?, hc,
    Option.bind_some] at h
  cases hdr : c.driver with
  | starting | dialing | stopped => simp_all [Connection.decided, Connection.readable]
  | streaming dial reading writing =>
    rw [Connection.stream?, hdr, Option.bind_some, Option.map_eq_none_iff] at h
    rcases Connection.read?_eq_none hdr h with rfl | ⟨room, rfl, hm⟩ | ⟨_, _, -, hn, -⟩
    · simp [Connection.readable, hdr] at hread
    · exact ⟨dial, room, writing, rfl, hm⟩
    · exact absurd hr hn

/-- At rest, the driver of a dropped connection is gone. -/
theorem driver_stopped {i : Nat} {c : Connection} (hq : w.Quiescent)
    (hc : w.transport.connections[i]? = some c) (hd : c.discarded = true) :
    c.driver = .stopped := by
  have h := hq (.beside (.driver i .discard))
  simp only [step?, Plumbing.step?, Option.map_eq_none_iff, Transport.step?, hc,
    Option.bind_some] at h
  exact Connection.discard?_eq_none hd h

/-- A pump at rest that is at work waits for its reader. -/
theorem receive_pending {k : Nat} {p : Pump} (hq : w.Quiescent) (hp : w.pumps[k]? = some p)
    (hr : p.phase = .running) : (w.transport.receive p.connection).1 = .pending := by
  have h := hq (.beside (.pump k))
  simp only [step?, Plumbing.step?, Option.map_eq_none_iff, Plumbing.pump?, hp, Option.bind_some,
    hr, Plumbing.pumpItem?] at h
  split at h
  · simp [*]
  · cases h
  · split at h <;> cases h

/-- A pump at rest that is at work has taken all that was read. -/
theorem drained {k : Nat} {p : Pump} {c : Connection} (hq : w.Quiescent) (hs : w.relay.Sound)
    (hp : w.pumps[k]? = some p) (hr : p.phase = .running)
    (hc : w.transport.connections[k]? = some c) :
    c.inbox = [] ∧ c.inHand = [] ∧ c.readable = true := by
  have hpending := hq.receive_pending hp hr
  rw [(hs.shape.pumps k p hp).1] at hpending
  have hinbox : c.inbox = [] := by
    rcases hi : c.inbox with _ | ⟨err | chunk, inbox⟩
    · rfl
    · simp [Transport.receive_error hc hi] at hpending
    · simp [Transport.receive_chunk hc hi] at hpending
  have hreadable : c.readable = true := by
    by_contra hn
    simp [Transport.receive_ended hc hinbox (by simpa using hn)] at hpending
  refine ⟨hinbox, ?_, hreadable⟩
  have hroom := (hs.fits.writeSide_of_connection hc).room.1
  have h := hq (.beside (.driver k .read))
  simp only [step?, Plumbing.step?, Option.map_eq_none_iff, Transport.step?, hc,
    Option.bind_some] at h
  cases hd : c.driver with
  | starting | dialing | stopped => simp [Connection.inHand, hd]
  | streaming dial reading writing =>
    rw [Connection.stream?, hd, Option.bind_some, Option.map_eq_none_iff] at h
    rw [Connection.inHand_of_streaming hd]
    rcases Connection.read?_eq_none hd h with rfl | ⟨_, rfl, -⟩ | ⟨_, _, -, -, hfull⟩
    · rfl
    · rfl
    · have hpos : 0 < c.capacity := hroom
      rw [hinbox, List.length_nil] at hfull
      omega

/-- A pump that waits for the outcome of its connection has none to see. -/
theorem closed_eq_none {k : Nat} {p : Pump} {outcome : PumpOutcome} {c : Connection}
    (hq : w.Quiescent) (hs : w.relay.Sound) (hp : w.pumps[k]? = some p)
    (hph : p.phase = .settling outcome) (hc : w.transport.connections[k]? = some c) :
    c.closed = none := by
  have h := hq (.beside (.pump k))
  simpa [step?, Plumbing.step?, Plumbing.pump?, hp, hph, Plumbing.settlePump?,
    Transport.closed?, (hs.shape.pumps k p hp).1, hc] using h

end Quiescent

end World

end Tunnel
