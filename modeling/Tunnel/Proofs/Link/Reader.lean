import Tunnel.Proofs.Link.Script

/-!
# Readers and their signal

What the reader of a connection gets, and what the signal of its outcome tells, over all the uses of
the connection: the items that the stream yields, in order and each once, an error as the last of
them, and then the end for ever; and one outcome, settled when the read loop ends. If the connection
is dropped, the reader still gets what was queued.

## Main definitions

* `Link.ReadWait` — what a read loop that goes on may wait for.
* `Link.Yields`, `Link.Settles`, `Link.Carries` — what a reader gets, what the signal tells, and
  what later uses keep of it.

## Main statements

* `Link.reader_gets` — every reader of every connection gets this.
-/

namespace Tunnel

/-- A stream that gives nothing yet waits to be written to, or has nothing left to give. -/
theorem Endpoint.reads_of_read_pending {e : Endpoint} {room : Nat}
    (h : (e.read room).1 = .pending) : e.taken < e.expects ∨ e.reads = [] := by
  unfold read at h
  split at h
  · exact .inl ‹_›
  · right
    split at h
    · assumption
    all_goals cases h

/-- A reader waits as long as nothing is queued and more may come. -/
theorem Connection.receive_pending_iff {c : Connection} :
    c.receive.1 = .pending ↔ c.inbox = [] ∧ c.readable = true := by
  unfold receive
  cases c.inbox <;> cases c.readable <;> simp

namespace Link

variable {l l' : Link} {u : Use} {log later es : List Entry} {c c' : Connection}
  {e e' : Endpoint} {t : List Entry} {h : List Happening}

/-! ### At rest -/

/-- What a read loop that goes on may wait for. -/
inductive ReadWait (l : Link) : Prop
  | dial : l.connection.readLoop = none → l.peer.answer = .undecided → ReadWait l
  | stream {room : Nat} : l.connection.readLoop = some (.reading room) →
      (l.peer.endpoint.read room).1 = .pending → ReadWait l
  /-- There is no room for the item in hand, and the reader is there to make some. -/
  | room {room : Nat} {item : Except IoError Bytes} :
      l.connection.readLoop = some (.handing room item) → l.connection.reader ≠ .dropped →
      l.connection.capacity ≤ l.connection.inbox.length → ReadWait l

namespace Resting

/-- The read loop of a connection that is there waits for something. -/
theorem readWait (hr : l.Resting) (hl : l.connection.readable = true) : l.ReadWait := by
  cases hd : l.connection.driver with
  | starting =>
    have h := Option.map_eq_none_iff.mp (hr.drive?_eq_none .dial)
    simp [Connection.dial?, hd] at h
  | dialing dial =>
    have h := Option.map_eq_none_iff.mp (hr.drive?_eq_none .connect)
    refine .dial (by simp [Connection.readLoop, hd]) ?_
    cases ha : l.peer.answer with
    | undecided => rfl
    | accepted | refused | crashed => simp [Connection.connect?, hd, ha] at h
  | streaming dial reading writing =>
    have h := Option.map_eq_none_iff.mp (hr.drive?_eq_none .read)
    have hloop := Connection.readLoop_of_streaming hd
    obtain rfl | ⟨room, rfl, hp⟩ | ⟨room, item, rfl, hn, hfull⟩ :=
      Connection.read?_eq_none hd h
    · simp [Connection.readable, hd] at hl
    · exact .stream hloop hp
    · exact .room hloop hn hfull
  | stopped => simp [Connection.readable, hd] at hl

end Resting

/-! ### What steps keep -/

/-- A reader that is gone stays gone, and what is queued for another is not lost. -/
theorem Step.queue (st : l.Step u l' es) (hn : l'.connection.reader ≠ .dropped) :
    l.connection.reader ≠ .dropped ∧
      l.connection.inbox <+: handed es ++ l'.connection.inbox := by
  cases st with
  | drive d =>
    obtain ⟨-, -, hreader, -⟩ := d.driven.frame
    refine ⟨hreader ▸ hn, ?_⟩
    rw [handed_append, d.move.silent.1, (shown_eq_nil _).2.1]
    cases d.move.items with
    | none hi | arrive _ _ hi => simp [hi]
    | queue _ _ _ hi => simp [hi]
  | handOut hi => exact ⟨hn, by simp [hi, handed, Entry.handed?]⟩
  | takeReader hr => exact ⟨by simp [hr], List.prefix_refl _⟩
  | dropReader | dropBoth => exact absurd rfl hn
  | turn | call | write | refuse | resume | turnAway | abandon | finish | pend | keepReader
  | takeClosed | drop => exact ⟨hn, List.prefix_refl _⟩

/-- What arrives for a reader that is gone is spent. -/
theorem Step.spent (s : Signal l.connection log) (st : l.Step u l' es)
    (hr : l.connection.reader = .dropped)
    (hs : ∀ item ∈ arrived later, Spent item l.connection later) :
    ∀ item ∈ arrived (later ++ es), Spent item l'.connection (later ++ es) := by
  intro item hm
  cases st with
  | drive d =>
    exact d.spent (p := fun _ => True) s.readable (fun _ _ => .inr hr)
      (fun item hm _ => hs item hm) item hm trivial
  | turn | call | write | refuse | resume | turnAway | abandon | handOut | finish | pend
  | takeReader | keepReader | takeClosed | dropReader | drop | dropBoth =>
    rw [arrived_append] at hm
    exact (hs item (by simpa [arrived, Entry.arrived?] using hm)).congr rfl rfl

/-! ### What a reader gets -/

/-- What the reader has handed out, and what it gets next. -/
structure Yields (l : Link) (log : List Entry) : Prop where
  inOrder : handed log <+: arrived log
  /-- An error is the last item. -/
  errors : (arrived log).Pairwise fun item _ => item.isOk = true
  /-- While the connection and the reader are there, nothing is lost. -/
  whole : l.connection.discarded = false → l.connection.reader ≠ .dropped →
    handed log ++ (l.connection.inbox ++ l.connection.inHand) = arrived log
  /-- The end comes after everything. -/
  complete : .ended ∈ receipts log → l.connection.discarded = false →
    l.connection.reader ≠ .dropped → handed log = arrived log
  /-- After an error, and after the end, there is the end for ever. -/
  ends : (receipts log).Pairwise fun a b => a.final = true → b.isEnd = true
  refused : ∀ answer ∈ answers log, answer ≠ .accepted →
    arrived log = [] ∧ l.connection.receive.1 = .ended
  /-- The reader waits as long as nothing is queued and the outcome is open. -/
  pending : l.connection.receive.1 = .pending ↔
    l.connection.inbox = [] ∧ l.connection.closed = none
  /-- The reader of a dropped connection does not wait once the driver has noticed. -/
  dropped : l.connection.discarded = true → l.Resting → l.connection.receive.1 ≠ .pending
  delivered : l.connection.delivered = true ↔ ∃ chunk, .ok chunk ∈ handed log

/-- What the signal of the outcome tells. -/
structure Settles (l : Link) (log : List Entry) : Prop where
  closed : l.connection.closed = outcome? log
  /-- Nothing that settles an outcome finds another one settled, unless the driver was discarded. -/
  settled : ∀ en ∈ log, en ≠ .discarded → ∀ outcome, en.outcome? = some outcome →
    l.connection.closed = some outcome
  /-- An error that was read settles the outcome once it is queued. -/
  failed : ∀ err, .error err ∈ arrived log → Spent (.error err) l.connection log
  /-- The driver is discarded, or gives up on the reader, only when they are dropped. -/
  left : (.discarded ∈ log → l.connection.discarded = true) ∧
    ∀ item, .gaveUp item ∈ log → l.connection.reader = .dropped
  /-- The outcome stays open only while the read loop has to wait. -/
  resting : l.Resting → l.connection.closed = none →
    l.connection.discarded = false ∧ l.ReadWait

/-- What a connection keeps over later uses. -/
structure Carries (l l' : Link) (later : List Entry) : Prop where
  closed : ∀ outcome, l.connection.closed = some outcome → l'.connection.closed = some outcome
  /-- What is queued is handed out first. -/
  queued : l'.connection.reader ≠ .dropped →
    l.connection.inbox <+: handed later ++ l'.connection.inbox
  ended : l'.connection.reader ≠ .dropped → .ended ∈ receipts later →
    l.connection.inbox <+: handed later
  /-- What arrives for a reader that is gone settles the outcome. -/
  spent : l.connection.reader = .dropped →
    ∀ item ∈ arrived later, Spent item l'.connection later

/-- What all steps keep. -/
structure Fits (l : Link) (log : List Entry) : Prop where
  items : Items l.connection log
  signal : Signal l.connection log
  told : Told l.connection log

theorem Step.fits (s : l.Fits log) (st : l.Step u l' es) : l'.Fits (log ++ es) :=
  ⟨st.items s.items, st.signal s.signal s.items, st.told s.told s.items⟩

namespace Fits

theorem start (d : Destination) (capacity : Nat) (peer : Peer) :
    (Link.start d capacity peer).Fits [] :=
  ⟨.fresh d capacity, .fresh d capacity, .fresh d capacity⟩

theorem run {uses : List Use} (s : l.Fits log) (h : l.run? uses = some (l', es)) :
    l'.Fits (log ++ es) :=
  run?_induction (fun _ _ _ _ _ _ s st => st.fits s) h s

/-- The end comes after everything. -/
theorem complete (s : l.Fits log) (he : .ended ∈ receipts log) :
    l.connection.readable = false ∧ l.connection.inbox = [] :=
  s.told.final ⟨_, he, rfl⟩

theorem yields (s : l.Fits log) : l.Yields log := by
  have hpending : l.connection.receive.1 = .pending ↔
      l.connection.inbox = [] ∧ l.connection.closed = none := by
    rw [Connection.receive_pending_iff, s.signal.readable]
  refine ⟨?_, s.items.errors, fun hd hn => s.items.whole (.inr hd) hn, ?_, s.told.ends, ?_,
    hpending, ?_, ?_⟩
  · exact (List.prefix_append _ _).trans s.items.handed_isPrefix
  · intro he hd hn
    obtain ⟨hr, hi⟩ := s.complete he
    have hwhole := s.items.whole (.inr hd) hn
    rwa [hi, Connection.inHand_of_not_readable hr, List.append_nil, List.append_nil] at hwhole
  · intro answer hm hne
    obtain ⟨hdriver, hnone⟩ := s.signal.refused answer hm hne
    have hprefix := s.items.handed_isPrefix
    rw [hnone, List.prefix_nil, List.append_eq_nil_iff] at hprefix
    exact ⟨hnone, by simp [Connection.receive, hprefix.2, Connection.readable, hdriver]⟩
  · intro hd hrest hp
    have hr := (Connection.receive_pending_iff.mp hp).2
    simp [Connection.readable, hrest.driver_of_discarded hd] at hr
  · rw [s.told.delivered]
    constructor
    · rintro ⟨err | chunk, hm, hok⟩
      · cases hok
      · exact ⟨chunk, hm⟩
    · rintro ⟨chunk, hm⟩
      exact ⟨_, hm, rfl⟩

theorem settles (s : l.Fits log) : l.Settles log := by
  refine ⟨s.signal.closed, s.signal.settled, s.signal.failed,
    ⟨s.signal.discarded, s.signal.gaveUp⟩, fun hrest hc => ?_⟩
  have hr := s.signal.readable.mpr hc
  refine ⟨?_, hrest.readWait hr⟩
  by_contra hd
  have hdriver := hrest.driver_of_discarded (by simpa using hd)
  simp [Connection.readable, hdriver] at hr

/-- What is queued for the reader, or arrives for one that is gone, over a run. -/
theorem carries {uses : List Use} (s : l.Fits log) (h : l.run? uses = some (l', later)) :
    l.Carries l' later := by
  -- `Fits` goes along: only it says that the outcome is open while items still arrive.
  have hinv := @run?_induction l l' later []
    (fun l' later => l'.Fits (log ++ later) ∧
      (l'.connection.reader ≠ .dropped →
        l.connection.inbox <+: handed later ++ l'.connection.inbox) ∧
      (l.connection.reader = .dropped → l'.connection.reader = .dropped ∧
        ∀ item ∈ arrived later, Spent item l'.connection later)) uses ?_ h ?_
  · obtain ⟨s', hq, hs⟩ := hinv
    refine ⟨fun outcome hc => ?_, hq, fun hn he => ?_, fun hr => (hs hr).2⟩
    · rw [s.signal.closed] at hc
      rw [s'.signal.closed, List.nil_append, outcome?_append, hc, Option.some_or]
    · obtain ⟨-, hi⟩ := s'.complete (by simp [he])
      simpa [hi] using hq hn
  · rintro u - l₁ l₂ es later ⟨s₁, hq, hs⟩ st
    refine ⟨List.append_assoc .. ▸ st.fits s₁, fun hn => ?_, fun hr => ?_⟩
    · obtain ⟨hn, hnow⟩ := st.queue hn
      rw [handed_append, List.append_assoc]
      exact (hq hn).trans ((List.prefix_append_right_inj _).mpr hnow)
    · obtain ⟨hr, hs⟩ := hs hr
      refine ⟨?_, st.spent s₁.signal hr hs⟩
      by_contra hn
      exact (st.queue hn).1 hr
  · exact ⟨by simpa using s, fun _ => List.prefix_refl _, fun hr => ⟨hr, by simp [arrived]⟩⟩

end Fits

/-- While nothing is lost, a reader that has emptied the queue of a connection at rest has got the
whole script. -/
theorem Scripted.drained {script : List (Except IoError Bytes)} (s : l.Fits log)
    (p : Scripted script l.connection l.peer.endpoint log) (hu : Uninterrupted log)
    (ha : .accepted ∈ answers log) (hd : l.connection.discarded = false)
    (hn : l.connection.reader ≠ .dropped)
    (he : .ended ∈ receipts log ∨ l.Resting ∧ l.connection.inbox = [] ∧
      l.peer.endpoint.expects ≤ l.peer.endpoint.taken) :
    handed log = Tunnel.drained readBlockSize script := by
  have hwhole := s.items.whole (.inr hd) hn
  have hloop : l.connection.readLoop ≠ none := by
    intro hl
    simp [s.signal.undecided hl] at ha
  -- Nothing is on the way, and nothing is yet to be read.
  suffices h : l.connection.inbox = [] ∧ l.connection.inHand = [] ∧
      toCome l.connection l.peer.endpoint = [] by
    obtain ⟨hi, hh, ht⟩ := h
    have harrived := p.arrived hu
    rw [ht, List.append_nil] at harrived
    simpa [hi, hh, harrived] using hwhole
  cases hr : l.connection.readable with
  | false =>
    have hi : l.connection.inbox = [] := by
      rcases he with he | ⟨-, hi, -⟩
      · exact (s.complete he).2
      · exact hi
    refine ⟨hi, Connection.inHand_of_not_readable hr, ?_⟩
    rw [Connection.readable_eq] at hr
    obtain ⟨reading, hl⟩ := Option.ne_none_iff_exists'.mp hloop
    cases reading with
    | ended => simp [toCome, hl]
    | reading | handing => simp [hl, Reading.live] at hr
  | true =>
    rcases he with he | ⟨hrest, hi, he⟩
    · simp [(s.complete he).1] at hr
    · refine ⟨hi, ?_⟩
      cases hrest.readWait hr with
      | dial hl => exact absurd hl hloop
      | stream hl hp =>
        rcases Endpoint.reads_of_read_pending hp with ht | hreads
        · omega
        · simp [Connection.inHand_eq, toCome, hl, Reading.item, hreads, Tunnel.drained]
      | room _ _ hfull =>
        have hcapacity := s.items.capacity
        simp only [hi, List.length_nil] at hfull
        omega

/-- What the reader of a connection gets and what the signal of its outcome tells, for every dial
outcome, every stream, every capacity and all uses of the connection; if the script of the stream is
laid down, what the reader gets in the end depends on nothing else. -/
theorem reader_gets {d : Destination} {capacity : Nat} {peer : Peer} {uses : List Use}
    (h : (start d capacity peer).run? uses = some (l, log)) :
    l.Yields log ∧ l.Settles log ∧
    (∀ more l' later, l.run? more = some (l', later) → l.Carries l' later) ∧
    ((∀ u ∈ uses, u.KeepsScript) → peer.endpoint.echoes = false → .accepted ∈ answers log →
      l.connection.discarded = false → l.connection.reader ≠ .dropped →
      (.ended ∈ receipts log ∨ l.Resting ∧ l.connection.inbox = [] ∧
        l.peer.endpoint.expects ≤ l.peer.endpoint.taken) →
      handed log = drained readBlockSize peer.endpoint.reads) := by
  have s : l.Fits log := (Fits.start d capacity peer).run h
  refine ⟨s.yields, s.settles, fun _ _ _ => s.carries, fun hkeep hechoes ha hd hn he => ?_⟩
  have hscript := run?_induction (fun u hu l _ _ log p st => st.scripted p (hkeep u hu)) h
    (Scripted.fresh rfl hechoes)
  have hunique : ∀ answer ∈ answers log, answer = .accepted :=
    fun _ hm => s.signal.answers_unique hm ha
  refine Scripted.drained s hscript ⟨hunique, fun hm => ?_, fun item hm => ?_⟩ ha hd hn he
  · simp [s.signal.discarded hm] at hd
  · exact hn (s.signal.gaveUp item hm)

/-- A peer that yields one byte and then resets the connection. -/
def resetting : Peer where
  answer := .accepted
  endpoint := { reads := [.ok [1], .error { kind := .connectionReset }] }

/-- A connection to it whose error waits until the byte is handed out. -/
def full : Link where
  connection := {
    destination := { host := "first", port := 80 }, capacity := 1, inbox := [.ok [1]]
    reader := .taken
    driver := .streaming 0 (.handing 4095 (.error { kind := .connectionReset })) .idle }
  peer := { answer := .accepted }

/-- The connection when the reader has got both. -/
def emptied : Link where
  connection := { full.connection with
    inbox := [], delivered := true, closed := some (.error { kind := .connectionReset })
    driver := .streaming 0 .ended .idle }
  peer := full.peer

/-- The reader gets the byte, the error and the end, and the signal tells the error. -/
theorem reader_gets_resetting : ∃ uses more log later,
    (start { host := "first", port := 80 } 1 resetting).run? uses = some (full, log) ∧
    full.run? more = some (emptied, later) ∧
    full.Yields log ∧ full.Settles log ∧ full.Carries emptied later ∧
    receipts later = [.item (.ok [1]), .item (.error { kind := .connectionReset }), .ended] ∧
    handed (log ++ later) = drained readBlockSize resetting.endpoint.reads := by
  let uses : List Use :=
    [.takeReader, .drive .dial, .drive .connect, .drive .read, .drive .read, .drive .read]
  let more : List Use := [.receive, .drive .read, .receive, .receive]
  let log : List Entry := [.answered .accepted, .read (.chunk [1]), .shown (.received 0 0 [1]),
    .queued (.ok [1]), .read (.failed { kind := .connectionReset })]
  let later : List Entry := [.received (.item (.ok [1])),
    .queued (.error { kind := .connectionReset }),
    .received (.item (.error { kind := .connectionReset })), .received .ended]
  have hrun : (start { host := "first", port := 80 } 1 resetting).run? uses = some (full, log) :=
    rfl
  have hmore : full.run? more = some (emptied, later) := rfl
  have hall : (start { host := "first", port := 80 } 1 resetting).run? (uses ++ more) =
    some (emptied, log ++ later) := rfl
  obtain ⟨hyields, hsettles, hcarries, -⟩ := reader_gets hrun
  obtain ⟨-, -, -, hscript⟩ := reader_gets hall
  refine ⟨uses, more, log, later, hrun, hmore, hyields, hsettles, hcarries _ _ _ hmore, rfl, ?_⟩
  refine hscript (fun u hu => ?_) rfl List.mem_cons_self rfl (by simp [emptied, full]) (.inl ?_)
  · simp only [uses, more, List.cons_append, List.nil_append, List.mem_cons, List.not_mem_nil,
      or_false] at hu
    rcases hu with rfl | rfl | rfl | rfl | rfl | rfl | rfl | rfl | rfl | rfl <;> trivial
  · simp [log, later, receipts, Entry.receipt?]

end Link

end Tunnel
