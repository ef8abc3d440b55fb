import Tunnel.Proofs.Line.Basic

/-!
# The reading side of a line

What a stream yields waits in the read loop's hand and in the queue until the reader hands it
out, in order and at most one block at a time. While the read loop goes on and somebody may still
read, nothing is lost on the way. A pump that finished has seen the end of the queue.

## Main definitions

* `Connection.ReadSide` — how the reading side of a connection and the history fit together.
* `Line.ReadSide` — the same, with the pump.

## Main statements

* `Line.Touches.readSide` — what happens to a line keeps this.
-/

namespace Tunnel

/-- The chunks among items. -/
def chunksOf (items : List (Except IoError Bytes)) : List Bytes := items.filterMap Except.toOption

section chunksOf

variable {items items' : List (Except IoError Bytes)} {chunk : Bytes} {e : IoError}

@[simp] theorem chunksOf_nil : chunksOf [] = [] := rfl

@[simp] theorem chunksOf_append : chunksOf (items ++ items') = chunksOf items ++ chunksOf items' :=
  List.filterMap_append

@[simp] theorem chunksOf_ok_cons : chunksOf (.ok chunk :: items) = chunk :: chunksOf items := rfl

@[simp] theorem chunksOf_error_cons : chunksOf (.error e :: items) = chunksOf items := rfl

end chunksOf

/-- The room left in the block that the read loop fills is never more than a block, and never
nothing when the loop reads. -/
def Reading.Roomy : Reading → Prop
  | .reading room => 0 < room ∧ room ≤ readBlockSize
  | .handing room _ => room ≤ readBlockSize
  | .ended => True

namespace Connection

/-- The read loop, if there is one, has the room it should have. -/
def Roomy (c : Connection) : Prop :=
  match c.driver with
  | .streaming _ reading _ => reading.Roomy
  | _ => True

@[simp] theorem roomy_proceed (c : Connection) (dial : Nat) (reading : Reading)
    (writing : Writing) : (c.proceed dial reading writing).Roomy ↔ reading.Roomy := by
  cases reading <;> cases writing <;>
    simp [proceed, stop, resolve, Roomy, Reading.Roomy]

theorem roomy_of_streaming {c : Connection} {dial : Nat} {reading : Reading} {writing : Writing}
    (hd : c.driver = .streaming dial reading writing) : c.Roomy ↔ reading.Roomy := by
  simp [Roomy, hd]

/-- What a step of the driver does on the reading side: while the read loop goes on, what the
stream yields goes to the end of what is on the way; when it ends, no more than what was in hand
is lost. -/
theorem Driven.reads {i : Nat} {c c' : Connection} {h : List Happening} (d : c.Driven i c' h) :
    passed (.handedOut i) h = [] ∧
    (c'.readable → c.readable ∧ (c.reader ≠ .dropped →
      chunksOf (c'.inbox ++ c'.inHand) =
        chunksOf (c.inbox ++ c.inHand) ++ passed (.received i) h)) ∧
    (c'.inbox = c.inbox ∨ c.reader ≠ .dropped ∧ c.readable ∧ c.decided ∧
      chunksOf c'.inbox <+: chunksOf (c.inbox ++ c.inHand)) ∧
    (c.readable = false → c'.inbox = c.inbox ∧ passed (.received i) h = []) ∧
    (∀ dial, .exhausted i dial ∈ h → c.readable ∧ c.inHand = [] ∧ c'.readable = false ∧
      c'.inbox = c.inbox ∧ passed (.received i) h = []) := by
  cases d with
  | dial hd | connect hd => simp [readable, inHand, hd, Reading.item]
  | refuse hd | discard hd => simp [stop, resolve, readable]
  | exhaust hd | failRead hd | read hd _ _ | giveUp hd _ =>
    have hr := readable_of_streaming hd
    have hi := inHand_of_streaming hd
    simp [hr, hi, resolve, Reading.live, Reading.item, Happening.at?, Happening.station?]
  | hand hd hr _ | handError hd hr _ =>
    have hl := readable_of_streaming hd
    have hi := inHand_of_streaming hd
    have hc := decided_of_streaming hd
    simp [hr, hl, hi, hc, resolve, Reading.live, Reading.item]
  | leaveOff hd _ _ | skip hd _ | pick hd _ | failWrite hd | write hd =>
    have hr := readable_of_streaming hd
    have hi := inHand_of_streaming hd
    simp [hr, hi, Happening.at?, Happening.station?]

/-- A step of the driver reads no more than a block and settles the outcome when the read loop
ends. -/
theorem Driven.reads_frame {i : Nat} {c c' : Connection} {h : List Happening}
    (d : c.Driven i c' h) :
    (c.decided → c'.decided) ∧
    (c.Roomy → c'.Roomy ∧
      ∀ data ∈ passed (.received i) h, data ≠ [] ∧ data.length ≤ readBlockSize) ∧
    ((c.readable = false → c.closed.isSome) → c'.readable = false → c'.closed.isSome) := by
  cases d with
  | dial hd | connect hd => simp [readable, Roomy, Reading.Roomy, decided, hd, readBlockSize]
  | refuse hd | discard hd => simp [stop, resolve, Roomy, decided]
  | exhaust hd | giveUp hd _ | handError hd _ _ =>
    refine ⟨by simp, fun _ => ?_,
      fun _ _ => proceed_closed _ _ _ _ (by simp [resolve])⟩
    simp [Reading.Roomy, Happening.at?, Happening.station?]
  | failRead hd =>
    have hr := roomy_of_streaming hd
    refine ⟨by simp, fun h => ?_, fun _ h => ?_⟩
    · simpa [Reading.Roomy] using (hr.mp h).2
    · simp [Reading.live] at h
  | @read dial room writing data hd hl hn =>
    have hr := roomy_of_streaming hd
    refine ⟨by simp, fun h => ?_, fun _ h => ?_⟩
    · obtain ⟨h0, h1⟩ := hr.mp h
      have : room ≤ readBlockSize + data.length := by omega
      simpa [Reading.Roomy, Happening.at?, Happening.station?] using ⟨this, hn h0, hl.trans h1⟩
    · simp [Reading.live] at h
  | @hand dial room data writing hd _ _ =>
    have hr := roomy_of_streaming hd
    refine ⟨by simp, fun h => ?_, fun _ h => ?_⟩
    · have h : room ≤ readBlockSize := hr.mp h
      by_cases h0 : room = 0
      · simp [Reading.Roomy, h0, readBlockSize]
      · simp [Reading.Roomy, h0, h, Nat.pos_of_ne_zero h0]
    · simp [Reading.live] at h
  | leaveOff hd _ _ | skip hd _ | pick hd _ | failWrite hd | write hd =>
    have hr := roomy_of_streaming hd
    refine ⟨by simp, fun h => ?_, fun hc h => ?_⟩
    · simpa [Happening.at?, Happening.station?] using hr.mp h
    · rw [proceed_readable] at h
      exact proceed_closed _ _ _ _ (hc ((readable_of_streaming hd).trans h))

/-! ### The reading side of a connection -/

/-- How the reading side of connection number `i` and what happened so far fit together. -/
structure ReadSide (i : Nat) (c : Connection) (h : List Happening) : Prop where
  roomy : c.Roomy
  /-- Nothing is lost while the read loop goes on and somebody may still read. -/
  whole : c.reader ≠ .dropped → c.readable →
    passed (.handedOut i) h ++ chunksOf (c.inbox ++ c.inHand) = passed (.received i) h
  handed_isPrefix : passed (.handedOut i) h ++ chunksOf c.inbox <+: passed (.received i) h
  /-- Once the end of the stream was met, only the queue is left to be handed out. -/
  exhausted : ∀ dial, .exhausted i dial ∈ h → c.readable = false ∧
    (c.reader ≠ .dropped → passed (.handedOut i) h ++ chunksOf c.inbox = passed (.received i) h)
  received : ∀ data ∈ passed (.received i) h, data ≠ [] ∧ data.length ≤ readBlockSize
  delivered : c.delivered = true ↔ passed (.handedOut i) h ≠ []
  closed : c.readable = false → c.closed.isSome
  undecided : c.decided = false → c.inbox = []
  dropped : c.reader = .dropped → c.inbox = []

namespace ReadSide

variable {i : Nat} {c c' : Connection} {h h' : List Happening}

/-- What neither comes from the stream nor goes to the reader goes by. -/
theorem append {f : List Happening} (s : ReadSide i c h) (hr : passed (.received i) f = [])
    (hh : passed (.handedOut i) f = []) (he : ∀ dial, .exhausted i dial ∉ f) :
    ReadSide i c (h ++ f) where
  roomy := s.roomy
  whole := by simpa [hr, hh] using s.whole
  handed_isPrefix := by simpa [hr, hh] using s.handed_isPrefix
  exhausted := by simpa [hr, hh, he] using s.exhausted
  received := by simpa [hr] using s.received
  delivered := by simpa [hh] using s.delivered
  closed := s.closed
  undecided := s.undecided
  dropped := s.dropped

/-- What concerns neither the driver nor the queue does not concern the reading side, unless the
reader comes back. -/
theorem congr (s : ReadSide i c h) (hd : c'.driver = c.driver) (hi : c'.inbox = c.inbox)
    (hv : c'.delivered = c.delivered) (hc : c'.closed = c.closed)
    (hr : c'.reader = .dropped ↔ c.reader = .dropped) : ReadSide i c' h := by
  have hreadable : c'.readable = c.readable := by simp [readable, hd]
  have hhand : c'.inHand = c.inHand := by simp [inHand, hd]
  have hdecided : c'.decided = c.decided := by simp [decided, hd]
  constructor
  · simpa [Roomy, hd] using s.roomy
  · simpa [hr, hreadable, hi, hhand] using s.whole
  · simpa [hi] using s.handed_isPrefix
  · simpa [hreadable, hi, hr] using s.exhausted
  · exact s.received
  · simpa [hv] using s.delivered
  · simpa [hreadable, hc] using s.closed
  · simpa [hdecided, hi] using s.undecided
  · simpa [hr, hi] using s.dropped

theorem drive (s : ReadSide i c h) (d : c.Driven i c' h') : ReadSide i c' (h ++ h') := by
  obtain ⟨hhanded, hnext, hinbox, hover, hend⟩ := d.reads
  obtain ⟨hdecided, hroomy, hclosed⟩ := d.reads_frame
  obtain ⟨-, -, hreader, hdelivered⟩ := d.frame
  obtain ⟨hroomy, hreceived⟩ := hroomy s.roomy
  constructor
  · exact hroomy
  · intro hr hl
    rw [hreader] at hr
    obtain ⟨hl, hw⟩ := hnext hl
    rw [hw hr, passed_append, passed_append, ← s.whole hr hl, hhanded]
    simp
  · rw [passed_append, passed_append, hhanded, List.append_nil]
    rcases hinbox with hinbox | ⟨hr, hl, -, hp⟩
    · rw [hinbox]
      exact s.handed_isPrefix.trans (List.prefix_append _ _)
    · refine .trans ?_ (List.prefix_append _ _)
      rw [← s.whole hr hl]
      exact (List.prefix_append_right_inj _).mpr hp
  · intro dial hm
    rw [passed_append, passed_append, hhanded, List.append_nil, hreader]
    rcases List.mem_append.mp hm with hm | hm
    · obtain ⟨hl, hw⟩ := s.exhausted dial hm
      obtain ⟨hi, hr⟩ := hover hl
      refine ⟨?_, by simpa [hi, hr] using hw⟩
      by_contra hl'
      rw [Bool.not_eq_false] at hl'
      rw [(hnext hl').1] at hl
      cases hl
    · obtain ⟨hl, hh, hl', hi, hr⟩ := hend dial hm
      refine ⟨hl', fun hd => ?_⟩
      simpa [hi, hr, hh] using s.whole hd hl
  · intro data hm
    rw [passed_append] at hm
    exact (List.mem_append.mp hm).elim (s.received data) (hreceived data)
  · simpa [hhanded, hdelivered] using s.delivered
  · exact hclosed s.closed
  · intro hu
    have hu : c.decided = false := by
      by_contra hd
      rw [hdecided (by simpa using hd)] at hu
      cases hu
    rcases hinbox with hinbox | ⟨-, -, hd, -⟩
    · rw [hinbox]
      exact s.undecided hu
    · rw [hd] at hu
      cases hu
  · intro hr
    rw [hreader] at hr
    rcases hinbox with hinbox | ⟨hn, -⟩
    · rw [hinbox]
      exact s.dropped hr
    · exact absurd hr hn

theorem decided_of_inbox (s : ReadSide i c h) (hi : c.inbox ≠ []) : c.decided = true := by
  by_contra hd
  exact hi (s.undecided (by simpa using hd))

/-- The reader hands a chunk out. -/
theorem handOut {chunk : Bytes} {inbox : List (Except IoError Bytes)} (s : ReadSide i c h)
    (hi : c.inbox = .ok chunk :: inbox) :
    ReadSide i { c with inbox, delivered := true } (h ++ [.handedOut i chunk]) := by
  have hr : passed (.received i) (h ++ [.handedOut i chunk]) = passed (.received i) h := by
    simp [Happening.at?, Happening.station?]
  have hh : passed (.handedOut i) (h ++ [.handedOut i chunk])
      = passed (.handedOut i) h ++ [chunk] := by simp [Happening.at?, Happening.station?]
  constructor
  · exact s.roomy
  · rw [hr, hh]
    intro h1 h2
    rw [← s.whole h1 h2]
    simp [hi, inHand]
  · rw [hr, hh]
    simpa [hi] using s.handed_isPrefix
  · rw [hr, hh]
    intro dial hm
    obtain ⟨hl, hw⟩ := s.exhausted dial (by simpa using hm)
    exact ⟨hl, by simpa [hi] using hw⟩
  · rw [hr]
    exact s.received
  · simp [hh]
  · exact s.closed
  · intro hu
    simp [s.undecided hu] at hi
  · intro hd
    simp [s.dropped hd] at hi

/-- The reader hands an error out. -/
theorem handOutError {err : IoError} {inbox : List (Except IoError Bytes)} (s : ReadSide i c h)
    (hi : c.inbox = .error err :: inbox) : ReadSide i { c with inbox } h := by
  constructor
  · exact s.roomy
  · intro h1 h2
    rw [← s.whole h1 h2]
    simp [hi, inHand]
  · simpa [hi] using s.handed_isPrefix
  · intro dial hm
    obtain ⟨hl, hw⟩ := s.exhausted dial hm
    exact ⟨hl, by simpa [hi] using hw⟩
  · exact s.received
  · exact s.delivered
  · exact s.closed
  · intro hu
    simp [s.undecided hu] at hi
  · intro hd
    simp [s.dropped hd] at hi

theorem dropReader (s : ReadSide i c h) : ReadSide i c.dropReader h := by
  constructor
  · exact s.roomy
  · intro hr
    exact absurd rfl hr
  · simpa [Connection.dropReader] using (List.prefix_append _ _).trans s.handed_isPrefix
  · exact fun dial hm => ⟨(s.exhausted dial hm).1, fun hr => absurd rfl hr⟩
  · exact s.received
  · exact s.delivered
  · exact s.closed
  · exact fun _ => rfl
  · exact fun _ => rfl

end ReadSide

end Connection

/-! ### The reading side of a line -/

/-- The pump has got its outcome, whether or not it still waits for its connection. -/
def Pump.Left (p : Pump) (outcome : PumpOutcome) : Prop :=
  p.phase = .settling outcome ∨ p.phase = .ended outcome

@[simp] theorem Pump.left_leave {p : Pump} {outcome outcome' : PumpOutcome} :
    (p.leave outcome).Left outcome' ↔ outcome = outcome' := by
  cases hc : p.closesClient <;> simp [Pump.Left, Pump.leave, hc]

@[simp] theorem Pump.leave_phase_ne {p : Pump} {outcome : PumpOutcome} :
    (p.leave outcome).phase ≠ .running := by
  cases hc : p.closesClient <;> simp [Pump.leave, hc]

@[simp] theorem Pump.leave_delivered {p : Pump} {outcome : PumpOutcome} :
    (p.leave outcome).delivered = p.delivered := rfl

theorem Pump.not_left_of_running {p : Pump} {outcome : PumpOutcome} (h : p.phase = .running) :
    ¬p.Left outcome := by
  simp [Pump.Left, h]

namespace Line

/-- How the reading side of line number `i` and what happened so far fit together. -/
structure ReadSide (i : Nat) (l : Line) (h : List Happening) : Prop where
  connection : l.connection.ReadSide i h
  /-- Without a pump nobody takes the reader. -/
  idle : l.pump = none → passed (.handedOut i) h = [] ∧
    (l.connection.discarded = false → l.connection.reader = .held)
  delivered : ∀ p, l.pump = some p → p.delivered = l.connection.delivered
  running : ∀ p, l.pump = some p → p.phase = .running → l.connection.reader = .taken
  /-- A pump goes on until the answer to the dial is known. -/
  decided : ∀ p, l.pump = some p → p.phase ≠ .running → l.connection.decided
  /-- A pump that finished has seen all that could be read. -/
  finished : ∀ p b, l.pump = some p → p.Left (.finished b) →
    b = p.delivered ∧ l.connection.readable = false ∧
    (∀ dial, .exhausted i dial ∈ h → passed (.handedOut i) h = passed (.received i) h)

namespace ReadSide

variable {i : Nat} {l l' : Line} {h h' : List Happening}

/-- What neither comes from the stream nor goes to the reader goes by. -/
theorem append {f : List Happening} (s : ReadSide i l h) (hr : passed (.received i) f = [])
    (hh : passed (.handedOut i) f = []) (he : ∀ dial, .exhausted i dial ∉ f) :
    ReadSide i l (h ++ f) where
  connection := s.connection.append hr hh he
  idle := by simpa [hh] using s.idle
  delivered := s.delivered
  running := s.running
  decided := s.decided
  finished := by simpa [hr, hh, he] using s.finished

theorem elsewhere (s : ReadSide i l h) (he : Elsewhere i h') : ReadSide i l (h ++ h') :=
  s.append (he.passed_eq_nil (by simp)) (he.passed_eq_nil (by simp)) fun _ => he.not_mem rfl

/-- A line with a pump, pump and connection given. -/
theorem of_pump {c : Connection} {p : Pump} (s : c.ReadSide i h)
    (hd : p.delivered = c.delivered) (hr : p.phase = .running → c.reader = .taken)
    (hn : p.phase ≠ .running → c.decided)
    (hf : ∀ b, p.Left (.finished b) → b = p.delivered ∧ c.readable = false ∧
      (∀ dial, .exhausted i dial ∈ h → passed (.handedOut i) h = passed (.received i) h)) :
    ReadSide i ⟨c, some p⟩ h := by
  constructor
  · exact s
  · simp
  · rintro _ ⟨⟩
    exact hd
  · rintro _ ⟨⟩
    exact hr
  · rintro _ ⟨⟩
    exact hn
  · rintro _ b ⟨⟩
    exact hf b

theorem drive {c : Connection} (s : ReadSide i l h) (d : l.connection.Driven i c h') :
    ReadSide i { l with connection := c } (h ++ h') := by
  obtain ⟨hhanded, hnext, -, hover, -⟩ := d.reads
  obtain ⟨hdecided, -, -⟩ := d.reads_frame
  obtain ⟨-, hdiscarded, hreader, hdelivered⟩ := d.frame
  constructor
  · exact s.connection.drive d
  · simpa [hhanded, hreader, hdiscarded] using s.idle
  · simpa [hdelivered] using s.delivered
  · simpa [hreader] using s.running
  · exact fun p hp hn => hdecided (s.decided p hp hn)
  · intro p b hp hb
    obtain ⟨hb, hl, hw⟩ := s.finished p b hp hb
    obtain ⟨-, hr⟩ := hover hl
    have hl' : c.readable = false := by
      by_contra hl'
      rw [Bool.not_eq_false] at hl'
      rw [(hnext hl').1] at hl
      cases hl
    refine ⟨hb, hl', fun dial hm => ?_⟩
    rw [passed_append, passed_append, hhanded, hr, List.append_nil, List.append_nil]
    rcases List.mem_append.mp hm with hm | hm
    · exact hw dial hm
    · rw [(d.reads.2.2.2.2 dial hm).1] at hl
      cases hl

theorem own {asks : Bool} (s : ReadSide i l h) (o : l.Own i l' h' asks) :
    ReadSide i l' (h ++ h') := by
  cases o with
  | drive d => exact s.drive d
  | @finish p hp hr hi hl =>
    rw [List.append_nil]
    have ht := s.running p hp hr
    refine .of_pump s.connection.dropReader (s.delivered p hp) (by simp) (fun _ => ?_) ?_
    · exact Connection.decided_of_not_readable hl
    · intro b hb
      obtain rfl : p.delivered = b := by simpa using hb
      refine ⟨rfl, hl, fun dial hm => ?_⟩
      simpa [hi] using (s.connection.exhausted dial hm).2 (by simp [ht])
  | @send p chunk inbox hp hr hi =>
    have hs := (s.connection.handOut hi).append (f := [.sendCalled .opened chunk, .sent chunk])
      (by simp [Happening.at?, Happening.station?]) (by simp [Happening.at?, Happening.station?])
      (by simp)
    refine .of_pump (by simpa using hs) rfl (fun _ => s.running p hp hr) (fun hn => ?_) ?_
    · exact absurd hr hn
    · exact fun b hb => absurd hb (Pump.not_left_of_running hr)
  | @fail p chunk inbox e called hp hr hi hc =>
    have hs := ((s.connection.handOut hi).append (f := called)
      (by rcases hc with rfl | rfl <;> simp [Happening.at?, Happening.station?])
      (by rcases hc with rfl | rfl <;> simp [Happening.at?, Happening.station?])
      (by rcases hc with rfl | rfl <;> simp)).dropReader
    refine .of_pump (by simpa using hs) rfl (by simp) (fun _ => ?_) (by simp)
    exact s.connection.decided_of_inbox (by simp [hi])
  | @crash p chunk inbox reason hp hr hi =>
    have hs := ((s.connection.handOut hi).append (f := [.sendCalled .opened chunk])
      (by simp [Happening.at?, Happening.station?]) (by simp [Happening.at?, Happening.station?])
      (by simp)).dropReader
    refine .of_pump (by simpa using hs) rfl (by simp) (fun _ => ?_) (by simp [Pump.Left])
    exact s.connection.decided_of_inbox (by simp [hi])
  | @failRead p err inbox hp hr hi =>
    have hs := (s.connection.handOutError hi).dropReader
    refine .of_pump (by simpa using hs) (s.delivered p hp) (by simp) (fun _ => ?_) (by simp)
    exact s.connection.decided_of_inbox (by simp [hi])
  | @settle p outcome hp hs hc =>
    rw [List.append_nil]
    refine .of_pump s.connection (s.delivered p hp) (by simp) (fun _ => ?_) ?_
    · exact s.decided p hp (by simp [hs])
    · intro b hb
      obtain rfl : outcome = .finished b := by simpa [Pump.Left] using hb
      exact s.finished p b hp (.inl hs)

theorem touch (s : ReadSide i l h) (t : l.Touch i l' h') : ReadSide i l' (h ++ h') := by
  cases t with
  | own o => exact s.own o
  | @write chunk hw hr =>
    have s := s.append (f := [.written i chunk]) rfl rfl (by simp)
    exact ⟨s.connection.congr rfl rfl rfl rfl .rfl, s.idle, s.delivered, s.running, s.decided,
      s.finished⟩
  | refuse hw => exact s.append rfl rfl (by simp)
  | start _ hp hr =>
    rw [List.append_nil]
    have hv : l.connection.delivered = false := by
      simpa [(s.idle hp).1] using s.connection.delivered
    refine .of_pump (s.connection.congr rfl rfl rfl rfl (by simp [hr])) hv.symm (fun _ => rfl) ?_ ?_
    · simp
    · simp [Pump.Left]
  | takeClosed =>
    rw [List.append_nil]
    exact ⟨s.connection.congr rfl rfl rfl rfl .rfl, s.idle, s.delivered, s.running, s.decided,
      s.finished⟩
  | drop =>
    rw [List.append_nil]
    have hs : { l.connection with discarded := true }.ReadSide i h :=
      s.connection.congr rfl rfl rfl rfl .rfl
    cases hr : l.connection.reader with
    | held =>
      have hd : l.connection.drop = { l.connection with discarded := true }.dropReader := by
        simp [Connection.drop, hr]
      rw [hd]
      refine ⟨hs.dropReader, fun hp => ⟨(s.idle hp).1, nofun⟩, s.delivered, ?_, s.decided,
        s.finished⟩
      intro p hp hp'
      rw [s.running p hp hp'] at hr
      cases hr
    | taken | dropped =>
      have hd : l.connection.drop = { l.connection with discarded := true } := by
        simp [Connection.drop, hr]
      rw [hd]
      exact ⟨hs, fun hp => ⟨(s.idle hp).1, nofun⟩, s.delivered, s.running, s.decided, s.finished⟩

theorem fresh (d : Destination) (capacity : Nat) : ReadSide i (Line.fresh d capacity) [] := by
  constructor
  · constructor <;>
      simp [Line.fresh, Connection.fresh, Connection.inHand, Connection.readable, Connection.Roomy]
  all_goals simp [Line.fresh, Connection.fresh]

end ReadSide

theorem Touches.readSide {i : Nat} {l l' : Line} {h h' : List Happening} (t : Touches i l l' h')
    (s : ReadSide i l h) : ReadSide i l' (h ++ h') := by
  induction t with
  | none he => exact s.elsewhere he
  | touch _ t ih => exact List.append_assoc .. ▸ ih.touch t
  | elsewhere _ he ih => exact List.append_assoc .. ▸ ih.elsewhere he

end Line

end Tunnel
