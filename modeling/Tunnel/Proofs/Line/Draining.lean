import Tunnel.Proofs.Line.Parting

/-!
# Draining a line

While the owner and the reader of a connection are there, all that its stream has yielded is handed
out, waits in the queue or is in the read loop's hand, also once the read loop has ended. So a pump
that has met the end or a read error has seen everything.

## Main definitions

* `Pump.BrokeOff` — a pump has gone before it had sent all that it was handed.
* `Line.Draining` — nothing of what the stream of a line has yielded is lost.

## Main statements

* `Line.Touches.draining` — what happens to a line keeps this.
-/

namespace Tunnel

/-- The pump has gone at a chunk that it did not send: it crashed, or failed for another reason
than a read error. -/
def Pump.BrokeOff (p : Pump) : Prop :=
  (∃ reason, p.phase = .crashed reason) ∨ ∃ b e, p.Left (.failed b e) ∧ ∀ err, e ≠ .remote err

/-- The pump has met the end of what could be read, or a read error. -/
def Pump.SawEnd (p : Pump) : Prop :=
  (∃ b, p.Left (.finished b)) ∨ ∃ b err, p.Left (.failed b (.remote err))

section

variable {p : Pump} {outcome : PumpOutcome}

theorem Pump.not_brokeOff_of_running (h : p.phase = .running) : ¬p.BrokeOff := by
  simp [BrokeOff, Left, h]

theorem Pump.not_sawEnd_of_running (h : p.phase = .running) : ¬p.SawEnd := by
  simp [SawEnd, Left, h]

/-- A pump that has not broken off is at work, or has seen the end. -/
theorem Pump.sawEnd_of_not_brokeOff (h : ¬p.BrokeOff) : p.phase = .running ∨ p.SawEnd := by
  have hleft : ∀ outcome, p.Left outcome → p.SawEnd := by
    rintro (b | ⟨b, e⟩) hl
    · exact .inl ⟨b, hl⟩
    · cases e with
      | remote err => exact .inr ⟨b, err, hl⟩
      | _ => exact absurd (.inr ⟨b, _, hl, by simp⟩) h
  cases hp : p.phase with
  | running => exact .inl rfl
  | settling outcome => exact .inr (hleft outcome (.inl hp))
  | ended outcome => exact .inr (hleft outcome (.inr hp))
  | crashed reason => exact absurd (.inl ⟨reason, hp⟩) h

theorem Pump.brokeOff_leave : (p.leave outcome).BrokeOff ↔
    ∃ b e, outcome = .failed b e ∧ ∀ err, e ≠ .remote err := by
  have hc : ∀ reason, (p.leave outcome).phase ≠ .crashed reason := by
    unfold leave
    cases p.closesClient <;> simp
  simp [BrokeOff, hc]

/-- Once a pump has its outcome, it makes no difference that it is over. -/
theorem Pump.left_ended_iff (h : p.phase = .settling outcome) (outcome' : PumpOutcome) :
    ({ p with phase := .ended outcome } : Pump).Left outcome' ↔ p.Left outcome' := by
  simp [Left, h]

end

namespace Connection

variable {i : Nat} {c c' : Connection} {h : List Happening}

/-- A read loop that has ended has nothing in hand. -/
theorem inHand_of_not_readable (hr : c.readable = false) : c.inHand = [] := by
  unfold readable at hr
  unfold inHand
  split at hr <;> simp_all [Reading.item]

/-- A step of the driver loses nothing while owner and reader are there. -/
theorem Driven.drains (d : c.Driven i c' h) (hd : c.discarded = false)
    (hr : c.reader ≠ .dropped) : chunksOf (c'.inbox ++ c'.inHand) =
      chunksOf (c.inbox ++ c.inHand) ++ passed (.received i) h := by
  cases d with
  | dial hs | connect hs | refuse hs => simp [inHand, hs, Reading.item, resolve, stop]
  | exhaust hs | failRead hs | read hs _ _ | hand hs _ _ | handError hs _ _ =>
    simp [inHand_of_streaming hs, resolve, Reading.item, Happening.at?, Happening.station?]
  | giveUp _ hn => exact absurd hn hr
  | leaveOff _ _ hn | discard hn => simp [hd] at hn
  | skip hs _ | pick hs _ | failWrite hs | write hs =>
    simp [inHand_of_streaming hs, Happening.at?, Happening.station?]

/-- What the read loop queues comes after what can be read. -/
theorem Driven.errors (d : c.Driven i c' h) (hok : ∀ err, .error err ∈ c.inbox → c.readable = false)
    (he : c.inbox.Pairwise fun item _ => item.isOk = true) :
    c'.inbox.Pairwise fun item _ => item.isOk = true := by
  have hqueue : c.readable = true → ∀ item : Except IoError Bytes,
      (c.inbox ++ [item]).Pairwise fun item _ => item.isOk = true := by
    intro hr item
    refine List.pairwise_append.mpr ⟨he, List.pairwise_singleton _ _, fun x hx _ _ => ?_⟩
    cases x with
    | ok _ => rfl
    | error err => simp [hok err hx] at hr
  cases d with
  | hand hs _ _ | handError hs _ _ =>
    simpa [resolve] using hqueue (readable_of_streaming hs) _
  | _ => simpa [resolve, stop] using he

/-- A driver does not go on without its loops. -/
theorem Driven.halted (d : c.Driven i c' h) :
    c'.readable = false → c'.writable = false → c'.driver = .stopped := by
  have hproceed : ∀ (b : Connection) (dial : Nat) (reading : Reading) (writing : Writing),
      (b.proceed dial reading writing).readable = false →
      (b.proceed dial reading writing).writable = false →
      (b.proceed dial reading writing).driver = .stopped := by
    intro b dial reading writing hr hw
    rw [proceed_readable] at hr
    rw [proceed_writable] at hw
    cases reading <;> cases writing <;> first | rfl | simp [Reading.live, Writing.live] at hr hw
  cases d with
  | dial | connect => exact fun hr => by simp [readable] at hr
  | refuse | discard => exact fun _ _ => rfl
  | _ => exact hproceed _ _ _ _

end Connection

namespace Line

/-- Nothing of what the stream of line number `i` has yielded is lost. -/
structure Draining (i : Nat) (l : Line) (h : List Happening) : Prop where
  /-- While owner and reader are there, nothing is lost on the way. -/
  whole : l.connection.discarded = false → l.connection.reader ≠ .dropped →
    passed (.handedOut i) h ++ chunksOf (l.connection.inbox ++ l.connection.inHand) =
      passed (.received i) h
  /-- Nothing waits behind an error. -/
  errors : l.connection.inbox.Pairwise fun item _ => item.isOk = true
  /-- A pump that has seen the end has been handed everything. -/
  seen : ∀ p, l.pump = some p → p.SawEnd → l.connection.discarded = false →
    passed (.handedOut i) h = passed (.received i) h
  /-- The driver ends with its loops. -/
  halted : l.connection.readable = false → l.connection.writable = false →
    l.connection.driver = .stopped

namespace Draining

variable {i : Nat} {l l' : Line} {h h' : List Happening}

/-- What neither comes from the stream nor goes to the reader goes by. -/
theorem append (s : Draining i l h) (hr : passed (.received i) h' = [])
    (hh : passed (.handedOut i) h' = []) : Draining i l (h ++ h') where
  whole := by simpa [hr, hh] using s.whole
  errors := s.errors
  seen := by simpa [hr, hh] using s.seen
  halted := s.halted

theorem elsewhere (s : Draining i l h) (he : Elsewhere i h') : Draining i l (h ++ h') :=
  s.append (he.passed_eq_nil (by simp)) (he.passed_eq_nil (by simp))

/-- A line whose pump has just left. -/
theorem of_gone {c : Connection} {p : Pump} (s : Draining i l h')
    (hc : c.driver = l.connection.driver) (hr : c.reader = .dropped) (hi : c.inbox = [])
    (hs : p.SawEnd → c.discarded = false → passed (.handedOut i) h = passed (.received i) h) :
    Draining i ⟨c, some p⟩ h := by
  refine ⟨fun _ hn => absurd hr hn, by simp [hi], ?_, ?_⟩
  · rintro _ ⟨⟩
    exact hs
  · have hh := s.halted
    simpa [Connection.readable, Connection.writable, hc] using hh

theorem drive {c : Connection} (s : Draining i l h) (r : ReadSide i l h) (t : Parting i l h)
    (d : l.connection.Driven i c h') : Draining i { l with connection := c } (h ++ h') := by
  obtain ⟨hhanded, -, -, hover, -⟩ := d.reads
  obtain ⟨-, hdiscarded, hreader, -⟩ := d.frame
  refine ⟨fun hd hr => ?_, d.errors t.error s.errors, fun p hp hsaw hd => ?_, d.halted⟩
  · have hd : l.connection.discarded = false := hdiscarded.symm.trans hd
    have hr : l.connection.reader ≠ .dropped := hreader ▸ hr
    rw [d.drains hd hr, passed_append, passed_append, hhanded, ← s.whole hd hr]
    simp
  · -- The read loop has ended, so nothing more comes from the stream.
    have hread : l.connection.readable = false := by
      rcases hsaw with ⟨b, hl⟩ | ⟨b, err, hl⟩
      · exact (r.finished p b hp hl).2.1
      · exact t.unreadable p b err hp hl
    rw [passed_append, passed_append, hhanded, (hover hread).2, List.append_nil, List.append_nil]
    exact s.seen p hp hsaw (hdiscarded.symm.trans hd)

theorem own {asks : Bool} (s : Draining i l h) (r : ReadSide i l h) (t : Parting i l h)
    (o : l.Own i l' h' asks) : Draining i l' (h ++ h') := by
  have hheld : ∀ p, l.pump = some p → p.phase = .running → l.connection.reader ≠ .dropped := by
    intro p hp hr
    simp [r.running p hp hr]
  cases o with
  | drive d => exact s.drive r t d
  | @finish p hp hr hi hl =>
    refine .of_gone s rfl rfl rfl fun _ hd => ?_
    simpa [hi, Connection.inHand_of_not_readable hl] using s.whole hd (hheld p hp hr)
  | @send p chunk inbox hp hr hi =>
    refine ⟨fun hd hn => ?_, ?_, ?_, s.halted⟩
    · have hw := s.whole hd (hheld p hp hr)
      simpa [hi, Happening.at?, Happening.station?, Connection.inHand] using hw
    · exact (List.pairwise_cons.mp (hi ▸ s.errors)).2
    · rintro _ ⟨⟩ hsaw
      exact absurd hsaw (Pump.not_sawEnd_of_running hr)
  | @fail p chunk inbox e called hp hr hi hc hn =>
    refine .of_gone s rfl rfl rfl fun hsaw => ?_
    rcases hsaw with ⟨b, hl⟩ | ⟨b, err, hl⟩
    · simp at hl
    · exact absurd (PumpOutcome.failed.inj (Pump.left_leave.mp hl)).2 (hn err)
  | @crash p chunk inbox reason hp hr hi =>
    exact .of_gone s rfl rfl rfl fun hsaw => by simp [Pump.SawEnd, Pump.Left] at hsaw
  | @failRead p err inbox hp hr hi =>
    refine .of_gone s rfl rfl rfl fun _ hd => ?_
    -- The error is the last item of the queue, and the read loop ended with it.
    have hlast : inbox = [] := List.eq_nil_iff_forall_not_mem.mpr fun item hm =>
      Bool.false_ne_true ((List.pairwise_cons.mp (hi ▸ s.errors)).1 item hm)
    have hread := t.error err (by simp [hi])
    have hw := s.whole hd (hheld p hp hr)
    simpa [hi, hlast, Connection.inHand_of_not_readable hread] using hw
  | @settle p outcome hp hs hc =>
    rw [List.append_nil]
    refine ⟨s.whole, s.errors, ?_, s.halted⟩
    rintro _ ⟨⟩ hsaw
    simp only [Pump.SawEnd, Pump.left_ended_iff hs] at hsaw
    exact s.seen p hp hsaw

theorem touch (s : Draining i l h) (r : ReadSide i l h) (p : Parting i l h)
    (t : l.Touch i l' h') : Draining i l' (h ++ h') := by
  cases t with
  | own o => exact s.own r p o
  | @write chunk hw hr =>
    have s : Draining i l (h ++ [.written i chunk]) := s.append rfl rfl
    exact ⟨s.whole, s.errors, s.seen, s.halted⟩
  | refuse hw => exact s.append rfl rfl
  | start _ hp hr =>
    rw [List.append_nil]
    refine ⟨fun hd _ => s.whole hd (by simp [hr]), s.errors, ?_, s.halted⟩
    rintro _ ⟨⟩ hsaw
    exact absurd hsaw (Pump.not_sawEnd_of_running rfl)
  | takeClosed =>
    rw [List.append_nil]
    exact ⟨s.whole, s.errors, s.seen, s.halted⟩
  | drop =>
    rw [List.append_nil]
    refine ⟨fun hn => ?_, ?_, fun _ _ _ hn => ?_, ?_⟩
    · simp at hn
    · have he := s.errors
      unfold Connection.drop
      cases l.connection.reader <;> simp [Connection.dropReader, he]
    · simp at hn
    · have hh := s.halted
      simpa [Connection.readable, Connection.writable] using hh

theorem fresh (d : Destination) (capacity : Nat) : Draining i (Line.fresh d capacity) [] := by
  constructor <;> simp [Line.fresh, Connection.fresh, Connection.inHand, Connection.readable]

end Draining

theorem Touches.draining {i : Nat} {l l' : Line} {h h' : List Happening} (t : Touches i l l' h')
    (r : ReadSide i l h) (p : Parting i l h) (s : Draining i l h) : Draining i l' (h ++ h') := by
  induction t with
  | none he => exact s.elsewhere he
  | touch t a ih => exact List.append_assoc .. ▸ ih.touch (t.readSide r) (t.parting p) a
  | elsewhere _ he ih => exact List.append_assoc .. ▸ ih.elsewhere he

end Line

end Tunnel
