import Tunnel.Proofs.Line.Reading

/-!
# How pumps leave

A pump that goes leaves no reader behind. One that failed for a read error leaves a connection
that nothing can be read from any more; one that failed for another reason has been handed a
chunk before.

## Main definitions

* `Line.Parting` — what is known of a line whose pump has left.

## Main statements

* `Line.Touches.parting` — what happens to a line keeps this.
-/

namespace Tunnel

/-- The reader goes on until it meets an error, which is the last that it reads. -/
theorem Connection.Driven.error {i : Nat} {c c' : Connection} {h : List Happening}
    (d : c.Driven i c' h) :
    (c.readable = false → c'.readable = false) ∧
    ∀ err, Except.error err ∈ c'.inbox → Except.error err ∈ c.inbox ∨ c'.readable = false := by
  cases d with
  | dial hd | connect hd => simp_all [readable]
  | refuse | discard => exact ⟨fun _ => rfl, fun _ _ => .inr rfl⟩
  | exhaust hd | failRead hd | read hd _ _ | giveUp hd _ | hand hd _ _ | handError hd _ _ =>
    have hr := readable_of_streaming hd
    simp [hr, resolve, Reading.live]
  | leaveOff hd _ _ | skip hd _ | pick hd _ | failWrite hd | write hd =>
    have hr := readable_of_streaming hd
    rw [proceed_readable, proceed_inbox, hr]
    exact ⟨id, fun _ => .inl⟩

namespace Line

/-- What is known of a line whose pump has left. -/
structure Parting (i : Nat) (l : Line) (h : List Happening) : Prop where
  reader : ∀ p, l.pump = some p → p.phase ≠ .running → l.connection.reader = .dropped
  /-- A read error is the last thing that can be read. -/
  error : ∀ err, .error err ∈ l.connection.inbox → l.connection.readable = false
  unreadable : ∀ p b e, l.pump = some p → p.Left (.failed b (.remote e)) →
    l.connection.readable = false
  /-- What fails for another reason than a read error is the delivery of a chunk. -/
  delivered : ∀ p b e, l.pump = some p → p.Left (.failed b e) → (∀ err, e ≠ .remote err) →
    passed (.handedOut i) h ≠ []
  settling : ∀ p outcome, l.pump = some p → p.phase = .settling outcome → p.closesClient = true

namespace Parting

variable {i : Nat} {l l' : Line} {h h' : List Happening}

theorem append (s : Parting i l h) (h' : List Happening) : Parting i l (h ++ h') where
  reader := s.reader
  error := s.error
  unreadable := s.unreadable
  delivered p b e hp hl he := by simp [s.delivered p b e hp hl he]
  settling := s.settling

/-- A line with a pump that has left with this outcome. -/
theorem of_leave {c : Connection} {p : Pump} {outcome : PumpOutcome} (hr : c.reader = .dropped)
    (hi : c.inbox = []) (hu : ∀ b e, outcome = .failed b (.remote e) → c.readable = false)
    (hd : ∀ b e, outcome = .failed b e → (∀ err, e ≠ .remote err) →
      passed (.handedOut i) h ≠ []) : Parting i ⟨c, some (p.leave outcome)⟩ h := by
  constructor
  · exact fun _ _ _ => hr
  · simp [hi]
  · rintro _ b e ⟨⟩ hl
    exact hu b e (Pump.left_leave.mp hl)
  · rintro _ b e ⟨⟩ hl
    exact hd b e (Pump.left_leave.mp hl)
  · rintro _ outcome' ⟨⟩ hs
    cases hc : p.closesClient with
    | true => exact hc
    | false => simp [Pump.leave, hc] at hs

theorem own {asks : Bool} (s : Parting i l h) (o : l.Own i l' h' asks) :
    Parting i l' (h ++ h') := by
  cases o with
  | drive d =>
    obtain ⟨-, -, hreader, -⟩ := d.frame
    obtain ⟨hgone, herr⟩ := d.error
    have s := s.append h'
    refine ⟨?_, ?_, fun p b e hp hl => hgone (s.unreadable p b e hp hl), s.delivered, s.settling⟩
    · simpa [hreader] using s.reader
    · intro err hm
      exact (herr err hm).elim (fun hm => hgone (s.error err hm)) id
  | finish hp hr hi hl => exact .of_leave rfl rfl (by simp) (by simp)
  | @send p chunk inbox hp hr hi =>
    refine ⟨?_, ?_, ?_, ?_, ?_⟩
    · rintro _ ⟨⟩ hn
      exact absurd hr hn
    · intro err hm
      exact s.error err (by simp [hi, show Except.error err ∈ inbox from hm])
    · rintro _ b e ⟨⟩ hl
      exact absurd hl (Pump.not_left_of_running hr)
    · rintro _ b e ⟨⟩ hl
      exact absurd hl (Pump.not_left_of_running hr)
    · rintro _ outcome ⟨⟩ hs
      cases hr.symm.trans hs
  | @fail p chunk inbox e called hp hr hi hc hn =>
    refine .of_leave rfl rfl ?_ ?_
    · rintro b e ⟨⟩
      exact absurd rfl (hn e)
    · simp [Happening.at?, Happening.station?]
  | crash hp hr hi =>
    refine ⟨fun _ _ _ => rfl, by simp [Connection.dropReader], ?_, ?_, ?_⟩
    · rintro _ b e ⟨⟩ hl
      simp [Pump.Left] at hl
    · rintro _ b e ⟨⟩ hl
      simp [Pump.Left] at hl
    · rintro _ outcome ⟨⟩ hs
      cases hs
  | @failRead p err inbox hp hr hi =>
    refine .of_leave rfl rfl (fun _ _ _ => ?_) ?_
    · exact s.error err (by simp [hi])
    · rintro b e ⟨⟩ hn
      exact absurd rfl (hn err)
  | @settle p outcome hp hs hc =>
    have s := s.append []
    have hleft : ∀ outcome', ({ p with phase := .ended outcome } : Pump).Left outcome' →
        p.Left outcome' := by
      rintro outcome' (h | h) <;> cases h
      exact .inl hs
    refine ⟨?_, s.error, ?_, ?_, ?_⟩
    · rintro _ ⟨⟩ _
      exact s.reader p hp (by simp [hs])
    · rintro _ b e ⟨⟩ hl
      exact s.unreadable p b e hp (hleft _ hl)
    · rintro _ b e ⟨⟩ hl
      exact s.delivered p b e hp (hleft _ hl)
    · rintro _ outcome' ⟨⟩ hs'
      cases hs'

theorem touch (s : Parting i l h) (t : l.Touch i l' h') : Parting i l' (h ++ h') := by
  have sa := s.append h'
  cases t with
  | own o => exact s.own o
  | write | takeClosed => exact ⟨sa.reader, sa.error, sa.unreadable, sa.delivered, sa.settling⟩
  | refuse => exact sa
  | start _ hp hr =>
    refine ⟨?_, sa.error, ?_, ?_, ?_⟩
    · rintro _ ⟨⟩ hn
      exact absurd rfl hn
    · rintro _ b e ⟨⟩ hl
      simp [Pump.Left] at hl
    · rintro _ b e ⟨⟩ hl
      simp [Pump.Left] at hl
    · rintro _ outcome ⟨⟩ hs
      cases hs
  | drop =>
    have hd : (∀ x ∈ l.connection.drop.inbox, x ∈ l.connection.inbox) ∧
        (l.connection.reader = .dropped → l.connection.drop.reader = .dropped) := by
      unfold Connection.drop
      cases l.connection.reader <;> simp [Connection.dropReader]
    have hr : l.connection.drop.readable = l.connection.readable := by
      simp [Connection.readable]
    refine ⟨fun p hp hn => hd.2 (sa.reader p hp hn), fun err hm => ?_, ?_, sa.delivered,
      sa.settling⟩
    · exact hr.trans (sa.error err (hd.1 _ hm))
    · exact fun p b e hp hl => hr.trans (sa.unreadable p b e hp hl)

theorem fresh (d : Destination) (capacity : Nat) : Parting i (Line.fresh d capacity) [] := by
  constructor <;> simp [Line.fresh, Connection.fresh]

end Parting

theorem Touches.parting {i : Nat} {l l' : Line} {h h' : List Happening} (t : Touches i l l' h')
    (s : Parting i l h) : Parting i l' (h ++ h') := by
  induction t with
  | none _ => exact s.append _
  | touch _ t ih => exact List.append_assoc .. ▸ ih.touch t
  | elsewhere _ _ ih => exact List.append_assoc .. ▸ ih.append _

end Line

end Tunnel
