import Tunnel.Proofs.Line.Basic

/-!
# The writing side of a line

What a connection takes from its owner reaches the stream in order: as long as the write loop
goes on, the bytes that the stream has accepted and those still on the way are together all that
was written; once it has ended, nothing more is accepted or taken.

## Main definitions

* `Line.WriteSide` — how the writing side of a line and the history fit together.

## Main statements

* `Line.Touches.writeSide` — what happens to a line keeps this.
-/

namespace Tunnel

open Connection

/-- What a step of the driver does on the writing side: it writes nothing new, what the stream
accepts comes off the front of what was on the way, and an ended write loop does not go on. -/
theorem Connection.Driven.writes {i : Nat} {c c' : Connection} {h : List Happening}
    (d : c.Driven i c' h) :
    passed (.written i) h = [] ∧
    (c'.writable → c.writable ∧ c.unwritten = (passed (.accepted i) h).flatten ++ c'.unwritten) ∧
    (c.writable ∧ (passed (.accepted i) h).flatten <+: c.unwritten ∨
      passed (.accepted i) h = []) := by
  cases d with
  | dial hd | connect hd => simp [writable, unwritten, Writing.rest, hd]
  | refuse hd | discard hd => simp
  | exhaust hd | failRead hd | giveUp hd _ | hand hd _ _ | handError hd _ _ | read hd _ _ =>
    refine ⟨by simp [Happening.at?, Happening.station?], ?_,
      .inr (by simp [Happening.at?, Happening.station?])⟩
    intro hw
    rw [proceed_writable] at hw
    rw [proceed_unwritten _ _ _ _ hw]
    simp_all [writable, unwritten, resolve, Writing.live, Happening.at?, Happening.station?]
    split <;> simp_all
  | leaveOff hd _ _ => simp [Writing.live]
  | skip hd ho | pick hd ho =>
    refine ⟨rfl, fun hw => ?_, .inr rfl⟩
    rw [proceed_unwritten _ _ _ _ (by simpa using hw)]
    simp [writable, unwritten, Writing.rest, hd, ho]
  | failWrite hd => simp [Writing.live, Happening.at?, Happening.station?]
  | @write dial n reading rest hd =>
    have hrest : c.unwritten = rest.take n ++ (rest.drop n ++ c.outbox.flatten) := by
      simp [unwritten, Writing.rest, hd, ← List.append_assoc]
    refine ⟨by simp [Happening.at?, Happening.station?], fun hw => ?_, .inl ?_⟩
    · rw [proceed_unwritten _ _ _ _ (by simpa using hw)]
      refine ⟨by simp [writable, hd], ?_⟩
      by_cases hn : (rest.drop n).isEmpty
      · rw [if_pos hn, hrest, List.isEmpty_iff.mp hn]
        simp [Writing.rest, Happening.at?, Happening.station?]
      · rw [if_neg hn, hrest]
        simp [Writing.rest, Happening.at?, Happening.station?]
    · simp [writable, hd, hrest, Happening.at?, Happening.station?]

/-- A step of the driver neither reopens the writing side nor lets it end unnoticed, and the
queue does not grow. -/
theorem Connection.Driven.writes_frame {i : Nat} {c c' : Connection} {h : List Happening}
    (d : c.Driven i c' h) :
    c'.outbox.length ≤ c.outbox.length ∧ (∀ chunk, .refused i chunk ∉ h) ∧
    (c'.stream?.isSome → c'.writable = false → c'.discarded = false →
      c.stream?.isSome ∧ c.writable = false ∨ ∃ dial, .writeFailed i dial ∈ h) := by
  cases d with
  | dial hd | connect hd => simp [stream?, writable]
  | refuse hd | discard hd => simp [stop, resolve, stream?]
  | exhaust hd | failRead hd | giveUp hd _ | hand hd _ _ | handError hd _ _ | read hd _ _ =>
    refine ⟨proceed_outbox_length _ _ _ _, by simp, fun _ hw _ => .inl ?_⟩
    rw [proceed_writable] at hw
    exact ⟨by simp [stream?, hd], (writable_of_streaming hd).trans hw⟩
  | leaveOff hd ho hc =>
    refine ⟨proceed_outbox_length _ _ _ _, by simp, fun _ _ hn => ?_⟩
    simp [hc] at hn
  | skip hd ho | pick hd ho =>
    refine ⟨?_, by simp, fun _ hw _ => ?_⟩
    · exact (proceed_outbox_length _ _ _ _).trans (by simp [ho])
    · simp [Writing.live] at hw
  | failWrite hd =>
    refine ⟨?_, by simp, fun _ _ _ => .inr (by simp)⟩
    exact (proceed_outbox_length _ _ _ _).trans (by simp)
  | write hd =>
    refine ⟨proceed_outbox_length _ _ _ _, by simp, fun _ hw _ => ?_⟩
    rw [proceed_writable] at hw
    split at hw <;> simp [Writing.live] at hw

namespace Line

/-- How the writing side of line number `i` and what happened so far fit together. -/
structure WriteSide (i : Nat) (l : Line) (h : List Happening) : Prop where
  /-- What was written is accepted or on the way, as long as the write loop goes on. -/
  unwritten : l.connection.writable →
    (passed (.accepted i) h).flatten ++ l.connection.unwritten = (passed (.written i) h).flatten
  accepted_isPrefix : (passed (.accepted i) h).flatten <+: (passed (.written i) h).flatten
  /-- A connection refuses chunks only once its writable side is gone for good. -/
  refused : ∀ chunk, .refused i chunk ∈ h → l.connection.writable = false
  /-- The write loop on a stream ends only at a failed write, while the owner is there. -/
  failed : l.connection.stream?.isSome → l.connection.writable = false →
    l.connection.discarded = false → ∃ dial, .writeFailed i dial ∈ h
  room : 0 < l.connection.capacity ∧ l.connection.outbox.length ≤ l.connection.capacity

namespace WriteSide

variable {i : Nat} {l l' : Line} {h h' : List Happening}

/-- What neither writes to the connection nor reaches its stream goes by. -/
theorem append (s : WriteSide i l h) (hw : passed (.written i) h' = [])
    (ha : passed (.accepted i) h' = []) (hr : ∀ chunk, .refused i chunk ∉ h') :
    WriteSide i l (h ++ h') := by
  constructor
  · simpa [hw, ha] using s.unwritten
  · simpa [hw, ha] using s.accepted_isPrefix
  · simpa [hr] using s.refused
  · intro h1 h2 h3
    obtain ⟨dial, hd⟩ := s.failed h1 h2 h3
    exact ⟨dial, by simp [hd]⟩
  · exact s.room

theorem elsewhere (s : WriteSide i l h) (he : Elsewhere i h') : WriteSide i l (h ++ h') :=
  s.append (he.passed_eq_nil (by simp)) (he.passed_eq_nil (by simp)) fun _ => he.not_mem rfl

/-- What concerns neither the queue nor the driver does not concern the writing side. -/
theorem congr (s : WriteSide i l h) (hd : l'.connection.driver = l.connection.driver)
    (ho : l'.connection.outbox = l.connection.outbox)
    (hc : l'.connection.capacity = l.connection.capacity)
    (hg : l.connection.discarded = true → l'.connection.discarded = true) :
    WriteSide i l' h := by
  have hw : l'.connection.writable = l.connection.writable := by simp [writable, hd]
  have hu : l'.connection.unwritten = l.connection.unwritten := by
    simp [Connection.unwritten, hd, ho]
  have hs : l'.connection.stream? = l.connection.stream? := by simp [stream?, hd]
  constructor
  · rw [hw, hu]
    exact s.unwritten
  · exact s.accepted_isPrefix
  · rw [hw]
    exact s.refused
  · rw [hw, hs]
    intro h1 h2 h3
    exact s.failed h1 h2 (by grind)
  · rw [ho, hc]
    exact s.room

theorem drive {c : Connection} (s : WriteSide i l h) (d : l.connection.Driven i c h') :
    WriteSide i { l with connection := c } (h ++ h') := by
  obtain ⟨hwritten, hnext, haccepted⟩ := d.writes
  obtain ⟨hlength, hrefused, hfailed⟩ := d.writes_frame
  obtain ⟨hcapacity, hdiscarded, -, -⟩ := d.frame
  have hprefix : (passed (.accepted i) (h ++ h')).flatten <+: (passed (.written i) h).flatten := by
    rcases haccepted with ⟨hw, hp⟩ | hn
    · rw [← s.unwritten hw, passed_append, List.flatten_append, List.prefix_append_right_inj]
      exact hp
    · simpa [hn] using s.accepted_isPrefix
  constructor
  · intro hw
    obtain ⟨hw, hu⟩ := hnext hw
    have := s.unwritten hw
    rw [hu] at this
    simpa [hwritten] using this
  · simpa [hwritten] using hprefix
  · intro chunk hm
    have hw := s.refused chunk ((List.mem_append.mp hm).resolve_right (hrefused chunk))
    by_contra hc
    rw [Bool.not_eq_false] at hc
    rw [(hnext hc).1] at hw
    cases hw
  · intro hs hw hd
    rcases hfailed hs hw hd with ⟨hs, hw⟩ | ⟨dial, hm⟩
    · obtain ⟨dial, hm⟩ := s.failed hs hw (hdiscarded ▸ hd)
      exact ⟨dial, List.mem_append_left _ hm⟩
    · exact ⟨dial, List.mem_append_right _ hm⟩
  · rw [hcapacity]
    exact ⟨s.room.1, hlength.trans s.room.2⟩

theorem own {asks : Bool} (s : WriteSide i l h) (o : l.Own i l' h' asks) :
    WriteSide i l' (h ++ h') := by
  cases o with
  | drive d => exact s.drive d
  | finish _ _ _ _ | failRead _ _ _ | settle _ _ _ =>
    refine WriteSide.congr (l := l) ?_ rfl rfl rfl id
    exact s.append rfl rfl (by simp)
  | send _ _ _ | crash _ _ _ =>
    refine WriteSide.congr (l := l) ?_ rfl rfl rfl id
    exact s.append rfl rfl (by simp)
  | fail _ _ _ hc =>
    refine WriteSide.congr (l := l) ?_ rfl rfl rfl id
    rcases hc with rfl | rfl <;> exact s.append rfl rfl (by simp)

theorem touch (s : WriteSide i l h) (t : l.Touch i l' h') : WriteSide i l' (h ++ h') := by
  cases t with
  | own o => exact s.own o
  | @write chunk hw hr =>
    have hu : ({ l.connection with outbox := l.connection.outbox ++ [chunk] } : Connection).unwritten
        = l.connection.unwritten ++ chunk := by simp [Connection.unwritten]
    have hp : (passed (.written i) (h ++ [.written i chunk])).flatten
        = (passed (.written i) h).flatten ++ chunk := by
      simp [Happening.at?, Happening.station?]
    have ha : passed (.accepted i) (h ++ [.written i chunk]) = passed (.accepted i) h := by
      simp [Happening.at?, Happening.station?]
    constructor
    · intro _
      rw [hu, hp, ha, ← s.unwritten hw, List.append_assoc]
    · rw [hp, ha]
      exact s.accepted_isPrefix.trans (List.prefix_append _ _)
    · intro chunk hm
      exact s.refused chunk (by simpa using hm)
    · intro h1 h2 h3
      obtain ⟨dial, hd⟩ := s.failed h1 h2 h3
      exact ⟨dial, List.mem_append_left _ hd⟩
    · exact ⟨s.room.1, by simpa using Nat.succ_le_of_lt hr⟩
  | refuse hw =>
    constructor
    · simp [hw]
    · simpa [Happening.at?, Happening.station?] using s.accepted_isPrefix
    · exact fun _ _ => hw
    · intro h1 h2 h3
      obtain ⟨dial, hd⟩ := s.failed h1 h2 h3
      exact ⟨dial, List.mem_append_left _ hd⟩
    · exact s.room
  | start _ _ _ | takeClosed =>
    refine WriteSide.congr (l := l) ?_ rfl rfl rfl id
    exact s.append rfl rfl (by simp)
  | drop =>
    have hd : l.connection.drop.driver = l.connection.driver ∧
        l.connection.drop.outbox = l.connection.outbox ∧
        l.connection.drop.capacity = l.connection.capacity ∧
        l.connection.drop.discarded = true := by
      cases hr : l.connection.reader <;> simp [Connection.drop, Connection.dropReader, hr]
    refine WriteSide.congr (l := l) ?_ hd.1 hd.2.1 hd.2.2.1 fun _ => hd.2.2.2
    exact s.append rfl rfl (by simp)

theorem fresh (d : Destination) (capacity : Nat) :
    WriteSide i (Line.fresh d capacity) [] where
  unwritten _ := rfl
  accepted_isPrefix := List.prefix_rfl
  refused := by simp
  failed := by simp [Line.fresh, Connection.fresh, stream?]
  room := ⟨Nat.lt_of_lt_of_le Nat.zero_lt_one (Nat.le_max_right _ _), Nat.zero_le _⟩

end WriteSide

theorem Touches.writeSide {i : Nat} {l l' : Line} {h h' : List Happening} (t : Touches i l l' h')
    (s : WriteSide i l h) : WriteSide i l' (h ++ h') := by
  induction t with
  | none he => exact s.elsewhere he
  | touch _ t ih => exact List.append_assoc .. ▸ ih.touch t
  | elsewhere _ he ih => exact List.append_assoc .. ▸ ih.elsewhere he

end Line

end Tunnel
