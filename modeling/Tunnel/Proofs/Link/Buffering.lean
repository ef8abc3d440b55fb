import Tunnel.Proofs.Link.Writer

/-!
# Bounded buffering

A connection holds back little in either direction: what its queue has room for, and what a loop has
in hand. This counts what was read and not handed out, and what was taken from the writers and not
accepted by the stream, on the way or lost. So a call to write that finds its queue full has to wait
until the write loop takes a chunk out.

## Main definitions

* `leftover` — the chunks that are left when so many bytes have gone.
* `Link.unhanded`, `Link.unaccepted` — what was read and not handed out, and what was taken and not
  accepted.
* `Link.Bounded` — how much of this there is.
* `Link.Frees`, `Link.Blocks` — what a full queue waits for, and who waits with it.

## Main statements

* `Link.buffering_bounded` — every connection is bounded, and blocks when its queue is full.
-/

namespace Tunnel

/-! ### What bytes leave of chunks -/

/-- The chunks that are left when the first `n` bytes have gone. A chunk of which a byte is left is
left whole. -/
def leftover : Nat → List Bytes → List Bytes
  | _, [] => []
  | n, chunk :: chunks =>
    if chunk.length ≤ n then leftover (n - chunk.length) chunks else chunk :: chunks

theorem leftover_length_le (n : Nat) (chunks : List Bytes) :
    (leftover n chunks).length ≤ chunks.length := by
  induction chunks generalizing n with
  | nil => rfl
  | cons chunk chunks ih =>
    unfold leftover
    split
    · exact (ih _).trans (Nat.le_succ _)
    · rfl

/-- More bytes leave no more chunks. -/
theorem leftover_length_mono {m n : Nat} (h : m ≤ n) (chunks : List Bytes) :
    (leftover n chunks).length ≤ (leftover m chunks).length := by
  induction chunks generalizing m n with
  | nil => rfl
  | cons chunk chunks ih =>
    by_cases hm : chunk.length ≤ m
    · have hn : chunk.length ≤ n := hm.trans h
      simpa [leftover, hm, hn] using ih (Nat.sub_le_sub_right h _)
    · have hle := leftover_length_le n (chunk :: chunks)
      simpa [leftover, hm] using hle

/-- Chunks whose bytes have gone are not left. -/
theorem leftover_append {n : Nat} {gone : List Bytes} (h : gone.flatten.length ≤ n)
    (chunks : List Bytes) :
    leftover n (gone ++ chunks) = leftover (n - gone.flatten.length) chunks := by
  induction gone generalizing n with
  | nil => rfl
  | cons chunk gone ih =>
    rw [List.flatten_cons, List.length_append] at h
    have hchunk : chunk.length ≤ n := by omega
    have hgone : gone.flatten.length ≤ n - chunk.length := by omega
    rw [List.cons_append, leftover, if_pos hchunk, ih hgone, List.flatten_cons,
      List.length_append, Nat.sub_sub]

/-! ### What the write loop and its queue hold -/

/-- What a write loop and its queue hold, as the chunks that were written. The chunk in the loop's
hand is one of which a part may be accepted. -/
def Writing.Holds (w : Writing) (outbox chunks : List Bytes) : Prop :=
  match w with
  | .sending rest => ∃ chunk, rest <:+ chunk ∧ chunks = chunk :: outbox
  | .idle | .ended => chunks = outbox

namespace Connection

variable {c c' : Connection} {dial : Nat} {reading : Reading} {writing : Writing}
  {chunks : List Bytes}

/-- What the connection holds of what was written to it. -/
def Holds (c : Connection) (chunks : List Bytes) : Prop :=
  match c.driver with
  | .streaming _ _ writing => writing.Holds c.outbox chunks
  | .starting | .dialing _ | .stopped => chunks = c.outbox

theorem holds_of_streaming (hd : c.driver = .streaming dial reading writing) :
    c.Holds chunks ↔ writing.Holds c.outbox chunks := by
  simp [Holds, hd]

theorem holds_proceed (hw : writing.live = true) :
    (c.proceed dial reading writing).Holds chunks ↔ writing.Holds c.outbox chunks := by
  cases reading <;> cases writing <;> first | rfl | cases hw

theorem outbox_proceed (hw : writing.live = true) :
    (c.proceed dial reading writing).outbox = c.outbox := by
  cases reading <;> cases writing <;> first | rfl | cases hw

theorem Holds.congr (h : c.Holds chunks) (hd : c'.driver = c.driver)
    (ho : c'.outbox = c.outbox) : c'.Holds chunks := by
  unfold Holds at h ⊢
  rwa [hd, ho]

theorem Holds.length_le (h : c.Holds chunks) : chunks.length ≤ c.outbox.length + 1 := by
  cases hd : c.driver with
  | starting | dialing | stopped =>
    have hc : chunks = c.outbox := by simpa [Holds, hd] using h
    simp [hc]
  | streaming dial reading writing =>
    rw [holds_of_streaming hd] at h
    cases writing with
    | sending rest =>
      obtain ⟨chunk, -, rfl⟩ := h
      simp
    | idle | ended =>
      obtain rfl : chunks = c.outbox := h
      simp

/-- What is held is at least what is not written yet. -/
theorem Holds.unwritten_length_le (h : c.Holds chunks) :
    c.unwritten.length ≤ chunks.flatten.length := by
  cases hd : c.driver with
  | starting | dialing | stopped =>
    have hc : chunks = c.outbox := by simpa [Holds, hd] using h
    simp [unwritten, hd, hc]
  | streaming dial reading writing =>
    rw [holds_of_streaming hd] at h
    cases writing with
    | sending rest =>
      obtain ⟨chunk, hrest, rfl⟩ := h
      simpa [unwritten, hd, Writing.rest] using hrest.length_le
    | idle | ended =>
      obtain rfl : chunks = c.outbox := h
      simp [unwritten, hd, Writing.rest]

/-- A chunk that is queued is held behind the others. -/
theorem Holds.push (h : c.Holds chunks) (chunk : Bytes) :
    { c with outbox := c.outbox ++ [chunk] }.Holds (chunks ++ [chunk]) := by
  unfold Holds at h ⊢
  dsimp only
  split at h
  · rename_i writing _
    cases writing with
    | sending rest =>
      obtain ⟨held, hrest, rfl⟩ := h
      exact ⟨held, hrest, rfl⟩
    | idle | ended =>
      obtain rfl : chunks = c.outbox := h
      rfl
  all_goals rw [h]

/-- A driver leaves the queue alone or takes its first chunk, as long as it writes. -/
theorem Driven.outbox {i : Nat} {h : List Happening} (d : c.Driven i c' h)
    (hw : c'.writable = true) : c'.outbox = c.outbox ∨ ∃ chunk, c.outbox = chunk :: c'.outbox := by
  cases d with
  | dial | connect => exact .inl rfl
  | refuse | leaveOff | failWrite | discard => simp [Writing.live] at hw
  | exhaust | failRead | read | giveUp | hand | handError | write =>
    rw [proceed_writable] at hw
    exact .inl (outbox_proceed hw)
  | skip _ ho | pick _ ho => exact .inr ⟨_, by rw [outbox_proceed rfl, ho]⟩

/-- What a driver no longer holds is the first of what it held. -/
theorem Driven.holds {i : Nat} {h : List Happening} (d : c.Driven i c' h)
    (hw : c'.writable = true) (hc : c.Holds chunks) : ∃ kept, c'.Holds kept ∧ kept <:+ chunks := by
  cases d with
  | dial hd | connect hd =>
    have hc : chunks = c.outbox := by simpa [Holds, hd] using hc
    exact ⟨chunks, by simpa [Holds, Writing.Holds] using hc, List.suffix_rfl⟩
  | refuse | leaveOff | failWrite | discard => simp [Writing.live] at hw
  | exhaust hd | failRead hd | read hd | giveUp hd | hand hd | handError hd =>
    rw [proceed_writable] at hw
    rw [holds_of_streaming hd] at hc
    exact ⟨chunks, (holds_proceed hw).mpr hc, List.suffix_rfl⟩
  | @skip dial reading outbox hd ho =>
    rw [holds_of_streaming hd] at hc
    obtain rfl : chunks = c.outbox := hc
    exact ⟨outbox, (holds_proceed rfl).mpr rfl, ho ▸ List.suffix_cons _ _⟩
  | @pick dial reading chunk outbox hd ho =>
    rw [holds_of_streaming hd] at hc
    obtain rfl : chunks = c.outbox := hc
    exact ⟨chunk :: outbox, (holds_proceed rfl).mpr ⟨chunk, List.suffix_rfl, rfl⟩,
      ho ▸ List.suffix_rfl⟩
  | @write dial n reading rest hd =>
    rw [holds_of_streaming hd] at hc
    obtain ⟨chunk, hrest, rfl⟩ := hc
    by_cases hn : (rest.drop n).isEmpty
    · rw [if_pos hn]
      exact ⟨c.outbox, (holds_proceed rfl).mpr rfl, List.suffix_cons _ _⟩
    · rw [if_neg hn]
      exact ⟨chunk :: c.outbox,
        (holds_proceed rfl).mpr ⟨chunk, (List.drop_suffix n rest).trans hrest, rfl⟩,
        List.suffix_rfl⟩

theorem inHand_length_le (c : Connection) : c.inHand.length ≤ 1 := by
  unfold inHand
  split
  · rename_i reading _ _
    cases reading <;> simp [Reading.item]
  · simp

end Connection

namespace Link

variable {l l' : Link} {u : Use} {log es : List Entry} {c c' : Connection} {e e' : Endpoint}
  {t : List Entry} {h : List Happening}

/-! ### The readable side -/

/-- The items that were read and that the reader has not handed out, chunks and an error. -/
def unhanded (log : List Entry) : List (Except IoError Bytes) :=
  (arrived log).drop (handed log).length

/-- How far the reader may be behind what was read. A read loop that has ended may have lost what it
had in hand. -/
structure ReadLag (c : Connection) (log : List Entry) : Prop where
  inbox : c.inbox.length ≤ c.capacity
  arrived : (arrived log).length ≤
    (handed log).length + c.capacity + if c.readable then c.inHand.length else 1

/-- The read loop queues only where there is room. -/
theorem ReadMove.inbox_cases (m : ReadMove c e c' e' t) :
    c'.inbox = c.inbox ∨
      c.inbox.length < c.capacity ∧ c'.inbox.length = c.inbox.length + 1 := by
  cases m with
  | still _ hi | connect _ hi | refuse _ hi | exhaust _ hi | arrive _ hi | giveUp _ hi
  | discard _ hi => exact .inl hi
  | queue _ hi _ hroom => exact .inr ⟨hroom, by simp [hi]⟩

namespace ReadLag

theorem drive (s : ReadLag c log) (n : Items c log) (d : Driven c e c' e' t h) :
    ReadLag c' (log ++ (t ++ h.map .shown)) := by
  obtain ⟨hcapacity, -, -, -⟩ := d.driven.frame
  have hhanded : handed (log ++ (t ++ h.map .shown)) = handed log := by simp [d.move.silent.1]
  have harrived : Link.arrived (log ++ (t ++ h.map .shown)) = Link.arrived log ++ Link.arrived t :=
    by simp
  have hlag := s.arrived
  have hhand := c.inHand_length_le
  refine ⟨?_, ?_⟩
  · rw [hcapacity]
    rcases d.move.inbox_cases with hi | ⟨hroom, hi⟩
    · exact hi ▸ s.inbox
    · omega
  rw [hhanded, harrived, List.length_append, hcapacity]
  cases d.move.items with
  | none _ ht hr =>
    rw [ht, List.length_nil]
    cases hreadable : c'.readable with
    | true =>
      obtain ⟨hr, hsame⟩ := hr hreadable
      simpa [hr, hsame] using hlag
    | false =>
      split at hlag <;> simp <;> omega
  | arrive hr hc _ hc' _ ht =>
    rw [if_pos hr, hc] at hlag
    rw [ht, hc']
    split <;> simp at hlag ⊢ <;> omega
  | queue hr hc hn hi _ _ _ ht =>
    -- Nothing is lost yet, and there was room for one more.
    have hwhole := congrArg List.length (n.whole (.inl hr) hn)
    rw [hc, List.length_append, List.length_append, List.length_singleton] at hwhole
    have hroom : c.inbox.length < c.capacity := by
      rcases d.move.inbox_cases with hi' | ⟨hroom, -⟩
      · simp [hi] at hi'
      · exact hroom
    rw [ht, List.length_nil]
    omega

/-- What concerns neither the driver nor the items goes by. -/
theorem congr (s : ReadLag c log) (hd : c'.driver = c.driver)
    (hi : c'.inbox.length ≤ c.inbox.length) (hc : c'.capacity = c.capacity)
    (ha : Link.arrived es = []) : ReadLag c' (log ++ es) := by
  have hreadable : c'.readable = c.readable := by simp [Connection.readable, hd]
  have hhand : c'.inHand = c.inHand := by simp [Connection.inHand, hd]
  refine ⟨hc ▸ hi.trans s.inbox, ?_⟩
  have hlag := s.arrived
  rw [arrived_append, ha, List.append_nil, handed_append, List.length_append, hreadable, hhand, hc]
  omega

theorem fresh (d : Destination) (capacity : Nat) : ReadLag (.fresh d capacity) [] :=
  ⟨Nat.zero_le _, Nat.zero_le _⟩

end ReadLag

/-- Every step keeps the reader close behind. -/
theorem Step.readLag (s : ReadLag l.connection log) (n : Items l.connection log)
    (st : l.Step u l' es) : ReadLag l'.connection (log ++ es) := by
  cases st with
  | drive d => exact s.drive n d
  | handOut hi => exact s.congr rfl (by simp [hi]) rfl rfl
  | dropReader | dropBoth => exact s.congr rfl (Nat.zero_le _) rfl rfl
  | turn | call | write | refuse | resume | turnAway | abandon | finish | pend | takeReader
  | keepReader | takeClosed | drop => exact s.congr rfl (Nat.le_refl _) rfl rfl

/-! ### The writable side -/

/-- The chunks that were taken from the writers and that the stream has not accepted whole. -/
def unaccepted (log : List Entry) : List Bytes :=
  leftover (accepted log).flatten.length (written log)

/-- How far the stream may be behind what was written. What a write loop that has ended has lost is
no more than it held. -/
structure WriteLag (c : Connection) (log : List Entry) : Prop where
  holds : c.writable = true → ∃ chunks, c.Holds chunks ∧ chunks <:+ written log
  unaccepted : (Link.unaccepted log).length ≤ c.capacity + 1

namespace WriteLag

/-- As long as the write loop goes on, what is not accepted is held. -/
theorem of_holds {chunks : List Bytes} (s : l.Sends log) (hw : l.connection.writable = true)
    (hc : l.connection.Holds chunks) (hs : chunks <:+ written log) :
    WriteLag l.connection log := by
  refine ⟨fun _ => ⟨chunks, hc, hs⟩, ?_⟩
  obtain ⟨gone, hgone⟩ := hs
  -- What is not held any more is accepted.
  have haccepted : gone.flatten.length ≤ (accepted log).flatten.length := by
    have hwhole := congrArg List.length (s.side.unwritten hw)
    rw [s.returned, ← hgone, List.flatten_append, List.length_append, List.length_append] at hwhole
    have hrest := hc.unwritten_length_le
    change (accepted log).flatten.length + l.connection.unwritten.length = _ at hwhole
    omega
  calc (Link.unaccepted log).length
      = (leftover ((accepted log).flatten.length - gone.flatten.length) chunks).length := by
        rw [Link.unaccepted, ← hgone, leftover_append haccepted]
    _ ≤ chunks.length := leftover_length_le _ _
    _ ≤ l.connection.outbox.length + 1 := hc.length_le
    _ ≤ l.connection.capacity + 1 := Nat.succ_le_succ s.side.room.2

/-- What a write loop that has ended has lost is lost for good. -/
theorem of_not_writable (s : WriteLag c log) (hw : c'.writable = false)
    (hc : c'.capacity = c.capacity) (hn : written es = []) : WriteLag c' (log ++ es) := by
  refine ⟨by simp [hw], ?_⟩
  rw [hc, Link.unaccepted, written_append, hn, List.append_nil]
  refine (leftover_length_mono ?_ (written log)).trans s.unaccepted
  rw [accepted_append, List.flatten_append, List.length_append]
  exact Nat.le_add_right _ _

theorem drive (s : WriteLag l.connection log) (s' : l'.Sends (log ++ (t ++ h.map .shown)))
    (d : Driven l.connection e l'.connection e' t h) :
    WriteLag l'.connection (log ++ (t ++ h.map .shown)) := by
  have hn : written (t ++ h.map .shown) = [] := by simp [d.move.unwritten.2.2]
  cases hw : l'.connection.writable with
  | false => exact s.of_not_writable hw d.driven.frame.1 hn
  | true =>
    obtain ⟨chunks, hc, hs⟩ := s.holds (d.driven.writes.2.1 hw).1
    obtain ⟨kept, hk, hkept⟩ := d.driven.holds hw hc
    refine of_holds s' hw hk ?_
    rw [written_append, hn, List.append_nil]
    exact hkept.trans hs

/-- A chunk is queued. -/
theorem push {chunk : Bytes} (s : WriteLag l.connection log) (s' : l'.Sends (log ++ es))
    (hw : l.connection.writable = true)
    (hc : l'.connection = { l.connection with outbox := l.connection.outbox ++ [chunk] })
    (hn : written es = [chunk]) : WriteLag l'.connection (log ++ es) := by
  obtain ⟨chunks, hchunks, hs⟩ := s.holds hw
  refine of_holds s' (by simpa [hc, Connection.writable] using hw) (hc ▸ hchunks.push chunk) ?_
  rw [written_append, hn]
  obtain ⟨gone, hgone⟩ := hs
  exact ⟨gone, by rw [← hgone, List.append_assoc]⟩

/-- What concerns neither the driver nor the queue goes by. -/
theorem congr (s : WriteLag l.connection log) (s' : l'.Sends (log ++ es))
    (hd : l'.connection.driver = l.connection.driver)
    (ho : l'.connection.outbox = l.connection.outbox)
    (hc : l'.connection.capacity = l.connection.capacity)
    (hn : written es = []) : WriteLag l'.connection (log ++ es) := by
  have hwritable : l'.connection.writable = l.connection.writable := by
    simp [Connection.writable, hd]
  cases hw : l'.connection.writable with
  | false => exact s.of_not_writable hw hc hn
  | true =>
    obtain ⟨chunks, hchunks, hs⟩ := s.holds (hwritable ▸ hw)
    refine of_holds s' hw (hchunks.congr hd ho) ?_
    rwa [written_append, hn, List.append_nil]

theorem fresh (d : Destination) (capacity : Nat) : WriteLag (.fresh d capacity) [] :=
  ⟨fun _ => ⟨[], rfl, List.nil_suffix⟩, Nat.zero_le _⟩

end WriteLag

/-- Every step keeps the stream close behind. -/
theorem Step.writeLag (s : WriteLag l.connection log) (n : l.Sends log) (st : l.Step u l' es) :
    WriteLag l'.connection (log ++ es) := by
  have n' := st.sends n
  cases st with
  | drive d => exact s.drive n' d
  | write hw | resume _ hw => exact s.push n' hw rfl rfl
  | turn | call | refuse | turnAway | abandon | handOut | finish | pend | takeReader | keepReader
  | takeClosed | dropReader | drop | dropBoth => exact s.congr n' rfl rfl rfl rfl

/-! ### Full queues -/

/-- The write loop takes a chunk out of the queue, or the writable side goes. -/
def Frees (l : Link) (u : Use) (l' : Link) : Prop :=
  l'.connection.writable = false ∨
    u = .drive .write ∧ ∃ chunk, l.connection.outbox = chunk :: l'.connection.outbox

/-- A call to write that is made now has to wait, and neither it nor any other call returns before
the queue is freed. -/
structure Blocks (l : Link) : Prop where
  call : ∀ chunk, l.connection.discarded = false → l.use? (.write chunk) =
    some ({ l with waiting := l.waiting ++ [chunk] }, [.called chunk])
  wait : ∀ uses l' later, l.run? uses = some (l', later) →
    (∃ chunk answer, .returned chunk answer ∈ later) →
    ∃ before u after m m' early now, uses = before ++ u :: after ∧
      l.run? before = some (m, early) ∧ m.use? u = some (m', now) ∧ m.Frees u m' ∧
      ∀ chunk answer, .returned chunk answer ∉ early ++ now

/-- The read loop leaves the queue of chunks alone. -/
theorem read?_outbox {p : Connection.Progress} (hr : c.read? 0 e = some p)
    (hw : p.connection.writable = true) : p.connection.outbox = c.outbox := by
  unfold Connection.read? at hr
  split at hr
  · split at hr <;> cases hr
    all_goals
      rw [Connection.continueWith_connection] at hw ⊢
      rw [Connection.proceed_writable] at hw
      simp [Connection.outbox_proceed hw, Connection.resolve]
  · split at hr
    · cases hr
      rw [Connection.continueWith_connection] at hw ⊢
      rw [Connection.proceed_writable] at hw
      simp [Connection.outbox_proceed hw, Connection.resolve]
    split at hr
    · split at hr <;> cases hr
      all_goals
        rw [Connection.continueWith_connection] at hw ⊢
        rw [Connection.proceed_writable] at hw
        simp [Connection.outbox_proceed hw, Connection.resolve]
    · cases hr
  · cases hr

/-- Only the write loop takes chunks out of the queue, as long as the connection stays writable. -/
theorem drive?_outbox {part : Driver.Part} (hd : l.drive? part = some (l', h))
    (hw : l'.connection.writable = true) :
    l'.connection.outbox = l.connection.outbox ∨
      part = .write ∧ ∃ chunk, l.connection.outbox = chunk :: l'.connection.outbox := by
  cases part <;> obtain ⟨p, hp, he⟩ := Option.map_eq_some_iff.mp hd <;> cases he
  case dial =>
    left
    unfold Connection.dial? at hp
    split at hp <;> cases hp
    rfl
  case connect =>
    unfold Connection.connect? at hp
    split at hp
    · split at hp <;> cases hp
      · exact .inl rfl
      all_goals cases hw
    · cases hp
  case read => exact .inl (read?_outbox hp hw)
  case write =>
    exact ((Connection.write?_driven hp).outbox hw).imp id fun ho => ⟨rfl, ho⟩
  case discard =>
    obtain ⟨c, h⟩ := p
    unfold Connection.discard? at hp
    split at hp
    · split at hp <;> cases hp <;> cases hw
    · cases hp

/-- While a queue is full no call to write returns. -/
theorem Step.not_returned (st : l.Step u l' es) (hw : l.connection.writable = true)
    (hfull : l.connection.capacity ≤ l.connection.outbox.length) (chunk : Bytes)
    (answer : Except IoError Unit) : .returned chunk answer ∉ es := by
  cases st with
  | drive d => cases d.move <;> simp
  | write _ _ hr | resume _ _ hr => exact absurd hfull (Nat.not_le_of_lt hr)
  | refuse hn | turnAway _ hn => simp [hn] at hw
  | turn | call | abandon | handOut | finish | pend | takeReader | keepReader | takeClosed
  | dropReader | drop | dropBoth => simp

/-- A queue that is full stays so until it is freed. -/
theorem use?_of_full (hu : l.use? u = some (l', es)) (hw : l.connection.writable = true)
    (hfull : l.connection.capacity ≤ l.connection.outbox.length) :
    l.Frees u l' ∨ l'.connection.writable = true ∧
      l'.connection.capacity ≤ l'.connection.outbox.length := by
  have st := use?_step hu
  cases st with
  | @drive part c e told h d =>
    obtain ⟨⟨l'', h'⟩, hd, he⟩ := Option.map_eq_some_iff.mp hu
    obtain rfl : l'' = _ := congrArg Prod.fst he
    cases hw' : c.writable with
    | false => exact .inl (.inl hw')
    | true =>
      rcases drive?_outbox hd hw' with ho | ⟨rfl, ho⟩
      · have ho : c.outbox = l.connection.outbox := ho
        exact .inr ⟨rfl, by rw [ho, d.driven.frame.1]; exact hfull⟩
      · exact .inl (.inr ⟨rfl, ho⟩)
  | write _ _ hr | resume _ _ hr => exact absurd hfull (Nat.not_le_of_lt hr)
  | refuse hn | turnAway _ hn => simp [hn] at hw
  | turn | call | abandon | handOut | finish | pend | takeReader | keepReader | takeClosed
  | dropReader | drop | dropBoth => exact .inr ⟨hw, hfull⟩

/-- A connection whose queue is full blocks. -/
theorem blocks (hw : l.connection.writable = true)
    (hfull : l.connection.capacity ≤ l.connection.outbox.length) : l.Blocks := by
  refine ⟨fun chunk hd => ?_, fun uses l' later hrun => ?_⟩
  · unfold use?
    by_cases hwait : l.waiting = []
    · simp [hd, hwait, offer?_of_full hw (Nat.not_lt_of_le hfull) chunk]
    · simp [hd, hwait, hw]
  -- The queue stays as it is up to the use that frees it.
  induction uses generalizing l later with
  | nil =>
    cases hrun
    simp
  | cons u rest ih =>
    rintro ⟨chunk, answer, hm⟩
    obtain ⟨l₁, now, later, hu, hrest, rfl⟩ := run?_cons hrun
    have hnow := (use?_step hu).not_returned hw hfull
    obtain hfrees | ⟨hw₁, hfull₁⟩ := use?_of_full hu hw hfull
    · exact ⟨[], u, rest, l, l₁, [], now, rfl, rfl, hu, hfrees, by simpa using hnow⟩
    · have hm : .returned chunk answer ∈ later :=
        (List.mem_append.mp hm).resolve_left (hnow chunk answer)
      obtain ⟨before, u', after, m, m', early, now', rfl, hbefore, hu', hfrees, hnone⟩ :=
        ih hw₁ hfull₁ later hrest ⟨chunk, answer, hm⟩
      refine ⟨u :: before, u', after, m, m', now ++ early, now', rfl, ?_, hu', hfrees, ?_⟩
      · simp [run?, hu, hbefore]
      · intro chunk answer
        rw [List.append_assoc, List.mem_append, not_or]
        exact ⟨hnow chunk answer, hnone chunk answer⟩

/-! ### Bounds -/

/-- How much a connection with queues of capacity `n` may hold back. -/
structure Bounded (n : Nat) (l : Link) (log : List Entry) : Prop where
  inbox : l.connection.inbox.length ≤ n
  outbox : l.connection.outbox.length ≤ n
  unhanded : (Link.unhanded log).length ≤ n + 1
  unaccepted : (Link.unaccepted log).length ≤ n + 1
  /-- While the connection and the reader are there, what is not handed out is on the way. -/
  onTheWay : l.connection.discarded = false → l.connection.reader ≠ .dropped →
    Link.unhanded log = l.connection.inbox ++ l.connection.inHand

theorem ReadLag.unhanded_length_le (s : ReadLag c log) :
    (unhanded log).length ≤ c.capacity + 1 := by
  have hlag := s.arrived
  have hhand := c.inHand_length_le
  rw [unhanded, List.length_drop]
  split at hlag <;> omega

/-- What the bounds rest on, and every step keeps. -/
structure Lags (n : Nat) (l : Link) (log : List Entry) : Prop where
  fits : l.Fits log
  sends : l.Sends log
  reads : ReadLag l.connection log
  writes : WriteLag l.connection log
  capacity : l.connection.capacity = n

theorem Step.capacity (st : l.Step u l' es) : l'.connection.capacity = l.connection.capacity := by
  cases st with
  | drive d => exact d.driven.frame.1
  | turn | call | write | refuse | resume | turnAway | abandon | handOut | finish | pend
  | takeReader | keepReader | takeClosed | dropReader | drop | dropBoth => rfl

theorem Step.lags {n : Nat} (s : l.Lags n log) (st : l.Step u l' es) : l'.Lags n (log ++ es) where
  fits := st.fits s.fits
  sends := st.sends s.sends
  reads := st.readLag s.reads s.fits.items
  writes := st.writeLag s.writes s.sends
  capacity := st.capacity.trans s.capacity

namespace Lags

theorem start (d : Destination) (capacity : Nat) (peer : Peer) :
    (Link.start d capacity peer).Lags (max capacity 1) [] :=
  ⟨.start d capacity peer, .fresh d capacity peer, .fresh d capacity, .fresh d capacity, rfl⟩

theorem bounded {n : Nat} (s : l.Lags n log) : l.Bounded n log := by
  have hroom := s.sends.side.room.2
  have hinbox := s.reads.inbox
  have hunhanded := s.reads.unhanded_length_le
  have hunaccepted := s.writes.unaccepted
  rw [s.capacity] at hinbox hunhanded hunaccepted
  refine ⟨hinbox, s.capacity ▸ hroom, hunhanded, hunaccepted, fun hd hn => ?_⟩
  rw [unhanded, ← s.fits.items.whole (.inr hd) hn, List.drop_left]

end Lags

/-- What a connection holds back, whatever the dial, the stream, the writers, the reader and the
owner do. A call to write that finds its queue full waits until the write loop takes a chunk out or
the writable side goes. -/
theorem buffering_bounded {d : Destination} {capacity : Nat} {peer : Peer} {uses : List Use}
    (h : (start d capacity peer).run? uses = some (l, log)) :
    l.Bounded (max capacity 1) log ∧
    (l.connection.writable = true → l.connection.outbox.length = max capacity 1 → l.Blocks) := by
  have s : l.Lags (max capacity 1) log :=
    run?_induction (fun _ _ _ _ _ _ s st => st.lags s) h (.start d capacity peer)
  exact ⟨s.bounded, fun hw ho => blocks hw (by rw [s.capacity, ho])⟩

/-- A peer with much to say that takes nothing. -/
def stubborn : Peer where
  answer := .accepted
  endpoint := { reads := [.ok [1], .ok [2], .ok [3]], writes := .blocks }

/-- A connection to it that holds back all it may. -/
def stuffed : Link where
  connection := {
    destination := { host := "first", port := 80 }, capacity := 1
    outbox := [[5]], inbox := [.ok [1]]
    driver := .streaming 0 (.handing 4094 (.ok [2])) (.sending [4]) }
  peer := { stubborn with endpoint := { stubborn.endpoint with reads := [.ok [3]] } }

/-- Capacity zero counts as one, and the bounds are reached. -/
theorem buffering_bounded_stuffed : ∃ uses log,
    (start { host := "first", port := 80 } 0 stubborn).run? uses = some (stuffed, log) ∧
    stuffed.Bounded 1 log ∧ unhanded log = [.ok [1], .ok [2]] ∧ unaccepted log = [[4], [5]] ∧
    stuffed.use? (.write [6]) = some ({ stuffed with waiting := [[6]] }, [.called [6]]) := by
  let uses : List Use := [.drive .dial, .drive .connect, .write [4], .drive .write, .write [5],
    .drive .read, .drive .read, .drive .read]
  let log : List Entry := [.answered .accepted, .called [4], .returned [4] (.ok ()),
    .called [5], .returned [5] (.ok ()), .read (.chunk [1]), .shown (.received 0 0 [1]),
    .queued (.ok [1]), .read (.chunk [2]), .shown (.received 0 0 [2])]
  have hrun : (start { host := "first", port := 80 } 0 stubborn).run? uses = some (stuffed, log) :=
    rfl
  obtain ⟨hbounded, hblocks⟩ := buffering_bounded hrun
  exact ⟨uses, log, hrun, hbounded, rfl, rfl, (hblocks rfl rfl).call [6] rfl⟩

end Link

end Tunnel
