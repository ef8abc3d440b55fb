import Mathlib.Algebra.GroupWithZero.Nat
import Tunnel.Proofs.Link.Reading

/-!
# Reading a script

If what a stream gives to read is laid down from the start, then so is what a reader gets in the
end: the items into which the script is cut by reading it block by block, whatever the capacity of
the queue and however the reader, the writers and the driver take turns.

## Main definitions

* `drained` — the items that reading a script yields.
* `Link.Use.KeepsScript` — uses that do not touch the script.
* `Link.Scripted` — what was read and what is yet to be read make up the script.

## Main statements

* `Link.Step.scripted` — such uses keep this.
-/

namespace Tunnel

/-- A chunk that is longer than the block shrinks by reading. -/
theorem length_drop_block_lt (room : Nat) (b : UInt8) (bytes : Bytes) :
    ((b :: bytes).drop (if room = 0 then readBlockSize else room)).length <
      (b :: bytes).length := by
  have hroom : 0 < if room = 0 then readBlockSize else room := by
    split
    · decide
    · omega
  rw [List.length_drop]
  exact Nat.sub_lt (Nat.succ_pos _) hroom

/-- The items that reading a script yields, from a block in which `room` is left: a read takes no
more than that, and a full block is followed by a fresh one. An error is the last item, and the end
comes with an empty chunk or with the end of the script. -/
def drained (room : Nat) (reads : List (Except IoError Bytes)) : List (Except IoError Bytes) :=
  match reads with
  | [] => []
  | .error e :: _ => [.error e]
  | .ok [] :: _ => []
  | .ok (b :: bytes) :: more =>
    let room := if room = 0 then readBlockSize else room
    if bytes.length < room then .ok (b :: bytes) :: drained (room - (bytes.length + 1)) more
    else .ok ((b :: bytes).take room) :: drained 0 (.ok ((b :: bytes).drop room) :: more)
termination_by (reads.map fun read => (read.toOption.getD []).length + 1).sum
decreasing_by
  · simp [Except.toOption]
  · rw [List.map_cons, List.map_cons, List.sum_cons, List.sum_cons]
    exact Nat.add_lt_add_right (Nat.add_lt_add_right (length_drop_block_lt _ b bytes) 1) _

/-- A full block is followed by a fresh one. -/
theorem drained_zero (reads : List (Except IoError Bytes)) :
    drained 0 reads = drained readBlockSize reads := by
  rcases reads with _ | ⟨e | _ | ⟨b, bytes⟩, more⟩ <;> simp only [drained]
  rfl

/-- A read takes the next item off. -/
theorem drained_of_read {e e' : Endpoint} {room : Nat} {answer : ReadAnswer}
    (h : e.read room = (answer, e')) (hroom : 0 < room) :
    match answer with
    | .pending => True
    | .ended => drained room e.reads = []
    | .failed err => drained room e.reads = [.error err]
    | .chunk data => drained room e.reads = .ok data :: drained (room - data.length) e'.reads := by
  unfold Endpoint.read at h
  split at h
  · cases h
    trivial
  split at h <;> rename_i hreads
  · rw [hreads]
    split at h <;> cases h
    · simp only [drained]
    · trivial
  · cases h
    simp only [hreads, drained]
  · cases h
    simp only [hreads, drained]
  · rename_i data more hn
    cases h
    obtain ⟨b, bytes, rfl⟩ := List.exists_cons_of_ne_nil (by simpa using hn)
    rw [hreads, drained, if_neg hroom.ne']
    by_cases hfits : bytes.length < room
    · have hrest : (b :: bytes).drop room = [] := List.drop_eq_nil_of_le hfits
      have htake : (b :: bytes).take room = b :: bytes := List.take_of_length_le hfits
      simp [hfits, hrest, htake]
    · have hrest : (b :: bytes).drop room ≠ [] := by
        simp only [ne_eq, List.drop_eq_nil_iff, List.length_cons]
        omega
      have hlength : ((b :: bytes).take room).length = room := by
        rw [List.length_take, List.length_cons]
        omega
      simp [hfits, hrest, hlength]

theorem Endpoint.read_echoes {e e' : Endpoint} {room : Nat} {answer : ReadAnswer}
    (h : e.read room = (answer, e')) : e'.echoes = e.echoes := by
  unfold read at h
  split at h
  · cases h
    rfl
  split at h
  · cases h
    rfl
  all_goals
    cases h
    rfl

namespace Link

/-- Whether the use leaves alone what the stream gives to read. -/
def Use.KeepsScript : Use → Prop
  | .turn change => ∀ p, (change p).endpoint.reads = p.endpoint.reads ∧
      (change p).endpoint.echoes = p.endpoint.echoes
  | _ => True

/-- Whether the stream was read as long as there was something to read. -/
def Uninterrupted (log : List Entry) : Prop :=
  (∀ answer ∈ answers log, answer = .accepted) ∧ .discarded ∉ log ∧ ∀ item, .gaveUp item ∉ log

/-- The items that are yet to be read. -/
def toCome (c : Connection) (e : Endpoint) : List (Except IoError Bytes) :=
  match c.readLoop with
  | none => drained readBlockSize e.reads
  | some (.reading room) => drained room e.reads
  | some (.handing room (.ok _)) => drained room e.reads
  | some (.handing _ (.error _)) | some .ended => []

/-- How the script, what was read and what is yet to be read fit together. -/
structure Scripted (script : List (Except IoError Bytes)) (c : Connection) (e : Endpoint)
    (log : List Entry) : Prop where
  silent : e.echoes = false
  room : ∀ room, c.readLoop = some (.reading room) → 0 < room
  arrived : Uninterrupted log → arrived log ++ toCome c e = drained readBlockSize script

variable {script : List (Except IoError Bytes)} {c c' : Connection} {e e' : Endpoint}
  {t log es : List Entry} {h : List Happening} {l l' : Link} {u : Use}

theorem Uninterrupted.of_append (h : Uninterrupted (log ++ es)) :
    Uninterrupted log ∧ Uninterrupted es := by
  obtain ⟨ha, hd, hg⟩ := h
  simp only [answers_append, List.mem_append, or_imp, forall_and, not_or] at ha hd hg
  exact ⟨⟨ha.1, hd.1, hg.1⟩, ha.2, hd.2, hg.2⟩

namespace Scripted

theorem drive (s : Scripted script c e log) (d : Driven c e c' e' t h) :
    Scripted script c' e' (log ++ (t ++ h.map .shown)) := by
  suffices hs : e'.echoes = false ∧ (∀ room, c'.readLoop = some (.reading room) → 0 < room) ∧
      (Uninterrupted t → Link.arrived t ++ toCome c' e' = toCome c e) by
    refine ⟨hs.1, hs.2.1, fun hu => ?_⟩
    obtain ⟨hlog, hu⟩ := hu.of_append
    rw [← s.arrived hlog, ← hs.2.2 hu.of_append.1]
    simp
  cases d.move with
  | still hl _ he =>
    obtain ⟨hreads, hechoes⟩ := he s.silent
    refine ⟨hechoes, by simpa [hl] using s.room, fun _ => ?_⟩
    simp [toCome, hl, hreads, Link.arrived]
  | connect hl _ hl' =>
    refine ⟨s.silent, ?_, fun _ => ?_⟩
    · simp [hl', readBlockSize]
    · simp [toCome, hl, hl', Link.arrived, Entry.arrived?]
  | @refuse answer _ _ hd hne =>
    refine ⟨s.silent, by simp [Connection.readLoop_of_stopped hd], fun hu => absurd ?_ hne⟩
    exact hu.1 answer (by simp [answers, Entry.answer?])
  | @exhaust _ room hl _ he hl' =>
    refine ⟨(Endpoint.read_echoes he).trans s.silent, by simp [hl'], fun _ => ?_⟩
    have hread := drained_of_read he (s.room room hl)
    simp [toCome, hl, hl', hread, Link.arrived, Entry.arrived?, ReadAnswer.item?]
  | @arrive _ room answer item hl _ he ha hl' =>
    refine ⟨(Endpoint.read_echoes he).trans s.silent, by simp [hl'], fun _ => ?_⟩
    have hread := drained_of_read he (s.room room hl)
    cases answer with
    | pending | ended => cases ha
    | failed | chunk =>
      cases ha
      simp [toCome, hl, hl', hread, roomAfter, Link.arrived, Entry.arrived?, ReadAnswer.item?]
  | @queue room item hl _ _ _ hl' =>
    cases item with
    | error err =>
      refine ⟨s.silent, by simp [hl', Connection.afterItem], fun _ => ?_⟩
      simp [toCome, hl, hl', Connection.afterItem, Link.arrived, Entry.arrived?]
    | ok data =>
      by_cases hr : room = 0
      · refine ⟨s.silent, by simp [hl', Connection.afterItem, hr, readBlockSize], fun _ => ?_⟩
        simp [toCome, hl, hl', Connection.afterItem, hr, drained_zero, Link.arrived,
          Entry.arrived?]
      · refine ⟨s.silent, by simp [hl', Connection.afterItem, hr, Nat.pos_of_ne_zero], fun _ => ?_⟩
        simp [toCome, hl, hl', Connection.afterItem, hr, Link.arrived, Entry.arrived?]
  | @giveUp _ item _ _ _ hl' =>
    refine ⟨s.silent, by simp [hl'], fun hu => absurd ?_ (hu.2.2 item)⟩
    exact List.mem_singleton_self _
  | discard _ _ hd =>
    refine ⟨s.silent, by simp [Connection.readLoop_of_stopped hd], fun hu => absurd ?_ hu.2.1⟩
    exact List.mem_singleton_self _

/-- What touches neither the read loop nor the script goes by. -/
theorem congr (s : Scripted script c e log) (hd : c'.driver = c.driver)
    (hr : e'.reads = e.reads) (he : e'.echoes = e.echoes) (ha : Link.arrived es = []) :
    Scripted script c' e' (log ++ es) := by
  have hl : c'.readLoop = c.readLoop := by simp [Connection.readLoop, hd]
  refine ⟨he.trans s.silent, by simpa [hl] using s.room, fun hu => ?_⟩
  have htoCome : toCome c' e' = toCome c e := by simp [toCome, hl, hr]
  rw [htoCome, arrived_append, ha, List.append_nil]
  exact s.arrived hu.of_append.1

theorem fresh {d : Destination} {capacity : Nat} (hr : e.reads = script)
    (he : e.echoes = false) : Scripted script (.fresh d capacity) e [] :=
  ⟨he, by simp [Connection.fresh, Connection.readLoop], fun _ => by
    simp [toCome, Connection.fresh, Connection.readLoop, hr, Link.arrived]⟩

end Scripted

/-- A step of such a use keeps the script together. -/
theorem Step.scripted (s : Scripted script l.connection l.peer.endpoint log)
    (hu : u.KeepsScript) (st : l.Step u l' es) :
    Scripted script l'.connection l'.peer.endpoint (log ++ es) := by
  cases st with
  | drive d => exact s.drive d
  | turn change => exact s.congr rfl (hu l.peer).1 (hu l.peer).2 rfl
  | call | write | refuse | resume | turnAway | abandon | handOut | finish | pend | takeReader
  | keepReader | takeClosed | dropReader | drop | dropBoth => exact s.congr rfl rfl rfl rfl

end Link

end Tunnel
