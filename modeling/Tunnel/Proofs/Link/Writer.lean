import Tunnel.Proofs.Link.Reader
import Tunnel.Proofs.Link.Writing

/-!
# Writers and their stream

What the stream of a connection accepts, and what its writers are told, over all the uses of the
connection: the stream gets the chunks whose calls to write return without an error, in the order of
the calls, and nothing else. A writable side that is lost is lost for good, and nobody waits for it.

## Main definitions

* `Link.Severed` — the writable side is gone.
* `Link.Delivers`, `Link.Refuses` — what the stream gets, and what a call to write is told once the
  writable side is gone.

## Main statements

* `Link.stream_gets` — the stream of every connection gets this, and its writers are told this.
-/

namespace Tunnel

namespace Link

variable {l l' : Link} {log later : List Entry}

/-- What the stream gets of what the writers write. -/
structure Delivers (l : Link) (log : List Entry) : Prop where
  isPrefix : (accepted log).flatten <+: (written log).flatten
  /-- The calls are answered in their order, and those that wait come after those that returned. -/
  inOrder : (written log ++ l.waiting).Sublist (called log)
  /-- At rest, while the owner is there, a stream that has taken every write has got everything. -/
  resting : l.Resting → .accepted ∈ answers log → l.connection.discarded = false →
    (∀ dial, .writeFailed 0 dial ∉ history log) → l.peer.endpoint.mode ≠ .blocks →
    (accepted log).flatten = (written log).flatten ∧ l.waiting = []

/-- A write has failed, the dial was not accepted, or the driver has ended. -/
def Severed (l : Link) (log : List Entry) : Prop :=
  (∃ dial, .writeFailed 0 dial ∈ history log) ∨ (∃ answer ∈ answers log, answer ≠ .accepted) ∨
    l.connection.driver = .stopped

/-- The error that a call to write returns when the writable side is gone. -/
def refusal (chunk : Bytes) : Except IoError Unit := .error (.writableClosed chunk.length)

/-- Every call to write fails, and none has to wait. -/
structure Refuses (l : Link) : Prop where
  /-- All calls that wait are answered. -/
  waiting : l.run? (List.replicate l.waiting.length .wake) =
    some ({ l with waiting := [] }, l.waiting.map fun chunk => .returned chunk (refusal chunk))
  /-- A call that is made now is answered at once. -/
  calls : ∀ chunk, l.connection.discarded = false →
    l.use? (.write chunk) = some (l, [.called chunk, .returned chunk (refusal chunk)])

theorem Sends.run {uses : List Use} (s : l.Sends log) (h : l.run? uses = some (l', later)) :
    l'.Sends (log ++ later) :=
  run?_induction (fun _ _ _ _ _ _ s st => st.sends s) h s

/-- What the stream of a connection gets. -/
theorem Sends.delivers (s : l.Sends log) (f : l.Fits log) : l.Delivers log := by
  have hpre : (accepted log).flatten <+: (written log).flatten :=
    s.returned ▸ s.side.accepted_isPrefix
  refine ⟨hpre, s.inOrder, fun hrest ha hd hf hm => ?_⟩
  have hl : l.connection.readLoop ≠ none := by
    intro hl
    simp [f.signal.undecided hl] at ha
  have hw : l.connection.writable = true := by
    by_contra hw
    rcases s.lost (by simpa using hw) with hd' | ⟨answer, hm, hne⟩ | ⟨dial, hm⟩
    · simp [hd] at hd'
    · exact hne (f.signal.answers_unique hm ha)
    · exact hf dial hm
  obtain ⟨hu, hwaiting⟩ := hrest.unwritten_eq_nil hw hl hm s.side.room.1
  have hwhole := s.side.unwritten hw
  rw [hu, List.append_nil, s.returned] at hwhole
  exact ⟨hwhole, hwaiting⟩

/-- A connection that is severed is not writable. -/
theorem Severed.writable (h : l.Severed log) (s : l.Sends log) (f : l.Fits log) :
    l.connection.writable = false := by
  rcases h with ⟨dial, hm⟩ | ⟨answer, hm, hne⟩ | hd
  · exact s.failed dial hm
  · simp [Connection.writable, (f.signal.refused answer hm hne).1]
  · simp [Connection.writable, hd]

/-- A connection that is not writable refuses every call. -/
theorem refuses (hw : l.connection.writable = false) : l.Refuses := by
  constructor
  · -- Each answer leaves a connection that refuses as well, with one call less to answer.
    generalize hwaiting : l.waiting = waiting
    induction waiting generalizing l with
    | nil =>
      cases l
      cases hwaiting
      rfl
    | cons chunk waiting ih =>
      have hwake : l.use? .wake = some ({ l with waiting }, [.returned chunk (refusal chunk)]) := by
        simp [use?, hwaiting, offer?_of_not_writable hw, refusal]
      have hrest := ih (l := { l with waiting }) hw rfl
      simp [List.replicate_succ, run?, hwake, hrest]
  · intro chunk hd
    simp [use?, hd, hw, offer?_of_not_writable hw, refusal]

/-- Once it is severed, a connection takes and its stream accepts nothing more. -/
theorem run?_of_not_writable {more : List Use} (hw : l.connection.writable = false)
    (h : l.run? more = some (l', later)) :
    l'.connection.writable = false ∧ accepted later = [] ∧
      ∀ chunk answer, .returned chunk answer ∈ later → answer = refusal chunk := by
  have hinv := @run?_induction l l' later []
    (fun l later => l.connection.writable = false ∧ accepted later = [] ∧
      ∀ chunk answer, .returned chunk answer ∈ later → answer = refusal chunk) more ?_ h
    ⟨hw, rfl, by simp⟩
  · simpa using hinv
  · rintro u - l₁ l₂ es later ⟨hw, ha, hr⟩ st
    obtain ⟨hw, ha', hr'⟩ := st.shut hw
    refine ⟨hw, by rw [accepted_append, ha, ha', List.append_nil], fun chunk answer hm => ?_⟩
    rcases List.mem_append.mp hm with hm | hm
    · exact hr chunk answer hm
    · exact hr' chunk answer hm

/-- What the stream of a connection gets and what its writers are told, for every dial outcome,
every stream, every capacity and all uses of the connection. -/
theorem stream_gets {d : Destination} {capacity : Nat} {peer : Peer} {uses : List Use}
    (h : (start d capacity peer).run? uses = some (l, log)) :
    l.Delivers log ∧
    (l.Severed log → ∀ more l' later, l.run? more = some (l', later) →
      l'.Refuses ∧ accepted later = [] ∧
        ∀ chunk answer, .returned chunk answer ∈ later → answer = refusal chunk) := by
  have f : l.Fits log := (Fits.start d capacity peer).run h
  have s : l.Sends log := (Sends.fresh d capacity peer).run h
  refine ⟨s.delivers f, fun hsevered more l' later hmore => ?_⟩
  obtain ⟨hw, ha, hr⟩ := run?_of_not_writable (hsevered.writable s f) hmore
  exact ⟨refuses hw, ha, hr⟩

/-- A peer that takes two bytes, one at a time, and then fails. -/
def failing : Peer where
  answer := .accepted
  endpoint := { writeRoom := some 1, failsAfter := some 2 }

/-- A connection to it that has nothing to write. -/
def rested : Link where
  connection := {
    destination := { host := "first", port := 80 }, capacity := 1
    driver := .streaming 0 (.reading readBlockSize) .idle }
  peer := { failing with endpoint := { failing.endpoint with taken := 1 } }

/-- The connection when a write has failed and another call waits. -/
def failed : Link where
  connection := { rested.connection with
    driver := .streaming 0 (.reading readBlockSize) .ended }
  peer := { failing with endpoint := { failing.endpoint with taken := 2 } }
  waiting := [[5]]

/-- The stream gets the first chunk and one byte of the second; the chunk behind it is lost, and the
call that still waits fails. -/
theorem stream_gets_failing : ∃ uses more log later,
    (start { host := "first", port := 80 } 1 failing).run? uses = some (rested, log) ∧
    rested.Resting ∧ accepted log = [[1]] ∧ (accepted log).flatten = (written log).flatten ∧
    rested.run? more = some (failed, later) ∧
    written (log ++ later) = [[1], [2, 3], [4]] ∧ accepted (log ++ later) = [[1], [2]] ∧
    failed.Delivers (log ++ later) ∧ failed.Refuses := by
  let uses : List Use :=
    [.write [1], .drive .dial, .drive .connect, .drive .write, .drive .write]
  let more : List Use := [.write [2, 3], .write [4], .drive .write, .wake, .write [5],
    .drive .write, .drive .write]
  let log : List Entry := [.called [1], .returned [1] (.ok ()), .answered .accepted,
    .shown (.accepted 0 0 [1])]
  let later : List Entry := [.called [2, 3], .returned [2, 3] (.ok ()), .called [4],
    .returned [4] (.ok ()), .called [5], .shown (.accepted 0 0 [2]), .shown (.writeFailed 0 0)]
  have hrun : (start { host := "first", port := 80 } 1 failing).run? uses = some (rested, log) :=
    rfl
  have hmore : rested.run? more = some (failed, later) := rfl
  have hall : (start { host := "first", port := 80 } 1 failing).run? (uses ++ more) =
    some (failed, log ++ later) := rfl
  have hrest : rested.Resting := by
    refine ⟨fun part => ?_, rfl⟩
    cases part <;> rfl
  obtain ⟨hdelivers, -⟩ := stream_gets hrun
  obtain ⟨hdelivers', hsevered⟩ := stream_gets hall
  refine ⟨uses, more, log, later, hrun, hrest, rfl, ?_, hmore, rfl, rfl, hdelivers', ?_⟩
  · exact (hdelivers.resting hrest (by simp [log, answers, Entry.answer?]) rfl
      (by simp [log]) (by decide)).1
  · exact (hsevered (.inl ⟨0, by simp [log, later]⟩) [] failed [] rfl).1

end Link

end Tunnel
