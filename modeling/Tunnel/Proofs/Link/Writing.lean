import Tunnel.Proofs.Line.Writing
import Tunnel.Proofs.Link.Reading

/-!
# What the writers of a connection are told

The chunks whose calls to write have returned without an error reach the stream in the order of the
calls. Once the writable side is gone it is gone for good: the stream accepts nothing more, and
every call to write fails, whether it waits already or is made later.

The history of a connection shows all that concerns its data, so what holds of lines holds here.

## Main definitions

* `Link.called`, `Link.written`, `Link.accepted` — the chunks that the writers have called with and
  that were taken from them, and what the stream has accepted.
* `Link.Sends` — how these and the connection fit together.

## Main statements

* `Link.Step.sends` — every step keeps this.
* `Link.Step.shut` — a writable side that is gone stays gone.
-/

namespace Tunnel

variable {c c' : Connection} {h : List Happening}

/-- A writable side goes with a failed write, with its owner, or with a dial that fails. -/
theorem Connection.Driven.shuts {i : Nat} (d : c.Driven i c' h) (hw : c.writable = true) :
    c'.writable = true ∨ c.discarded = true ∨ (∃ dial, .writeFailed i dial ∈ h) ∨
      c.readLoop = none ∧ c'.driver = .stopped := by
  cases d with
  | dial | connect => exact .inl rfl
  | refuse hd => exact .inr (.inr (.inr ⟨by simp [readLoop, hd], rfl⟩))
  | exhaust hd | failRead hd | read hd | giveUp hd | hand hd | handError hd =>
    rw [writable_of_streaming hd] at hw
    exact .inl (by simpa using hw)
  | leaveOff _ _ hg => exact .inr (.inl hg)
  | skip | pick => exact .inl (by simp [Writing.live])
  | failWrite => exact .inr (.inr (.inl ⟨_, List.mem_singleton_self _⟩))
  | @write _ n _ rest =>
    left
    rw [proceed_writable]
    split <;> rfl
  | discard hg => exact .inr (.inl hg)

/-- After a failed write the writable side is gone. -/
theorem Connection.Driven.writable_of_writeFailed {i dial : Nat} (d : c.Driven i c' h)
    (hm : .writeFailed i dial ∈ h) : c'.writable = false := by
  cases d with
  | failWrite => simp [Writing.live]
  | exhaust | read | write => simp at hm
  | dial | connect | refuse | failRead | giveUp | hand | handError | leaveOff | skip | pick
  | discard => cases hm

namespace Link

namespace Entry

/-- What an entry is in the history of the data. -/
@[simp] def happening? : Entry → Option Happening
  | .shown e => some e
  | .returned chunk (.ok ()) => some (.written 0 chunk)
  | .returned chunk (.error _) => some (.refused 0 chunk)
  | _ => none

/-- The chunk of a call to write. -/
def called? : Entry → Option Bytes
  | .called chunk => some chunk
  | _ => none

/-- The chunk of a call to write that returns without an error. -/
def written? : Entry → Option Bytes
  | .returned chunk (.ok ()) => some chunk
  | _ => none

end Entry

/-- The history of the data. -/
def history (log : List Entry) : List Happening := log.filterMap Entry.happening?

/-- The chunks that calls to write were made with, in the order of the calls. -/
def called (log : List Entry) : List Bytes := log.filterMap Entry.called?

/-- The chunks whose calls to write have returned without an error, in the order of returning. -/
def written (log : List Entry) : List Bytes := log.filterMap Entry.written?

/-- The bytes that the stream has accepted, a chunk for each write. -/
def accepted (log : List Entry) : List Bytes := passed (.accepted 0) (history log)

section log

variable (log es : List Entry)

@[simp] theorem history_append : history (log ++ es) = history log ++ history es :=
  List.filterMap_append

@[simp] theorem history_nil : history [] = [] := rfl

@[simp] theorem history_cons (en : Entry) :
    history (en :: es) = en.happening?.toList ++ history es := by
  unfold history
  rw [List.filterMap_cons]
  cases en.happening? <;> rfl

@[simp] theorem called_append : called (log ++ es) = called log ++ called es :=
  List.filterMap_append

@[simp] theorem written_append : written (log ++ es) = written log ++ written es :=
  List.filterMap_append

@[simp] theorem accepted_append : accepted (log ++ es) = accepted log ++ accepted es := by
  simp [accepted]

/-- What the driver shows is history, and tells the writers nothing. -/
@[simp] theorem shown_eq (h : List Happening) : history (h.map .shown) = h ∧
    called (h.map .shown) = [] ∧ written (h.map .shown) = [] := by
  induction h with
  | nil => exact ⟨rfl, rfl, rfl⟩
  | cons e h ih =>
    exact ⟨congrArg (e :: ·) ih.1, ih.2⟩

end log

variable {e e' : Endpoint} {t log es : List Entry} {l l' : Link} {u : Use}

/-- The read loop tells the writers nothing. -/
theorem ReadMove.unwritten (m : ReadMove c e c' e' t) :
    history t = [] ∧ called t = [] ∧ written t = [] := by
  cases m <;> exact ⟨rfl, rfl, rfl⟩

/-- Why the writable side may be gone. -/
def Lost (c : Connection) (log : List Entry) : Prop :=
  c.discarded = true ∨ (∃ answer ∈ answers log, answer ≠ .accepted) ∨
    ∃ dial, .writeFailed 0 dial ∈ history log

/-- How what the writers were told and what the stream has accepted fit the connection. -/
structure Sends (l : Link) (log : List Entry) : Prop where
  side : Line.WriteSide 0 ⟨l.connection, none⟩ (history log)
  returned : passed (.written 0) (history log) = written log
  /-- Calls are answered in order. -/
  inOrder : (written log ++ l.waiting).Sublist (called log)
  failed : ∀ dial, .writeFailed 0 dial ∈ history log → l.connection.writable = false
  lost : l.connection.writable = false → Lost l.connection log

namespace Sends

/-- A step of the driver. -/
theorem drive (s : l.Sends log) (d : Driven l.connection l.peer.endpoint c e t h) :
    Sends { l with connection := c, peer := { l.peer with endpoint := e } }
      (log ++ (t ++ h.map .shown)) := by
  obtain ⟨hhistory, hcalled, hwritten⟩ := d.move.unwritten
  obtain ⟨-, hdiscarded, -⟩ := d.driven.frame
  have hh : history (log ++ (t ++ h.map .shown)) = history log ++ h := by simp [hhistory]
  have hw : written (log ++ (t ++ h.map .shown)) = written log := by simp [hwritten]
  refine ⟨?_, ?_, ?_, ?_, ?_⟩
  · rw [hh]
    exact s.side.drive d.driven
  · rw [hh, hw, passed_append, d.driven.writes.1, List.append_nil, s.returned]
  · rw [hw]
    simpa [hcalled] using s.inOrder
  · rw [hh]
    intro dial hm
    rcases List.mem_append.mp hm with hm | hm
    · have hgone := s.failed dial hm
      by_contra hn
      simp [(d.driven.writes.2.1 (by simpa using hn)).1] at hgone
    · exact d.driven.writable_of_writeFailed hm
  · intro hgone
    have hold : l.connection.writable = false → Lost c (log ++ (t ++ h.map .shown)) := by
      intro hgone
      rcases s.lost hgone with hd | ⟨answer, hm, hne⟩ | ⟨dial, hm⟩
      · exact .inl (hdiscarded ▸ hd)
      · exact .inr (.inl ⟨answer, by simp [hm], hne⟩)
      · exact .inr (.inr ⟨dial, hh ▸ List.mem_append_left _ hm⟩)
    cases hwritable : l.connection.writable with
    | false => exact hold hwritable
    | true =>
      rcases d.driven.shuts hwritable with hw | hd | ⟨dial, hm⟩ | ⟨hl, hstop⟩
      · simp [hw] at hgone
      · exact .inl (hdiscarded ▸ hd)
      · exact .inr (.inr ⟨dial, hh ▸ List.mem_append_right _ hm⟩)
      · -- The dial has failed, or its owner is gone.
        cases d.move with
        | still hl' => simp [Connection.readLoop_of_stopped hstop, hl] at hl'
        | connect _ _ hl' => simp [Connection.readLoop_of_stopped hstop] at hl'
        | @refuse answer _ _ _ hne =>
          exact .inr (.inl ⟨answer, by simp [answers, Entry.answer?], hne⟩)
        | exhaust hl' | arrive hl' | queue hl' | giveUp hl' => simp [hl] at hl'
        | discard hd => exact .inl (hdiscarded ▸ hd)

/-- What happens to the queue and the calls while the driver stands still. -/
theorem tell (s : l.Sends log)
    (hside : Line.WriteSide 0 ⟨l'.connection, none⟩ (history log ++ history es))
    (hd : l'.connection.driver = l.connection.driver)
    (hg : l.connection.discarded = true → l'.connection.discarded = true)
    (hp : passed (.written 0) (history es) = written es)
    (hf : ∀ dial, .writeFailed 0 dial ∉ history es)
    (ho : (written log ++ (written es ++ l'.waiting)).Sublist
      (called log ++ called es)) : l'.Sends (log ++ es) := by
  have hw : l'.connection.writable = l.connection.writable := by
    simp [Connection.writable, hd]
  refine ⟨?_, ?_, ?_, ?_, ?_⟩
  · rwa [history_append]
  · rw [history_append, passed_append, written_append, s.returned, hp]
  · rwa [written_append, called_append, List.append_assoc]
  · intro dial hm
    rw [history_append] at hm
    rw [hw]
    exact s.failed dial ((List.mem_append.mp hm).resolve_right (hf dial))
  · rw [hw]
    intro hgone
    rcases s.lost hgone with hd | ⟨answer, hm, hne⟩ | ⟨dial, hm⟩
    · exact .inl (hg hd)
    · exact .inr (.inl ⟨answer, by simp [hm], hne⟩)
    · exact .inr (.inr ⟨dial, by simp [hm]⟩)

/-- What concerns neither the driver nor the writers goes by. -/
theorem congr (s : l.Sends log) (hd : l'.connection.driver = l.connection.driver)
    (hq : l'.connection.outbox = l.connection.outbox)
    (hc : l'.connection.capacity = l.connection.capacity)
    (hg : l.connection.discarded = true → l'.connection.discarded = true)
    (hw : l'.waiting.Sublist l.waiting)
    (hes : history es = [] ∧ called es = [] ∧ written es = []) : l'.Sends (log ++ es) := by
  obtain ⟨hh, hcalled, hwritten⟩ := hes
  refine s.tell ?_ hd hg (by rw [hh, hwritten]; rfl) (by simp [hh]) ?_
  · rw [hh, List.append_nil]
    exact s.side.congr hd hq hc hg
  · rw [hwritten, hcalled, List.nil_append, List.append_nil]
    exact ((List.Sublist.refl _).append hw).trans s.inOrder

theorem fresh (d : Destination) (capacity : Nat) (peer : Peer) :
    (start d capacity peer).Sends [] where
  side := Line.WriteSide.fresh d capacity
  returned := rfl
  inOrder := .slnil
  failed _ hm := by cases hm
  lost hw := by cases hw

end Sends

/-- Every step keeps what the writers were told. -/
theorem Step.sends (s : l.Sends log) (st : l.Step u l' es) : l'.Sends (log ++ es) := by
  cases st with
  | drive d => exact s.drive d
  | @call chunk =>
    refine s.tell (by simpa using s.side) rfl id rfl (by simp) ?_
    show (written log ++ (l.waiting ++ [chunk])).Sublist (called log ++ [chunk])
    rw [← List.append_assoc]
    exact s.inOrder.append (.refl _)
  | @write chunk hw hwait hr =>
    refine s.tell (s.side.touch (.write hw hr)) rfl id rfl (by simp) ?_
    show (written log ++ ([chunk] ++ l.waiting)).Sublist (called log ++ [chunk])
    have ho := s.inOrder
    rw [hwait, List.append_nil] at ho ⊢
    exact ho.append (.refl _)
  | @refuse chunk hw =>
    refine s.tell (s.side.touch (.refuse hw)) rfl id rfl (by simp) ?_
    exact s.inOrder.trans (List.sublist_append_left _ _)
  | @resume chunk waiting hwait hw hr =>
    refine s.tell (s.side.touch (.write hw hr)) rfl id rfl (by simp) ?_
    have ho := s.inOrder
    rw [hwait] at ho
    exact ho.trans (List.sublist_append_left _ _)
  | @turnAway chunk waiting hwait hw =>
    refine s.tell (s.side.touch (.refuse hw)) rfl id rfl (by simp) ?_
    have ho := s.inOrder
    rw [hwait] at ho
    have hless := (List.Sublist.refl (written log)).append (List.sublist_cons_self chunk waiting)
    exact (hless.trans ho).trans (List.sublist_append_left _ _)
  | abandon n => exact s.congr rfl rfl rfl id (List.eraseIdx_sublist _ _) ⟨rfl, rfl, rfl⟩
  | drop | dropBoth => exact s.congr rfl rfl rfl (fun _ => rfl) (.refl _) ⟨rfl, rfl, rfl⟩
  | turn | handOut | finish | pend | takeReader | keepReader | takeClosed | dropReader =>
    exact s.congr rfl rfl rfl id (.refl _) ⟨rfl, rfl, rfl⟩

/-- A writable side that is gone stays gone: nothing is accepted and every call fails. -/
theorem Step.shut (st : l.Step u l' es) (hw : l.connection.writable = false) :
    l'.connection.writable = false ∧ accepted es = [] ∧
      ∀ chunk answer, .returned chunk answer ∈ es →
        answer = .error (.writableClosed chunk.length) := by
  cases st with
  | @drive _ _ _ told h d =>
    obtain ⟨-, hnext, haccepted⟩ := d.driven.writes
    refine ⟨?_, ?_, ?_⟩
    · by_contra hn
      simp [(hnext (by simpa using hn)).1] at hw
    · rw [accepted_append]
      simpa [accepted, d.move.unwritten.1, hw] using haccepted
    · intro chunk answer hm
      cases d.move <;> simp at hm
  | call h | write h | resume _ h => simp [hw] at h
  | refuse | turnAway => exact ⟨hw, rfl, by simp⟩
  | turn | abandon | handOut | finish | pend | takeReader | keepReader | takeClosed | dropReader
  | drop | dropBoth => exact ⟨hw, rfl, by simp⟩

end Link

end Tunnel
