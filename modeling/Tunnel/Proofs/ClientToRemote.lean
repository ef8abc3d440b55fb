import Tunnel.Client.Scripted
import Tunnel.Proofs.Quiescence

/-!
# From the client to the remote

What a stream accepts is what the session owes to its connection.

## Main statements

* `World.accepted_faithful` — the bytes that a stream has accepted are the first of what is owed,
  and all of it once nothing can move any more.
-/

namespace Tunnel

namespace Relay.Sound

variable {r : Relay}

/-- What is written to a connection comes off the front of what is owed. -/
theorem written_isPrefix (h : r.Sound) (i : Nat) :
    passed (.written i) r.flow <+: owed r.engine.replayLimit i r.flow := by
  cases hl : r.line? i with
  | none => simp [(h.fits.absent i hl).passed_eq_nil]
  | some l =>
    have hi := (List.getElem?_eq_some_iff.mp (line?_eq_some_iff.mp hl).1).1
    exact h.books.written i hi

theorem accepted_isPrefix (h : r.Sound) (i : Nat) :
    (passed (.accepted i) r.flow).flatten <+: (passed (.written i) r.flow).flatten := by
  cases hl : r.line? i with
  | none => simp [(h.fits.absent i hl).passed_eq_nil]
  | some l => exact (h.fits.writeSide i l hl).accepted_isPrefix

end Relay.Sound

namespace World

variable {σ : Type} [ClientChannel σ] {w : World σ}

/-- At rest, nothing is on the way to a stream that accepts writes. -/
theorem Quiescent.accepted_eq_owed (hq : w.Quiescent) (hs : w.relay.Sound) {i dial : Nat}
    {c : Connection} (hi : w.session.current? = some i)
    (hc : w.transport.connections[i]? = some c) (hd : c.stream? = some dial)
    (hm : (w.transport.endpoint dial).mode = .accepts)
    (hf : ∀ dial, .writeFailed i dial ∉ w.relay.flow) :
    (passed (.accepted i) w.relay.flow).flatten =
      (owed w.relay.engine.replayLimit i w.relay.flow).flatten := by
  have hside := hs.fits.writeSide_of_connection hc
  have hw : c.writable = true := by
    by_contra hw
    have hn := hs.shape.held i c (.inr hi) hc
    obtain ⟨dial, hx⟩ := hside.failed (by simp [hd]) (by simpa using hw) hn
    exact hf dial hx
  have hdec : c.decided = true := by
    cases hdr : c.driver <;> simp_all [Connection.decided, Connection.stream?]
  have hidle : c.unwritten = [] ∧ c.outbox = [] := by
    by_contra hn
    obtain ⟨dial', reading, rest, hdr, hb⟩ := hq.driver_blocked hc hdec hw (by tauto)
    obtain rfl : dial' = dial := by simpa [Connection.stream?, hdr] using hd
    simp [hb] at hm
  have hhand : w.session.inHand = [] := by
    by_contra hn
    obtain ⟨j, c', hj, hc', -, hfull⟩ := hq.blocked hs hn
    obtain rfl : j = i := Option.some_inj.mp (hj.symm.trans hi)
    obtain rfl : c' = c := Option.some_inj.mp (hc'.symm.trans hc)
    have hpos : 0 < c'.capacity := hside.room.1
    simp [← hfull, hidle.2] at hpos
  have hn : ∀ chunk, .refused i chunk ∉ w.relay.flow := by
    intro chunk hx
    simp [hside.refused chunk hx] at hw
  have hbooks := hs.books.current i hi hn
  have hwritten := hside.unwritten hw
  rw [relay_session, hhand, List.append_nil] at hbooks
  rw [← hbooks, ← hwritten, show Line.connection _ = c from rfl, hidle.1, List.append_nil]

variable {engine : Engine} {d : Destination} {client : σ} {eventCapacity : Nat}
  {peers : List Peer} {moves : List (Move σ)}

/-- The chunks that a connection takes are, in order, those that it is owed: all that the session
has taken from its client, but after a retry for which too much was taken, only what was taken
since. The bytes that its stream has accepted are the first of them, and they are all of them
when nothing can move and the stream of the session's connection accepts writes. -/
theorem accepted_faithful
    (h : (start engine d client eventCapacity peers).run? moves = some w) :
    (∀ i, passed (.written i) w.history <+: owed engine.replayLimit i w.history ∧
      (passed (.accepted i) w.history).flatten <+:
        (owed engine.replayLimit i w.history).flatten) ∧
    (w.Quiescent → ∀ i c dial, w.session.current? = some i →
      w.transport.connections[i]? = some c → c.stream? = some dial →
      (w.transport.endpoint dial).mode = .accepts → (∀ dial, .writeFailed i dial ∉ w.history) →
      (passed (.accepted i) w.history).flatten =
        (owed engine.replayLimit i w.history).flatten) := by
  have hs := sound_of_run h
  have he : w.relay.engine = engine := engine_of_run h
  refine ⟨fun i => ?_, ?_⟩
  · have hw := hs.written_isPrefix i
    have ha := (hs.accepted_isPrefix i).trans hw.flatten
    rw [he] at hw ha
    simpa using And.intro hw ha
  · intro hq i c dial hi hc hd hm hf
    have := hq.accepted_eq_owed hs hi hc hd hm fun dial hx => hf dial ((mem_relay_flow rfl).mp hx)
    rw [he] at this
    simpa using this

/-- The first connection ends without a byte, and the fallback connection gets all chunks. -/
def replayed : Option (World ScriptedClient) :=
  (start { fallbackHost := "fallback" } { host := "first", port := 80 } {} 8
    [{ answer := .accepted, endpoint := { ends := true } }, { answer := .accepted }]).run?
    ([.event (.message [7]), .session .take, .session .resume, .driver 0 .dial,
        .driver 0 .connect, .driver 0 .read, .pump 0, .session .join] ++
      List.replicate 3 (.session .resume) ++
      [.driver 0 .discard, .event (.message [8]), .session .take, .session .resume,
        .driver 1 .dial, .driver 1 .connect] ++ List.replicate 4 (.driver 1 .write))

theorem accepted_faithful_replayed : ∃ w, replayed = some w ∧ w.Quiescent ∧
    (passed (.accepted 1) w.history).flatten = (owed 65536 1 w.history).flatten ∧
    passed (.accepted 1) w.history = [[7], [8]] := by
  have hrun : replayed.map (fun w => (decide w.Quiescent, w.session.current?,
      w.transport.connections[1]?.bind (·.stream?), (w.transport.endpoint 1).mode,
      w.history.any (fun e => match e with | .writeFailed 1 _ => true | _ => false),
      passed (.accepted 1) w.history)) =
    some (true, some 1, some 1, .accepts, false, [[7], [8]]) := by rfl
  obtain ⟨w, hw, he⟩ := Option.map_eq_some_iff.mp hrun
  simp only [Prod.mk.injEq, Option.bind_eq_some_iff, decide_eq_true_eq, List.any_eq_false] at he
  obtain ⟨hq, hi, ⟨c, hc, hd⟩, hm, hf, ha⟩ := he
  refine ⟨w, hw, hq, (accepted_faithful hw).2 hq 1 c 1 hi hc hd hm fun dial hx => ?_, ha⟩
  exact hf _ hx rfl

end World

end Tunnel
