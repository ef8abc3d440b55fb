import Tunnel.Proofs.History

/-!
# The client's side

Requests to close the client and polls of its chunks move no data, other than the chunk that a
poll gives.

## Main definitions

* `Coordinator.Quiet` — what such a step may do to the coordinator.

## Main statements

* `Coordinator.quiet_close`, `ChunkStream.quiet_poll`, `ChunkStream.quiet_cancel` — these do no
  more than that.
-/

namespace Tunnel

variable {σ : Type}

namespace Coordinator

/-- No data moves, and a request to close the client is not taken back. -/
structure Quiet (k k' : Coordinator σ) (h : List Happening) : Prop where
  destination : k'.destination = k.destination
  requested : k.requested = true → k'.requested = true
  happened : h.filter Happening.concernsData = []

variable {k k' k'' : Coordinator σ} {h h' : List Happening}

theorem Quiet.refl : k.Quiet k [] := ⟨rfl, id, rfl⟩

theorem Quiet.trans (s : k.Quiet k' h) (t : k'.Quiet k'' h') : k.Quiet k'' (h ++ h') where
  destination := t.destination.trans s.destination
  requested hr := t.requested (s.requested hr)
  happened := by rw [List.filter_append, s.happened, t.happened, List.append_nil]

variable [ClientChannel σ]

theorem quiet_close (k : Coordinator σ) (reason : String) :
    k.Quiet (k.close reason).2.1 (k.close reason).2.2 ∧ (k.close reason).2.1.requested = true := by
  by_cases hr : k.requested
  · rw [close_of_requested hr]
    exact ⟨⟨rfl, id, rfl⟩, hr⟩
  · rw [close_of_not_requested (by simpa using hr)]
    refine ⟨⟨rfl, fun _ => rfl, ?_⟩, rfl⟩
    have hn : ∀ closed, List.filter Happening.concernsData
        [Caller.step.finished reason k closed] = [] := fun _ => rfl
    rw [List.filter_append, hn, List.append_nil]
    unfold safeClose callClose
    split
    · split <;> rfl
    · rfl

end Coordinator

namespace ChunkStream

variable [ClientChannel σ] {k k' : Coordinator σ} {h : List Happening}

theorem quiet_produce (cancelled : Bool) (k : Coordinator σ) (e : ChannelEvent) :
    k.Quiet (produce cancelled k e).2.1 (produce cancelled k e).2.2 := by
  cases e with
  | message data => exact .refl
  | close => exact (k.quiet_close _).1
  | error e =>
    have hw : k.Quiet k [.log .warn k.destination s!"client channel has error: {e}"] :=
      ⟨rfl, id, rfl⟩
    exact hw.trans (k.quiet_close "client channel error").1

theorem quiet_consume (cancelled : Bool) (k : Coordinator σ) (events : List ChannelEvent) :
    k.Quiet (consume cancelled k events).2.2.1 (consume cancelled k events).2.2.2 := by
  induction events generalizing k with
  | nil => exact .refl
  | cons e rest ih =>
    have hp := quiet_produce cancelled k e
    unfold consume
    rcases he : produce cancelled k e with ⟨_ | item, k', now⟩ <;> rw [he] at hp
    · exact hp.trans (ih k')
    · exact hp

theorem produce_chunk {cancelled : Bool} {e : ChannelEvent} {data : Bytes}
    (hp : produce cancelled k e = (some (.chunk data), k', h)) :
    cancelled = false ∧ k' = k ∧ h = [] := by
  cases e <;> cases cancelled <;> simp_all [produce]

theorem produce_none {cancelled : Bool} {e : ChannelEvent}
    (hp : produce cancelled k e = (none, k', h)) : cancelled = true := by
  cases e <;> cases cancelled <;> simp_all [produce]

/-- A chunk comes first of all, and only if the stream is not cancelled. -/
theorem consume_chunk {cancelled : Bool} {events rest : List ChannelEvent} {data : Bytes}
    (hc : consume cancelled k events = (some (.chunk data), rest, k', h)) :
    cancelled = false ∧ k' = k ∧ h = [] := by
  induction events generalizing k h with
  | nil => cases hc
  | cons e events ih =>
    unfold consume at hc
    rcases hp : produce cancelled k e with ⟨_ | item, k₁, now⟩ <;> rw [hp] at hc
    · rcases hr : consume cancelled k₁ events with ⟨item, rest', k₂, later⟩
      dsimp only at hc
      rw [hr] at hc
      cases hc
      obtain ⟨hn, -⟩ := ih hr
      rw [produce_none hp] at hn
      cases hn
    · cases hc
      exact produce_chunk hp

theorem quiet_poll (s : ChunkStream) (k : Coordinator σ) :
    k.Quiet (s.poll k).2.2.1 (s.poll k).2.2.2 ∧ (s.poll k).2.1.cancelled = s.cancelled := by
  unfold poll
  split
  · exact ⟨.refl, rfl⟩
  · have hc := quiet_consume s.cancelled k s.events.waiting
    rcases hr : consume s.cancelled k s.events.waiting with ⟨item, waiting, k', h⟩
    rw [hr] at hc
    dsimp only
    split
    · exact ⟨hc, rfl⟩
    · exact ⟨hc, rfl⟩
    · split <;> exact ⟨hc, rfl⟩

theorem poll_chunk {s s' : ChunkStream} {data : Bytes}
    (hp : s.poll k = (.chunk data, s', k', h)) : k' = k ∧ h = [] := by
  unfold poll at hp
  split at hp
  · cases hp
  · rcases hc : consume s.cancelled k s.events.waiting with ⟨item, waiting, k₁, now⟩
    rw [hc] at hp
    dsimp only at hp
    split at hp
    · cases hp
      exact (consume_chunk hc).2
    · simp_all
    · split at hp <;> cases hp

/-- Events that produce nothing leave the coordinator alone, unless the stream is cancelled. -/
theorem consume_none {cancelled : Bool} {events rest : List ChannelEvent}
    (hc : consume cancelled k events = (none, rest, k', h)) : cancelled = true ∨ k' = k := by
  cases events with
  | nil =>
    cases hc
    exact .inr rfl
  | cons e events =>
    left
    unfold consume at hc
    rcases hp : produce cancelled k e with ⟨_ | item, k₁, now⟩ <;> rw [hp] at hc
    · exact produce_none hp
    · cases hc

/-- An event that produces something produces an item. -/
theorem consume_ne_pending (cancelled : Bool) (k : Coordinator σ) (events : List ChannelEvent) :
    (consume cancelled k events).1 ≠ some .pending := by
  induction events generalizing k with
  | nil => exact nofun
  | cons e events ih =>
    have he : (produce cancelled k e).1 ≠ some .pending := by
      cases e <;> cases cancelled <;> exact nofun
    unfold consume
    rcases hp : produce cancelled k e with ⟨_ | item, k₁, now⟩ <;> rw [hp] at he
    · exact ih k₁
    · exact he

theorem poll_pending {s s' : ChunkStream} (hp : s.poll k = (.pending, s', k', h)) :
    s.cancelled = true ∨ k' = k := by
  unfold poll at hp
  split at hp
  · cases hp
  · rcases hc : consume s.cancelled k s.events.waiting with ⟨item, waiting, k₁, now⟩
    rw [hc] at hp
    dsimp only at hp
    split at hp
    · cases hp
    · cases hp
      have hn := consume_ne_pending s.cancelled k s.events.waiting
      simp [hc] at hn
    · split at hp <;> cases hp
      exact consume_none hc

/-- A cancelled stream has requested the close of the client. -/
theorem quiet_cancel (s : ChunkStream) (k : Coordinator σ) (reason : String) :
    k.Quiet (s.cancel k reason).2.2.1 (s.cancel k reason).2.2.2 ∧
    (s.cancel k reason).2.1.cancelled = true ∧
    (s.cancel k reason).2.2.1.requested = (k.requested || !s.cancelled) := by
  unfold cancel
  split
  · simp_all [Coordinator.Quiet.refl]
  · obtain ⟨hc, hr⟩ := k.quiet_close "client stream cancelled"
    have hn : k.Quiet k [.log .info k.destination s!"client stream was cancelled, due to {reason}"] :=
      ⟨rfl, id, rfl⟩
    exact ⟨hn.trans hc, rfl, by simp_all⟩

end ChunkStream

/-! ### Messages to the client -/

variable [ClientChannel σ]

/-- What becomes of a chunk for the client: it is sent, or the close of the client is requested,
or the pump crashes. The client's send is called only while it is open. -/
theorem deliver_chunk (k : Coordinator σ) (chunk : Bytes) :
    (deliver k (.ok chunk)).2.1.destination = k.destination ∧
    match deliver k (.ok chunk) with
    | (.sent, k', h) => k'.requested = k.requested ∧
      h.filter Happening.concernsData = [.sendCalled .opened chunk, .sent chunk]
    | (.failed _, k', h) => k'.requested = true ∧
      (h.filter Happening.concernsData = [] ∨
        h.filter Happening.concernsData = [.sendCalled .opened chunk])
    | (.crashed _, k', h) => k'.requested = k.requested ∧
      h.filter Happening.concernsData = [.sendCalled .opened chunk] := by
  by_cases ho : ClientChannel.readyState k.client = .opened
  · rcases hs : ClientChannel.send k.client chunk with ⟨_ | e | reason, client⟩
    · simp only [deliver, sendChunk, ho, hs]
      exact ⟨rfl, rfl, rfl⟩
    · obtain ⟨hc, hr⟩ := { k with client }.quiet_close "remote to client pump failed"
      simp only [deliver, sendChunk, ho, hs]
      refine ⟨hc.destination, hr, .inr ?_⟩
      have hn : Happening.concernsData (.sendCalled .opened chunk) = true := rfl
      simp [hc.happened, hn]
    · simp only [deliver, sendChunk, ho, hs]
      exact ⟨rfl, rfl, rfl⟩
  · obtain ⟨hc, hr⟩ := k.quiet_close "remote to client pump failed"
    simp only [deliver, sendChunk, ho]
    refine ⟨hc.destination, hr, .inl ?_⟩
    simp [hc.happened]

/-- A chunk that cannot be delivered is no read error. -/
theorem not_remote_of_deliver {k k' : Coordinator σ} {chunk : Bytes} {e : SessionError}
    {h : List Happening} (hd : deliver k (.ok chunk) = (.failed e, k', h)) (err : IoError) :
    e ≠ .remote err := by
  have hs : (sendChunk k chunk).1 = .failed e := by
    unfold deliver at hd
    rcases hs : sendChunk k chunk with ⟨_ | e' | reason, k₁, now⟩ <;> simp only [hs] at hd <;>
      cases hd
    rfl
  rintro rfl
  unfold sendChunk at hs
  dsimp only at hs
  split at hs
  · split at hs <;> cases hs
  · cases hs

theorem deliver_error (k : Coordinator σ) (e : IoError) :
    ∃ k' h, deliver k (.error e) = (.failed (.remote e), k', h) ∧ k.Quiet k' h ∧
      k'.requested = true := by
  obtain ⟨hc, hr⟩ := k.quiet_close "remote to client pump failed"
  have hn : k.Quiet k [.log .error k.destination
      s!"remote to client pump has exception: {SessionError.remote e}"] := ⟨rfl, id, rfl⟩
  exact ⟨_, _, rfl, hn.trans hc, hr⟩

end Tunnel
