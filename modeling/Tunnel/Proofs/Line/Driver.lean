import Tunnel.Proofs.Line.Basic

/-!
# The steps of drivers

What the functions of a driver do is a step of the driver as a relation, whatever the endpoint
answers.

## Main statements

* `Transport.step?_driven` — one step of a driver changes one connection, by such a step.
* `Connection.read?_eq_none`, `Connection.write?_eq_none` — what a loop that has to wait waits for.
-/

namespace Tunnel

/-- A read gives no more than there is room for, and something if there is any room. -/
theorem Endpoint.read_chunk {room : Nat} {e e' : Endpoint} {data : Bytes}
    (h : e.read room = (.chunk data, e')) : data.length ≤ room ∧ (0 < room → data ≠ []) := by
  unfold read at h
  split at h
  · cases h
  split at h
  · split at h <;> cases h
  · cases h
  · cases h
  · rename_i bytes more hn _
    simp only [Prod.mk.injEq, ReadAnswer.chunk.injEq] at h
    obtain ⟨rfl, -⟩ := h
    refine ⟨List.length_take_le _ _, fun hr => ?_⟩
    simpa [List.take_eq_nil_iff] using ⟨hr.ne', hn⟩

namespace Connection

variable {i : Nat} {c c' : Connection} {e : Endpoint} {p : Progress} {h : List Happening}

theorem continueWith_connection (id : Nat) (c : Connection) (e : Endpoint) (dial : Nat)
    (reading : Reading) (writing : Writing) (h : List Happening) :
    (c.continueWith id e dial reading writing h).connection = c.proceed dial reading writing := by
  cases reading <;> cases writing <;> rfl

theorem continueWith_happened (id : Nat) (c : Connection) (e : Endpoint) (dial : Nat)
    (reading : Reading) (writing : Writing) (h : List Happening) :
    (c.continueWith id e dial reading writing h).happened.filter Happening.concernsData =
      h.filter Happening.concernsData := by
  have hn : List.filter Happening.concernsData [.released id dial,
      .log .debug c.destination "remote connection driver finished"] = [] := rfl
  cases reading <;> cases writing <;> simp [continueWith, hn]

theorem dial?_driven {dial : Nat} (hd : c.dial? i dial = some (c', h)) :
    c.Driven i c' (h.filter Happening.concernsData) := by
  unfold dial? at hd
  split at hd
  · cases hd
    exact .dial ‹_›
  · cases hd

theorem connect?_driven {answer : DialAnswer} (hc : c.connect? answer = some (c', h)) :
    c.Driven i c' (h.filter Happening.concernsData) := by
  unfold connect? at hc
  split at hc
  · cases answer with
    | undecided => cases hc
    | accepted =>
      cases hc
      exact .connect ‹_›
    | refused err =>
      cases hc
      exact .refuse ‹_›
    | crashed =>
      cases hc
      have hs : (c.resolve (.ok ())).stop = c.stop := by
        cases hc : c.closed <;> simp [stop, resolve, hc]
      exact hs ▸ .refuse ‹_›
  · cases hc

theorem read?_driven (hr : c.read? i e = some p) :
    c.Driven i p.connection (p.happened.filter Happening.concernsData) := by
  unfold read? at hr
  split at hr
  · rename_i dial room writing hd
    split at hr
    · cases hr
    · cases hr
      rw [continueWith_connection, continueWith_happened]
      exact Driven.exhaust hd
    · cases hr
      rw [continueWith_connection, continueWith_happened]
      exact Driven.failRead hd
    · rename_i data e' he
      cases hr
      obtain ⟨hl, hn⟩ := Endpoint.read_chunk he
      rw [continueWith_connection, continueWith_happened]
      exact Driven.read hd hl hn
  · rename_i dial room item writing hd
    split at hr
    · cases hr
      rw [continueWith_connection, continueWith_happened]
      exact Driven.giveUp hd ‹_›
    split at hr
    · cases item with
      | ok data =>
        cases hr
        rw [continueWith_connection, continueWith_happened]
        exact Driven.hand hd ‹_› ‹_›
      | error err =>
        cases hr
        rw [continueWith_connection, continueWith_happened]
        exact Driven.handError hd ‹_› ‹_›
    · cases hr
  · cases hr

theorem write?_driven (hw : c.write? i e = some p) :
    c.Driven i p.connection (p.happened.filter Happening.concernsData) := by
  unfold write? at hw
  split at hw
  · rename_i dial reading hd
    split at hw
    · split at hw
      · cases hw
        rw [continueWith_connection, continueWith_happened]
        exact Driven.leaveOff hd ‹_› ‹_›
      · cases hw
    · cases hw
      rw [continueWith_connection, continueWith_happened]
      exact Driven.skip hd ‹_›
    · cases hw
      rw [continueWith_connection, continueWith_happened]
      exact Driven.pick hd ‹_›
  · rename_i dial reading rest hd
    split at hw
    · cases hw
    · cases hw
      rw [failWriting, continueWith_connection, continueWith_happened]
      exact Driven.failWrite hd
    · cases hw
      rw [failWriting, continueWith_connection, continueWith_happened]
      exact Driven.failWrite hd
    · cases hw
      rw [continueWith_connection, continueWith_happened]
      exact Driven.write hd
  · cases hw

theorem discard?_driven (hd : c.discard? i = some (c', h)) :
    c.Driven i c' (h.filter Happening.concernsData) := by
  unfold discard? at hd
  split at hd
  · have hs := Driven.discard (i := i) ‹_›
    split at hd <;> cases hd <;> exact hs
  · cases hd

end Connection

/-! ### Loops that have to wait -/

/-- A write waits only if the stream blocks. -/
theorem Endpoint.mode_of_write_pending {e e' : Endpoint} {bytes : Bytes}
    (h : e.write bytes = (.pending, e')) : e.mode = .blocks := by
  unfold write at h
  split at h
  · assumption
  all_goals cases h

/-- A write loop that has to wait has nothing to do, or its stream blocks. -/
theorem Connection.write?_eq_none {c : Connection} {i dial : Nat} {e : Endpoint}
    {reading : Reading} {writing : Writing} (hd : c.driver = .streaming dial reading writing)
    (h : c.write? i e = none) :
    writing = .ended ∨ writing = .idle ∧ c.outbox = [] ∨
      ∃ rest, writing = .sending rest ∧ e.mode = .blocks := by
  unfold write? at h
  rw [hd] at h
  cases writing with
  | ended => exact .inl rfl
  | idle =>
    cases ho : c.outbox with
    | nil => exact .inr (.inl ⟨rfl, rfl⟩)
    | cons chunk outbox => cases chunk <;> simp [ho] at h
  | sending rest =>
    refine .inr (.inr ⟨rest, rfl, ?_⟩)
    simp only at h
    split at h
    · exact Endpoint.mode_of_write_pending ‹_›
    all_goals cases h

/-- A read loop that has to wait has ended, or waits for its stream or for room. -/
theorem Connection.read?_eq_none {c : Connection} {i dial : Nat} {e : Endpoint}
    {reading : Reading} {writing : Writing} (hd : c.driver = .streaming dial reading writing)
    (h : c.read? i e = none) :
    reading = .ended ∨ (∃ room, reading = .reading room ∧ (e.read room).1 = .pending) ∨
      ∃ room item, reading = .handing room item ∧ c.reader ≠ .dropped ∧
        c.capacity ≤ c.inbox.length := by
  unfold read? at h
  rw [hd] at h
  cases reading with
  | ended => exact .inl rfl
  | reading room =>
    refine .inr (.inl ⟨room, rfl, ?_⟩)
    simp only at h
    split at h
    · simp [*]
    all_goals cases h
  | handing room item =>
    have hn : c.reader ≠ .dropped := by
      intro hn
      simp [hn] at h
    refine .inr (.inr ⟨room, item, rfl, hn, Nat.le_of_not_lt fun hr => ?_⟩)
    cases item <;> simp [hn, hr] at h

/-- A driver that has nothing to notice has an owner, or is gone. -/
theorem Connection.discard?_eq_none {c : Connection} {i : Nat} (hd : c.discarded = true)
    (h : c.discard? i = none) : c.driver = .stopped := by
  cases hdriver : c.driver with
  | stopped => rfl
  | starting | dialing | streaming => simp [discard?, hd, hdriver] at h

/-- One step of a driver changes one connection, by a step of the driver. -/
theorem Transport.step?_driven {t t' : Transport} {i : Nat} {part : Driver.Part}
    {h : List Happening} (hs : t.step? i part = some (t', h)) :
    ∃ c c', t.connections[i]? = some c ∧ t'.connections = t.connections.set i c' ∧
      c.Driven i c' (h.filter Happening.concernsData) := by
  unfold step? at hs
  obtain ⟨c, hc, hs⟩ := Option.bind_eq_some_iff.mp hs
  cases part with
  | dial =>
    obtain ⟨⟨c', h⟩, hd, hs⟩ := Option.map_eq_some_iff.mp hs
    cases hs
    exact ⟨c, c', hc, rfl, Connection.dial?_driven hd⟩
  | connect =>
    dsimp only at hs
    split at hs
    · obtain ⟨⟨c', h⟩, hd, hs⟩ := Option.map_eq_some_iff.mp hs
      cases hs
      exact ⟨c, c', hc, rfl, Connection.connect?_driven hd⟩
    · cases hs
  | read =>
    obtain ⟨dial, -, hs⟩ := Option.bind_eq_some_iff.mp hs
    obtain ⟨p, hd, hs⟩ := Option.map_eq_some_iff.mp hs
    cases hs
    exact ⟨c, p.connection, hc, rfl, Connection.read?_driven hd⟩
  | write =>
    obtain ⟨dial, -, hs⟩ := Option.bind_eq_some_iff.mp hs
    obtain ⟨p, hd, hs⟩ := Option.map_eq_some_iff.mp hs
    cases hs
    exact ⟨c, p.connection, hc, rfl, Connection.write?_driven hd⟩
  | discard =>
    obtain ⟨⟨c', h⟩, hd, hs⟩ := Option.map_eq_some_iff.mp hs
    cases hs
    exact ⟨c, c', hc, rfl, Connection.discard?_driven hd⟩

namespace Transport

/-! ### What a reader gets -/

variable {t : Transport} {i : Nat} {c : Connection} {inbox : List (Except IoError Bytes)}

theorem receive_pending (hc : t.connections[i]? = some c) (hi : c.inbox = [])
    (hr : c.readable = true) : (t.receive i).1 = .pending := by
  simp [receive, Connection.receive, hc, hi, hr]

theorem receive_ended (hc : t.connections[i]? = some c) (hi : c.inbox = [])
    (hr : c.readable = false) : t.receive i = (.ended, t.setConnection i c, []) := by
  simp [receive, Connection.receive, hc, hi, hr]

theorem receive_chunk {chunk : Bytes} (hc : t.connections[i]? = some c)
    (hi : c.inbox = .ok chunk :: inbox) :
    t.receive i = (.item (.ok chunk), t.setConnection i { c with inbox, delivered := true },
      [.handedOut i chunk]) := by
  simp [receive, Connection.receive, hc, hi]

theorem receive_error {err : IoError} (hc : t.connections[i]? = some c)
    (hi : c.inbox = .error err :: inbox) :
    t.receive i = (.item (.error err), t.setConnection i { c with inbox }, []) := by
  simp [receive, Connection.receive, hc, hi]

/-! ### What an owner's writes meet -/

/-- A connection takes a chunk, or its writable side is gone, or the write must wait for room. -/
theorem offer?_cases (chunk : Bytes) (hc : t.connections[i]? = some c) :
    match t.offer? i chunk with
    | none => c.writable = true ∧ c.capacity ≤ c.outbox.length
    | some (.ok (), result) => c.writable = true ∧ c.outbox.length < c.capacity ∧
        result = (t.modifyConnection i fun c => { c with outbox := c.outbox ++ [chunk] },
          [.written i chunk])
    | some (.error _, _) => c.writable = false := by
  unfold offer? Connection.offer?
  rw [hc]
  cases hw : c.writable with
  | false => simp [hw]
  | true =>
    by_cases hr : c.outbox.length < c.capacity
    · have hset : ∀ f : Connection → Connection,
          t.connections.set i (f c) = t.connections.modify i f := by
        intro f
        apply List.ext_getElem?
        grind
      simp [hw, hr, setConnection, modifyConnection, hset fun c => { c with
        outbox := c.outbox ++ [chunk] }]
    · simpa [hw, hr] using Nat.le_of_not_lt hr

end Transport

end Tunnel
