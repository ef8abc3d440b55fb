import Tunnel.Proofs.Line.Draining
import Tunnel.Proofs.Line.Writing
import Tunnel.Proofs.Relay.Shape

/-!
# The lines of a relay

A step of a relay does to each of its lines only what can happen to a line, and a new line starts
from nothing. So what is known of lines holds of all lines in a relay.

## Main definitions

* `Relay.Evolves` — what becomes of the lines while data moves.
* `Relay.Fits` — all lines fit with the history.

## Main statements

* `Relay.Step.evolves` — every step does to lines only what can happen to a line.
* `Relay.Step.fits` — a step keeps the fit.
-/

namespace Tunnel

namespace Line.Touches

variable {i : Nat} {l l' l'' : Line} {h h' : List Happening}

theorem refl : l.Touches i l [] := .none .nil

theorem single (t : l.Touch i l' h) : l.Touches i l' h := refl.touch t

theorem trans (s : l.Touches i l' h) (t : l'.Touches i l'' h') : l.Touches i l'' (h ++ h') := by
  induction t with
  | none he => exact s.elsewhere he
  | touch _ t ih => exact List.append_assoc .. ▸ ih.touch t
  | elsewhere _ he ih => exact List.append_assoc .. ▸ ih.elsewhere he

end Line.Touches

namespace Relay

/-- What becomes of the lines of a relay while this happens. -/
structure Evolves (r r' : Relay) (h : List Happening) : Prop where
  flow : r'.flow = r.flow ++ h
  line : ∀ i l, r.line? i = some l → ∃ l', r'.line? i = some l' ∧ l.Touches i l' h
  fresh : ∀ i l', r.line? i = none → r'.line? i = some l' →
    ∃ d capacity, (Line.fresh d capacity).Touches i l' h
  absent : ∀ i, r'.line? i = none → Elsewhere i h

namespace Evolves

variable {r r' r'' : Relay} {h h' : List Happening} {i : Nat} {l l' : Line}

theorem trans (s : Evolves r r' h) (t : Evolves r' r'' h') : Evolves r r'' (h ++ h') where
  flow := by rw [t.flow, s.flow, List.append_assoc]
  line i l hl := by
    obtain ⟨l', hl', ht⟩ := s.line i l hl
    obtain ⟨l'', hl'', ht'⟩ := t.line i l' hl'
    exact ⟨l'', hl'', ht.trans ht'⟩
  fresh i l'' hl hl'' := by
    cases hl' : r'.line? i with
    | none =>
      obtain ⟨d, capacity, ht⟩ := t.fresh i l'' hl' hl''
      exact ⟨d, capacity, (Line.Touches.none (s.absent i hl')).trans ht⟩
    | some l' =>
      obtain ⟨d, capacity, ht⟩ := s.fresh i l' hl hl'
      obtain ⟨m, hm, ht'⟩ := t.line i l' hl'
      obtain rfl : l'' = m := by simpa [hl''] using hm
      exact ⟨d, capacity, ht.trans ht'⟩
  absent i hl := by
    rw [Elsewhere.append_iff]
    refine ⟨?_, t.absent i hl⟩
    cases hl' : r'.line? i with
    | none => exact s.absent i hl'
    | some l' =>
      obtain ⟨l'', hl'', -⟩ := t.line i l' hl'
      simp [hl] at hl''

/-- One line changes, or none. -/
theorem of_touches (hf : r'.flow = r.flow ++ h) (hl : r.line? i = some l)
    (hl' : r'.line? i = some l') (ht : l.Touches i l' h)
    (hn : ∀ j, j ≠ i → r'.line? j = r.line? j ∧ Elsewhere j h) : Evolves r r' h where
  flow := hf
  line j m hm := by
    by_cases hj : j = i
    · subst hj
      obtain rfl : l = m := by simpa [hl] using hm
      exact ⟨l', hl', ht⟩
    · exact ⟨m, (hn j hj).1.trans hm, .none (hn j hj).2⟩
  fresh j m hm hm' := by
    by_cases hj : j = i
    · subst hj
      simp [hl] at hm
    · simp [(hn j hj).1, hm] at hm'
  absent j hm := by
    by_cases hj : j = i
    · subst hj
      simp [hl'] at hm
    · exact (hn j hj).2

/-- Nothing changes but what has happened elsewhere. -/
theorem of_elsewhere (hf : r'.flow = r.flow ++ h) (hn : ∀ j, r'.line? j = r.line? j)
    (he : ∀ j, Elsewhere j h) : Evolves r r' h where
  flow := hf
  line j m hm := ⟨m, (hn j).trans hm, .none (he j)⟩
  fresh j m hm hm' := by simp [hn, hm] at hm'
  absent j _ := he j

theorem withSession (s : Evolves r r' h) (session : Session) :
    Evolves r (r'.withSession session) h :=
  ⟨s.flow, s.line, s.fresh, s.absent⟩

theorem cancelling (s : Evolves r r' h) : Evolves r r'.cancelling h :=
  ⟨s.flow, s.line, s.fresh, s.absent⟩

theorem refl : Evolves r r [] := of_elsewhere (by simp) (fun _ => rfl) fun _ => .nil

theorem idle {asks : Bool} : Evolves r (r.after [] asks) [] :=
  of_elsewhere rfl (fun _ => rfl) fun _ => .nil

theorem taken {chunk : Bytes} {asks : Bool} :
    Evolves r (r.after [.taken chunk] asks) [.taken chunk] := by
  refine of_elsewhere rfl (fun _ => rfl) fun j => ?_
  simp [Happening.connection?]

theorem refused {c : Connection} {chunk : Bytes} {asks : Bool} (hc : r.connections[i]? = some c)
    (hw : c.writable = false) :
    Evolves r (r.after [.refused i chunk] asks) [.refused i chunk] := by
  have hl : r.line? i = some ⟨c, r.pumps[i]?⟩ := by simp [line?, hc]
  refine of_touches rfl hl hl (.single (.refuse hw)) fun j hj => ⟨rfl, ?_⟩
  simpa [Happening.connection?] using hj.symm

theorem own {asks : Bool} (hl : r.line? i = some l) (o : l.Own i l' h asks) :
    Evolves r ((r.setLine i l').after h asks) h := by
  have hs := line?_setLine hl o.pump_isSome
  refine of_touches rfl hl ((hs i).trans (if_pos rfl)) (.single (.own o)) fun j hj => ?_
  exact ⟨(hs j).trans (if_neg hj), o.elsewhere hj⟩

theorem modify {k : Option Nat} {f : Connection → Connection}
    (ht : ∀ i l, Line.Touch i l { l with connection := f l.connection } []) :
    Evolves r (r.modify k f) [] := by
  have hs : ∀ j, (r.modify k f).line? j =
      if k = some j then (r.line? j).map fun l => { l with connection := f l.connection }
      else r.line? j := by
    intro j
    simp only [line?, getElem?_modify_connections, modify_pumps]
    split
    · simp only [Option.map_map]
      rfl
    · rfl
  constructor
  · simp
  · intro i l hl
    rw [hs, hl]
    split
    · exact ⟨_, rfl, .single (ht i l)⟩
    · exact ⟨l, rfl, .refl⟩
  · intro i l hl hl'
    rw [hs, hl] at hl'
    split at hl' <;> cases hl'
  · exact fun _ _ => .nil

theorem write {c : Connection} {chunk : Bytes} (hc : r.connections[i]? = some c)
    (hw : c.writable = true) (hr : c.outbox.length < c.capacity) :
    Evolves r (r.write i chunk) [.written i chunk] := by
  have hl : r.line? i = some ⟨c, r.pumps[i]?⟩ := by simp [line?, hc]
  refine of_touches rfl hl ?_ (.single (.write hw hr)) fun j hj => ⟨?_, ?_⟩
  · simp [line?, getElem?_write_connections, hc]
  · simp [line?, getElem?_write_connections, hj.symm]
  · simpa [Happening.connection?] using hj.symm

theorem opening {d : Destination} (hp : r.pumps.length ≤ r.connections.length) :
    Evolves r (r.opening d) [.opened r.connections.length d] := by
  have hs : ∀ j, (r.opening d).line? j = if j = r.connections.length then
      some (Line.fresh d r.engine.capacity) else r.line? j := by
    intro j
    simp only [line?, getElem?_opening_connections, opening_pumps]
    split
    · simp [Line.fresh]
      omega
    · rfl
  have he : ∀ j, Elsewhere j [.opened r.connections.length d] := by
    simp [Happening.connection?]
  constructor
  · simp
  · intro i l hl
    have hi : i < r.connections.length := by
      by_contra hi
      rw [line?_eq_none_iff.mpr (by omega)] at hl
      cases hl
    exact ⟨l, by rw [hs, if_neg hi.ne, hl], .none (he i)⟩
  · intro i l hl hl'
    rw [hs, hl] at hl'
    split at hl' <;> cases hl'
    exact ⟨d, r.engine.capacity, .none (he i)⟩
  · exact fun i _ => he i

theorem pumping {c : Connection} (closesClient : Bool) (hi : i = r.pumps.length)
    (hc : r.connections[i]? = some c) (hr : c.reader = .held) :
    Evolves r (r.pumping i closesClient) [] := by
  subst hi
  have hl : r.line? r.pumps.length = some ⟨c, none⟩ := by simp [line?, hc]
  refine of_touches (by simp) hl ?_ (.single (.start closesClient rfl hr))
    fun j hj => ⟨?_, .nil⟩
  · simp [line?, getElem?_pumping_connections, hc]
  · simp only [line?, getElem?_pumping_connections, pumping_pumps, if_neg hj.symm]
    rw [List.getElem?_append]
    grind

end Evolves

variable {r r' : Relay}

/-- Every step does to the lines only what can happen to a line. -/
theorem Step.evolves (s : r.Step r') (h : r.Shape) : ∃ f, r.Evolves r' f := by
  have hs := h.stands
  cases s with
  | beside hl o => exact ⟨_, .own hl o⟩
  | idle => exact ⟨_, .refl⟩
  | abort | retry => exact ⟨_, Evolves.refl.withSession _⟩
  | hearEnd => exact ⟨_, (Evolves.refl.withSession _).trans .idle⟩
  | @takeFirst chunk hp _ hw _ =>
    have hn := hs.of_awaiting hp hw
    have ht : r.Evolves (r.after [.taken chunk] false) _ := .taken
    have ho := ht.trans (.opening (d := r.destination) (by simp [hn]))
    exact ⟨_, (ho.trans (.pumping false (by simp [hn]) getElem?_opening_self rfl)).withSession _⟩
  | crash => exact ⟨_, (Evolves.taken.trans (.modify fun _ _ => .drop)).withSession _⟩
  | takeNext => exact ⟨_, Evolves.taken.withSession _⟩
  | written _ _ hc hw hr => exact ⟨_, (Evolves.write hc hw hr).withSession _⟩
  | writeKept _ _ hc hw => exact ⟨_, (Evolves.refused hc hw).withSession _⟩
  | @writeLost i chunk _ _ _ hc hw =>
    have ht : r.Evolves (r.after [.refused i chunk] false) _ := .refused hc hw
    have hr := ht.trans (.modify (k := some i) fun _ _ => .drop)
    exact ⟨_, hr.cancelling.withSession _⟩
  | openFallback hp _ _ =>
    have hn := h.pumps_le
    have hc : r.Evolves _ _ := .modify (k := r.session.active) (f := (·.takeClosed.2))
      fun _ _ => .takeClosed
    exact ⟨_, (hc.trans (.opening (by simpa using hn))).withSession _⟩
  | replayed _ hc hw hr => exact ⟨_, (Evolves.write hc hw hr).withSession _⟩
  | replayStopped _ hc hw => exact ⟨_, (Evolves.refused hc hw).withSession _⟩
  | @adopt i c hp hc hr =>
    obtain ⟨hi, -, hm, -, -⟩ := hs.of_replaying hp
    have hi : i = r.pumps.length := hi.trans hm.symm
    have ht : r.Evolves _ _ := .modify (k := some i) (f := (·.takeClosed.2)) fun _ _ => .takeClosed
    have hc' : (r.modify (some i) (·.takeClosed.2)).connections[i]? = some c.takeClosed.2 := by
      rw [getElem?_modify_connections, if_pos rfl, hc]
      rfl
    have hk := ht.trans (.pumping true hi hc' hr)
    exact ⟨_, (hk.trans (.modify fun _ _ => .drop)).withSession _⟩
  | finish => exact ⟨_, (Evolves.idle.trans (.modify fun _ _ => .drop)).withSession _⟩
  | conclude => exact ⟨_, (Evolves.modify fun _ _ => .drop).withSession _⟩
  | abandon =>
    have hd : r.Evolves _ _ := .modify (k := r.session.target?) fun _ _ => .drop
    exact ⟨_, (hd.trans (.modify fun _ _ => .drop)).withSession _⟩

/-- All lines of a relay fit with its history. -/
structure Fits (r : Relay) : Prop where
  writeSide : ∀ i l, r.line? i = some l → l.WriteSide i r.flow
  readSide : ∀ i l, r.line? i = some l → l.ReadSide i r.flow
  parting : ∀ i l, r.line? i = some l → l.Parting i r.flow
  draining : ∀ i l, r.line? i = some l → l.Draining i r.flow
  absent : ∀ i, r.line? i = none → Elsewhere i r.flow

section

variable {i : Nat} {c : Connection}

theorem Fits.writeSide_of_connection (hf : r.Fits) (hc : r.connections[i]? = some c) :
    Line.WriteSide i ⟨c, r.pumps[i]?⟩ r.flow :=
  hf.writeSide i _ (line?_eq_some_iff.mpr ⟨hc, rfl⟩)

theorem Fits.readSide_of_connection (hf : r.Fits) (hc : r.connections[i]? = some c) :
    Line.ReadSide i ⟨c, r.pumps[i]?⟩ r.flow :=
  hf.readSide i _ (line?_eq_some_iff.mpr ⟨hc, rfl⟩)

theorem Fits.parting_of_pump {p : Pump} (hf : r.Fits) (hc : r.connections[i]? = some c)
    (hp : r.pumps[i]? = some p) : Line.Parting i ⟨c, some p⟩ r.flow :=
  hf.parting i _ (line?_eq_some_iff.mpr ⟨hc, hp⟩)

theorem Fits.draining_of_pump {p : Pump} (hf : r.Fits) (hc : r.connections[i]? = some c)
    (hp : r.pumps[i]? = some p) : Line.Draining i ⟨c, some p⟩ r.flow :=
  hf.draining i _ (line?_eq_some_iff.mpr ⟨hc, hp⟩)

theorem Fits.readSide_of_pump {p : Pump} (hf : r.Fits) (hc : r.connections[i]? = some c)
    (hp : r.pumps[i]? = some p) : Line.ReadSide i ⟨c, some p⟩ r.flow :=
  hf.readSide i _ (line?_eq_some_iff.mpr ⟨hc, hp⟩)

/-- What a connection says of its reader agrees with the history. -/
theorem Fits.delivered_iff (hf : r.Fits) (hc : r.connections[i]? = some c) :
    r.delivered i = true ↔ passed (.handedOut i) r.flow ≠ [] := by
  simpa [delivered, hc] using (hf.readSide_of_connection hc).connection.delivered

end

/-- What is kept on a line, and holds of a new one, goes on to hold of all lines. -/
theorem Evolves.keep {P : Nat → Line → List Happening → Prop} {f : List Happening}
    (s : Evolves r r' f)
    (hkeep : ∀ {i l l' h h'}, Line.Touches i l l' h' → P i l h → P i l' (h ++ h'))
    (hfresh : ∀ i d capacity, Elsewhere i r.flow → P i (.fresh d capacity) r.flow)
    (ha : ∀ i, r.line? i = none → Elsewhere i r.flow)
    (hp : ∀ i l, r.line? i = some l → P i l r.flow) (i : Nat) (l' : Line)
    (hl' : r'.line? i = some l') : P i l' r'.flow := by
  rw [s.flow]
  cases hl : r.line? i with
  | some l =>
    obtain ⟨m, hm, ht⟩ := s.line i l hl
    obtain rfl : l' = m := by simpa [hl'] using hm
    exact hkeep ht (hp i l hl)
  | none =>
    obtain ⟨d, capacity, ht⟩ := s.fresh i l' hl hl'
    exact hkeep ht (hfresh i d capacity (ha i hl))

/-- Nothing gets lost on a line that fits in all other ways. -/
theorem Evolves.draining {f : List Happening} (s : Evolves r r' f) (h : r.Fits) (i : Nat)
    (l' : Line) (hl' : r'.line? i = some l') : l'.Draining i r'.flow := by
  have hkeep := s.keep (P := fun i l h => l.ReadSide i h ∧ l.Parting i h ∧ l.Draining i h)
    (fun t ⟨hr, hp, hd⟩ => ⟨t.readSide hr, t.parting hp, t.draining hr hp hd⟩)
    (fun _ d capacity he => ⟨(Line.ReadSide.fresh d capacity).elsewhere he,
      (Line.Parting.fresh d capacity).append _, (Line.Draining.fresh d capacity).elsewhere he⟩)
    h.absent fun i l hl => ⟨h.readSide i l hl, h.parting i l hl, h.draining i l hl⟩
  exact (hkeep i l' hl').2.2

theorem Evolves.fits {f : List Happening} (s : Evolves r r' f) (h : r.Fits) : r'.Fits where
  writeSide := s.keep Line.Touches.writeSide (fun _ d capacity he =>
    (Line.WriteSide.fresh d capacity).elsewhere he) h.absent h.writeSide
  readSide := s.keep Line.Touches.readSide (fun _ d capacity he =>
    (Line.ReadSide.fresh d capacity).elsewhere he) h.absent h.readSide
  parting := s.keep Line.Touches.parting (fun _ d capacity _ =>
    (Line.Parting.fresh d capacity).append _) h.absent h.parting
  draining := s.draining h
  absent i hl' := by
    rw [s.flow, Elsewhere.append_iff]
    refine ⟨h.absent i ?_, s.absent i hl'⟩
    cases hl : r.line? i with
    | none => rfl
    | some l =>
      obtain ⟨m, hm, -⟩ := s.line i l hl
      simp [hl'] at hm

theorem Step.fits (s : r.Step r') (h : r.Shape) (hf : r.Fits) : r'.Fits :=
  let ⟨_, e⟩ := s.evolves h
  e.fits hf

theorem fits_start {σ : Type} (engine : Engine) (d : Destination) (client : σ)
    (eventCapacity : Nat) (peers : List Peer) :
    (World.start engine d client eventCapacity peers).relay.Fits := by
  constructor <;> simp [World.start, World.relay, World.history, line?]

/-- Without a pump, a reader has handed out nothing. -/
theorem Fits.handedOut_of_no_pump {i : Nat} (hf : r.Fits) (hp : r.pumps[i]? = none) :
    passed (.handedOut i) r.flow = [] := by
  cases hl : r.line? i with
  | none => exact (hf.absent i hl).passed_eq_nil (by simp)
  | some l =>
    exact ((hf.readSide i l hl).idle ((line?_eq_some_iff.mp hl).2.symm.trans hp)).1

/-- The reader of a pump that finished without a chunk has handed out nothing. -/
theorem Fits.handedOut_of_ended {p : Pump} {k : Nat} (hf : r.Fits) (h : r.Shape)
    (hp : r.pumps[k]? = some p) (he : p.phase = .ended (.finished false)) :
    passed (.handedOut k) r.flow = [] := by
  obtain ⟨c, hc⟩ := h.connection_of_pump hp
  have hs := hf.readSide_of_pump hc hp
  have hd := (hs.finished p false rfl (.inr he)).1
  rw [hs.delivered p rfl, eq_comm] at hd
  have := hs.connection.delivered
  rw [hd] at this
  simpa using this

end Relay

end Tunnel
