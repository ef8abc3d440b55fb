import Tunnel.Proofs.Link.Basic

/-!
# What a reader gets

The items that a stream has yielded wait in the read loop's hand and in the queue until the reader
hands them out, in order; an error is the last of them. When the read loop ends, the outcome is
settled, once and for all, and the reader gets what is queued and then the end for ever.

## Main definitions

* `Link.arrived`, `Link.handed`, `Link.receipts` — the items that were read and handed out, and all
  that the reader was told.
* `Link.Items`, `Link.Signal`, `Link.Told` — how these and the connection fit together.
* `Link.Spent` — where an item goes that is the last to be read.

## Main statements

* `Link.Step.items`, `Link.Step.signal`, `Link.Step.told` — every step keeps this.
-/

namespace Tunnel

/-- Whether the end follows for ever. -/
def Receipt.final : Receipt → Bool
  | .ended | .item (.error _) => true
  | .item (.ok _) | .pending => false

/-- Whether this is the end. -/
def Receipt.isEnd : Receipt → Bool
  | .ended => true
  | .item _ | .pending => false

namespace Link

namespace Entry

/-- The item that was read. -/
def arrived? : Entry → Option (Except IoError Bytes)
  | .read answer => answer.item?
  | _ => none

/-- The item that was handed out. -/
def handed? : Entry → Option (Except IoError Bytes)
  | .received (.item item) => some item
  | _ => none

/-- What the reader was told. -/
def receipt? : Entry → Option Receipt
  | .received receipt => some receipt
  | _ => none

/-- The answer to the dial. -/
def answer? : Entry → Option DialAnswer
  | .answered answer => some answer
  | _ => none

end Entry

/-- The items that were read, in order. -/
def arrived (log : List Entry) : List (Except IoError Bytes) := log.filterMap Entry.arrived?

/-- The items that the reader handed out, in order. -/
def handed (log : List Entry) : List (Except IoError Bytes) := log.filterMap Entry.handed?

/-- All that the reader was told, in order. -/
def receipts (log : List Entry) : List Receipt := log.filterMap Entry.receipt?

/-- The answers to the dial that the driver has learned. -/
def answers (log : List Entry) : List DialAnswer := log.filterMap Entry.answer?

/-- The first outcome that was settled. -/
def outcome? (log : List Entry) : Option (Except IoError Unit) := log.findSome? Entry.outcome?

section log

variable (log es : List Entry) (h : List Happening)

@[simp] theorem arrived_append : arrived (log ++ es) = arrived log ++ arrived es :=
  List.filterMap_append

@[simp] theorem handed_append : handed (log ++ es) = handed log ++ handed es :=
  List.filterMap_append

@[simp] theorem receipts_append : receipts (log ++ es) = receipts log ++ receipts es :=
  List.filterMap_append

@[simp] theorem answers_append : answers (log ++ es) = answers log ++ answers es :=
  List.filterMap_append

@[simp] theorem outcome?_append : outcome? (log ++ es) = (outcome? log).or (outcome? es) :=
  List.findSome?_append

/-- What the driver shows is none of this. -/
@[simp] theorem shown_eq_nil : arrived (h.map .shown) = [] ∧ handed (h.map .shown) = [] ∧
    receipts (h.map .shown) = [] ∧ answers (h.map .shown) = [] ∧
    outcome? (h.map .shown) = none := by
  induction h with
  | nil => exact ⟨rfl, rfl, rfl, rfl, rfl⟩
  | cons e h ih => exact ih

end log

variable {c c' : Connection} {e e' : Endpoint} {t log es : List Entry} {h : List Happening}
  {l l' : Link} {u : Use}

/-- The driver hands nothing out. -/
theorem ReadMove.silent (m : ReadMove c e c' e' t) : handed t = [] ∧ receipts t = [] := by
  cases m <;> exact ⟨rfl, rfl⟩

/-! ### Items -/

/-- How the items that were read and handed out fit the connection. -/
structure Items (c : Connection) (log : List Entry) : Prop where
  /-- While the read loop goes on or the owner is there, nothing is lost on the way to a reader. -/
  whole : c.readable = true ∨ c.discarded = false → c.reader ≠ .dropped →
    handed log ++ (c.inbox ++ c.inHand) = arrived log
  handed_isPrefix : handed log ++ c.inbox <+: arrived log
  /-- The read loop goes on only after chunks. -/
  going : c.readable = true → (∀ item ∈ c.inHand, item.isOk = true) →
    ∀ item ∈ arrived log, item.isOk = true
  /-- An error is the last item. -/
  errors : (arrived log).Pairwise fun item _ => item.isOk = true
  queued : c.readable = true → ∀ item ∈ handed log ++ c.inbox, item.isOk = true
  undecided : c.readLoop = none → arrived log = []
  dropped : c.reader = .dropped → c.inbox = []
  capacity : 0 < c.capacity

/-- What a step of the driver does to the items: nothing, or one arrives in the read loop's hand, or
one goes from there to the queue. -/
inductive ItemMove (c c' : Connection) (t : List Entry) : Prop
  | none : c'.inbox = c.inbox → arrived t = [] →
      (c'.readable = true → c.readable = true ∧ c'.inHand = c.inHand) →
      (c.discarded = false → c.reader ≠ .dropped → c'.inHand = c.inHand) →
      (c'.readLoop = .none → c.readLoop = .none) → ItemMove c c' t
  | arrive {item : Except IoError Bytes} : c.readable = true → c.inHand = [] →
      c'.inbox = c.inbox → c'.inHand = [item] → c'.readLoop.isSome → arrived t = [item] →
      ItemMove c c' t
  | queue {item : Except IoError Bytes} : c.readable = true → c.inHand = [item] →
      c.reader ≠ .dropped → c'.inbox = c.inbox ++ [item] → c'.inHand = [] →
      c'.readable = item.isOk → c'.readLoop.isSome → arrived t = [] → ItemMove c c' t

theorem ReadMove.items (m : ReadMove c e c' e' t) : ItemMove c c' t := by
  cases m with
  | still hl hi =>
    have hr : c'.readable = c.readable := by simp [Connection.readable_eq, hl]
    have hh : c'.inHand = c.inHand := by simp [Connection.inHand_eq, hl]
    exact .none hi rfl (fun h => ⟨hr ▸ h, hh⟩) (fun _ _ => hh) (fun h => hl ▸ h)
  | connect hl hi hl' =>
    exact .none hi rfl
      (by simp [Connection.readable_eq, Connection.inHand_eq, hl, hl', Reading.item])
      (by simp [Connection.inHand_eq, hl, hl', Reading.item]) (by simp [hl'])
  | refuse hl hi hd =>
    have hl' := Connection.readLoop_of_stopped hd
    exact .none hi rfl (by simp [Connection.readable_eq, hl', Reading.live])
      (by simp [Connection.inHand_eq, hl, hl', Reading.item]) (by simp [hl'])
  | exhaust hl hi _ hl' =>
    exact .none hi rfl (by simp [Connection.readable_eq, hl', Reading.live])
      (by simp [Connection.inHand_eq, hl, hl', Reading.item]) (by simp [hl'])
  | @arrive _ room answer item hl hi _ ha hl' =>
    have hhand : c'.inHand = [item] := by
      rw [Connection.inHand_eq, hl']
      rfl
    exact .arrive (by simp [Connection.readable_eq, hl, Reading.live])
      (by simp [Connection.inHand_eq, hl, Reading.item]) hi hhand (by simp [hl'])
      (by simp [arrived, Entry.arrived?, ha])
  | @queue room item hl hi hr _ hl' =>
    refine .queue (by simp [Connection.readable_eq, hl, Reading.live])
      (by simp [Connection.inHand_eq, hl, Reading.item]) hr hi ?_ ?_ (by simp [hl']) rfl
    · cases item <;> simp [Connection.inHand_eq, hl', Connection.afterItem, Reading.item]
    · cases item <;> simp [Connection.readable_eq, hl', Connection.afterItem, Reading.live,
        Except.isOk, Except.toBool]
  | giveUp hl hi hr hl' =>
    exact .none hi rfl (by simp [Connection.readable_eq, hl', Reading.live])
      (fun _ hn => absurd hr hn) (by simp [hl'])
  | discard hg hi hd =>
    have hl' := Connection.readLoop_of_stopped hd
    exact .none hi rfl (by simp [Connection.readable_eq, hl', Reading.live])
      (by simp [hg]) (by simp [hl'])

namespace Items

/-- What leaves the items where they are goes by, even if the read loop ends. -/
theorem still (s : Items c log) (hh : handed es = []) (ha : arrived es = [])
    (hi : c'.inbox = c.inbox) (hg : c.discarded = true → c'.discarded = true)
    (hn : c'.reader = .dropped ↔ c.reader = .dropped) (hc : c'.capacity = c.capacity)
    (hr : c'.readable = true → c.readable = true ∧ c'.inHand = c.inHand)
    (hw : c'.discarded = false → c.reader ≠ .dropped → c'.inHand = c.inHand)
    (hu : c'.readLoop = none → c.readLoop = none) : Items c' (log ++ es) := by
  have hhanded : handed (log ++ es) = handed log := by simp [hh]
  have harrived : arrived (log ++ es) = arrived log := by simp [ha]
  refine ⟨?_, ?_, ?_, ?_, ?_, ?_, ?_, ?_⟩
  · rw [hhanded, harrived, hi]
    rintro (hr' | hd) hn'
    · obtain ⟨hr', hsame⟩ := hr hr'
      rw [hsame]
      exact s.whole (.inl hr') (mt hn.mpr hn')
    · rw [hw hd (mt hn.mpr hn')]
      refine s.whole (.inr ?_) (mt hn.mpr hn')
      by_contra hd'
      simp [hg (by simpa using hd')] at hd
  · rw [hhanded, harrived, hi]
    exact s.handed_isPrefix
  · rw [harrived]
    intro hr' hok
    obtain ⟨hr', hsame⟩ := hr hr'
    exact s.going hr' (hsame ▸ hok)
  · rw [harrived]
    exact s.errors
  · rw [hhanded, hi]
    exact fun hr' => s.queued (hr hr').1
  · rw [harrived]
    exact fun hl => s.undecided (hu hl)
  · rw [hn, hi]
    exact s.dropped
  · rw [hc]
    exact s.capacity

/-- An item arrives in the read loop's hand. -/
theorem arrive {item : Except IoError Bytes} (s : Items c log) (hh : handed es = [])
    (ha : arrived es = [item]) (hr : c.readable = true) (hc : c.inHand = [])
    (hi : c'.inbox = c.inbox) (hc' : c'.inHand = [item]) (hl : c'.readLoop.isSome)
    (hn : c'.reader = c.reader) (hcapacity : c'.capacity = c.capacity) :
    Items c' (log ++ es) := by
  have hhanded : handed (log ++ es) = handed log := by simp [hh]
  have harrived : arrived (log ++ es) = arrived log ++ [item] := by simp [ha]
  have hgoing := s.going hr (by simp [hc])
  refine ⟨?_, ?_, ?_, ?_, ?_, ?_, ?_, ?_⟩
  · rw [hhanded, harrived, hn, hi, hc']
    intro _ hn'
    rw [← s.whole (.inl hr) hn', hc]
    simp
  · rw [hhanded, harrived, hi]
    exact s.handed_isPrefix.trans (List.prefix_append _ _)
  · rw [harrived, hc']
    intro _ hok x hx
    rcases List.mem_append.mp hx with hx | hx
    · exact hgoing x hx
    · exact hok x hx
  · rw [harrived]
    refine List.pairwise_append.mpr ⟨s.errors, List.pairwise_singleton _ _, ?_⟩
    exact fun x hx _ _ => hgoing x hx
  · rw [hhanded, hi]
    exact fun _ => s.queued hr
  · intro hn'
    simp [hn'] at hl
  · rw [hn, hi]
    exact s.dropped
  · rw [hcapacity]
    exact s.capacity

/-- The item in the read loop's hand is queued. -/
theorem queue {item : Except IoError Bytes} (s : Items c log) (hh : handed es = [])
    (ha : arrived es = []) (hr : c.readable = true) (hc : c.inHand = [item])
    (hn : c.reader ≠ .dropped) (hi : c'.inbox = c.inbox ++ [item]) (hc' : c'.inHand = [])
    (hr' : c'.readable = item.isOk) (hl : c'.readLoop.isSome) (hn' : c'.reader = c.reader)
    (hcapacity : c'.capacity = c.capacity) : Items c' (log ++ es) := by
  have hhanded : handed (log ++ es) = handed log := by simp [hh]
  have harrived : arrived (log ++ es) = arrived log := by simp [ha]
  have hwhole := s.whole (.inl hr) hn
  rw [hc] at hwhole
  have hgoing : c'.readable = true → ∀ x ∈ arrived log, x.isOk = true := fun hok =>
    s.going hr (by simpa [hc] using hr'.symm.trans hok)
  refine ⟨?_, ?_, ?_, ?_, ?_, ?_, ?_, ?_⟩
  · rw [hhanded, harrived, hi, hc', List.append_nil]
    exact fun _ _ => hwhole
  · rw [hhanded, harrived, hi, hwhole]
  · rw [harrived]
    exact fun hok _ => hgoing hok
  · rw [harrived]
    exact s.errors
  · rw [hhanded, hi, hwhole]
    exact hgoing
  · intro hl'
    simp [hl'] at hl
  · rw [hn']
    exact fun hd => absurd hd hn
  · rw [hcapacity]
    exact s.capacity

/-- A step of the driver. -/
theorem drive (s : Items c log) (d : Driven c e c' e' t h) :
    Items c' (log ++ (t ++ h.map .shown)) := by
  obtain ⟨hcapacity, hdiscarded, hreader, -⟩ := d.driven.frame
  have hh : handed (t ++ h.map .shown) = [] := by simp [d.move.silent.1]
  have ha : arrived (t ++ h.map .shown) = arrived t := by simp
  cases d.move.items with
  | none hi ht hr hw hu =>
    exact s.still hh (ha.trans ht) hi (by simp [hdiscarded]) (by simp [hreader]) hcapacity hr
      (hdiscarded ▸ hw) hu
  | arrive hr hc hi hc' hl ht =>
    exact s.arrive hh (ha.trans ht) hr hc hi hc' hl hreader hcapacity
  | queue hr hc hn hi hc' hr' hl ht =>
    exact s.queue hh (ha.trans ht) hr hc hn hi hc' hr' hl hreader hcapacity

/-- The read loop has ended with an error, and nothing is queued behind it. -/
theorem last {err : IoError} {inbox : List (Except IoError Bytes)} (s : Items c log)
    (hi : c.inbox = .error err :: inbox) : c.readable = false ∧ inbox = [] := by
  constructor
  · by_contra hr
    have hok := s.queued (by simpa using hr) (.error err) (by simp [hi])
    cases hok
  · have he := s.errors.sublist s.handed_isPrefix.sublist
    rw [hi, List.pairwise_append, List.pairwise_cons] at he
    exact List.eq_nil_iff_forall_not_mem.mpr fun item hm => Bool.false_ne_true (he.2.1.1 item hm)

/-- The reader hands an item out. -/
theorem handOut {item : Except IoError Bytes} {inbox : List (Except IoError Bytes)} {v : Bool}
    (s : Items c log) (hi : c.inbox = item :: inbox) :
    Items { c with inbox, delivered := v } (log ++ [.received (.item item)]) := by
  have hh : handed (log ++ [.received (.item item)]) = handed log ++ [item] := by
    simp [handed, Entry.handed?]
  have ha : arrived (log ++ [.received (.item item)]) = arrived log := by
    simp [arrived, Entry.arrived?]
  refine ⟨?_, ?_, ?_, ?_, ?_, ?_, ?_, s.capacity⟩
  · rw [hh, ha]
    intro hr hn
    rw [← s.whole hr hn, hi]
    simp [Connection.inHand]
  · rw [hh, ha]
    simpa [hi] using s.handed_isPrefix
  · rw [ha]
    exact s.going
  · rw [ha]
    exact s.errors
  · intro hr
    have hq := s.queued hr
    simpa [hh, hi] using hq
  · rw [ha]
    exact s.undecided
  · intro hd
    simp [s.dropped hd] at hi

/-- What concerns neither the items nor the read loop goes by. -/
theorem congr (s : Items c log) (hh : handed es = []) (ha : arrived es = [])
    (hd : c'.driver = c.driver) (hi : c'.inbox = c.inbox)
    (hg : c.discarded = true → c'.discarded = true)
    (hn : c'.reader = .dropped ↔ c.reader = .dropped) (hc : c'.capacity = c.capacity) :
    Items c' (log ++ es) := by
  have hl : c'.readLoop = c.readLoop := by simp [Connection.readLoop, hd]
  have hreadable : c'.readable = c.readable := by simp [Connection.readable_eq, hl]
  have hhand : c'.inHand = c.inHand := by simp [Connection.inHand_eq, hl]
  exact s.still hh ha hi hg hn hc (fun hr => ⟨hreadable ▸ hr, hhand⟩) (fun _ _ => hhand)
    (fun hu => hl ▸ hu)

/-- The reader goes away. -/
theorem dropReader (s : Items c log) : Items c.dropReader log where
  whole _ hn := absurd rfl hn
  handed_isPrefix := by
    simpa [Connection.dropReader] using (List.prefix_append _ _).trans s.handed_isPrefix
  going := s.going
  errors := s.errors
  queued hr := by
    have hq := s.queued hr
    simp only [List.mem_append, or_imp, forall_and] at hq
    simpa [Connection.dropReader] using hq.1
  undecided := s.undecided
  dropped _ := rfl
  capacity := s.capacity

/-- The owner drops the connection. -/
theorem discard (s : Items c log) : Items { c with discarded := true } (log ++ []) :=
  s.congr rfl rfl rfl rfl (fun _ => rfl) .rfl rfl

theorem fresh (d : Destination) (capacity : Nat) : Items (.fresh d capacity) [] := by
  refine ⟨fun _ _ => rfl, List.nil_prefix, ?_, .nil, ?_, fun _ => rfl, fun _ => rfl, ?_⟩
  · simp [arrived]
  · simp [handed, Connection.fresh]
  · exact Nat.lt_of_lt_of_le Nat.zero_lt_one (Nat.le_max_right _ _)

end Items

/-- Every step keeps the items together. -/
theorem Step.items (s : Items l.connection log) (st : l.Step u l' es) :
    Items l'.connection (log ++ es) := by
  cases st with
  | drive d => exact s.drive d
  | handOut hi => exact s.handOut hi
  | takeReader hr => exact s.congr rfl rfl rfl rfl id (by simp [hr]) rfl
  | dropReader => simpa using s.dropReader
  | drop => exact s.discard
  | dropBoth => exact s.discard.dropReader
  | turn | call | write | refuse | resume | turnAway | abandon | finish | pend | keepReader
  | takeClosed =>
    exact s.congr rfl rfl rfl rfl id .rfl rfl

/-! ### The outcome -/

/-- Where the last item goes: the read loop has it in hand, or it has settled the outcome, unless
the driver was discarded. -/
def Spent (item : Except IoError Bytes) (c : Connection) (log : List Entry) : Prop :=
  c.inHand = [item] ∨ c.closed = some (item.map fun _ => ()) ∨ .discarded ∈ log

theorem Spent.congr {item : Except IoError Bytes} (s : Spent item c log)
    (hd : c'.driver = c.driver) (hc : c'.closed = c.closed) : Spent item c' (log ++ es) := by
  have hhand : c'.inHand = c.inHand := by simp [Connection.inHand, hd]
  unfold Spent at s ⊢
  rw [hhand, hc]
  exact s.imp_right (.imp_right (List.mem_append_left es))

/-- How the outcome and the answer to the dial fit the connection. -/
structure Signal (c : Connection) (log : List Entry) : Prop where
  closed : c.closed = outcome? log
  /-- The outcome is settled when the read loop ends. -/
  readable : c.readable = true ↔ c.closed = none
  undecided : c.readLoop = none → answers log = []
  once : (answers log).length ≤ 1
  refused : ∀ answer ∈ answers log, answer ≠ .accepted → c.driver = .stopped ∧ arrived log = []
  discarded : .discarded ∈ log → c.discarded = true
  gaveUp : ∀ item, .gaveUp item ∈ log → c.reader = .dropped
  /-- What settles an outcome comes first, unless it is that the driver was discarded. -/
  settled : ∀ en ∈ log, en ≠ .discarded → ∀ outcome, en.outcome? = some outcome →
    c.closed = some outcome
  failed : ∀ err, .error err ∈ arrived log → Spent (.error err) c log

/-- The read loop ends as soon as the outcome is settled. -/
theorem ReadMove.settles (m : ReadMove c e c' e' t) :
    c'.readable = (c.readable && (outcome? t).isNone) := by
  cases m with
  | still hl => simp [Connection.readable_eq, hl, outcome?]
  | connect hl _ hl' =>
    simp [Connection.readable_eq, hl, hl', outcome?, Entry.outcome?, Reading.live]
  | @refuse answer hl _ hd _ ho =>
    obtain ⟨outcome, ho⟩ := Option.isSome_iff_exists.mp ho
    simp [Connection.readable_eq, Connection.readLoop_of_stopped hd, outcome?, ho, Reading.live]
  | @arrive _ room answer item hl _ _ ha hl' =>
    cases answer with
    | pending | ended => cases ha
    | failed | chunk =>
      simp [Connection.readable_eq, hl, hl', outcome?, Entry.outcome?, Reading.live]
  | @queue room item hl _ _ _ hl' =>
    cases item <;> simp [Connection.readable_eq, hl, hl', outcome?, Entry.outcome?, Reading.live,
      Connection.afterItem]
  | exhaust hl _ _ hl' | giveUp hl _ _ hl' =>
    simp [Connection.readable_eq, hl', outcome?, Entry.outcome?, Reading.live]
  | discard _ _ hd =>
    simp [Connection.readable_eq, Connection.readLoop_of_stopped hd, outcome?, Entry.outcome?,
      Reading.live]

/-- The driver learns the answer to its dial once, and is gone unless it was accepted. -/
theorem ReadMove.answers (m : ReadMove c e c' e' t) :
    (c'.readLoop = none → c.readLoop = none ∧ answers t = []) ∧
    (answers t = [] ∨ c.readLoop = none ∧ ∃ answer, answers t = [answer] ∧ arrived t = [] ∧
      (answer ≠ .accepted → c'.driver = .stopped)) := by
  cases m with
  | still hl => exact ⟨fun hn => ⟨hl ▸ hn, rfl⟩, .inl rfl⟩
  | connect hl _ hl' => exact ⟨by simp [hl'], .inr ⟨hl, _, rfl, rfl, fun hn => absurd rfl hn⟩⟩
  | refuse hl _ hd =>
    exact ⟨by simp [Connection.readLoop_of_stopped hd], .inr ⟨hl, _, rfl, rfl, fun _ => hd⟩⟩
  | exhaust _ _ _ hl' | arrive _ _ _ _ hl' | queue _ _ _ _ hl' | giveUp _ _ _ hl' =>
    exact ⟨by simp [hl'], .inl rfl⟩
  | discard _ _ hd => exact ⟨by simp [Connection.readLoop_of_stopped hd], .inl rfl⟩

/-- What a driver gives up, it gives up for its owner or its reader. -/
theorem ReadMove.leaves (m : ReadMove c e c' e' t) :
    (.discarded ∈ t → c.discarded = true) ∧ ∀ item, .gaveUp item ∈ t → c.reader = .dropped := by
  cases m with
  | giveUp _ _ hr => exact ⟨by simp, fun _ _ => hr⟩
  | discard hd => exact ⟨fun _ => hd, by simp⟩
  | still | connect | refuse | exhaust | arrive | queue => simp

/-- What settles an outcome finds the read loop at work, unless the driver is discarded. -/
theorem ReadMove.outcome {en : Entry} {outcome : Except IoError Unit} (m : ReadMove c e c' e' t)
    (hm : en ∈ t) (hne : en ≠ .discarded) (ho : en.outcome? = some outcome) :
    c.readable = true ∧ outcome? t = some outcome := by
  cases m with
  | still => cases hm
  | discard => exact absurd (List.mem_singleton.mp hm) hne
  | connect hl | refuse hl | exhaust hl | arrive hl | queue hl | giveUp hl =>
    obtain rfl := List.mem_singleton.mp hm
    exact ⟨by simp [Connection.readable_eq, hl, Reading.live], by simp [outcome?, ho]⟩

/-- An error, and an item that finds no reader, settle the outcome when they leave the read loop's
hand, unless the driver is discarded. -/
theorem ReadMove.spends {item : Except IoError Bytes} (m : ReadMove c e c' e' t)
    (hh : c.inHand = [item]) (hn : item.isOk = false ∨ c.reader = .dropped) :
    c'.inHand = [item] ∨ c.readable = true ∧ outcome? t = some (item.map fun _ => ()) ∨
      .discarded ∈ t := by
  cases m with
  | still hl =>
    left
    rw [Connection.inHand_eq] at hh ⊢
    rw [hl, hh]
  | connect hl | refuse hl | exhaust hl | arrive hl =>
    simp [Connection.inHand_eq, hl, Reading.item] at hh
  | @queue _ held hl _ hr =>
    obtain rfl := by simpa [Connection.inHand_eq, hl, Reading.item] using hh
    refine .inr (.inl ⟨by simp [Connection.readable_eq, hl, Reading.live], ?_⟩)
    cases held with
    | ok data => simp [hr, Except.isOk, Except.toBool] at hn
    | error err => rfl
  | giveUp hl =>
    obtain rfl := by simpa [Connection.inHand_eq, hl, Reading.item] using hh
    exact .inr (.inl ⟨by simp [Connection.readable_eq, hl, Reading.live], rfl⟩)
  | discard => exact .inr (.inr (List.mem_singleton_self _))

/-- What a step tells settles the outcome, if it is not settled yet. -/
theorem Driven.closed_eq (d : Driven c e c' e' t h) (hs : c.readable = true ↔ c.closed = none) :
    c'.closed = c.closed.or (outcome? t) :=
  d.closed fun hr => by
    rw [Option.isSome_iff_ne_none]
    intro hn
    simp [hs.mpr hn] at hr

/-- Errors, and items that find no reader, are spent. -/
theorem Driven.spent {p : Except IoError Bytes → Prop} (d : Driven c e c' e' t h)
    (hs : c.readable = true ↔ c.closed = none)
    (hn : ∀ item, p item → item.isOk = false ∨ c.reader = .dropped)
    (hl : ∀ item ∈ arrived log, p item → Spent item c log) :
    ∀ item ∈ arrived (log ++ (t ++ h.map .shown)), p item →
      Spent item c' (log ++ (t ++ h.map .shown)) := by
  have hclosed := d.closed_eq hs
  have hold : ∀ item, p item → Spent item c log →
      Spent item c' (log ++ (t ++ h.map .shown)) := by
    rintro item hp (hh | hc | hd)
    · rcases d.move.spends hh (hn item hp) with hh | ⟨hr, ho⟩ | hd
      · exact .inl hh
      · exact .inr (.inl (by rw [hclosed, hs.mp hr, ho, Option.none_or]))
      · exact .inr (.inr (by simp [hd]))
    · exact .inr (.inl (by rw [hclosed, hc, Option.some_or]))
    · exact .inr (.inr (by simp [hd]))
  intro item hm hp
  simp only [arrived_append, shown_eq_nil, List.append_nil] at hm
  cases d.move.items with
  | none _ ht | queue _ _ _ _ _ _ _ ht =>
    exact hold item hp (hl item (by simpa [ht] using hm) hp)
  | arrive _ _ _ hh _ ht =>
    rcases List.mem_append.mp hm with hm | hm
    · exact hold item hp (hl item hm hp)
    · obtain rfl := List.mem_singleton.mp (ht ▸ hm)
      exact .inl hh

namespace Signal

theorem drive (s : Signal c log) (n : Items c log) (d : Driven c e c' e' t h) :
    Signal c' (log ++ (t ++ h.map .shown)) := by
  have hclosed := d.closed_eq s.readable
  have hsettles := d.move.settles
  obtain ⟨hundecided, hanswers⟩ := d.move.answers
  obtain ⟨hdiscarded, hgaveUp⟩ := d.move.leaves
  obtain ⟨-, hdiscarded', hreader', -⟩ := d.driven.frame
  refine ⟨?_, ?_, ?_, ?_, ?_, ?_, ?_, ?_, ?_⟩
  · simp [hclosed, s.closed]
  · rw [hclosed, hsettles, Bool.and_eq_true, s.readable, Option.isNone_iff_eq_none,
      Option.or_eq_none_iff]
  · intro hn
    obtain ⟨hn, ht⟩ := hundecided hn
    simp [s.undecided hn, ht]
  · rcases hanswers with ht | ⟨hn, answer, ht, -⟩
    · simpa [ht] using s.once
    · simp [ht, s.undecided hn]
  · intro answer hm hne
    rcases hanswers with ht | ⟨hn, answer', ht, hnone, hstop⟩
    · obtain ⟨hstop, hnone⟩ := s.refused answer (by simpa [ht] using hm) hne
      have hr : c.readable = false := by
        simp [Connection.readable_eq, Connection.readLoop_of_stopped hstop, Reading.live]
      refine ⟨(d.driven.stopped hstop).1, ?_⟩
      cases d.move.items with
      | none _ ht | queue _ _ _ _ _ _ _ ht => simp [hnone, ht]
      | arrive hr' => simp [hr] at hr'
    · obtain rfl : answer = answer' := by simpa [ht, s.undecided hn] using hm
      exact ⟨hstop hne, by simp [n.undecided hn, hnone]⟩
  · rw [hdiscarded']
    intro hm
    simp only [List.mem_append, List.mem_map, reduceCtorEq, and_false, exists_false, or_false] at hm
    exact hm.elim s.discarded hdiscarded
  · rw [hreader']
    intro item hm
    simp only [List.mem_append, List.mem_map, reduceCtorEq, and_false, exists_false, or_false] at hm
    exact hm.elim (s.gaveUp item) (hgaveUp item)
  · intro en hm hne outcome ho
    rw [hclosed]
    rcases List.mem_append.mp hm with hm | hm
    · rw [s.settled en hm hne outcome ho, Option.some_or]
    · rcases List.mem_append.mp hm with hm | hm
      · obtain ⟨hr, ho⟩ := d.move.outcome hm hne ho
        rw [s.readable.mp hr, ho, Option.none_or]
      · obtain ⟨_, -, rfl⟩ := List.mem_map.mp hm
        cases ho
  · intro err hm
    refine d.spent s.readable (fun _ hp => .inl hp) ?_ _ hm rfl
    rintro (err | data) hm hp
    · exact s.failed err hm
    · cases hp

/-- What concerns neither the driver nor the outcome goes by. -/
theorem congr (s : Signal c log) (hd : c'.driver = c.driver) (hc : c'.closed = c.closed)
    (hg : c.discarded = true → c'.discarded = true)
    (hr : c.reader = .dropped → c'.reader = .dropped) (ho : outcome? es = none)
    (hn : answers es = []) (ha : arrived es = [])
    (hes : .discarded ∉ es ∧ ∀ item, .gaveUp item ∉ es) : Signal c' (log ++ es) := by
  have hhand : c'.inHand = c.inHand := by simp [Connection.inHand, hd]
  have hl : c'.readLoop = c.readLoop := by simp [Connection.readLoop, hd]
  have hreadable : c'.readable = c.readable := by simp [Connection.readable_eq, hl]
  refine ⟨?_, ?_, ?_, ?_, ?_, ?_, ?_, ?_, ?_⟩
  · simp [hc, ho, s.closed]
  · rw [hreadable, hc]
    exact s.readable
  · simpa [hl, hn] using s.undecided
  · simpa [hn] using s.once
  · simpa [hn, ha, hd] using s.refused
  · simpa [hes.1] using fun hm => hg (s.discarded hm)
  · simpa [hes.2] using fun item hm => hr (s.gaveUp item hm)
  · intro en hm hne outcome hen
    rcases List.mem_append.mp hm with hm | hm
    · rw [hc, s.settled en hm hne outcome hen]
    · have hno := List.findSome?_eq_none_iff.mp ho en hm
      simp [hno] at hen
  · exact fun err hm => (s.failed err (by simpa [ha] using hm)).congr hd hc

/-- The dial is answered once. -/
theorem answers_unique {a b : DialAnswer} (s : Signal c log) (ha : a ∈ answers log)
    (hb : b ∈ answers log) : a = b := by
  obtain ⟨answer, ho⟩ := List.length_eq_one_iff.mp
    (Nat.le_antisymm s.once (List.length_pos_of_mem ha))
  rw [ho, List.mem_singleton] at ha hb
  rw [ha, hb]

theorem fresh (d : Destination) (capacity : Nat) : Signal (.fresh d capacity) [] := by
  refine ⟨rfl, ?_, fun _ => rfl, Nat.zero_le _, ?_, by simp, by simp, by simp, by simp [arrived]⟩
  · simp [Connection.fresh, Connection.readable]
  · simp [answers]

end Signal

/-- Every step keeps the outcome as the log tells it. -/
theorem Step.signal (s : Signal l.connection log) (n : Items l.connection log)
    (st : l.Step u l' es) : Signal l'.connection (log ++ es) := by
  cases st with
  | drive d => exact s.drive n d
  | dropReader => exact s.congr rfl rfl id (fun _ => rfl) rfl rfl rfl (by simp)
  | drop => exact s.congr rfl rfl (fun _ => rfl) id rfl rfl rfl (by simp)
  | dropBoth => exact s.congr rfl rfl (fun _ => rfl) (fun _ => rfl) rfl rfl rfl (by simp)
  | takeReader hr => exact s.congr rfl rfl id (by simp [hr]) rfl rfl rfl (by simp)
  | turn | call | write | refuse | resume | turnAway | abandon | handOut | finish | pend
  | keepReader | takeClosed =>
    exact s.congr rfl rfl id id rfl rfl rfl (by simp)

/-! ### What the reader is told -/

/-- How what the reader was told fits the connection. -/
structure Told (c : Connection) (log : List Entry) : Prop where
  delivered : c.delivered = true ↔ ∃ item ∈ handed log, item.isOk = true
  final : (∃ r ∈ receipts log, r.final = true) → c.readable = false ∧ c.inbox = []
  ends : (receipts log).Pairwise fun a b => a.final = true → b.isEnd = true

namespace Told

theorem drive (s : Told c log) (d : Driven c e c' e' t h) :
    Told c' (log ++ (t ++ h.map .shown)) := by
  obtain ⟨-, -, -, hdelivered⟩ := d.driven.frame
  obtain ⟨hhanded, hreceipts⟩ := d.move.silent
  refine ⟨?_, ?_, ?_⟩
  · simpa [hhanded, hdelivered] using s.delivered
  · intro hr
    obtain ⟨hr, hi⟩ := s.final (by simpa [hreceipts] using hr)
    cases d.move.items with
    | none hi' _ hr' =>
      refine ⟨?_, hi'.trans hi⟩
      by_contra hn
      simp [(hr' (by simpa using hn)).1] at hr
    | arrive hr' | queue hr' => simp [hr] at hr'
  · simpa [hreceipts] using s.ends

/-- The reader is told something. -/
theorem tell {r : Receipt} (s : Told c log) (hd : c'.delivered = true ↔
      ∃ item ∈ handed (log ++ [.received r]), item.isOk = true)
    (hover : c.readable = false ∧ c.inbox = [] → r.isEnd = true)
    (hr : c'.readable = c.readable) (hi : c.inbox = [] → c'.inbox = [])
    (hf : r.final = true → c.readable = false ∧ c'.inbox = []) :
    Told c' (log ++ [.received r]) := by
  have hrs : receipts (log ++ [.received r]) = receipts log ++ [r] := by
    simp [receipts, Entry.receipt?]
  refine ⟨hd, ?_, ?_⟩
  · rw [hrs, hr]
    rintro ⟨r', hm, hf'⟩
    rcases List.mem_append.mp hm with hm | hm
    · obtain ⟨h1, h2⟩ := s.final ⟨r', hm, hf'⟩
      exact ⟨h1, hi h2⟩
    · obtain rfl := List.mem_singleton.mp hm
      exact hf hf'
  · rw [hrs]
    refine List.pairwise_append.mpr ⟨s.ends, List.pairwise_singleton _ _, ?_⟩
    intro r₁ h₁ r₂ h₂ hf'
    obtain rfl := List.mem_singleton.mp h₂
    exact hover (s.final ⟨r₁, h₁, hf'⟩)

theorem congr (s : Told c log) (hd : c'.driver = c.driver) (hv : c'.delivered = c.delivered)
    (hi : c.inbox = [] → c'.inbox = []) (hh : handed es = []) (hr : receipts es = []) :
    Told c' (log ++ es) := by
  have hreadable : c'.readable = c.readable := by simp [Connection.readable, hd]
  refine ⟨?_, ?_, ?_⟩
  · simpa [hv, hh] using s.delivered
  · intro h
    obtain ⟨h1, h2⟩ := s.final (by simpa [hr] using h)
    exact ⟨hreadable.trans h1, hi h2⟩
  · simpa [hr] using s.ends

theorem fresh (d : Destination) (capacity : Nat) : Told (.fresh d capacity) [] := by
  refine ⟨?_, ?_, .nil⟩ <;> simp [handed, receipts, Connection.fresh]

end Told

/-- Every step keeps what the reader was told. -/
theorem Step.told (s : Told l.connection log) (n : Items l.connection log) (st : l.Step u l' es) :
    Told l'.connection (log ++ es) := by
  cases st with
  | drive d => exact s.drive d
  | @handOut item inbox hi =>
    have hh : handed (log ++ [.received (.item item)]) = handed log ++ [item] := by
      simp [handed, Entry.handed?]
    refine s.tell ?_ (by simp [hi]) rfl (by simp [hi]) fun hf => ?_
    · rw [hh]
      simp [s.delivered, or_and_right, exists_or]
    · cases item with
      | ok data => cases hf
      | error err => exact n.last hi
  | finish hi hr =>
    have hh : handed (log ++ [.received .ended]) = handed log := by simp [handed, Entry.handed?]
    exact s.tell (hh ▸ s.delivered) (fun _ => rfl) rfl id fun _ => ⟨hr, hi⟩
  | pend hi hr =>
    have hh : handed (log ++ [.received .pending]) = handed log := by
      simp [handed, Entry.handed?]
    exact s.tell (hh ▸ s.delivered) (by simp [hr]) rfl id nofun
  | dropReader | dropBoth => exact s.congr rfl rfl (fun _ => rfl) rfl rfl
  | turn | call | write | refuse | resume | turnAway | abandon | takeReader | keepReader
  | takeClosed | drop =>
    exact s.congr rfl rfl id rfl rfl

end Link

end Tunnel
