import Tunnel.Proofs.WebSocket.Basic

/-!
# What a WebSocket sends

The writer sends the messages that were accepted, in order, and after all of them one close at most.
Once somebody has asked for the close no message is accepted, whatever the peer, the reader and the
sink do in between, so no message waits behind a close.

## Main definitions

* `Feed.accepted`, `Feed.handed`, `Feed.written` — what is asked of the writer, what it gives to the
  sink, and what the sink takes.
* `Channel.Accounts` — the queue of the writer between the two.
* `Feed.Sends` — the messages accepted and the frames written, side by side.

## Main statements

* `Channel.Accounts.step` — callers and writer keep the accounts.
* `Feed.writes_accepted` — what a WebSocket sends, and how its readiness moves.
-/

namespace Tunnel.WebSocket

namespace Feed

namespace Entry

/-- The message of a call to send that succeeds. -/
def accepted? : Entry → Option Bytes
  | .sent data .sent => some data
  | _ => none

/-- What the writer gives to the sink. -/
def handed? : Entry → Option Command
  | .wrote command _ => some command
  | _ => none

/-- What the sink takes. -/
def written? : Entry → Option Command
  | .wrote command (.ok ()) => some command
  | _ => none

/-- Whether somebody asks for the close. -/
def asksClose : Entry → Bool
  | .closed _ => true
  | _ => false

/-- Whether it is something that callers and the writer do. -/
def concernsWriter : Entry → Bool
  | .sent .. | .closed _ | .wrote .. => true
  | .read _ | .queued _ | .took _ => false

end Entry

/-- The messages that were accepted. -/
def accepted (log : List Entry) : List Bytes := log.filterMap Entry.accepted?

/-- All that the writer gave to the sink. -/
def handed (log : List Entry) : List Command := log.filterMap Entry.handed?

/-- All that the sink took: the frames written. -/
def written (log : List Entry) : List Command := log.filterMap Entry.written?

variable {log now : List Entry} {e : Entry}

@[simp] theorem accepted_append : accepted (log ++ now) = accepted log ++ accepted now :=
  List.filterMap_append

@[simp] theorem handed_append : handed (log ++ now) = handed log ++ handed now :=
  List.filterMap_append

@[simp] theorem written_append : written (log ++ now) = written log ++ written now :=
  List.filterMap_append

@[simp] theorem accepted_singleton : accepted [e] = e.accepted?.toList := filterMap_singleton _ _

@[simp] theorem handed_singleton : handed [e] = e.handed?.toList := filterMap_singleton _ _

@[simp] theorem written_singleton : written [e] = e.written?.toList := filterMap_singleton _ _

/-- What the reader and the owner do is nothing to the writer. -/
theorem of_not_concernsWriter (h : e.concernsWriter = false) :
    e.accepted? = none ∧ e.handed? = none ∧ e.written? = none ∧ e.asksClose = false := by
  cases e with
  | sent | closed | wrote => cases h
  | read | queued | took => exact ⟨rfl, rfl, rfl, rfl⟩

end Feed

open Feed

/-! ### Who may send -/

/-- What callers were told, by the readiness they left behind. -/
structure Admits (state : ReadyState) (log : List Entry) : Prop where
  started : state ≠ .connecting
  asked : (∃ e ∈ log, e.asksClose = true) → state ≠ .opened
  /-- No message is accepted after somebody has asked for the close. -/
  late : log.Pairwise fun e e' => e.asksClose = true → e'.accepted? = none
  answers : ∀ data answer, .sent data answer ∈ log → answer = .sent ∨ answer = .failed .closed

namespace Admits

variable {state state' : ReadyState} {log es : List Entry} {e : Entry}

/-- A WebSocket that was just accepted. -/
theorem start : Admits .opened [] where
  started := by simp
  asked := by simp
  late := .nil
  answers := by simp

theorem mono (a : Admits state log) (h : state.code ≤ state'.code) : Admits state' log where
  started := by
    rintro rfl
    exact a.started (by cases state <;> simp [ReadyState.code] at h ⊢)
  asked hc := ReadyState.ne_opened_of_code_le h (a.asked hc) a.started
  late := a.late
  answers := a.answers

/-- One more thing happens: messages are accepted of an open channel only, and nobody asks for the
close of a channel that stays open. -/
theorem append (a : Admits state log) (h : state.code ≤ state'.code)
    (ha : e.accepted? ≠ none → state = .opened) (hc : e.asksClose = true → state' ≠ .opened)
    (hs : ∀ data answer, e = .sent data answer → answer = .sent ∨ answer = .failed .closed) :
    Admits state' (log ++ [e]) where
  started := (a.mono h).started
  asked := by
    rintro ⟨e', hm, he⟩
    rcases List.mem_append.mp hm with hm | hm
    · exact (a.mono h).asked ⟨e', hm, he⟩
    · exact hc (List.mem_singleton.mp hm ▸ he)
  late := by
    refine List.pairwise_append.mpr
      ⟨a.late, List.pairwise_singleton .., fun e' he' e'' he'' hask => ?_⟩
    rw [List.mem_singleton.mp he'']
    by_contra hne
    exact a.asked ⟨e', he', hask⟩ (ha hne)
  answers data answer hm := by
    rcases List.mem_append.mp hm with hm | hm
    · exact a.answers data answer hm
    · exact hs data answer (List.mem_singleton.mp hm).symm

end Admits

/-! ### The queue of the writer -/

namespace Channel

/-- The queue of a writer that goes on: messages in the order of the calls, and closes behind. -/
structure Queue (c : Channel) (log : List Entry) (waiting : List Bytes) (closes : Nat) : Prop where
  commands : c.commands = waiting.map .binary ++ List.replicate closes .close
  accepted : handed log ++ waiting.map .binary = (accepted log).map .binary
  written : written log = handed log
  shut : 0 < closes → c.state ≠ .opened

/-- What a writer that has ended leaves behind: all that was accepted and a close, or only a part,
the last of which the sink may have refused. -/
structure Remains (c : Channel) (log : List Entry) : Prop where
  closed : c.state = .closed
  in_order : handed log <+: (accepted log).map .binary ∨
    handed log = (accepted log).map .binary ++ [.close]
  refused : handed log = written log ∨ ∃ command, handed log = written log ++ [command]

/-- What was accepted, what is still to be written, and what was. -/
structure Accounts (c : Channel) (log : List Entry) : Prop where
  going : c.writerEnded = false → ∃ waiting closes, c.Queue log waiting closes
  ended : c.writerEnded = true → c.Remains log

variable {c c' : Channel} {log es : List Entry} {e : Entry} {data : Bytes} {waiting : List Bytes}
  {closes : Nat}

namespace Queue

/-- An open channel has no close in its queue. -/
theorem closes_eq_zero (q : c.Queue log waiting closes) (ho : c.state = .opened) : closes = 0 :=
  Nat.eq_zero_of_not_pos fun hpos => q.shut hpos ho

theorem accept (q : c.Queue log waiting closes) (ho : c.state = .opened) (data : Bytes) :
    Queue { c with commands := c.commands ++ [.binary data] } (log ++ [.sent data .sent])
      (waiting ++ [data]) 0 := by
  obtain rfl := q.closes_eq_zero ho
  refine ⟨?_, ?_, ?_, by simp⟩
  · simp [q.commands]
  · simp [Entry.handed?, Entry.accepted?, ← q.accepted]
  · simp [Entry.handed?, Entry.written?, q.written]

/-- One more close waits behind the others. -/
theorem close {state : ReadyState} (q : c.Queue log waiting closes) (hs : state ≠ .opened)
    (answer : Except ChannelError Unit) :
    Queue { c with state, commands := c.commands ++ [.close] } (log ++ [.closed answer]) waiting
      (closes + 1) where
  commands := by simp [q.commands, List.replicate_succ']
  accepted := by simpa [Entry.handed?, Entry.accepted?] using q.accepted
  written := by simpa [Entry.handed?, Entry.written?] using q.written
  shut _ := hs

/-- The first in the queue is a message, or there are only closes left. -/
theorem first {command : Command} {rest : List Command} (q : c.Queue log waiting closes)
    (hc : c.commands = command :: rest) :
    (∃ data waiting', waiting = data :: waiting' ∧ command = .binary data ∧
      rest = waiting'.map .binary ++ List.replicate closes .close) ∨
    (waiting = [] ∧ command = .close) := by
  have hq := q.commands.symm.trans hc
  cases waiting with
  | nil =>
    right
    cases closes with
    | zero => simp at hq
    | succ n =>
      rw [List.replicate_succ] at hq
      cases hq
      exact ⟨rfl, rfl⟩
  | cons data waiting' =>
    cases hq
    exact .inl ⟨data, waiting', rfl, rfl, rfl⟩

/-- The sink takes the first message. -/
theorem write {rest : List Command} (q : c.Queue log waiting closes)
    (hc : c.commands = .binary data :: rest) :
    ∃ waiting', Queue { c with commands := rest } (log ++ [.wrote (.binary data) (.ok ())]) waiting'
      closes := by
  obtain ⟨data', waiting', rfl, hcommand, hrest⟩ | ⟨-, hcommand⟩ := q.first hc
  · cases hcommand
    refine ⟨waiting', hrest, ?_, ?_, q.shut⟩
    · simp [Entry.handed?, Entry.accepted?, ← q.accepted]
    · simp [Entry.handed?, Entry.written?, q.written]
  · cases hcommand

/-- The writer sends its close, or is refused. -/
theorem last {command : Command} {rest : List Command} {taken : Except String Unit}
    (q : c.Queue log waiting closes) (hc : c.commands = command :: rest)
    (hl : command = .close ∨ taken ≠ .ok ()) :
    c.endWriter.Remains (log ++ [.wrote command taken]) := by
  obtain ⟨data, waiting', rfl, rfl, -⟩ | ⟨rfl, rfl⟩ := q.first hc
  · -- A message that is the last was refused.
    have hrefused : taken ≠ .ok () := by simpa using hl
    cases taken with
    | ok => exact absurd rfl hrefused
    | error reason =>
      refine ⟨rfl, .inl ⟨waiting'.map .binary, ?_⟩, .inr ⟨.binary data, ?_⟩⟩
      · simp [Entry.handed?, Entry.accepted?, ← q.accepted]
      · simp [Entry.handed?, Entry.written?, q.written]
  · refine ⟨rfl, .inr ?_, ?_⟩
    · simp [Entry.handed?, Entry.accepted?, ← q.accepted]
    · cases taken <;> simp [Entry.handed?, Entry.written?, q.written]

/-- Nobody can ask the writer any more, and it has sent all. -/
theorem retire (q : c.Queue log waiting closes) (hc : c.commands = []) :
    c.endWriter.Remains log := by
  have hq := q.commands.symm.trans hc
  obtain ⟨hwaiting, -⟩ := List.append_eq_nil_iff.mp hq
  have hall : Feed.handed log = (Feed.accepted log).map .binary := by
    rw [← q.accepted, hwaiting, List.append_nil]
  exact ⟨rfl, .inl (hall ▸ List.prefix_rfl), .inl q.written.symm⟩

end Queue

namespace Accounts

/-- The readiness moves forward. -/
theorem setState {state : ReadyState} (a : c.Accounts log)
    (ho : c.state ≠ .opened → state ≠ .opened) (hc : c.state = .closed → state = .closed) :
    Accounts { c with state } log where
  going hg := by
    obtain ⟨waiting, closes, q⟩ := a.going hg
    exact ⟨waiting, closes, q.commands, q.accepted, q.written, fun hpos => ho (q.shut hpos)⟩
  ended he := ⟨hc (a.ended he).closed, (a.ended he).in_order, (a.ended he).refused⟩

/-- Something happens that is no message accepted and nothing sent. -/
theorem skip (a : c.Accounts log) (ha : e.accepted? = none) (hh : e.handed? = none)
    (hw : e.written? = none) : c.Accounts (log ++ [e]) := by
  refine ⟨fun hg => ?_, fun he => ⟨(a.ended he).closed, ?_, ?_⟩⟩
  · obtain ⟨waiting, closes, q⟩ := a.going hg
    refine ⟨waiting, closes, q.commands, ?_, ?_, q.shut⟩
    · simpa [ha, hh] using q.accepted
    · simpa [hh, hw] using q.written
  · simpa [ha, hh] using (a.ended he).in_order
  · simpa [hh, hw] using (a.ended he).refused

/-- An open channel has its writer. -/
theorem writerEnded_eq_false (a : c.Accounts log) (ho : c.state = .opened) :
    c.writerEnded = false := by
  cases hw : c.writerEnded with
  | false => rfl
  | true =>
    have hclosed := (a.ended hw).closed
    rw [ho] at hclosed
    cases hclosed

/-- Callers and the writer keep the accounts. -/
theorem step (a : c.Accounts log) (h : c.Step c' es) : c'.Accounts (log ++ es) := by
  cases h with
  | accept ho hw =>
    obtain ⟨waiting, closes, q⟩ := a.going hw
    exact ⟨fun _ => ⟨_, _, q.accept ho _⟩, fun he => by simp [hw] at he⟩
  | lose ho hw =>
    rw [a.writerEnded_eq_false ho] at hw
    cases hw
  | refuse => exact a.skip rfl rfl rfl
  | close hw _ hs =>
    obtain ⟨waiting, closes, q⟩ := a.going hw
    exact ⟨fun _ => ⟨_, _, q.close hs _⟩, fun he => by simp [hw] at he⟩
  | closeLate hw hcode hs =>
    exact (a.setState (fun _ => hs) (ReadyState.eq_closed_of_code_le hcode)).skip rfl rfl rfl
  | abandon =>
    rw [List.append_nil]
    refine ⟨fun hw => ?_, fun he =>
      ⟨(a.ended he).closed, (a.ended he).in_order, (a.ended he).refused⟩⟩
    obtain ⟨waiting, closes, q⟩ := a.going hw
    exact ⟨waiting, closes, q.commands, q.accepted, q.written, q.shut⟩
  | write hw hc =>
    obtain ⟨waiting, closes, q⟩ := a.going hw
    obtain ⟨waiting', q'⟩ := q.write hc
    exact ⟨fun _ => ⟨waiting', closes, q'⟩, fun he => by simp [hw] at he⟩
  | last hw hc hl =>
    obtain ⟨waiting, closes, q⟩ := a.going hw
    exact ⟨fun hg => by simp [endWriter] at hg, fun _ => q.last hc hl⟩
  | retire hw hc =>
    obtain ⟨waiting, closes, q⟩ := a.going hw
    rw [List.append_nil]
    exact ⟨fun hg => by simp [endWriter] at hg, fun _ => q.retire hc⟩

end Accounts

/-- What the sink took is what it was given, but perhaps for the last. -/
theorem Accounts.written_isPrefix (a : c.Accounts log) : written log <+: handed log := by
  cases hw : c.writerEnded with
  | false =>
    obtain ⟨_, _, q⟩ := a.going hw
    exact q.written ▸ List.prefix_rfl
  | true =>
    obtain hall | ⟨command, hcommand⟩ := (a.ended hw).refused
    · exact hall ▸ List.prefix_rfl
    · exact ⟨[command], hcommand.symm⟩

/-- The sink is given what was accepted, in order, and a close at most. -/
theorem Accounts.handed_isPrefix (a : c.Accounts log) :
    handed log <+: (accepted log).map .binary ++ [.close] := by
  cases hw : c.writerEnded with
  | false =>
    obtain ⟨waiting, _, q⟩ := a.going hw
    rw [← q.accepted, List.append_assoc]
    exact List.prefix_append ..
  | true =>
    obtain hpart | hall := (a.ended hw).in_order
    · exact hpart.trans (List.prefix_append ..)
    · exact hall ▸ List.prefix_rfl

/-- The close is the last, after all that was accepted. -/
theorem Accounts.eq_of_close_mem (a : c.Accounts log) (hm : .close ∈ written log) :
    written log = (accepted log).map .binary ++ [.close] := by
  have hmessages : ∀ messages : List Bytes, .close ∉ messages.map Command.binary := by simp
  have hhanded := a.written_isPrefix.subset hm
  cases hw : c.writerEnded with
  | false =>
    obtain ⟨waiting, _, q⟩ := a.going hw
    have hin := List.mem_append_left (waiting.map Command.binary) hhanded
    exact absurd (q.accepted ▸ hin) (hmessages _)
  | true =>
    obtain hpart | hall := (a.ended hw).in_order
    · exact absurd (hpart.subset hhanded) (hmessages _)
    · obtain htaken | ⟨command, hrefused⟩ := (a.ended hw).refused
      · rw [← htaken, hall]
      · -- The refused one would be the close, and another close before it.
        obtain ⟨hbefore, -⟩ := List.append_inj' (hrefused.symm.trans hall) rfl
        exact absurd (hbefore ▸ hm) (hmessages _)

/-- Callers are told what the readiness they leave behind allows. -/
theorem Step.admits (h : c.Step c' es) (a : c.Accounts log) (ad : Admits c.state log) :
    Admits c'.state (log ++ es) := by
  have hcode := h.code_le
  cases h with
  | accept ho =>
    refine ad.append hcode (fun _ => ho) (by simp [Entry.asksClose]) fun _ _ he => ?_
    cases he
    exact .inl rfl
  | lose ho hw =>
    rw [a.writerEnded_eq_false ho] at hw
    cases hw
  | refuse =>
    refine ad.append hcode (by simp [Entry.accepted?]) (by simp [Entry.asksClose]) fun _ _ he => ?_
    cases he
    exact .inr rfl
  | close _ _ hs | closeLate _ _ hs =>
    exact ad.append hcode (by simp [Entry.accepted?]) (fun _ => hs) (by simp)
  | abandon | retire =>
    rw [List.append_nil]
    exact ad.mono hcode
  | write | last =>
    exact ad.append hcode (by simp [Entry.accepted?]) (by simp [Entry.asksClose]) (by simp)

end Channel

namespace Feed

variable {f f' : Feed}

/-- Callers and writer fit together. -/
structure Fits (f : Feed) (log : List Entry) : Prop where
  admits : Admits f.channel.state log
  accounts : f.channel.Accounts log

namespace Fits

theorem start {capacity : Nat} (h : accept? capacity = some f) : f.Fits [] := by
  unfold accept? at h
  dsimp only at h
  split at h <;> cases h
  exact ⟨.start, fun _ => ⟨[], 0, rfl, rfl, rfl, by simp⟩, fun he => by cases he⟩

/-- The reader does something to the channel, or does not. -/
theorem setChannel (fits : f.Fits log)
    (hc : f'.channel = f.channel ∨ f'.channel = { f.channel with state := .closed }) :
    f'.Fits log := by
  rcases hc with hc | hc
  · exact ⟨hc ▸ fits.admits, hc ▸ fits.accounts⟩
  · exact ⟨hc ▸ fits.admits.mono (ReadyState.code_le_closed _),
      hc ▸ fits.accounts.setState (by simp) (by simp)⟩

/-- The reader or the owner does something. -/
theorem aside (fits : f.Fits log) (he : e.concernsWriter = false) : f.Fits (log ++ [e]) := by
  obtain ⟨ha, hh, hw, hask⟩ := of_not_concernsWriter he
  refine ⟨fits.admits.append (Nat.le_refl _) (by simp [ha]) (by simp [hask]) ?_,
    fits.accounts.skip ha hh hw⟩
  rintro data answer rfl
  cases he

theorem step (fits : f.Fits log) (h : f.Step f' now) : f'.Fits (log ++ now) := by
  cases h with
  | ask hs => exact ⟨hs.admits fits.accounts fits.admits, fits.accounts.step hs⟩
  | read => exact Fits.aside (e := .read _) (fits.setChannel (read_channel _)) rfl
  | queue => exact Fits.aside (e := .queued _) (fits.setChannel (readOn_channel _)) rfl
  | waste _ _ hc =>
    rw [List.append_nil]
    exact fits.setChannel hc
  | take => exact Fits.aside (e := .took _) (fits.setChannel (.inl rfl)) rfl
  | miss | drop =>
    rw [List.append_nil]
    exact fits.setChannel (.inl rfl)

end Fits

/-! ### What is sent -/

/-- The frames written are the messages accepted, in order. -/
structure Sends (f : Feed) (log : List Entry) : Prop where
  /-- The frames written are the first messages that were accepted, and perhaps a close. -/
  in_order : written log <+: (accepted log).map .binary ++ [.close]
  /-- If there is a close among them, they are all the messages that were ever accepted, and the
  close, which is the last. -/
  close_last : .close ∈ written log → written log = (accepted log).map .binary ++ [.close]
  /-- What the sink has not taken is at most the last that it was given, and then the writer has
  ended. -/
  refused : handed log = written log ∨ f.channel.writerEnded = true ∧
    ∃ command, handed log = written log ++ [command] ∧
      handed log <+: (accepted log).map .binary ++ [.close]
  /-- Until the writer ends, the messages that are not written wait, with closes behind them. -/
  waiting : f.channel.writerEnded = false → ∃ closes,
    written log ++ f.channel.commands =
      (accepted log).map .binary ++ List.replicate closes .close
  /-- The writer does not stop while somebody waits for it. -/
  goesOn : f.channel.writerEnded = false → f.channel.commands ≠ [] →
    ∀ taken, (f.act? (.write taken)).isSome
  /-- No message is accepted after somebody has asked for the close. -/
  late : log.Pairwise fun e e' => e.asksClose = true → e'.accepted? = none
  answers : ∀ data answer, .sent data answer ∈ log → answer = .sent ∨ answer = .failed .closed
  started : f.channel.state ≠ .connecting
  ended : f.channel.writerEnded = true → f.channel.state = .closed

theorem Fits.sends (fits : f.Fits log) : f.Sends log where
  in_order := fits.accounts.written_isPrefix.trans fits.accounts.handed_isPrefix
  close_last := fits.accounts.eq_of_close_mem
  refused := by
    cases hw : f.channel.writerEnded with
    | false =>
      obtain ⟨_, _, q⟩ := fits.accounts.going hw
      exact .inl q.written.symm
    | true =>
      refine (fits.accounts.ended hw).refused.imp_right fun hr => ⟨rfl, ?_⟩
      obtain ⟨command, hcommand⟩ := hr
      exact ⟨command, hcommand, fits.accounts.handed_isPrefix⟩
  waiting hw := by
    obtain ⟨waiting, closes, q⟩ := fits.accounts.going hw
    refine ⟨closes, ?_⟩
    rw [q.written, q.commands, ← List.append_assoc, q.accepted]
  goesOn hw hc taken := by
    obtain ⟨command, rest, hc⟩ := List.exists_cons_of_ne_nil hc
    simp [act?, Channel.write?_cons _ _ hw hc]
  late := fits.admits.late
  answers := fits.admits.answers
  started := fits.admits.started
  ended hw := (fits.accounts.ended hw).closed

/-- A writer that has ended stays so, and no message is accepted any more. -/
structure Ended (f : Feed) (later : List Entry) : Prop where
  writerEnded : f.channel.writerEnded = true
  closed : f.channel.state = .closed
  answers : ∀ data answer, .sent data answer ∈ later → answer = .failed .closed

theorem Ended.step (ended : f.Ended log) (h : f.Step f' now) : f'.Ended (log ++ now) := by
  have hclosed := ReadyState.eq_closed_of_code_le h.code_le ended.closed
  have hstays : f'.channel.writerEnded = true ∧
      ∀ data answer, .sent data answer ∈ now → answer = .failed .closed := by
    have hchannel : ∀ c : Channel, c = f.channel ∨ c = { f.channel with state := .closed } →
        c.writerEnded = true := by
      rintro c (rfl | rfl) <;> exact ended.writerEnded
    cases h with
    | ask hs =>
      cases hs with
      | accept ho | lose ho => simp [ended.closed] at ho
      | refuse => simpa using ended.writerEnded
      | close hw | write hw | last hw | retire hw => simp [ended.writerEnded] at hw
      | closeLate hw => simpa using hw
      | abandon => simpa [Channel.abandon] using ended.writerEnded
    | read => exact ⟨hchannel _ (read_channel _), by simp⟩
    | queue => exact ⟨hchannel _ (readOn_channel _), by simp⟩
    | waste _ _ hc => exact ⟨hchannel _ hc, by simp⟩
    | take | miss | drop => exact ⟨ended.writerEnded, by simp⟩
  refine ⟨hstays.1, hclosed, fun data answer hm => ?_⟩
  exact (List.mem_append.mp hm).elim (ended.answers data answer) (hstays.2 data answer)

/-- Whatever callers, the peer and the sink do, the frames written are the messages accepted, in
order, with a close at most at the end; and the readiness only moves forward, to closed at the
latest when the writer ends, after which every call to send is refused. -/
theorem writes_accepted {capacity : Nat} {f₀ : Feed} {acts : List Act}
    (hcap : accept? capacity = some f₀) (h : f₀.run? acts = some (f, log)) :
    f.Sends log ∧
    ∀ more f' later, f.run? more = some (f', later) →
      f.channel.state.code ≤ f'.channel.state.code ∧
      (f.channel.writerEnded = true → f'.channel.writerEnded = true ∧
        ∀ data answer, .sent data answer ∈ later → answer = .failed .closed) := by
  have fits : f.Fits log :=
    run?_induction (P := Fits) [] (fun _ _ _ _ fits hs => fits.step hs) h (.start hcap)
  refine ⟨fits.sends, fun more f' later hmore => ⟨run?_code_le hmore, fun hw => ?_⟩⟩
  have ended : f'.Ended later :=
    run?_induction (P := Ended) [] (fun _ _ _ _ ended hs => ended.step hs) hmore
      ⟨hw, fits.sends.ended hw, by simp⟩
  exact ⟨ended.writerEnded, ended.answers⟩

/-- The peer closes while a message waits, and somebody asks for the close after that. -/
theorem writes_accepted_racing : ∃ f₀ acts f log more f' later,
    accept? 1 = some f₀ ∧ f₀.run? acts = some (f, log) ∧ f.run? more = some (f', later) ∧
    accepted log = [[1], [2]] ∧
    written log = [.binary [1], .binary [2], .close] ∧
    later = [.sent [4] (.failed .closed)] ∧
    f.Sends log ∧ f'.channel.writerEnded = true ∧ f.channel.state = .closed := by
  let acts : List Act := [.send [1], .send [2], .write (.ok ()), .read (.close none), .send [3],
    .close, .write (.ok ()), .write (.ok ())]
  let f₀ : Feed := { events := { capacity := 1 } }
  let f : Feed := {
    channel := { state := .closed, writerEnded := true }
    events := { capacity := 1 }
    reader := .queueing .close .continues
    closeFired := true }
  have hcap : accept? 1 = some f₀ := by decide
  have hrun : f₀.run? acts = some (f, [.sent [1] .sent, .sent [2] .sent,
    .wrote (.binary [1]) (.ok ()), .read (.close none), .sent [3] (.failed .closed),
    .closed (.ok ()), .wrote (.binary [2]) (.ok ()), .wrote .close (.ok ())]) := rfl
  have hmore : f.run? [.send [4]] = some (f, [.sent [4] (.failed .closed)]) := rfl
  obtain ⟨hsends, hlater⟩ := writes_accepted hcap hrun
  have hended := (hlater _ _ _ hmore).2 rfl
  exact ⟨f₀, acts, f, _, _, f, _, hcap, hrun, hmore, rfl, rfl, rfl, hsends, hended.1,
    hsends.ended rfl⟩

end Feed

end Tunnel.WebSocket
