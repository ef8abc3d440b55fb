import Tunnel.Config.Overrides
import Tunnel.Proofs.Text.Blank
import Tunnel.Proofs.Text.Numeral
import Tunnel.Proofs.Text.Pieces

/-!
# What overrides set

Each variable of the environment sets one field, if its text means a value of that field, and
nothing else is changed. What a text means is said without the readers: an address and a path are
the text itself, a replay limit is what the text spells in decimal, and hosts are what is left of
a list with commas when blanks around hosts and blank pieces are taken away.

## Main definitions

* `Config.Listable`, `Config.Spells` — the hosts that a list can name, and the pieces of the lists
  that name them.
* `Config.Setting` — a field before and after its variable was looked at.
* `Config.Overridden` — the settings before and after the overrides.

## Main statements

* `Config.hostsOfList_eq_iff` — which hosts a list names.
* `Config.override_environment` — what overrides do, and that doing them twice is doing them once.
-/

namespace Tunnel.Config

/-! ### Lists of hosts -/

/-- A host that a list can name. -/
structure Listable (host : String) : Prop where
  ne_empty : host ≠ ""
  trimmed : Text.Trimmed host.toList
  comma_notMem : ',' ∉ host.toList

/-- Pieces, and the hosts that they spell: a host has blanks around it, and pieces of nothing but
blanks stand anywhere. -/
inductive Spells : List String → List String → Prop
  | nil : Spells [] []
  | blank {piece : String} {pieces hosts : List String} (h : Text.Blank piece.toList)
      (rest : Spells pieces hosts) : Spells (piece :: pieces) hosts
  | host {host before after : String} {pieces hosts : List String} (h : Listable host)
      (hbefore : Text.Blank before.toList) (hafter : Text.Blank after.toList)
      (rest : Spells pieces hosts) : Spells ((before ++ host ++ after) :: pieces) (host :: hosts)

/-- The hosts that a list with commas names. -/
def NamesHosts (text : String) (hosts : List String) : Prop :=
  ∃ pieces, Spells pieces hosts ∧ text = ",".intercalate pieces

theorem spells_self {hosts : List String} (h : ∀ host ∈ hosts, Listable host) :
    Spells hosts hosts := by
  induction hosts with
  | nil => exact .nil
  | cons host hosts ih =>
    have hblank : Text.Blank "".toList := by decide
    have hrest := ih fun other hother => h other (List.mem_cons_of_mem _ hother)
    simpa using Spells.host (h host (by simp)) hblank hblank hrest

theorem comma_notMem_of_blank {piece : List Char} (h : Text.Blank piece) : ',' ∉ piece :=
  fun hcomma => absurd (h ',' hcomma) (by decide)

namespace Spells

theorem comma_notMem {pieces hosts : List String} (h : Spells pieces hosts) :
    ∀ piece ∈ pieces, ',' ∉ piece.toList := by
  induction h with
  | nil => simp
  | blank h _ ih => exact List.forall_mem_cons.2 ⟨comma_notMem_of_blank h, ih⟩
  | host h hbefore hafter _ ih =>
    refine List.forall_mem_cons.2 ⟨?_, ih⟩
    simp [h.comma_notMem, comma_notMem_of_blank hbefore, comma_notMem_of_blank hafter]

theorem listable {pieces hosts : List String} (h : Spells pieces hosts) :
    ∀ host ∈ hosts, Listable host := by
  induction h with
  | nil => simp
  | blank _ _ ih => exact ih
  | host h _ _ _ ih => exact List.forall_mem_cons.2 ⟨h, ih⟩

/-- Trimming the pieces and dropping the empty ones leaves the hosts. -/
theorem filter_trim {pieces hosts : List String} (h : Spells pieces hosts) :
    ((pieces.map fun piece => Text.trim piece.toList).filter (· ≠ [])).map String.ofList =
      hosts := by
  induction h with
  | nil => rfl
  | blank h _ ih => simpa [h.trim_eq_nil] using ih
  | host h hbefore hafter _ ih =>
    have htrim := h.trimmed.trim_append hbefore hafter
    rw [List.append_assoc] at htrim
    simpa [htrim, h.ne_empty] using ih

/-- Pieces without commas spell what trimming and dropping leaves of them. -/
theorem of_pieces {pieces : List (List Char)} (h : ∀ piece ∈ pieces, ',' ∉ piece) :
    Spells (pieces.map String.ofList)
      (((pieces.map Text.trim).filter (· ≠ [])).map String.ofList) := by
  induction pieces with
  | nil => exact .nil
  | cons piece pieces ih =>
    have hrest := ih fun other hother => h other (List.mem_cons_of_mem _ hother)
    by_cases hblank : Text.trim piece = []
    · have hpiece := Text.trim_eq_nil_iff.1 hblank
      simpa [hblank] using Spells.blank (by simpa using hpiece) hrest
    · obtain ⟨before, after, hbefore, hafter, hpiece⟩ := Text.exists_blanks piece
      have hhost : Listable (String.ofList (Text.trim piece)) :=
        ⟨by simpa using hblank, by simpa using Text.trimmed_trim piece,
          by simpa using fun hcomma => h piece (by simp) (Text.mem_of_mem_trim hcomma)⟩
      have hspelled : String.ofList piece =
          String.ofList before ++ String.ofList (Text.trim piece) ++ String.ofList after := by
        rw [← String.ofList_append, ← String.ofList_append, ← hpiece]
      rw [List.map_cons, hspelled, List.map_cons, List.filter_cons_of_pos (by simpa using hblank),
        List.map_cons]
      exact .host hhost (by simpa using hbefore) (by simpa using hafter) hrest

end Spells

/-- The hosts that are read of a list are the only ones that it names. -/
theorem hostsOfList_eq_iff {text : String} {hosts : List String} :
    hostsOfList text = hosts ↔ NamesHosts text hosts := by
  constructor
  · rintro rfl
    refine ⟨_, Spells.of_pieces fun piece => Text.notMem_of_mem_pieces, ?_⟩
    rw [← String.toList_inj, String.toList_intercalate, List.map_map]
    simp [Function.comp_def, Text.intercalate_pieces]
  · rintro ⟨pieces, h, rfl⟩
    rw [hostsOfList, String.toList_intercalate]
    cases pieces with
    | nil =>
      cases h
      rfl
    | cons piece pieces =>
      have hcommas : ∀ part ∈ (piece :: pieces).map String.toList, ',' ∉ part := by
        simpa using h.comma_notMem
      have hpieces := Text.pieces_intercalate (by simp) hcommas
      rw [show ",".toList = [','] from rfl, hpieces, List.map_map]
      exact h.filter_trim

theorem hostsOfList_eq_nil_iff {text : String} :
    hostsOfList text = [] ↔ ∀ c ∈ text.toList, Text.isBlank c ∨ c = ',' := by
  have hpieces : hostsOfList text = [] ↔
      ∀ piece ∈ Text.pieces ',' text.toList, Text.Blank piece := by
    simp [hostsOfList, Text.trim_eq_nil_iff]
  have hflatten : (∀ piece ∈ Text.pieces ',' text.toList, Text.Blank piece) ↔
      Text.Blank (Text.pieces ',' text.toList).flatten := by
    simp only [Text.Blank, List.forall_mem_flatten]
  rw [hpieces, hflatten, Text.flatten_pieces]
  simp only [Text.Blank, List.mem_filter, decide_eq_true_eq, and_imp, or_iff_not_imp_right]

/-! ### Fields and their variables -/

/-- A field before and after the text of its variable was looked at: it takes the value that the
text means, and is left alone if there is no text or the text means nothing. -/
inductive Setting {α : Type} (Means : String → α → Prop) (old : α) : Option String → α → Prop
  | set {text : String} {new : α} (h : Means text new) : Setting Means old (some text) new
  | ignored {text : String} (h : ∀ new, ¬ Means text new) : Setting Means old (some text) old
  | unset : Setting Means old none old

/-- A reader that gives what texts mean sets the field that way. -/
theorem getD_bind_eq_iff {α : Type} {read? : String → Option α} {Means : String → α → Prop}
    (hread : ∀ text v, read? text = some v ↔ Means text v) {var? : Option String} {old new : α} :
    (var?.bind read?).getD old = new ↔ Setting Means old var? new := by
  constructor
  · rintro rfl
    cases var? with
    | none => exact .unset
    | some text =>
      cases h : read? text with
      | none => simpa [h] using Setting.ignored fun v hv => by simp [(hread _ _).2 hv] at h
      | some v => simpa [h] using Setting.set ((hread _ _).1 h)
  · rintro (h | h | _)
    · simp [(hread _ _).2 h]
    · have hnone : read? _ = none :=
        Option.eq_none_iff_forall_ne_some.2 fun v hv => h v ((hread _ _).1 hv)
      simp [hnone]
    · rfl

theorem limitOfText?_eq_some_iff {text : String} {limit : UInt64} :
    limitOfText? text = some limit ↔ Text.Numeral text.toList limit.toNat := by
  rw [limitOfText?, Option.map_eq_some_iff]
  constructor
  · rintro ⟨n, hn, rfl⟩
    obtain ⟨hnumeral, hle⟩ := Text.readNumeral?_eq_some_iff.1 hn
    rwa [UInt64.toNat_ofNat_of_lt' (Nat.lt_succ_of_le hle)]
  · intro h
    refine ⟨limit.toNat, Text.readNumeral?_eq_some_iff.2 ⟨h, ?_⟩, UInt64.ofNat_toNat⟩
    exact Nat.le_of_lt_succ limit.toNat_lt

/-- The settings before and after the overrides of an environment. -/
structure Overridden (c : Config) (env : Environment) (c' : Config) : Prop where
  listenAddr : Setting (· = ·) c.listenAddr (env "BEPASS_LISTEN") c'.listenAddr
  connectPath : Setting (· = ·) c.connectPath (env "BEPASS_CONNECT_PATH") c'.connectPath
  fallbackEgress :
    Setting NamesHosts c.fallbackEgress (env "BEPASS_FALLBACK_EGRESS") c'.fallbackEgress
  eventQueueCapacity : c'.eventQueueCapacity = c.eventQueueCapacity
  remoteQueueCapacity : c'.remoteQueueCapacity = c.remoteQueueCapacity
  replayLimit : Setting (fun text limit => Text.Numeral text.toList limit.toNat) c.replayLimit
    (env "BEPASS_REPLAY_LIMIT") c'.replayLimit

/-- What overrides leave is the only outcome that the variables allow. -/
theorem override_eq_iff {c c' : Config} {env : Environment} :
    c.override env = c' ↔ Overridden c env c' := by
  have htext (text v : String) : some text = some v ↔ text = v := Option.some_inj
  have hhosts (text : String) (hosts : List String) :
      (some ∘ hostsOfList) text = some hosts ↔ NamesHosts text hosts :=
    Option.some_inj.trans hostsOfList_eq_iff
  have hlimit (text : String) (limit : UInt64) := @limitOfText?_eq_some_iff text limit
  constructor
  · rintro rfl
    refine ⟨(getD_bind_eq_iff htext).1 ?_, (getD_bind_eq_iff htext).1 ?_,
      (getD_bind_eq_iff hhosts).1 ?_, rfl, rfl, (getD_bind_eq_iff hlimit).1 rfl⟩
    · rw [Option.bind_fun_some, override]
    · rw [Option.bind_fun_some, override]
    · rw [← Option.map_eq_bind, override]
  · rintro ⟨hlisten, hpath, hegress, hevents, hremote, hreplay⟩
    cases c'
    rw [override, Option.map_eq_bind, mk.injEq]
    refine ⟨?_, ?_, (getD_bind_eq_iff hhosts).2 hegress, hevents.symm, hremote.symm,
      (getD_bind_eq_iff hlimit).2 hreplay⟩
    · simpa using (getD_bind_eq_iff htext).2 hlisten
    · simpa using (getD_bind_eq_iff htext).2 hpath

/-- Doing the overrides of an environment again changes nothing. -/
theorem override_override (c : Config) (env : Environment) :
    (c.override env).override env = c.override env := by
  have hagain {α : Type} (v? : Option α) (old : α) : v?.getD (v?.getD old) = v?.getD old := by
    cases v? <;> rfl
  simp only [override, hagain]

theorem validate_eq_noFallback_iff {c : Config} :
    c.validate = .error .noFallback ↔ c.fallbackEgress = [] := by
  by_cases h : c.fallbackEgress = []
  · simp [validate, h]
  · have hempty : c.fallbackEgress.isEmpty = false := by simpa using h
    simp only [validate, hempty, h, iff_false]
    split_ifs <;> simp_all

/-- A variable sets its field if its text means something there, and overrides change nothing
else. The hosts that a list sets are trimmed, not empty and without commas; a list that spells
some hosts, as their join with commas does, sets those hosts; and there is no host to fall back
on exactly if the list is nothing but blanks and commas. -/
theorem override_environment (c : Config) (env : Environment) :
    (∀ c', c.override env = c' ↔ Overridden c env c') ∧
    (∀ text, env "BEPASS_FALLBACK_EGRESS" = some text →
      (∀ host ∈ (c.override env).fallbackEgress, Listable host) ∧
      (∀ hosts, NamesHosts text hosts → (c.override env).fallbackEgress = hosts) ∧
      (∀ hosts, (∀ host ∈ hosts, Listable host) → text = ",".intercalate hosts →
        (c.override env).fallbackEgress = hosts) ∧
      ((c.override env).validate = .error .noFallback ↔
        ∀ ch ∈ text.toList, Text.isBlank ch ∨ ch = ',')) ∧
    (c.override env).override env = c.override env := by
  refine ⟨fun c' => override_eq_iff, fun text htext => ?_, override_override c env⟩
  have hegress : (c.override env).fallbackEgress = hostsOfList text := by simp [override, htext]
  obtain ⟨pieces, hpieces, -⟩ := hostsOfList_eq_iff.1 hegress.symm
  refine ⟨hpieces.listable, fun hosts hnames => ?_, fun hosts hlistable hjoin => ?_, ?_⟩
  · rw [hegress, hostsOfList_eq_iff.2 hnames]
  · rw [hegress, hostsOfList_eq_iff.2 ⟨hosts, spells_self hlistable, hjoin⟩]
  · rw [validate_eq_noFallback_iff, hegress, hostsOfList_eq_nil_iff]

/-- Blanks around hosts and blank pieces between them count for nothing, the join of hosts names
them, and a blank list leaves no host. -/
theorem override_environment_spelled :
    let listed (text : String) : Environment := fun name =>
      if name = "BEPASS_FALLBACK_EGRESS" then some text else none
    NamesHosts " a ,,\tb c\n, " ["a", "b c"] ∧ (∀ host ∈ ["a", "b c"], Listable host) ∧
    (({} : Config).override (listed " a ,,\tb c\n, ")).fallbackEgress = ["a", "b c"] ∧
    (({} : Config).override (listed "a,b c")).fallbackEgress = ["a", "b c"] ∧
    (({} : Config).override (listed " ,\t,")).validate = .error .noFallback := by
  intro listed
  have ha : Listable "a" := ⟨by decide, by decide, by decide⟩
  have hb : Listable "b c" := ⟨by decide, by decide, by decide⟩
  have hblank (text : String) (h : text ∈ ["", " ", "\t", "\n"]) : Text.Blank text.toList := by
    revert text
    decide
  have hspelled : NamesHosts " a ,,\tb c\n, " ["a", "b c"] := by
    refine ⟨[" " ++ "a" ++ " ", "", "\t" ++ "b c" ++ "\n", " "], ?_, by decide⟩
    exact .host ha (hblank _ (by simp)) (hblank _ (by simp)) <| .blank (hblank _ (by simp)) <|
      .host hb (hblank _ (by simp)) (hblank _ (by simp)) <| .blank (hblank _ (by simp)) .nil
  have hlistable : ∀ host ∈ ["a", "b c"], Listable host := by simp [ha, hb]
  refine ⟨hspelled, hlistable, ?_, ?_, ?_⟩
  · exact ((override_environment {} (listed " a ,,\tb c\n, ")).2.1 _ rfl).2.1 _ hspelled
  · exact ((override_environment {} (listed "a,b c")).2.1 _ rfl).2.2.1 _ hlistable (by decide)
  · refine ((override_environment {} (listed " ,\t,")).2.1 _ rfl).2.2.2.2 fun ch hch => ?_
    have hcases : ch = ' ' ∨ ch = ',' ∨ ch = '\t' ∨ ch = ',' := by simpa using hch
    obtain rfl | rfl | rfl | rfl := hcases <;> decide

end Tunnel.Config
