import Mathlib.Data.List.Nodup
import Tunnel.CommandLine
import Tunnel.Proofs.Json.Layout
import Tunnel.Proofs.Text.Utf8

/-!
# Configurations, written and read

A configuration that was written is read back from the text. Of an object that holds some of its
fields only, in any order and any layout, those fields are read, and the others have their
defaults.

## Main definitions

* `Config.Value`, `Config.Field.get` — the values of fields, all of one type.
* `Config.ObjectText` — the texts of the objects of some fields, with any space between their
  parts.

## Main statements

* `Config.ofJson_objectText` — what is read of such a text.
* `Config.load_printed` — what is printed of a usable configuration loads as that configuration.
-/

namespace Tunnel.Config

open Tunnel.Json

/-! ### Fields and their values -/

/-- The value of a field. -/
inductive Value
  | text (s : String)
  | texts (xs : List String)
  | natural (n : UInt64)
  deriving DecidableEq, Repr

namespace Field

def get (c : Config) : Field → Value
  | listenAddr => .text c.listenAddr
  | connectPath => .text c.connectPath
  | fallbackEgress => .texts c.fallbackEgress
  | eventQueueCapacity => .natural c.eventQueueCapacity
  | remoteQueueCapacity => .natural c.remoteQueueCapacity
  | replayLimit => .natural c.replayLimit

/-- The second configuration with this field of the first one. -/
def copy (c d : Config) : Field → Config
  | listenAddr => { d with listenAddr := c.listenAddr }
  | connectPath => { d with connectPath := c.connectPath }
  | fallbackEgress => { d with fallbackEgress := c.fallbackEgress }
  | eventQueueCapacity => { d with eventQueueCapacity := c.eventQueueCapacity }
  | remoteQueueCapacity => { d with remoteQueueCapacity := c.remoteQueueCapacity }
  | replayLimit => { d with replayLimit := c.replayLimit }

theorem get_copy (c d : Config) (f g : Field) :
    g.get (f.copy c d) = if g = f then g.get c else g.get d := by
  cases f <;> cases g <;> rfl

theorem ofKey?_key (f : Field) : ofKey? f.key = some f := by
  cases f <;> decide

theorem mem_all (f : Field) : f ∈ all := by
  cases f <;> decide

end Field

theorem eq_of_get {c d : Config} (h : ∀ f : Field, f.get c = f.get d) : c = d := by
  have hlisten := h .listenAddr
  have hpath := h .connectPath
  have hegress := h .fallbackEgress
  have hevents := h .eventQueueCapacity
  have hremote := h .remoteQueueCapacity
  have hlimit := h .replayLimit
  cases c
  cases d
  simp_all [Field.get]

/-- The second configuration with some fields of the first one. -/
def copyAll (c : Config) (fields : List Field) (d : Config) : Config :=
  fields.foldl (fun d f => f.copy c d) d

theorem get_copyAll (c : Config) (fields : List Field) (d : Config) (g : Field) :
    g.get (c.copyAll fields d) = if g ∈ fields then g.get c else g.get d := by
  induction fields generalizing d with
  | nil => rfl
  | cons f fields ih =>
    rw [copyAll, List.foldl_cons, ← copyAll, ih, Field.get_copy]
    by_cases hf : g = f <;> simp [hf]

/-! ### Their texts -/

/-- The texts of a value, with space in front. -/
inductive Value.Written : Value → List Char → Prop
  | text {s : String} {text : List Char} (h : StringText s text) : Written (.text s) text
  | texts {xs : List String} {text : List Char} (h : ListText xs text) : Written (.texts xs) text
  | natural {ws : List Char} (h : Space ws) (n : UInt64) :
      Written (.natural n) (ws ++ writeNatural n)

/-- A field in an object: its key, a colon and its value. -/
def Member (c : Config) (f : Field) (text : List Char) : Prop :=
  ∃ key ws value, StringText f.key key ∧ Space ws ∧ Value.Written (f.get c) value ∧
    text = key ++ (ws ++ ':' :: value)

/-- An object of some fields, with space around it. -/
def ObjectText (c : Config) (fields : List Field) (text : List Char) : Prop :=
  ∃ before inner after, Space before ∧ Elements c.Member fields inner ∧ Space after ∧
    text = before ++ '\x7b' :: (inner ++ '\x7d' :: after)

theorem Field.written_write {ws : List Char} (h : Space ws) (c : Config) (f : Field) :
    Value.Written (f.get c) (ws ++ f.write c) := by
  cases f with
  | listenAddr => exact .text ⟨ws, h, rfl⟩
  | connectPath => exact .text ⟨ws, h, rfl⟩
  | fallbackEgress => exact .texts (listText_writeTexts h _)
  | eventQueueCapacity => exact .natural h _
  | remoteQueueCapacity => exact .natural h _
  | replayLimit => exact .natural h _

theorem member_writeField (c : Config) (f : Field) : c.Member f ('\n' :: c.writeField f) := by
  have hspace : Space [' '] := by decide
  refine ⟨"\n  ".toList ++ writeString f.key, [], [' '] ++ f.write c, ⟨_, by decide, rfl⟩,
    space_nil, f.written_write hspace c, ?_⟩
  simp [writeField]

/-- The written form, and any space behind it. -/
theorem objectText_writeFields (c : Config) (fields : List Field) {after : List Char}
    (h : Space after) : c.ObjectText fields (c.writeFields fields ++ after) := by
  have hlines : Elements c.Member fields
      ('\n' :: (joinLines (fields.map c.writeField) ++ ['\n'])) :=
    elements_joinLines c.member_writeField (by decide) fields
  refine ⟨[], _, after, space_nil, hlines, h, ?_⟩
  simp [writeFields]

/-! ### Reading -/

theorem Field.read_written {c : Config} {f : Field} {text : List Char}
    (h : Value.Written (f.get c) text) (d : Config) {rest : List Char} (hrest : Ended rest) :
    f.read d (text ++ rest) = .ok (f.copy c d, rest) := by
  cases f with
  | listenAddr =>
    cases h with
    | text h =>
      rw [read, readText_stringText h]
      rfl
  | connectPath =>
    cases h with
    | text h =>
      rw [read, readText_stringText h]
      rfl
  | fallbackEgress =>
    cases h with
    | texts h =>
      rw [read, readTextList_listText h]
      rfl
  | eventQueueCapacity =>
    cases h with
    | natural h n =>
      rw [read, readNatural_writeNatural h _ hrest]
      rfl
  | remoteQueueCapacity =>
    cases h with
    | natural h n =>
      rw [read, readNatural_writeNatural h _ hrest]
      rfl
  | replayLimit =>
    cases h with
    | natural h n =>
      rw [read, readNatural_writeNatural h _ hrest]
      rfl

theorem readEntries_close {n : Nat} {first : Bool} {seen : List Field} {d : Config}
    {ws : List Char} (h : Space ws) (rest : List Char) :
    readEntries (n + 1) first seen d (ws ++ '\x7d' :: rest) = .ok (d, '\x7d' :: rest) := by
  rw [readEntries, nextKey_close h]

theorem readEntries_first {c : Config} {f : Field} {text rest : List Char}
    (h : c.Member f text) (hrest : Ended rest) {seen : List Field} (hseen : f ∉ seen) (n : Nat)
    (d : Config) :
    readEntries (n + 1) true seen d (text ++ rest) =
      readEntries n false (f :: seen) (f.copy c d) rest := by
  obtain ⟨key, ws, value, hkey, hws, hvalue, rfl⟩ := h
  have htext : key ++ (ws ++ ':' :: value) ++ rest = key ++ (ws ++ ':' :: (value ++ rest)) := by
    simp
  rw [htext, readEntries, nextKey_first hkey]
  simp [Field.ofKey?_key, hseen, readColon_colon hws, Except.bind,
    Field.read_written hvalue d hrest]

theorem readEntries_comma {c : Config} {f : Field} {ws text : List Char} (hws : Space ws)
    (h : c.Member f text) (n : Nat) (seen : List Field) (d : Config) (rest : List Char) :
    readEntries (n + 1) false seen d (ws ++ ',' :: (text ++ rest)) =
      readEntries (n + 1) true seen d (text ++ rest) := by
  obtain ⟨key, ws', value, hkey, -, -, rfl⟩ := h
  rw [List.append_assoc, readEntries, nextKey_comma hws hkey, ← readEntries]

/-- The fields behind those that were read, with fuel for each of them and for the bracket. -/
theorem readEntries_tail {c : Config} {fields : List Field} {text : List Char}
    (h : Tail c.Member fields text) {n : Nat} (hn : fields.length < n) {seen : List Field}
    (hnodup : (fields ++ seen).Nodup) (d : Config) (rest : List Char) :
    readEntries n false seen d (text ++ '\x7d' :: rest) =
      .ok (c.copyAll fields d, '\x7d' :: rest) := by
  induction h generalizing n seen d with
  | done hws =>
    obtain ⟨n, rfl⟩ := Nat.exists_eq_succ_of_ne_zero (Nat.ne_of_gt hn)
    exact readEntries_close hws rest
  | @more f fields ws text tail hws hmember htail ih =>
    obtain ⟨n, rfl⟩ := Nat.exists_eq_succ_of_ne_zero (Nat.ne_of_gt (Nat.zero_lt_of_lt hn))
    have hended := htail.ended (by decide : goesOn '\x7d' = false) rest
    have hseen : f ∉ seen := fun hmem => (List.nodup_cons.1 hnodup).1 (by simp [hmem])
    rw [List.append_assoc, List.cons_append, List.append_assoc, readEntries_comma hws hmember,
      readEntries_first hmember hended hseen, ih (by simpa using hn) (List.nodup_middle.2 hnodup)]
    rfl

theorem readEntries_elements {c : Config} {fields : List Field} {text : List Char}
    (h : Elements c.Member fields text) {n : Nat} (hn : fields.length < n)
    (hnodup : fields.Nodup) (d : Config) (rest : List Char) :
    readEntries n true [] d (text ++ '\x7d' :: rest) =
      .ok (c.copyAll fields d, '\x7d' :: rest) := by
  obtain ⟨n, rfl⟩ := Nat.exists_eq_succ_of_ne_zero (Nat.ne_of_gt (Nat.zero_lt_of_lt hn))
  cases h with
  | none hws => exact readEntries_close hws rest
  | some hmember htail =>
    have hended := htail.ended (by decide : goesOn '\x7d' = false) rest
    rw [List.append_assoc, readEntries_first hmember hended List.not_mem_nil,
      readEntries_tail htail (by simpa using hn) (List.nodup_middle.2 (by simpa using hnodup))]
    rfl

/-- Of an object the fields that it holds are read, and the others have their defaults. -/
theorem ofJson_objectText {c : Config} {fields : List Field} {text : List Char}
    (h : c.ObjectText fields text) (hnodup : fields.Nodup) :
    ofJson (String.ofList text) = .ok (c.copyAll fields {}) := by
  obtain ⟨before, inner, after, hbefore, hinner, hafter, rfl⟩ := h
  have hlength := hinner.length_le
  have hfuel : fields.length < (inner ++ '\x7d' :: after).length + 1 := by
    rw [List.length_append, List.length_cons]
    omega
  have hentries := readEntries_elements hinner hfuel hnodup {} after
  have hconfig : readConfig (before ++ '\x7b' :: (inner ++ '\x7d' :: after)) =
      .ok (c.copyAll fields {}, after) := by
    rw [readConfig, hbefore.skipSpace_append_cons (by decide)]
    simp only [hentries]
    rfl
  have hend : atEnd after = true := by
    rw [atEnd, ← List.append_nil after, hafter.skipSpace_append]
    rfl
  simp [ofJson, hconfig, hend]

/-- With all fields of the first configuration, any other one is the first. -/
theorem copyAll_all (c d : Config) : c.copyAll Field.all d = c :=
  eq_of_get fun f => by rw [get_copyAll, if_pos f.mem_all]

theorem ofJson_toJson (c : Config) {after : String} (h : Space after.toList) :
    ofJson (c.toJson ++ after) = .ok c := by
  have hread := ofJson_objectText (c.objectText_writeFields Field.all h) (by decide)
  rw [copyAll_all] at hread
  rw [← hread, toJson, String.ofList_append, String.ofList_toList]

/-! ### Files -/

theorem ofFile_of_ofJson {text : String} {c : Config} (h : ofJson text = .ok c) (path : String) :
    Config.ofFile path (.file text.toUTF8.data.toList) = .ok c := by
  rw [ofFile, Node.readText, Utf8.decode?_toUTF8]
  simp only [h]

/-- A file that is named, or else the default one, is the source. -/
theorem source_of_ofFile {files : String → Node} {path : String} {named? default? : Option String}
    {c : Config} (hpath : named? = some path ∨ named? = none ∧ default? = some path)
    (hfound : (files path).found = true) (h : Config.ofFile path (files path) = .ok c) :
    Config.source files named? default? = .ok c := by
  rcases hpath with rfl | ⟨rfl, rfl⟩
  · exact h
  · simp [source, hfound, h]

theorem override_of_unset {env : Environment}
    (h : ∀ name, "BEPASS_".toList <+: name.toList → env name = none) (c : Config) :
    c.override env = c := by
  have hlisten := h "BEPASS_LISTEN" (by decide)
  have hpath := h "BEPASS_CONNECT_PATH" (by decide)
  have hegress := h "BEPASS_FALLBACK_EGRESS" (by decide)
  have hlimit := h "BEPASS_REPLAY_LIMIT" (by decide)
  simp [override, hlisten, hpath, hegress, hlimit]

/-- What is printed of a usable configuration loads as that configuration where no variable
overrides it. Of an object that holds some of its fields, in any order and with any space between
its parts, these fields are read and the others have their defaults. -/
theorem load_printed {c : Config} (hc : c.validate = .ok ()) :
    (∀ out named?, Config.load out.files.node named? out.directories.configPath? out.env = .ok c →
      CommandLine.execute out (.command named? .config) = .printed (c.toJson ++ "\n")) ∧
    (∀ files path named? default? env (after : String),
      (named? = some path ∨ named? = none ∧ default? = some path) → Space after.toList →
      files path = .file (c.toJson ++ after).toUTF8.data.toList →
      (∀ name, "BEPASS_".toList <+: name.toList → env name = none) →
      Config.load files named? default? env = .ok c) ∧
    (∀ fields text path, fields.Nodup → c.ObjectText fields text →
      ∃ d, Config.ofFile path (.file (String.ofList text).toUTF8.data.toList) = .ok d ∧
        ∀ f : Field, f.get d = if f ∈ fields then f.get c else f.get {}) := by
  refine ⟨fun out named? hload => ?_, fun files path named? default? env after hpath hafter hfile
    hunset => ?_, fun fields text path hnodup htext => ?_⟩
  · simp [CommandLine.execute, hload]
  · have hread := ofFile_of_ofJson (ofJson_toJson c hafter) path
    rw [← hfile] at hread
    have hsource := source_of_ofFile hpath (by rw [hfile]; rfl) hread
    simp [load, hsource, override_of_unset hunset, hc]
  · exact ⟨_, ofFile_of_ofJson (ofJson_objectText htext hnodup) path,
      fun f => get_copyAll c fields {} f⟩

/-- Quotes, backslashes, controls and characters beyond ASCII in the texts, and capacities up to
the greatest, in a file of its own and in one that holds two of the fields. -/
theorem load_printed_escaped :
    let c : Config :=
      { listenAddr := "\"\\/\x08\x01\n", connectPath := "/ü\x7f", fallbackEgress := ["", "日本,\t"]
        eventQueueCapacity := 18446744073709551615, remoteQueueCapacity := 1, replayLimit := 0 }
    let saved : Files := [("saved.json", .file (c.toJson ++ "\n").toUTF8.data.toList)]
    let out : CommandLine.Surroundings :=
      { files := saved, env := fun _ => none, random := 0, listens := fun _ => false }
    let fields : List Field := [.replayLimit, .fallbackEgress]
    c.validate = .ok () ∧
    Config.load saved.node (some "saved.json") none (fun _ => none) = .ok c ∧
    CommandLine.execute out (.command (some "saved.json") .config) =
      .printed (c.toJson ++ "\n") ∧
    fields.Nodup ∧ c.ObjectText fields (c.writeFields fields) ∧
    ∃ d, Config.ofFile "part.json"
        (.file (String.ofList (c.writeFields fields)).toUTF8.data.toList) = .ok d ∧
      ∀ f : Field, f.get d = if f ∈ fields then f.get c else f.get {} := by
  intro c saved out fields
  have hc : c.validate = .ok () := by simp [c, validate]
  have hspace : Space "\n".toList := by decide
  have hload (default? : Option String) :
      Config.load saved.node (some "saved.json") default? (fun _ => none) = .ok c :=
    (load_printed hc).2.1 saved.node "saved.json" _ _ _ "\n" (.inl rfl) hspace rfl fun _ _ => rfl
  have hnodup : fields.Nodup := by decide
  have htext : c.ObjectText fields (c.writeFields fields) := by
    simpa using c.objectText_writeFields fields space_nil
  exact ⟨hc, hload _, (load_printed hc).1 out _ (hload _), hnodup, htext,
    (load_printed hc).2.2 fields _ "part.json" hnodup htext⟩

end Tunnel.Config
