import Mathlib.Data.List.Induction
import Tunnel.Proofs.Text.Numeral
import Tunnel.Proofs.Text.Pieces
import Tunnel.Query

/-!
# Queries, written and read

A query is written as its items between ampersands, each a key by itself or a key and a value
with an equals sign between them. Keys hold neither mark, values may hold equals signs. What is
read of such a text depends on the last item of the key `host` and on the last one of the key
`port`, even if an earlier port is a numeral and the last one is none.

## Main definitions

* `Query.Item`, `Query.write` — the items of a query, and its text.
* `Query.last?` — the value of the last item with a given key.
* `Query.NamesPort` — which port a value stands for.

## Main statements

* `Destination.ofQuery_write` — what is read of the text of any items, and that the text of a
  destination names it.
-/

namespace Tunnel

namespace Query

/-- A piece of a query: a key by itself, or a key with a value. -/
inductive Item
  | bare (key : String)
  | valued (key value : String)
  deriving DecidableEq, Repr

namespace Item

def key : Item → String
  | bare key | valued key _ => key

/-- The value; a key by itself has the empty one. -/
def value : Item → String
  | bare _ => ""
  | valued _ value => value

def write : Item → String
  | bare key => key
  | valued key value => key ++ "=" ++ value

/-- The marks stand in no place where they would be read as marks. -/
structure Plain (i : Item) : Prop where
  amp_notMem_key : '&' ∉ i.key.toList
  eq_notMem_key : '=' ∉ i.key.toList
  amp_notMem_value : '&' ∉ i.value.toList

instance (i : Item) : Decidable i.Plain :=
  decidable_of_iff ('&' ∉ i.key.toList ∧ '=' ∉ i.key.toList ∧ '&' ∉ i.value.toList)
    ⟨fun ⟨h₁, h₂, h₃⟩ => ⟨h₁, h₂, h₃⟩, fun h => ⟨h.1, h.2, h.3⟩⟩

theorem plain_host {host : String} (h : '&' ∉ host.toList) : (valued "host" host).Plain :=
  ⟨by simp [key], by simp [key], h⟩

/-- No digit of a port is a mark. -/
theorem plain_port (port : UInt16) : (valued "port" (toString port.toNat)).Plain := by
  refine ⟨by simp [key], by simp [key], fun h => ?_⟩
  simpa using (Text.digits_toString port.toNat).isDigit '&' h

/-- The key and the value as they are read. -/
def pair (i : Item) : List Char × List Char := (i.key.toList, i.value.toList)

theorem Plain.amp_notMem_write {i : Item} (h : i.Plain) : '&' ∉ i.write.toList := by
  cases i with
  | bare key => exact h.amp_notMem_key
  | valued key value => simpa [write] using ⟨h.amp_notMem_key, h.amp_notMem_value⟩

theorem Plain.cut_write {i : Item} (h : i.Plain) :
    ((Text.cut '=' i.write.toList).1, (Text.cut '=' i.write.toList).2.getD []) = i.pair := by
  cases i with
  | bare key =>
    rw [write, Text.cut_of_notMem (by exact h.eq_notMem_key)]
    simp [pair, Item.key, Item.value]
  | valued key value =>
    have hw : (valued key value).write.toList = key.toList ++ '=' :: value.toList := by
      simp [write]
    rw [hw, Text.cut_append (by exact h.eq_notMem_key)]
    rfl

end Item

/-- The text of some items. -/
def write (items : List Item) : String := "&".intercalate (items.map Item.write)

/-- The value of the last item with this key. -/
def last? (key : String) (items : List Item) : Option String :=
  (items.filter (·.key = key)).getLast?.map Item.value

/-- The port that a value stands for: the number that its numeral spells, if that is one of 16
bits, and else zero. -/
inductive NamesPort : Option String → UInt16 → Prop
  | numeral {value : String} {port : UInt16} (h : Text.Numeral value.toList port.toNat) :
    NamesPort (some value) port
  | unfit {value : String} (h : ∀ n, Text.Numeral value.toList n → 65535 < n) :
    NamesPort (some value) 0
  | missing : NamesPort none 0

/-! ### Cutting a written query -/

theorem pairs_write {items : List Item} (hne : items ≠ []) (h : ∀ i ∈ items, i.Plain) :
    pairs (write items).toList = items.map Item.pair := by
  have hpieces : Text.pieces '&' (write items).toList = items.map fun i => i.write.toList := by
    rw [write, String.toList_intercalate, List.map_map]
    refine Text.pieces_intercalate (by simpa using hne) fun part hpart => ?_
    obtain ⟨i, hi, rfl⟩ := List.mem_map.1 hpart
    exact (h i hi).amp_notMem_write
  rw [pairs, hpieces, List.map_map]
  exact List.map_congr_left fun i hi => (h i hi).cut_write

/-! ### The last values -/

theorem last?_concat (key : String) (items : List Item) (i : Item) :
    last? key (items ++ [i]) = if i.key = key then some i.value else last? key items := by
  by_cases h : i.key = key <;> simp [last?, h]

theorem assign_pair (d : Destination) (i : Item) :
    assign d i.pair =
      if i.key = "host" then { d with host := i.value }
      else if i.key = "port" then { d with port := port i.value.toList }
      else d := by
  simp only [assign, Item.pair, String.toList_inj, String.ofList_toList]

/-- What has been read of some items is what the last ones say. -/
theorem foldl_assign (items : List Item) :
    (items.map Item.pair).foldl assign { host := "", port := 0 } =
      { host := (last? "host" items).getD ""
        port := ((last? "port" items).map fun v => port v.toList).getD 0 } := by
  induction items using List.reverseRecOn with
  | nil => rfl
  | append_singleton items i ih =>
    rw [List.map_append, List.foldl_append, ih]
    simp only [List.map_cons, List.map_nil, List.foldl_cons, List.foldl_nil, assign_pair,
      last?_concat]
    by_cases hh : i.key = "host"
    · simp [hh]
    · by_cases hp : i.key = "port" <;> simp [hh, hp]

/-! ### Ports -/

theorem port_of_numeral {value : List Char} {p : UInt16} (h : Text.Numeral value p.toNat) :
    port value = p := by
  have hp : p.toNat ≤ 65535 := Nat.le_of_lt_succ p.toNat_lt
  simp [port, Text.readNumeral?_eq_some_iff.2 ⟨h, hp⟩]

theorem port_of_unfit {value : List Char} (h : ∀ n, Text.Numeral value n → 65535 < n) :
    port value = 0 := by
  have hnone : Text.readNumeral? 65535 value = none := by
    refine Option.eq_none_iff_forall_ne_some.2 fun n hn => ?_
    obtain ⟨hnum, hle⟩ := Text.readNumeral?_eq_some_iff.1 hn
    have := h n hnum
    omega
  simp [port, hnone]

theorem namesPort_port (value : String) : NamesPort (some value) (port value.toList) := by
  cases h : Text.readNumeral? 65535 value.toList with
  | none =>
    have hlarge : ∀ n, Text.Numeral value.toList n → 65535 < n := fun n hn =>
      Nat.lt_of_not_le fun hle => by simp [Text.readNumeral?_eq_some_iff.2 ⟨hn, hle⟩] at h
    rw [port_of_unfit hlarge]
    exact .unfit hlarge
  | some n =>
    obtain ⟨hn, hle⟩ := Text.readNumeral?_eq_some_iff.1 h
    have htoNat : (UInt16.ofNat n).toNat = n := UInt16.toNat_ofNat_of_lt' (Nat.lt_succ_of_le hle)
    have hport : port value.toList = UInt16.ofNat n := by simp [port, h]
    rw [hport]
    exact .numeral (by rwa [htoNat])

/-- The port that is read is the only one that the value stands for. -/
theorem port_eq_iff {value? : Option String} {p : UInt16} :
    (value?.map fun v => port v.toList).getD 0 = p ↔ NamesPort value? p := by
  constructor
  · rintro rfl
    cases value? with
    | none => exact .missing
    | some value => exact namesPort_port value
  · rintro (h | h | _)
    · simpa using port_of_numeral h
    · simpa using port_of_unfit h
    · rfl

end Query

/-! ### Reading what was written -/

theorem Destination.ofQuery_items {items : List Query.Item} (h : ∀ i ∈ items, i.Plain) :
    Destination.ofQuery (Query.write items) =
      { host := (Query.last? "host" items).getD ""
        port := ((Query.last? "port" items).map fun v => Query.port v.toList).getD 0 } := by
  cases items with
  | nil => rfl
  | cons i items => rw [Destination.ofQuery, Query.pairs_write (by simp) h, Query.foldl_assign]

/-- A host and a port, in either order. -/
theorem Destination.ofQuery_two {host digits : String}
    (hhost : (Query.Item.valued "host" host).Plain)
    (hport : (Query.Item.valued "port" digits).Plain) :
    Destination.ofQuery ("host=" ++ host ++ "&port=" ++ digits) =
      { host, port := Query.port digits.toList } ∧
    Destination.ofQuery ("port=" ++ digits ++ "&host=" ++ host) =
      { host, port := Query.port digits.toList } := by
  constructor
  · have htext : "host=" ++ host ++ "&port=" ++ digits =
        Query.write [.valued "host" host, .valued "port" digits] := by
      simp [Query.write, Query.Item.write, ← String.toList_inj]
    rw [htext, Destination.ofQuery_items (by simp [hhost, hport])]
    simp [Query.last?, Query.Item.key, Query.Item.value]
  · have htext : "port=" ++ digits ++ "&host=" ++ host =
        Query.write [.valued "port" digits, .valued "host" host] := by
      simp [Query.write, Query.Item.write, ← String.toList_inj]
    rw [htext, Destination.ofQuery_items (by simp [hhost, hport])]
    simp [Query.last?, Query.Item.key, Query.Item.value]

/-- Of the text of any plain items the last host is read, empty if there is none, and the port
that the last port's value stands for. A destination whose host has no ampersand is read back
from its text, in either order. -/
theorem Destination.ofQuery_write {items : List Query.Item} (hitems : ∀ i ∈ items, i.Plain)
    {host : String} (hhost : '&' ∉ host.toList) (port : UInt16) :
    (∀ d, Destination.ofQuery (Query.write items) = d ↔
      d.host = (Query.last? "host" items).getD "" ∧
        Query.NamesPort (Query.last? "port" items) d.port) ∧
    Destination.ofQuery ("host=" ++ host ++ "&port=" ++ toString port.toNat) = { host, port } ∧
    Destination.ofQuery ("port=" ++ toString port.toNat ++ "&host=" ++ host) =
      { host, port } := by
  have hread : Query.port (toString port.toNat).toList = port :=
    Query.port_of_numeral (.unsigned (Text.digits_toString _))
  obtain ⟨hfirst, hlast⟩ :=
    Destination.ofQuery_two (Query.Item.plain_host hhost) (Query.Item.plain_port port)
  refine ⟨fun d => ?_, by rw [hfirst, hread], by rw [hlast, hread]⟩
  rw [Destination.ofQuery_items hitems, ← Query.port_eq_iff]
  cases d
  simp [eq_comm]

/-- A later port that is no numeral counts against an earlier one, values keep their equals
signs, and a key by itself has the empty value. -/
theorem Destination.ofQuery_write_overridden :
    (∀ i ∈ [Query.Item.valued "host" "a", .valued "port" "443", .valued "x" "1",
        .valued "host" "b=c", .bare "port"], i.Plain) ∧
    '&' ∉ "ü=1".toList ∧
    Destination.ofQuery "host=a&port=443&x=1&host=b=c&port" = { host := "b=c", port := 0 } ∧
    Destination.ofQuery "port=65535&host=ü=1" = { host := "ü=1", port := 65535 } := by
  have hplain : ∀ i ∈ [Query.Item.valued "host" "a", .valued "port" "443", .valued "x" "1",
      .valued "host" "b=c", .bare "port"], i.Plain := by decide
  have hhost : '&' ∉ "ü=1".toList := by decide
  obtain ⟨hread, -, hback⟩ := Destination.ofQuery_write hplain hhost 65535
  refine ⟨hplain, hhost, (hread _).2 ⟨by decide, .unfit fun n hn => ?_⟩, hback⟩
  change Text.Numeral [] n at hn
  cases hn with
  | unsigned h => exact (h.ne_nil rfl).elim

end Tunnel
