import Mathlib.Data.List.Infix
import Mathlib.Data.List.Induction
import Tunnel.Session.Replay

/-!
# Replay buffers

A buffer keeps all chunks that it was offered, or none.

## Main definitions

* `ReplayBuffer.offered` — the buffer that was offered some chunks.
* `ReplayBuffer.recordAll` — chunks are offered one after the other.
* `ReplayBuffer.fitting` — which chunks fit together with all before them.

## Main statements

* `ReplayBuffer.record_offered` — one more chunk is offered.
* `ReplayBuffer.recordAll_eq` — what a fresh buffer answers to any chunks, and what it then is.
* `ReplayBuffer.keeps_all_or_none` — what this means for the counting, the answers and a replay.
-/

namespace Tunnel

namespace ReplayBuffer

/-- The buffer that was offered these chunks, in order. -/
def offered (limit : Nat) (chunks : List Bytes) : ReplayBuffer :=
  if chunks.flatten.length ≤ limit then { limit, chunks, size := chunks.flatten.length }
  else { limit, overflowed := true }

variable {limit : Nat} {chunks : List Bytes} {chunk : Bytes}

@[simp] theorem offered_nil : offered limit [] = { limit } := by simp [offered]

/-- What a replay would give. -/
theorem offered_chunks :
    (offered limit chunks).chunks = if chunks.flatten.length ≤ limit then chunks else [] := by
  unfold offered
  split <;> rfl

/-- It gives all chunks or none. -/
theorem offered_isPrefix : (offered limit chunks).chunks <+: chunks := by
  rw [offered_chunks]
  split
  · exact List.prefix_rfl
  · exact List.nil_prefix

theorem offered_length_le : (offered limit chunks).chunks.flatten.length ≤ limit := by
  rw [offered_chunks]
  split
  · assumption
  · simp

/-- What is counted is what is kept. -/
theorem offered_size :
    (offered limit chunks).size = (offered limit chunks).chunks.flatten.length := by
  unfold offered
  split <;> rfl

theorem length_flatten_concat :
    (chunks ++ [chunk]).flatten.length = chunks.flatten.length + chunk.length := by
  simp

/-- A chunk is kept if all chunks so far fit together. -/
theorem record_offered :
    (offered limit chunks).record chunk =
      (decide ((chunks ++ [chunk]).flatten.length ≤ limit), offered limit (chunks ++ [chunk])) := by
  unfold offered record
  rw [length_flatten_concat]
  by_cases ho : chunks.flatten.length ≤ limit
  · by_cases hn : chunks.flatten.length + chunk.length ≤ limit
    · simp only [if_pos ho, if_pos hn, Bool.false_eq_true, if_false, decide_eq_true hn]
      rw [if_neg (by omega)]
    · simp only [if_pos ho, if_neg hn, Bool.false_eq_true, if_false, decide_eq_false hn]
      rw [if_pos (by omega)]
  · have hn : ¬chunks.flatten.length + chunk.length ≤ limit := by omega
    simp only [if_neg ho, if_neg hn, if_true, decide_eq_false hn]

/-! ### Offer after offer -/

/-- The chunks are offered one after the other: the answers in order, and the buffer behind them. -/
def recordAll (b : ReplayBuffer) (chunks : List Bytes) : List Bool × ReplayBuffer :=
  chunks.foldl (fun (answers, b) chunk =>
    let (kept, b) := b.record chunk
    (answers ++ [kept], b)) ([], b)

theorem recordAll_concat (b : ReplayBuffer) :
    b.recordAll (chunks ++ [chunk]) =
      ((b.recordAll chunks).1 ++ [((b.recordAll chunks).2.record chunk).1],
        ((b.recordAll chunks).2.record chunk).2) := by
  simp [recordAll, List.foldl_append]

/-- For each of the chunks, whether it fits together with all before it. -/
def fitting (limit : Nat) (chunks : List Bytes) : List Bool :=
  chunks.inits.tail.map fun upTo => decide (upTo.flatten.length ≤ limit)

theorem fitting_concat : fitting limit (chunks ++ [chunk]) =
    fitting limit chunks ++ [decide ((chunks ++ [chunk]).flatten.length ≤ limit)] := by
  have hne : chunks.inits ≠ [] := List.ne_nil_of_length_pos (by simp)
  simp [fitting, List.inits_append, List.tail_append_of_ne_nil hne]

/-- All chunks fit if they fit together. -/
theorem all_fitting : (fitting limit chunks).all id = decide (chunks.flatten.length ≤ limit) := by
  induction chunks using List.reverseRecOn with
  | nil => rfl
  | append_singleton chunks chunk ih =>
    rw [fitting_concat, List.all_append, ih, length_flatten_concat, Bool.eq_iff_iff]
    simp only [List.all_cons, List.all_nil, id, Bool.and_true, Bool.and_eq_true, decide_eq_true_eq]
    omega

/-- After a chunk that does not fit, none does, not even an empty one. -/
theorem fitting_pairwise :
    (fitting limit chunks).Pairwise fun earlier later => earlier = false → later = false := by
  induction chunks using List.reverseRecOn with
  | nil => exact .nil
  | append_singleton chunks chunk ih =>
    rw [fitting_concat, List.pairwise_append]
    refine ⟨ih, List.pairwise_singleton _ _, ?_⟩
    intro earlier hmem last hlast hearlier
    have hnot : (fitting limit chunks).all id = false :=
      List.all_eq_false.mpr ⟨earlier, hmem, by simp [hearlier]⟩
    have hover : ¬chunks.flatten.length ≤ limit := by
      rwa [all_fitting, decide_eq_false_iff_not] at hnot
    rw [List.mem_singleton.mp hlast, decide_eq_false_iff_not, length_flatten_concat]
    omega

/-- A fresh buffer keeps each chunk that fits, and in the end all or none. -/
theorem recordAll_eq (limit : Nat) (chunks : List Bytes) :
    recordAll { limit } chunks = (fitting limit chunks, offered limit chunks) := by
  induction chunks using List.reverseRecOn with
  | nil => simp [recordAll, fitting]
  | append_singleton chunks chunk ih => rw [recordAll_concat, ih, record_offered, fitting_concat]

/-- A fresh buffer is offered chunks of less than 2^64 bytes together. At each offer it has counted
the bytes that it keeps, they are within the limit, and the sum that is compared with the limit is a
number of 64 bits. A chunk is kept exactly if it fits together with all before it, so that none is
after one that was not. All chunks are given back if all were kept, and else none. -/
theorem keeps_all_or_none (limit : Nat) (chunks : List Bytes)
    (h : chunks.flatten.length < UInt64.size) :
    let run := recordAll { limit } chunks
    (∀ before after, chunks = before ++ after →
      let b := (recordAll { limit } before).2
      b.size = b.chunks.flatten.length ∧ b.size ≤ limit ∧
      ∀ chunk ∈ after.head?, b.size + chunk.length < UInt64.size) ∧
    run.1 = fitting limit chunks ∧
    (run.1.Pairwise fun earlier later => earlier = false → later = false) ∧
    run.2.take.1 = (if run.1.all id then chunks else []) ∧ run.2.take.2.size = 0 := by
  intro run
  have hrun : run = (fitting limit chunks, offered limit chunks) := recordAll_eq limit chunks
  refine ⟨?_, congrArg Prod.fst hrun, ?_, ?_, rfl⟩
  · intro before after hsplit b
    have hb : b = offered limit before := congrArg Prod.snd (recordAll_eq limit before)
    rw [hb]
    have hkept : (offered limit before).size ≤ before.flatten.length :=
      offered_size.le.trans offered_isPrefix.flatten.length_le
    refine ⟨offered_size, offered_size.le.trans offered_length_le, ?_⟩
    intro chunk hchunk
    obtain ⟨rest, rfl⟩ := List.head?_eq_some_iff.mp hchunk
    simp only [hsplit, List.flatten_append, List.flatten_cons, List.length_append] at h
    omega
  · rw [hrun]
    exact fitting_pairwise
  · rw [hrun, all_fitting]
    simp only [decide_eq_true_eq]
    exact offered_chunks

/-- Two chunks fill the buffer to its limit; then a byte is too much, and so is no byte. -/
theorem keeps_all_or_none_overfull :
    let chunks : List Bytes := [[1, 2], [3, 4], [5], []]
    chunks.flatten.length < UInt64.size ∧
    (recordAll { limit := 4 } chunks).1 = [true, true, false, false] ∧
    (recordAll { limit := 4 } chunks).2.take.1 = [] ∧
    (recordAll { limit := 4 } (chunks.take 2)).2.take.1 = [[1, 2], [3, 4]] := by
  intro chunks
  have hlt : chunks.flatten.length < UInt64.size := by decide
  obtain ⟨-, hanswers, -, htake, -⟩ := keeps_all_or_none 4 chunks hlt
  obtain ⟨-, hfirst, -, hfull, -⟩ := keeps_all_or_none 4 (chunks.take 2) (by decide)
  refine ⟨hlt, hanswers.trans (by decide), ?_, ?_⟩
  · rw [htake, hanswers]
    decide
  · rw [hfull, hfirst]
    decide

end ReplayBuffer

end Tunnel
