import OnPremPbx.Http.Total

/-!
# Sizes of chunks

The size of a chunk is any number of 64 bits, and `decode_chunked` adds it to a position before it
tests where the chunk ends. The loop stays inside its input, and ends, exactly if none of these sums
goes beyond 64 bits.
-/

open Text Transition

lemma stoul_lt {base : ℕ} {s : Bytes} {n : ℕ} (h : stoul base s = some n) : n < 2 ^ 64 := by
  rw [stoul] at h
  cases hread : readNumber base s with
  | none => rw [hread] at h; cases h
  | some r =>
    obtain ⟨negative, m⟩ := r
    rw [hread] at h
    dsimp only at h
    split_ifs at h with hm hneg
    · cases h
      exact Nat.mod_lt _ (by decide)
    · cases h
      exact not_le.mp hm

namespace Http

/-! ### The line of a chunk -/

/-- Where the data of the chunk at a position starts, and the size that its line gives; the last
chunk has none. -/
def chunkHead (s : Bytes) (pos : ℕ) : Option (ℕ × ℕ) :=
  if s.length ≤ pos then none
  else
    (findFrom CRLF s pos).bind fun crlf =>
      match stoul 16 (((s.take crlf).drop pos).takeWhile (· ≠ 0x3B)) with
      | none | some 0 => none
      | some size     => some (crlf + 2, size)

/-- The test of an iteration, and what it does with the chunk. -/
lemma chunkStep_eq (s : Bytes) (pos : ℕ) :
    chunkStep s pos = (chunkHead s pos).bind fun (start, size) =>
      if s.length < (start + size) % 2 ^ 64 then none
      else some ((s.drop start).take size, (start + (size + 2)) % 2 ^ 64) := by
  rw [chunkStep, chunkHead]
  split_ifs
  · rfl
  · cases findFrom CRLF s pos with
    | none => rfl
    | some crlf =>
      dsimp only [Option.bind_some]
      rcases stoul 16 (((s.take crlf).drop pos).takeWhile (· ≠ 0x3B)) with _ | _ | size <;> rfl

lemma chunkHead_spec {s : Bytes} {pos start size : ℕ} (h : chunkHead s pos = some (start, size)) :
    pos < start ∧ start ≤ s.length ∧ size < 2 ^ 64 := by
  rw [chunkHead] at h
  split_ifs at h with hpos
  obtain ⟨crlf, hcrlf, hsize⟩ := Option.bind_eq_some_iff.mp h
  have hnum := @stoul_lt 16 (((s.take crlf).drop pos).takeWhile (· ≠ 0x3B))
  revert hsize hnum
  rcases stoul 16 (((s.take crlf).drop pos).takeWhile (· ≠ 0x3B)) with _ | _ | n
  · rintro ⟨⟩
  · rintro ⟨⟩
  · rintro ⟨⟩ hnum
    obtain ⟨hle, j, hj, rfl⟩ := findFrom_eq_some_iff.mp hcrlf
    have hend := find_add_le hj
    rw [List.length_drop] at hend
    have hcrlf : CRLF.length = 2 := rfl
    exact ⟨by omega, by omega, hnum rfl⟩

/-! ### Walks that stay inside -/

/-- The loop ends with no more than its input, its position increases in each iteration, and the
bytes that it appends are all in the input. -/
structure StaysInside (s : Bytes) : Prop where
  ends : ∃ out, decodeChunked s = some out ∧ out.length ≤ s.length
  advances : ∀ i pos next, after (nextChunk s) i 0 = some pos → nextChunk s pos = some next →
    pos < next
  inside : ∀ i pos start size, after (nextChunk s) i 0 = some pos → (nextChunk s pos).isSome →
    chunkHead s pos = some (start, size) → start + size ≤ s.length

/-- The places where chunks start, one after another. -/
inductive ChunkAt (s : Bytes) : ℕ → Prop
  | first : ChunkAt s 0
  | next {pos start size : ℕ} : ChunkAt s pos → chunkHead s pos = some (start, size) →
      start + size ≤ s.length → ChunkAt s (start + size + 2)

/-- No chunk has a size with which its end is not a number of 64 bits. -/
def SizesFit (s : Bytes) : Prop :=
  ∀ pos start size, ChunkAt s pos → chunkHead s pos = some (start, size) → start + size < 2 ^ 64

section

variable {s : Bytes}

/-- A chunk whose end fits is in the input, or the loop ends at it. -/
lemma chunkStep_of_fits (hs : s.length < 2 ^ 63) {pos start size : ℕ}
    (h : chunkHead s pos = some (start, size)) (hfits : start + size < 2 ^ 64) :
    chunkStep s pos =
      if start + size ≤ s.length then some ((s.drop start).take size, start + size + 2)
      else none := by
  rw [chunkStep_eq, h, Option.bind_some]
  dsimp only
  rw [Nat.mod_eq_of_lt hfits]
  by_cases hin : start + size ≤ s.length
  · rw [if_neg (not_lt.mpr hin), if_pos hin, ← Nat.add_assoc, Nat.mod_eq_of_lt (by omega)]
  · rw [if_pos (not_le.mp hin), if_neg hin]

/-- A chunk whose end does not fit passes the test. -/
lemma nextChunk_of_wrap (hs : s.length < 2 ^ 63) {pos start size : ℕ}
    (h : chunkHead s pos = some (start, size)) (hwrap : 2 ^ 64 ≤ start + size) :
    (nextChunk s pos).isSome := by
  obtain ⟨-, hstart, hsize⟩ := chunkHead_spec h
  rw [nextChunk, chunkStep_eq, h, Option.bind_some]
  dsimp only
  have hmod : (start + size) % 2 ^ 64 = start + size - 2 ^ 64 := by
    rw [Nat.mod_eq_sub_mod hwrap, Nat.mod_eq_of_lt (by omega)]
  rw [hmod, if_neg (by omega)]
  rfl

lemma nextChunk_inv {pos next : ℕ} (h : nextChunk s pos = some next) :
    ∃ start size, chunkHead s pos = some (start, size) := by
  rw [nextChunk, chunkStep_eq] at h
  cases hhead : chunkHead s pos with
  | none => rw [hhead] at h; cases h
  | some r => exact ⟨r.1, r.2, rfl⟩

/-- Where the sizes fit, an iteration takes a whole chunk, and the next one starts after it. -/
lemma SizesFit.next (hs : s.length < 2 ^ 63) (hfit : SizesFit s) {pos next : ℕ}
    (hpos : ChunkAt s pos) (h : nextChunk s pos = some next) :
    ∃ start size, chunkHead s pos = some (start, size) ∧ start + size ≤ s.length ∧
      next = start + size + 2 := by
  obtain ⟨start, size, hhead⟩ := nextChunk_inv h
  rw [nextChunk, chunkStep_of_fits hs hhead (hfit pos start size hpos hhead)] at h
  split_ifs at h with hin
  · cases h
    exact ⟨start, size, hhead, hin, rfl⟩
  · cases h

lemma SizesFit.lt_next (hs : s.length < 2 ^ 63) (hfit : SizesFit s) {pos next : ℕ}
    (hpos : ChunkAt s pos) (h : nextChunk s pos = some next) : pos < next := by
  obtain ⟨start, size, hhead, -, rfl⟩ := hfit.next hs hpos h
  have := (chunkHead_spec hhead).1
  omega

/-- Where the sizes fit, the loop goes from chunk to chunk. -/
lemma SizesFit.after (hs : s.length < 2 ^ 63) (hfit : SizesFit s) {i pos next : ℕ}
    (hpos : ChunkAt s pos) (h : Transition.after (nextChunk s) i pos = some next) :
    ChunkAt s next ∧ (i = 0 ∨ pos < next) := by
  induction i generalizing pos with
  | zero =>
    cases h
    exact ⟨hpos, .inl rfl⟩
  | succ i ih =>
    obtain ⟨mid, hmid, hrest⟩ := Option.bind_eq_some_iff.mp h
    obtain ⟨start, size, hhead, hin, rfl⟩ := hfit.next hs hpos hmid
    have hlt := hfit.lt_next hs hpos hmid
    obtain ⟨hnext, hle⟩ := ih (hpos.next hhead hin) hrest
    refine ⟨hnext, .inr ?_⟩
    rcases hle with rfl | hle
    · cases hrest
      exact hlt
    · exact hlt.trans hle

/-- The position never comes back. -/
lemma SizesFit.neverReturns (hs : s.length < 2 ^ 63) (hfit : SizesFit s) :
    NeverReturns (nextChunk s) 0 := by
  have hlt : ∀ i j p, Transition.after (nextChunk s) i 0 = some p →
      Transition.after (nextChunk s) j 0 = some p → ¬ i < j := by
    intro i j p hi hj hij
    obtain ⟨d, rfl⟩ := Nat.exists_eq_add_of_lt hij
    rw [Nat.add_assoc, after_add, hi, Option.bind_some] at hj
    obtain ⟨-, hzero | hself⟩ := hfit.after hs (hfit.after hs .first hi).1 hj
    · exact absurd hzero (Nat.succ_ne_zero d)
    · exact absurd hself (lt_irrefl p)
  intro i j p hi hj
  exact le_antisymm (not_lt.mp (hlt j i p hj hi)) (not_lt.mp (hlt i j p hi hj))

/-- What is put together from a chunk on is not longer than the input from there on. -/
lemma SizesFit.length_le (hs : s.length < 2 ^ 63) (hfit : SizesFit s) {n pos : ℕ} {out : Bytes}
    (hpos : ChunkAt s pos) (h : decodeChunkedLoop s n pos = some out) :
    out.length ≤ s.length - pos := by
  induction n generalizing pos out with
  | zero => cases h
  | succ n ih =>
    rw [decodeChunkedLoop] at h
    cases hstep : chunkStep s pos with
    | none =>
      rw [hstep] at h
      cases h
      exact Nat.zero_le _
    | some step =>
      have hnext : nextChunk s pos = some step.2 := by
        rw [nextChunk, hstep]
        rfl
      obtain ⟨start, size, hhead⟩ := nextChunk_inv hnext
      rw [hstep] at h
      rw [chunkStep_of_fits hs hhead (hfit pos start size hpos hhead)] at hstep
      split_ifs at hstep with hin
      cases hstep
      obtain ⟨rest, hrest, rfl⟩ := Option.map_eq_some_iff.mp h
      have hle := ih (hpos.next hhead hin) hrest
      have hstart := (chunkHead_spec hhead).1
      rw [List.length_append, List.length_take, List.length_drop]
      omega

/-- The chunks of a walk that stays inside are those that it comes to. -/
lemma StaysInside.reaches (hs : s.length < 2 ^ 63) {pos : ℕ} (h : ChunkAt s pos) :
    ∃ i, Transition.after (nextChunk s) i 0 = some pos := by
  induction h with
  | first => exact ⟨0, rfl⟩
  | next hpos hhead hin ih =>
    obtain ⟨i, hi⟩ := ih
    refine ⟨i + 1, ?_⟩
    rw [after_succ, hi, Option.bind_some, nextChunk, chunkStep_of_fits hs hhead (by omega),
      if_pos hin]
    rfl

/-- The loop stays inside its input exactly if the ends of all chunks fit in 64 bits. -/
theorem staysInside_iff (hs : s.length < 2 ^ 63) : StaysInside s ↔ SizesFit s := by
  constructor
  · intro h pos start size hpos hhead
    obtain ⟨i, hi⟩ := StaysInside.reaches hs hpos
    by_contra hwrap
    have hin := h.inside i pos start size hi (nextChunk_of_wrap hs hhead (not_lt.mp hwrap)) hhead
    omega
  · intro hfit
    refine ⟨?_, ?_, ?_⟩
    · obtain ⟨out, hout⟩ := Option.isSome_iff_exists.mp
        ((decodeChunked_isSome s).mpr (hfit.neverReturns hs))
      exact ⟨out, hout, by simpa using hfit.length_le hs .first hout⟩
    · intro i pos next hpos hnext
      exact hfit.lt_next hs (hfit.after hs .first hpos).1 hnext
    · intro i pos start size hpos hsome hhead
      obtain ⟨next, hnext⟩ := Option.isSome_iff_exists.mp hsome
      obtain ⟨start', size', hhead', hin, -⟩ := hfit.next hs (hfit.after hs .first hpos).1 hnext
      rw [hhead] at hhead'
      cases hhead'
      exact hin

end

/-- A body of one chunk. -/
def oneChunkBody : Bytes := Bytes.ofString "3\r\nabc\r\n0\r\n\r\n"

theorem staysInside_iff_oneChunk : StaysInside oneChunkBody ↔ SizesFit oneChunkBody :=
  staysInside_iff (by decide)

/-- A size that leads back to its own line. -/
def backwards : Bytes := Bytes.ofString "  -6\r\nA"

/-- The loop comes back to its second iteration again and again, and appends the last byte each
time. -/
theorem chunk_leads_back : ¬ ∀ s : Bytes, s.length < 2 ^ 63 → StaysInside s := by
  intro hclaim
  obtain ⟨out, hout, -⟩ := (hclaim backwards (by decide)).ends
  revert hout
  rw [show decodeChunked backwards = none by decide +kernel]
  rintro ⟨⟩

end Http
