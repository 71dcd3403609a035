import Mathlib.Data.List.Infix
import Mathlib.Tactic

/-!
# Incremental decoders

A `Decoder` reads one frame off the front of a buffer, or answers that it needs more input, or
that the input can never become valid. The laws say that a verdict once reached is not changed
by more input. `Decoder.drain` reads as many frames as the buffer holds, and `drain_append`
says that draining does not depend on where the input was cut.
-/

namespace Framing

variable {α F : Type*}

/-- What decoding the front of a buffer yields. -/
inductive DecodeResult (F : Type*) where
  | needMore
  | invalid
  | ok (frame : F) (consumed : ℕ)
  deriving DecidableEq, Repr

/-- A decoder of frames `F` from lists over `α`. -/
structure Decoder (α F : Type*) where
  decode : List α → DecodeResult F
  decode_nil : decode [] = .needMore
  consumed_pos : ∀ {b f n}, decode b = .ok f n → 0 < n
  consumed_le : ∀ {b f n}, decode b = .ok f n → n ≤ b.length
  ok_append : ∀ {b f n} (r : List α), decode b = .ok f n → decode (b ++ r) = .ok f n
  invalid_append : ∀ {b} (r : List α), decode b = .invalid → decode (b ++ r) = .invalid

/-- The frames read from a buffer, the input left over, and whether all of it was valid. -/
structure Drained (α F : Type*) where
  frames : List F
  rest : List α
  valid : Bool

namespace Decoder

variable (d : Decoder α F)

lemma length_drop_lt {b : List α} {f : F} {n : ℕ} (h : d.decode b = .ok f n) :
    (b.drop n).length < b.length := by
  have hpos := d.consumed_pos h
  have hle := d.consumed_le h
  rw [List.length_drop]
  omega

/-- Read frames off the front until the buffer holds no complete frame. Invalid input is
discarded. -/
def drain (b : List α) : Drained α F :=
  match _h : d.decode b with
  | .needMore => ⟨[], b, true⟩
  | .invalid  => ⟨[], [], false⟩
  | .ok f n   =>
    let r := drain (b.drop n)
    ⟨f :: r.frames, r.rest, r.valid⟩
termination_by b.length
decreasing_by exact d.length_drop_lt _h

lemma drain_needMore {b : List α} (h : d.decode b = .needMore) : d.drain b = ⟨[], b, true⟩ := by
  rw [drain]
  split
  · rfl
  · rename_i h'; rw [h] at h'; cases h'
  · rename_i h'; rw [h] at h'; cases h'

lemma drain_invalid {b : List α} (h : d.decode b = .invalid) :
    d.drain b = ⟨[], [], false⟩ := by
  rw [drain]
  split
  · rename_i h'; rw [h] at h'; cases h'
  · rfl
  · rename_i h'; rw [h] at h'; cases h'

lemma drain_ok {b : List α} {f : F} {n : ℕ} (h : d.decode b = .ok f n) :
    d.drain b = ⟨f :: (d.drain (b.drop n)).frames, (d.drain (b.drop n)).rest,
      (d.drain (b.drop n)).valid⟩ := by
  rw [drain]
  split
  · rename_i h'; rw [h] at h'; cases h'
  · rename_i h'; rw [h] at h'; cases h'
  · rename_i f' n' h'
    rw [h] at h'
    cases h'
    rfl

/-- Induction along the frames that `drain` reads. -/
lemma drain_induction {P : List α → Prop}
    (needMore : ∀ b, d.decode b = .needMore → P b)
    (invalid : ∀ b, d.decode b = .invalid → P b)
    (ok : ∀ b f n, d.decode b = .ok f n → P (b.drop n) → P b) (b : List α) : P b := by
  induction hlen : b.length using Nat.strongRecOn generalizing b with
  | ind k ih =>
    subst hlen
    cases h : d.decode b with
    | needMore => exact needMore b h
    | invalid => exact invalid b h
    | ok f n => exact ok b f n h (ih _ (d.length_drop_lt h) _ rfl)

/-- Draining a concatenation: the frames of the first part come first, and draining goes on
from what that part left over. -/
theorem drain_append (a b : List α) :
    d.drain (a ++ b) =
      if (d.drain a).valid then
        ⟨(d.drain a).frames ++ (d.drain ((d.drain a).rest ++ b)).frames,
          (d.drain ((d.drain a).rest ++ b)).rest, (d.drain ((d.drain a).rest ++ b)).valid⟩
      else d.drain a := by
  induction a using d.drain_induction with
  | needMore a h => simp [d.drain_needMore h]
  | invalid a h =>
    rw [d.drain_invalid h, d.drain_invalid (d.invalid_append b h)]
    simp
  | ok a f n h ih =>
    have hdrop : (a ++ b).drop n = a.drop n ++ b :=
      List.drop_append_of_le_length (d.consumed_le h)
    rw [d.drain_ok h, d.drain_ok (d.ok_append b h), hdrop, ih]
    by_cases hv : (d.drain (a.drop n)).valid
    · simp [hv]
    · simp [hv]

/-- What is left over of valid input holds no complete frame. -/
lemma decode_rest {b : List α} (h : (d.drain b).valid = true) :
    d.decode (d.drain b).rest = .needMore := by
  induction b using d.drain_induction with
  | needMore b hb =>
    rw [d.drain_needMore hb]
    exact hb
  | invalid b hb =>
    rw [d.drain_invalid hb] at h
    cases h
  | ok b f n hb ih =>
    rw [d.drain_ok hb] at h ⊢
    exact ih h

end Decoder

/-- A buffer that input arrives in, and the frames that were taken off it. -/
structure Reading (α F : Type*) where
  buf : List α := []
  frames : List F := []

namespace Decoder

variable (d : Decoder α F)

/-- Input arrives, and what frames there are are taken. -/
def read (r : Reading α F) (chunk : List α) : Reading α F where
  buf := (d.drain (r.buf ++ chunk)).rest
  frames := r.frames ++ (d.drain (r.buf ++ chunk)).frames

/-- Reading in chunks is reading at once, as long as the input is valid. -/
theorem foldl_read {chunks : List (List α)} {r : Reading α F} (hbuf : d.decode r.buf = .needMore)
    (hvalid : (d.drain (r.buf ++ chunks.flatten)).valid = true) :
    chunks.foldl d.read r = ⟨(d.drain (r.buf ++ chunks.flatten)).rest,
      r.frames ++ (d.drain (r.buf ++ chunks.flatten)).frames⟩ := by
  induction chunks generalizing r with
  | nil => rw [List.flatten_nil, List.append_nil, d.drain_needMore hbuf, List.append_nil,
      List.foldl_nil]
  | cons chunk chunks ih =>
    have happend := d.drain_append (r.buf ++ chunk) chunks.flatten
    rw [List.flatten_cons, ← List.append_assoc] at hvalid ⊢
    by_cases hfirst : (d.drain (r.buf ++ chunk)).valid = true
    · rw [if_pos hfirst] at happend
      rw [happend] at hvalid ⊢
      rw [List.foldl_cons, ih (r := d.read r chunk) (d.decode_rest hfirst) hvalid, read,
        List.append_assoc]
    · rw [if_neg hfirst] at happend
      rw [happend] at hvalid
      exact absurd hvalid hfirst

end Decoder

/-! ### Decoders with an encoder -/

/-- A decoder together with the encoder of the frames it accepts. `Fits f` says that `f` is
small enough for its encoding to be accepted. -/
structure Codec (α F : Type*) extends Decoder α F where
  encode : F → List α
  Fits : F → Prop
  decode_encode : ∀ {f} (r : List α), Fits f → decode (encode f ++ r) = .ok f (encode f).length
  decode_short : ∀ {f p}, Fits f → p <+: encode f → p ≠ encode f → decode p = .needMore
  encode_decoded : ∀ {b f n}, decode b = .ok f n → encode f = b.take n

namespace Codec

variable (k : Codec α F)

/-- The encodings of a list of frames, one after the other. -/
def encodeAll (fs : List F) : List α := fs.flatMap k.encode

@[simp] lemma encodeAll_nil : k.encodeAll [] = [] := rfl

@[simp] lemma encodeAll_cons (f : F) (fs : List F) :
    k.encodeAll (f :: fs) = k.encode f ++ k.encodeAll fs := by simp [encodeAll]

@[simp] lemma encodeAll_append (fs gs : List F) :
    k.encodeAll (fs ++ gs) = k.encodeAll fs ++ k.encodeAll gs := by simp [encodeAll]

/-- A piece of input that is the beginning of a fitting frame, but not all of it. -/
def Incomplete (p : List α) : Prop :=
  p = [] ∨ ∃ f, k.Fits f ∧ p <+: k.encode f ∧ p ≠ k.encode f

lemma incomplete_nil : k.Incomplete [] := Or.inl rfl

lemma Incomplete.decode {k : Codec α F} {p : List α} (h : k.Incomplete p) :
    k.decode p = .needMore := by
  rcases h with rfl | ⟨f, hf, hp, hne⟩
  · exact k.decode_nil
  · exact k.decode_short hf hp hne

lemma Incomplete.of_prefix {k : Codec α F} {p q : List α} (h : k.Incomplete q) (hp : p <+: q) :
    k.Incomplete p := by
  rcases h with rfl | ⟨f, hf, hq, hne⟩
  · exact Or.inl (List.prefix_nil.mp hp)
  · refine Or.inr ⟨f, hf, hp.trans hq, ?_⟩
    rintro rfl
    exact hne (hq.eq_of_length (le_antisymm hq.length_le hp.length_le))

lemma encode_append_drop {b : List α} {f : F} {n : ℕ} (h : k.decode b = .ok f n) :
    k.encode f ++ b.drop n = b := by rw [k.encode_decoded h, List.take_append_drop]

lemma length_encode_decoded {b : List α} {f : F} {n : ℕ} (h : k.decode b = .ok f n) :
    (k.encode f).length = n := by
  rw [k.encode_decoded h, List.length_take, min_eq_left (k.consumed_le h)]

lemma drain_encode_append {f : F} (hf : k.Fits f) (r : List α) :
    k.drain (k.encode f ++ r) = ⟨f :: (k.drain r).frames, (k.drain r).rest,
      (k.drain r).valid⟩ := by
  rw [k.drain_ok (k.decode_encode r hf), List.drop_left]

lemma drain_encodeAll_append {fs : List F} (hfs : ∀ f ∈ fs, k.Fits f) (r : List α) :
    k.drain (k.encodeAll fs ++ r) = ⟨fs ++ (k.drain r).frames, (k.drain r).rest,
      (k.drain r).valid⟩ := by
  induction fs with
  | nil => rfl
  | cons f fs ih =>
    rw [encodeAll_cons, List.append_assoc, k.drain_encode_append (hfs f List.mem_cons_self),
      ih fun g hg => hfs g (List.mem_cons_of_mem _ hg)]
    rfl

/-- Draining any beginning of a stream of encoded frames reads the frames it holds completely,
and leaves the beginning of the next one. -/
theorem drain_prefix {fs : List F} (hfs : ∀ f ∈ fs, k.Fits f) {junk p : List α}
    (hjunk : k.Incomplete junk) (hp : p <+: k.encodeAll fs ++ junk) :
    ∃ n, (k.drain p).frames = fs.take n ∧ (k.drain p).valid = true ∧
      p = k.encodeAll (fs.take n) ++ (k.drain p).rest := by
  induction fs generalizing p with
  | nil =>
    have hinc : k.Incomplete p := hjunk.of_prefix (by simpa using hp)
    exact ⟨0, by simp [k.drain_needMore hinc.decode]⟩
  | cons f fs ih =>
    have hf := hfs f List.mem_cons_self
    rw [encodeAll_cons, List.append_assoc] at hp
    by_cases hlen : (k.encode f).length ≤ p.length
    · -- the first frame is complete: peel it off and use the induction hypothesis
      obtain ⟨q, rfl⟩ : k.encode f <+: p :=
        List.prefix_of_prefix_length_le (List.prefix_append _ _) hp hlen
      have hq : q <+: k.encodeAll fs ++ junk := by
        rwa [List.prefix_append_right_inj] at hp
      obtain ⟨n, hframes, hvalid, hrest⟩ := ih (fun g hg => hfs g (List.mem_cons_of_mem _ hg)) hq
      refine ⟨n + 1, ?_, ?_, ?_⟩
      · simp [k.drain_encode_append hf, hframes]
      · simp [k.drain_encode_append hf, hvalid]
      · rw [k.drain_encode_append hf, List.take_succ_cons, encodeAll_cons, List.append_assoc,
          ← hrest]
    · have hpf : p <+: k.encode f :=
        List.prefix_of_prefix_length_le hp (List.prefix_append _ _) (by omega)
      have hne : p ≠ k.encode f := by rintro rfl; exact hlen le_rfl
      exact ⟨0, by simp [k.drain_needMore (k.decode_short hf hpf hne)]⟩

end Codec

end Framing
