import OnPremPbx.Framing.Outbound

/-!
# A connection seen from both ends

`Link` relates what one side wrote to a connection to what the other side made of it: the frames
it has dispatched and the buffer it has not yet decoded are exactly what it has read so far, and
the dispatched frames are the first of those that were sent.
-/

namespace Framing

variable {α C F : Type*}

/-- A failed write leaves the beginning of a frame on the wire, and not all of it. -/
lemma Codec.incomplete_failed (k : Codec α F) {c : C} {f : F} {n : ℕ} (hf : k.Fits f) :
    k.Incomplete (k.data (⟨c, f, .failed n⟩ : Write C F)) := by
  have hdec := k.decode_encode [] hf
  rw [List.append_nil] at hdec
  have hpos := k.consumed_pos hdec
  refine Or.inr ⟨f, hf, List.take_prefix _ _, ?_⟩
  intro heq
  have hlen := congrArg List.length heq
  simp only [Codec.data, List.length_take] at hlen
  omega

lemma Codec.flatMap_data_ok (k : Codec α F) {ws : List (Write C F)}
    (h : ∀ w ∈ ws, w.result = .ok) : ws.flatMap k.data = k.encodeAll (acceptedOf ws) := by
  induction ws with
  | nil => rfl
  | cons w ws ih =>
    have hw := h w List.mem_cons_self
    rw [List.flatMap_cons, ih fun v hv => h v (List.mem_cons_of_mem _ hv)]
    simp [acceptedOf, Codec.data, hw]

variable [DecidableEq C]

namespace Outbound

variable {k : Codec α F} {o : Outbound C F} {c : C}

/-- The wire of a connection carries the frames written to it, and at its end perhaps the
beginning of a frame whose write failed. -/
theorem Wf.wire_eq (ho : o.Wf) (hfit : ∀ w ∈ o.writes, k.Fits w.frame) (c : C) :
    ∃ junk, o.wire k c = k.encodeAll (o.on c) ++ junk ∧ k.Incomplete junk := by
  obtain ⟨oks, last, hfilter, hoks, hlast⟩ := ho.torn c
  rw [wire, wireOn, on, framesOn, hfilter, List.flatMap_append, k.flatMap_data_ok hoks,
    acceptedOf_append]
  obtain rfl | ⟨-, f, n, rfl⟩ := hlast
  · exact ⟨[], by simp [acceptedOf], k.incomplete_nil⟩
  · have hmem : (⟨c, f, .failed n⟩ : Write C F) ∈ o.writes.filter fun w => w.conn = c := by
      simp [hfilter]
    exact ⟨k.data (⟨c, f, .failed n⟩ : Write C F), by simp,
      k.incomplete_failed (hfit _ (List.mem_of_mem_filter hmem))⟩

lemma fits_on (hfit : ∀ w ∈ o.writes, k.Fits w.frame) (c : C) : ∀ f ∈ o.on c, k.Fits f := by
  intro f hf
  obtain ⟨w, hw, hwf⟩ := List.mem_filterMap.mp hf
  have hfits := hfit w (List.mem_of_mem_filter hw)
  split_ifs at hwf with hok
  rwa [← Option.some.inj hwf]

/-- All of the wire of a connection decodes, to the frames written to it. -/
lemma Wf.drain_wire (ho : o.Wf) (hfit : ∀ w ∈ o.writes, k.Fits w.frame) (c : C) :
    (k.drain (o.wire k c)).frames = o.on c ∧ (k.drain (o.wire k c)).valid = true := by
  obtain ⟨junk, hwire, hjunk⟩ := ho.wire_eq hfit c
  rw [hwire, k.drain_encodeAll_append (fits_on hfit c), k.drain_needMore hjunk.decode]
  exact ⟨List.append_nil _, rfl⟩

/-- The next symbols, at most `n`, after those already read. -/
def unread (k : Codec α F) (o : Outbound C F) (c : C) (read n : ℕ) : List α :=
  ((o.wire k c).drop read).take n

end Outbound

/-- The receiving end of a connection, with what the sending end wrote to it. -/
structure Link (k : Codec α F) (o : Outbound C F) (c : C) (read : ℕ) (heard : List F)
    (buffer : List α) : Prop where
  heard_prefix : heard <+: o.on c
  read_le : read ≤ (o.wire k c).length
  read_eq : (o.wire k c).take read = k.encodeAll heard ++ buffer

namespace Link

variable {k : Codec α F} {o o' : Outbound C F} {c : C} {read : ℕ} {heard : List F}
  {buffer : List α}

/-- A connection of which nothing was read. -/
lemma init (k : Codec α F) (o : Outbound C F) (c : C) : Link k o c 0 [] [] where
  heard_prefix := List.nil_prefix
  read_le := Nat.zero_le _
  read_eq := rfl

/-- What the sending end does later does not disturb the receiving end. -/
lemma steps (hl : Link k o c read heard buffer) (h : o.Steps o') :
    Link k o' c read heard buffer where
  heard_prefix := hl.heard_prefix.trans (Outbound.on_prefix h c)
  read_le := hl.read_le.trans (Outbound.wire_prefix k h c).length_le
  read_eq := by
    obtain ⟨more, hmore⟩ := Outbound.wire_prefix k h c
    rw [← hmore, List.take_append_of_le_length hl.read_le, hl.read_eq]

/-- Reading on: the frames decoded are the next ones that were sent, and all input is valid. -/
lemma drain_unread (hl : Link k o c read heard buffer) (ho : o.Wf)
    (hfit : ∀ w ∈ o.writes, k.Fits w.frame) (n : ℕ) :
    (k.drain (buffer ++ o.unread k c read n)).valid = true ∧
      heard ++ (k.drain (buffer ++ o.unread k c read n)).frames <+: o.on c := by
  obtain ⟨pending, hpending⟩ := hl.heard_prefix
  obtain ⟨junk, hwire, hjunk⟩ := ho.wire_eq hfit c
  have hrest : buffer ++ (o.wire k c).drop read = k.encodeAll pending ++ junk := by
    apply (List.append_right_inj (k.encodeAll heard)).mp
    rw [← List.append_assoc, ← hl.read_eq, List.take_append_drop, hwire, ← hpending]
    simp
  have hprefix : buffer ++ o.unread k c read n <+: k.encodeAll pending ++ junk := by
    rw [← hrest, List.prefix_append_right_inj]
    exact List.take_prefix _ _
  have hfits : ∀ f ∈ pending, k.Fits f := fun f hf =>
    Outbound.fits_on hfit c f (hpending ▸ List.mem_append_right _ hf)
  obtain ⟨m, hframes, hvalid, -⟩ := k.drain_prefix hfits hjunk hprefix
  refine ⟨hvalid, ?_⟩
  rw [hframes, ← hpending, List.prefix_append_right_inj]
  exact List.take_prefix _ _

/-- Reading on keeps the link, with the frames that were dispatched moved over. -/
lemma read_on (hl : Link k o c read heard buffer) {n : ℕ} {done : List F} {buffer' : List α}
    (hdone : heard ++ done <+: o.on c)
    (henc : k.encodeAll done ++ buffer' = buffer ++ o.unread k c read n) :
    Link k o c (read + (o.unread k c read n).length) (heard ++ done) buffer' where
  heard_prefix := hdone
  read_le := by
    have := hl.read_le
    simp only [Outbound.unread, List.length_take, List.length_drop]
    omega
  read_eq := by
    rw [Codec.encodeAll_append, List.append_assoc, henc, ← List.append_assoc, ← hl.read_eq,
      List.take_add]
    congr 1
    rw [Outbound.unread, List.length_take, ← List.take_eq_take_min]

end Link

end Framing
