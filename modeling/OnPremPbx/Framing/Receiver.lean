import OnPremPbx.Framing.Decoder

/-!
# Receive loops

A `Receiver` owns a buffer inside a larger state and hands every frame it decodes to a stateful
`dispatch`. A dispatch may throw, and it may lose the connection the bytes came from: `epoch`
counts those losses, and a loss empties the buffer while the loop is still running over it.
The frame being dispatched leaves the buffer only after `dispatch` has returned.
-/

namespace Framing

variable {α F σ : Type*}

/-- How a call of the receive loop ends: it returns, `true` unless it met invalid input, or an
exception of a dispatch passes through it. -/
inductive Exit where
  | returned (ok : Bool)
  | raised
  deriving DecidableEq, Repr

/-- What a call of the receive loop leaves behind: the state, the frames it dispatched, and how
it ended. -/
structure Received (F σ : Type*) where
  state : σ
  frames : List F
  exit : Exit

/-- A receive loop over the state `σ`. `dispatch` answers whether it returned normally. -/
structure Receiver (α F σ : Type*) extends Codec α F where
  buffer : σ → List α
  setBuffer : List α → σ → σ
  dispatch : F → σ → σ × Bool
  epoch : σ → ℕ
  buffer_setBuffer : ∀ b s, buffer (setBuffer b s) = b
  setBuffer_buffer : ∀ s, setBuffer (buffer s) s = s
  setBuffer_setBuffer : ∀ a b s, setBuffer a (setBuffer b s) = setBuffer a s
  epoch_setBuffer : ∀ b s, epoch (setBuffer b s) = epoch s
  dispatch_setBuffer : ∀ f b s, dispatch f (setBuffer b s) =
    (setBuffer (if epoch (dispatch f s).1 = epoch s then b else []) (dispatch f s).1,
      (dispatch f s).2)
  epoch_dispatch_le : ∀ f s, epoch s ≤ epoch (dispatch f s).1

namespace Receiver

variable (r : Receiver α F σ)

attribute [simp] buffer_setBuffer setBuffer_buffer setBuffer_setBuffer epoch_setBuffer

/-- The loop, with the number of iterations it may still make. -/
def loop : ℕ → σ → Received F σ
  | 0, s     => ⟨s, [], .returned true⟩
  | n + 1, s =>
    match r.decode (r.buffer s) with
    | .needMore => ⟨s, [], .returned true⟩
    | .invalid  => ⟨r.setBuffer [] s, [], .returned false⟩
    | .ok f k   =>
      let s' := (r.dispatch f s).1
      if (r.dispatch f s).2 then
        let out := loop n (r.setBuffer ((r.buffer s').drop k) s')
        ⟨out.state, f :: out.frames, out.exit⟩
      else ⟨s', [f], .raised⟩

/-- The loop run to its end. Every iteration shortens the buffer, so the buffer's length bounds
their number. -/
def receive (s : σ) : Received F σ := r.loop ((r.buffer s).length + 1) s

/-- Append `bytes` to the buffer and run the loop. -/
def feed (bytes : List α) (s : σ) : Received F σ :=
  r.receive (r.setBuffer (r.buffer s ++ bytes) s)

/-- The state the loop continues in after a dispatch that returned. -/
def after (f : F) (k : ℕ) (s : σ) : σ :=
  r.setBuffer ((r.buffer (r.dispatch f s).1).drop k) (r.dispatch f s).1

lemma buffer_dispatch (f : F) (s : σ) :
    r.buffer (r.dispatch f s).1 =
      if r.epoch (r.dispatch f s).1 = r.epoch s then r.buffer s else [] := by
  have h := r.dispatch_setBuffer f (r.buffer s) s
  rw [r.setBuffer_buffer] at h
  simpa using congrArg (fun p => r.buffer p.1) h

lemma buffer_after (f : F) (k : ℕ) (s : σ) :
    r.buffer (r.after f k s) =
      if r.epoch (r.dispatch f s).1 = r.epoch s then (r.buffer s).drop k else [] := by
  rw [after, buffer_setBuffer, r.buffer_dispatch]
  split_ifs <;> simp

@[simp] lemma epoch_after (f : F) (k : ℕ) (s : σ) :
    r.epoch (r.after f k s) = r.epoch (r.dispatch f s).1 := by simp [after]

/-- An iteration leaves a shorter buffer. -/
lemma length_buffer_after_lt {s : σ} {f : F} {k : ℕ} (h : r.decode (r.buffer s) = .ok f k) :
    (r.buffer (r.after f k s)).length < (r.buffer s).length := by
  have hlt := r.length_drop_lt h
  rw [r.buffer_after]
  split_ifs
  · exact hlt
  · exact lt_of_le_of_lt (Nat.zero_le _) hlt

/-- A loop that is allowed more iterations than the buffer is long does not run out of them. -/
lemma loop_eq_of_lt {n m : ℕ} {s : σ} (hn : (r.buffer s).length < n)
    (hm : (r.buffer s).length < m) : r.loop n s = r.loop m s := by
  induction n generalizing m s with
  | zero => omega
  | succ n ih =>
    obtain _ | m := m
    · omega
    cases h : r.decode (r.buffer s) with
    | needMore => simp [loop, h]
    | invalid => simp [loop, h]
    | ok f k =>
      have hlt := r.length_buffer_after_lt h
      have hloop : r.loop n (r.after f k s) = r.loop m (r.after f k s) :=
        ih (by omega) (by omega)
      rw [after] at hloop
      simp [loop, h, hloop]

lemma receive_needMore {s : σ} (h : r.decode (r.buffer s) = .needMore) :
    r.receive s = ⟨s, [], .returned true⟩ := by simp [receive, loop, h]

lemma receive_invalid {s : σ} (h : r.decode (r.buffer s) = .invalid) :
    r.receive s = ⟨r.setBuffer [] s, [], .returned false⟩ := by simp [receive, loop, h]

lemma receive_raised {s : σ} {f : F} {k : ℕ} (h : r.decode (r.buffer s) = .ok f k)
    (hd : (r.dispatch f s).2 = false) : r.receive s = ⟨(r.dispatch f s).1, [f], .raised⟩ := by
  simp [receive, loop, h, hd]

lemma receive_ok {s : σ} {f : F} {k : ℕ} (h : r.decode (r.buffer s) = .ok f k)
    (hd : (r.dispatch f s).2 = true) :
    r.receive s = ⟨(r.receive (r.after f k s)).state, f :: (r.receive (r.after f k s)).frames,
      (r.receive (r.after f k s)).exit⟩ := by
  have hloop := r.loop_eq_of_lt (n := (r.buffer s).length) (m := (r.buffer (r.after f k s)).length
    + 1) (r.length_buffer_after_lt h) (Nat.lt_succ_self _)
  rw [receive, receive, ← hloop]
  simp [loop, h, hd, after]

/-- Induction along the iterations of the loop. -/
lemma receive_induction {P : σ → Prop}
    (needMore : ∀ s, r.decode (r.buffer s) = .needMore → P s)
    (invalid : ∀ s, r.decode (r.buffer s) = .invalid → P s)
    (raised : ∀ s f k, r.decode (r.buffer s) = .ok f k → (r.dispatch f s).2 = false → P s)
    (ok : ∀ s f k, r.decode (r.buffer s) = .ok f k → (r.dispatch f s).2 = true →
      P (r.after f k s) → P s) (s : σ) : P s := by
  induction hlen : (r.buffer s).length using Nat.strongRecOn generalizing s with
  | ind n ih =>
    subst hlen
    cases h : r.decode (r.buffer s) with
    | needMore => exact needMore s h
    | invalid => exact invalid s h
    | ok f k =>
      cases hd : (r.dispatch f s).2 with
      | false => exact raised s f k h hd
      | true => exact ok s f k h hd (ih _ (r.length_buffer_after_lt h) _ rfl)

/-- A call that returned `true` leaves no complete frame in the buffer. -/
lemma settled_receive {s : σ} (hexit : (r.receive s).exit = .returned true) :
    r.decode (r.buffer (r.receive s).state) = .needMore := by
  induction s using r.receive_induction with
  | needMore s h => rwa [r.receive_needMore h]
  | invalid s h => simp [r.receive_invalid h] at hexit
  | raised s f k h hd => simp [r.receive_raised h hd] at hexit
  | ok s f k h hd ih => rw [r.receive_ok h hd] at hexit ⊢; exact ih hexit

lemma receive_after_lost {s : σ} {f : F} {k : ℕ}
    (hlost : r.epoch (r.dispatch f s).1 ≠ r.epoch s) :
    r.receive (r.after f k s) = ⟨r.after f k s, [], .returned true⟩ := by
  apply r.receive_needMore
  rw [r.buffer_after, if_neg hlost]
  exact r.decode_nil

/-- Valid input is not answered with `false`. -/
lemma exit_receive_of_valid {s : σ} (hvalid : (r.drain (r.buffer s)).valid = true) :
    (r.receive s).exit ≠ .returned false := by
  induction s using r.receive_induction with
  | needMore s h => simp [r.receive_needMore h]
  | invalid s h => simp [r.drain_invalid h] at hvalid
  | raised s f k h hd => simp [r.receive_raised h hd]
  | ok s f k h hd ih =>
    rw [r.drain_ok h] at hvalid
    rw [r.receive_ok h hd]
    by_cases hep : r.epoch (r.dispatch f s).1 = r.epoch s
    · exact ih (by rwa [r.buffer_after, if_pos hep])
    · simp [r.receive_after_lost hep]

/-- The loop dispatches the first of the frames that the buffer holds. -/
lemma frames_receive_prefix (s : σ) : (r.receive s).frames <+: (r.drain (r.buffer s)).frames := by
  induction s using r.receive_induction with
  | needMore s h => simp [r.receive_needMore h]
  | invalid s h => simp [r.receive_invalid h]
  | raised s f k h hd => simp [r.receive_raised h hd, r.drain_ok h]
  | ok s f k h hd ih =>
    rw [r.receive_ok h hd, r.drain_ok h]
    refine (List.cons_prefix_cons).mpr ⟨rfl, ?_⟩
    by_cases hep : r.epoch (r.dispatch f s).1 = r.epoch s
    · rwa [r.buffer_after, if_pos hep] at ih
    · simp [r.receive_after_lost hep]

/-- What the loop leaves in the buffer is its end. -/
lemma buffer_receive_suffix (s : σ) : r.buffer (r.receive s).state <:+ r.buffer s := by
  induction s using r.receive_induction with
  | needMore s h => rw [r.receive_needMore h]
  | invalid s h => simp [r.receive_invalid h]
  | raised s f k h hd =>
    rw [r.receive_raised h hd, r.buffer_dispatch]
    split_ifs
    · exact List.suffix_rfl
    · exact List.nil_suffix
  | ok s f k h hd ih =>
    rw [r.receive_ok h hd]
    refine ih.trans ?_
    rw [r.buffer_after]
    split_ifs
    · exact List.drop_suffix k _
    · exact List.nil_suffix

/-- The frames that the loop dispatches stand at the beginning of the buffer. -/
lemma encodeAll_frames_prefix (s : σ) :
    r.encodeAll (r.receive s).frames <+: r.buffer s := by
  induction s using r.receive_induction with
  | needMore s h => simp [r.receive_needMore h]
  | invalid s h => simp [r.receive_invalid h]
  | raised s f k h hd =>
    rw [r.receive_raised h hd, r.encodeAll_cons, r.encodeAll_nil, List.append_nil,
      r.encode_decoded h]
    exact List.take_prefix k _
  | ok s f k h hd ih =>
    rw [r.receive_ok h hd, r.encodeAll_cons]
    by_cases hep : r.epoch (r.dispatch f s).1 = r.epoch s
    · rw [r.buffer_after, if_pos hep] at ih
      have hprefix := (List.prefix_append_right_inj (r.encode f)).mpr ih
      rwa [r.encode_append_drop h] at hprefix
    · rw [r.receive_after_lost hep, r.encodeAll_nil, List.append_nil, r.encode_decoded h]
      exact List.take_prefix k _

/-- The rule for what a run of the loop keeps. `Q fs s` speaks of the state and of the frames
still to be dispatched, and does not look at the buffer; it has to be kept only by dispatches
before the connection is lost. While no connection is lost, the frames that were dispatched and
the buffer left behind make up the buffer the loop started from. -/
theorem receive_invariant {Q : List F → σ → Prop} {e : ℕ}
    (hset : ∀ fs b s, Q fs s → Q fs (r.setBuffer b s))
    (hok : ∀ f fs s, r.epoch s = e → (r.dispatch f s).2 = true → Q (f :: fs) s →
      Q fs (r.dispatch f s).1)
    (hraise : ∀ f fs s, r.epoch s = e → (r.dispatch f s).2 = false → Q (f :: fs) s →
      Q (f :: fs) (r.dispatch f s).1)
    (s : σ) (he : r.epoch s = e) (hQ : Q (r.drain (r.buffer s)).frames s) :
    ∃ done rest, (r.drain (r.buffer s)).frames = done ++ rest ∧ Q rest (r.receive s).state ∧
      (r.epoch (r.receive s).state = r.epoch s → (r.drain (r.buffer s)).valid = true →
        r.encodeAll done ++ r.buffer (r.receive s).state = r.buffer s) := by
  induction s using r.receive_induction with
  | needMore s h =>
    rw [r.drain_needMore h] at hQ ⊢
    rw [r.receive_needMore h]
    exact ⟨[], [], rfl, hQ, by simp⟩
  | invalid s h =>
    rw [r.drain_invalid h] at hQ ⊢
    rw [r.receive_invalid h]
    exact ⟨[], [], rfl, hset _ _ _ hQ, by simp⟩
  | raised s f k h hd =>
    rw [r.drain_ok h] at hQ ⊢
    rw [r.receive_raised h hd]
    refine ⟨[], _, rfl, hraise _ _ _ he hd hQ, ?_⟩
    intro hep _
    simp only [r.buffer_dispatch, hep, if_true, Codec.encodeAll_nil, List.nil_append]
  | ok s f k h hd ih =>
    rw [r.drain_ok h] at hQ ⊢
    rw [r.receive_ok h hd]
    have hQ' : Q (r.drain ((r.buffer s).drop k)).frames (r.after f k s) :=
      hset _ _ _ (hok _ _ _ he hd hQ)
    by_cases hep : r.epoch (r.dispatch f s).1 = r.epoch s
    · have hbuf : r.buffer (r.after f k s) = (r.buffer s).drop k := by
        rw [r.buffer_after, if_pos hep]
      rw [hbuf] at ih
      obtain ⟨done, rest, hframes, hrest, henc⟩ := ih (by simpa [hep] using he) hQ'
      refine ⟨f :: done, rest, by simp [hframes], hrest, ?_⟩
      intro hsame hvalid
      rw [Codec.encodeAll_cons, List.append_assoc, henc (by simpa [hep] using hsame) hvalid]
      exact r.encode_append_drop h
    · -- the connection was lost: what the buffer still held is not dispatched
      rw [r.receive_after_lost hep]
      exact ⟨[f], _, rfl, hQ', fun hsame => absurd (by simpa using hsame) hep⟩

/-! ### Frames and exceptions -/

/-- Every dispatch that the loop reaches when it works through `fs` returns normally. The loop
stops where the connection is lost. -/
def Quiet : List F → σ → Prop
  | [], _      => True
  | f :: fs, s => (r.dispatch f s).2 = true ∧
    (r.epoch (r.dispatch f s).1 = r.epoch s → Quiet fs (r.dispatch f s).1)

/-- What was dispatched has left the buffer: it is empty, or holds what follows the dispatched
frames. -/
def Consumed (s : σ) (out : Received F σ) : Prop :=
  r.buffer out.state = [] ∨ r.encodeAll out.frames ++ r.buffer out.state = r.buffer s

lemma quiet_setBuffer (fs : List F) (b : List α) (s : σ) :
    r.Quiet fs (r.setBuffer b s) ↔ r.Quiet fs s := by
  induction fs generalizing b s with
  | nil => rfl
  | cons f fs ih => simp only [Quiet, r.dispatch_setBuffer, epoch_setBuffer, ih]

/-- Dispatched frames leave the buffer exactly when every dispatch that is reached returns. -/
theorem consumed_receive_iff
    (hraise : ∀ f s, (r.dispatch f s).2 = false → r.epoch (r.dispatch f s).1 = r.epoch s)
    (s : σ) :
    r.Consumed s (r.receive s) ↔ r.Quiet (r.drain (r.buffer s)).frames s := by
  induction s using r.receive_induction with
  | needMore s h => simp [Consumed, Quiet, r.receive_needMore h, r.drain_needMore h]
  | invalid s h => simp [Consumed, Quiet, r.receive_invalid h, r.drain_invalid h]
  | raised s f k h hd =>
    have hpos := r.consumed_pos h
    have hlen := r.length_encode_decoded h
    have hbuf : r.buffer (r.dispatch f s).1 = r.buffer s := by
      rw [r.buffer_dispatch, if_pos (hraise f s hd)]
    have hne : r.buffer s ≠ [] := by
      intro hnil
      have := r.consumed_le h
      rw [hnil, List.length_nil] at this
      omega
    rw [Consumed, r.receive_raised h hd, r.drain_ok h]
    simp only [Quiet, hd, hbuf, Codec.encodeAll_cons, Codec.encodeAll_nil, List.append_nil]
    constructor
    · rintro (hnil | happ)
      · exact absurd hnil hne
      · have := congrArg List.length happ
        rw [List.length_append] at this
        omega
    · rintro ⟨hfalse, -⟩
      exact absurd hfalse Bool.false_ne_true
  | ok s f k h hd ih =>
    rw [Consumed, r.receive_ok h hd, r.drain_ok h]
    by_cases hep : r.epoch (r.dispatch f s).1 = r.epoch s
    · have hbuf : r.buffer (r.after f k s) = (r.buffer s).drop k := by
        rw [r.buffer_after, if_pos hep]
      have hcancel : ∀ b, r.encode f ++ b = r.buffer s ↔ b = (r.buffer s).drop k := by
        intro b
        constructor
        · intro hb
          exact List.append_cancel_left (hb.trans (r.encode_append_drop h).symm)
        · rintro rfl
          exact r.encode_append_drop h
      have hquiet : r.Quiet (r.drain ((r.buffer s).drop k)).frames (r.after f k s) ↔
          r.Quiet (r.drain ((r.buffer s).drop k)).frames (r.dispatch f s).1 :=
        r.quiet_setBuffer _ _ _
      rw [Consumed, hbuf, hquiet] at ih
      simp only [Quiet, hd, hep, true_and, forall_const, ← ih, Codec.encodeAll_cons,
        List.append_assoc, hcancel]
    · simp [Quiet, hd, hep, r.receive_after_lost hep, r.buffer_after]

/-! ### Chunks -/

/-- Hand over the chunks one call after the other. The caller stops when a call does not return
`true` or the connection was lost in it. -/
def deliver : List (List α) → σ → Received F σ
  | [], s              => ⟨s, [], .returned true⟩
  | chunk :: chunks, s =>
    let out := r.feed chunk s
    if out.exit = .returned true ∧ r.epoch out.state = r.epoch s then
      let rest := deliver chunks out.state
      ⟨rest.state, out.frames ++ rest.frames, rest.exit⟩
    else out

/-- Hand over the chunks one call after the other, up to the first call that does not return
`true`. -/
def calls : List (List α) → σ → Received F σ
  | [], s              => ⟨s, [], .returned true⟩
  | chunk :: chunks, s =>
    let out := r.feed chunk s
    if out.exit = .returned true then
      let rest := calls chunks out.state
      ⟨rest.state, out.frames ++ rest.frames, rest.exit⟩
    else out

lemma epoch_receive_eq (hepoch : ∀ f s, r.epoch (r.dispatch f s).1 = r.epoch s) (s : σ) :
    r.epoch (r.receive s).state = r.epoch s := by
  induction s using r.receive_induction with
  | needMore s h => rw [r.receive_needMore h]
  | invalid s h => rw [r.receive_invalid h, epoch_setBuffer]
  | raised s f k h hd => rw [r.receive_raised h hd, hepoch]
  | ok s f k h hd ih => rw [r.receive_ok h hd, ih, epoch_after, hepoch]

/-- Where no dispatch loses the connection, the caller never has to stop for that. -/
lemma calls_eq_deliver (hepoch : ∀ f s, r.epoch (r.dispatch f s).1 = r.epoch s)
    (chunks : List (List α)) (s : σ) : r.calls chunks s = r.deliver chunks s := by
  induction chunks generalizing s with
  | nil => rfl
  | cons chunk chunks ih =>
    have hsame : r.epoch (r.feed chunk s).state = r.epoch s := by
      rw [feed, r.epoch_receive_eq hepoch, epoch_setBuffer]
    simp only [calls, deliver, ih, hsame, and_true]

/-- A loss during a call leaves nothing of the dead connection in the buffer. -/
lemma buffer_receive_of_lost
    (hraise : ∀ f s, (r.dispatch f s).2 = false → r.epoch (r.dispatch f s).1 = r.epoch s)
    {s : σ} (hlost : r.epoch (r.receive s).state ≠ r.epoch s) :
    r.buffer (r.receive s).state = [] := by
  induction s using r.receive_induction with
  | needMore s h => rw [r.receive_needMore h] at hlost; exact absurd rfl hlost
  | invalid s h => rw [r.receive_invalid h, buffer_setBuffer]
  | raised s f k h hd =>
    rw [r.receive_raised h hd] at hlost
    exact absurd (hraise f s hd) hlost
  | ok s f k h hd ih =>
    rw [r.receive_ok h hd] at hlost ⊢
    by_cases hep : r.epoch (r.dispatch f s).1 = r.epoch s
    · exact ih (by simpa [hep] using hlost)
    · rw [r.receive_after_lost hep, r.buffer_after, if_neg hep]

section Chunks

variable {P : σ → Prop} (hset : ∀ b s, P s → P (r.setBuffer b s))
  (hdispatch : ∀ f s, P s → P (r.dispatch f s).1) (hok : ∀ f s, P s → (r.dispatch f s).2 = true)

include hset hdispatch

lemma receive_keeps (s : σ) (hs : P s) : P (r.receive s).state := by
  induction s using r.receive_induction with
  | needMore s h => rwa [r.receive_needMore h]
  | invalid s h => rw [r.receive_invalid h]; exact hset _ _ hs
  | raised s f k h hd => rw [r.receive_raised h hd]; exact hdispatch f s hs
  | ok s f k h hd ih => rw [r.receive_ok h hd]; exact ih (hset _ _ (hdispatch f s hs))

include hok

/-- Input that follows does not change what the loop does with the input it has. -/
lemma receive_append (rest : List α) (s : σ) (hs : P s) :
    r.receive (r.setBuffer (r.buffer s ++ rest) s) =
      if (r.receive s).exit = .returned true ∧ r.epoch (r.receive s).state = r.epoch s then
        let out := r.feed rest (r.receive s).state
        ⟨out.state, (r.receive s).frames ++ out.frames, out.exit⟩
      else r.receive s := by
  induction s using r.receive_induction with
  | needMore s h => simp [r.receive_needMore h, feed]
  | invalid s h =>
    have h' : r.decode (r.buffer (r.setBuffer (r.buffer s ++ rest) s)) = .invalid := by
      simpa using r.invalid_append rest h
    simp [r.receive_invalid h, r.receive_invalid h']
  | raised s f k h hd => rw [hok f s hs] at hd; cases hd
  | ok s f k h hd ih =>
    have h' : r.decode (r.buffer (r.setBuffer (r.buffer s ++ rest) s)) = .ok f k := by
      simpa using r.ok_append rest h
    have hd' : (r.dispatch f (r.setBuffer (r.buffer s ++ rest) s)).2 = true := by
      rw [r.dispatch_setBuffer]; exact hd
    have hafter : r.after f k (r.setBuffer (r.buffer s ++ rest) s) =
        r.setBuffer (if r.epoch (r.dispatch f s).1 = r.epoch s then
          r.buffer (r.after f k s) ++ rest else []) (r.after f k s) := by
      rw [r.buffer_after, after, after, r.dispatch_setBuffer]
      split_ifs with hep
      · simp [List.drop_append_of_le_length (r.consumed_le h)]
      · simp
    rw [r.receive_ok h' hd', r.receive_ok h hd, hafter]
    by_cases hep : r.epoch (r.dispatch f s).1 = r.epoch s
    · rw [if_pos hep, ih (hset _ _ (hdispatch f s hs))]
      simp only [epoch_after, hep]
      split_ifs <;> simp
    · have hbuf : r.setBuffer [] (r.after f k s) = r.after f k s := by
        rw [← r.setBuffer_buffer (r.after f k s)]
        simp [r.buffer_after, hep]
      rw [if_neg hep, hbuf, r.receive_after_lost hep]
      simp [hep]

/-- How the input is cut into chunks does not matter, as long as no dispatch throws. -/
theorem deliver_eq_feed (chunks : List (List α)) (s : σ) (hs : P s)
    (hsettled : r.decode (r.buffer s) = .needMore) :
    r.deliver chunks s = r.feed chunks.flatten s := by
  induction chunks generalizing s with
  | nil => simp [deliver, feed, r.receive_needMore hsettled]
  | cons chunk chunks ih =>
    have happ := r.receive_append hset hdispatch hok chunks.flatten
      (r.setBuffer (r.buffer s ++ chunk) s) (hset _ _ hs)
    simp only [buffer_setBuffer, setBuffer_setBuffer, epoch_setBuffer, List.append_assoc] at happ
    rw [List.flatten_cons, deliver, feed, feed, happ]
    split_ifs with hgo
    · have hkeep : P (r.receive (r.setBuffer (r.buffer s ++ chunk) s)).state :=
        r.receive_keeps hset hdispatch _ (hset _ _ hs)
      rw [ih _ hkeep (r.settled_receive hgo.1)]
    · rfl

end Chunks

end Receiver

end Framing
