import OnPremPbx.Framing.Receiver
import OnPremPbx.WebSocket.Frames

/-!
# Loops over the frames of a receive buffer

`AriWsClient`, `BrowserStream` and `AsteriskStream` have the same `drain_frames`: it decodes frames
off the front of `m_recv_buf` and branches on their opcodes, until the buffer holds no whole frame
or a branch returns. A `ReadLoop` is such a loop over the state `σ`, and `dispatch` its `switch`.
-/

open Framing

namespace WsFrame

structure ReadLoop (σ : Type*) where
  recvBuf : σ → Bytes
  setRecvBuf : Bytes → σ → σ
  /-- the branch of a frame, and whether the loop goes on after it -/
  dispatch : Frame → σ → σ × Bool
  recvBuf_set : ∀ b s, recvBuf (setRecvBuf b s) = b
  set_set : ∀ a b s, setRecvBuf a (setRecvBuf b s) = setRecvBuf a s
  set_recvBuf : ∀ s, setRecvBuf (recvBuf s) s = s
  dispatch_set : ∀ f b s,
    dispatch f (setRecvBuf b s) = (setRecvBuf b (dispatch f s).1, (dispatch f s).2)

namespace ReadLoop

variable {σ : Type*} (l : ReadLoop σ)

/-- `drain_frames`, with the number of iterations it may still make. -/
def drainFrames : ℕ → σ → σ × Exit
  | 0, s     => (s, .returned true)
  | n + 1, s =>
    match decode (l.recvBuf s) with
    | .needMore      => (s, .returned true)
    | .raises        => (s, .raised)
    | .ok frame rest =>
      match l.dispatch frame (l.setRecvBuf rest s) with
      | (s, true)  => drainFrames n s
      | (s, false) => (s, .returned false)

/-- The frames `fs` one after the other, up to one after which the loop does not go on. -/
def work : List Frame → σ → σ × Bool
  | [], s      => (s, true)
  | f :: fs, s => if (l.dispatch f s).2 then work fs (l.dispatch f s).1 else l.dispatch f s

lemma work_set (fs : List Frame) (b : Bytes) (s : σ) :
    l.work fs (l.setRecvBuf b s) = (l.setRecvBuf b (l.work fs s).1, (l.work fs s).2) := by
  induction fs generalizing s with
  | nil => rfl
  | cons f fs ih =>
    simp only [work, l.dispatch_set]
    split_ifs
    · exact ih _
    · rfl

lemma work_append (fs gs : List Frame) (s : σ) :
    l.work (fs ++ gs) s =
      if (l.work fs s).2 then l.work gs (l.work fs s).1 else l.work fs s := by
  induction fs generalizing s with
  | nil => rfl
  | cons f fs ih =>
    simp only [List.cons_append, work]
    by_cases hgo : (l.dispatch f s).2 = true
    · simp only [hgo, if_true, ih]
    · simp only [hgo, Bool.false_eq_true, if_false]

/-- How a call of the loop ends that works through the frames of `p` from the state `s`. -/
def exit (p : Bytes) (s : σ) : Exit :=
  if (l.work (decoder.drain p).frames s).2 then
    if (decoder.drain p).valid then .returned true else .raised
  else .returned false

lemma exit_eq_returned_true {p : Bytes} {s : σ} :
    l.exit p s = .returned true ↔
      (l.work (decoder.drain p).frames s).2 = true ∧ (decoder.drain p).valid = true := by
  rw [exit]
  split_ifs with hwork hvalid <;> simp [*]

lemma exit_set (p b : Bytes) (s : σ) : l.exit p (l.setRecvBuf b s) = l.exit p s := by
  rw [exit, exit, l.work_set]

/-- What follows where the loop has stopped, or thrown, is not worked through. -/
lemma work_drain_append {p : Bytes} {s : σ} (h : l.exit p s ≠ .returned true) (q : Bytes) :
    l.work (decoder.drain (p ++ q)).frames s = l.work (decoder.drain p).frames s ∧
      l.exit (p ++ q) s ≠ .returned true := by
  rw [ne_eq, exit_eq_returned_true] at h ⊢
  have hdrain := decoder.drain_append p q
  by_cases hvalid : (decoder.drain p).valid = true
  · have hstop : ¬ (l.work (decoder.drain p).frames s).2 = true := fun hwork => h ⟨hwork, hvalid⟩
    rw [if_pos hvalid] at hdrain
    have hsame : l.work (decoder.drain (p ++ q)).frames s = l.work (decoder.drain p).frames s := by
      rw [hdrain, l.work_append, if_neg hstop]
    exact ⟨hsame, fun hgo => hstop (by rw [← hsame]; exact hgo.1)⟩
  · rw [if_neg hvalid] at hdrain
    rw [hdrain]
    exact ⟨rfl, h⟩

/-- The loop works through the frames of the buffer. -/
theorem drainFrames_eq {n : ℕ} {s : σ} (hn : (l.recvBuf s).length < n) :
    ∃ b, l.drainFrames n s = (l.setRecvBuf b (l.work (decoder.drain (l.recvBuf s)).frames s).1,
        l.exit (l.recvBuf s) s) ∧
      (l.exit (l.recvBuf s) s = .returned true → b = (decoder.drain (l.recvBuf s)).rest) := by
  induction n generalizing s with
  | zero => omega
  | succ n ih =>
    rw [exit]
    cases hdecode : decode (l.recvBuf s) with
    | needMore =>
      rw [drainFrames, hdecode, drain_needMore hdecode]
      exact ⟨l.recvBuf s, by rw [work, l.set_recvBuf]; rfl, fun _ => rfl⟩
    | raises =>
      rw [drainFrames, hdecode, drain_raises hdecode]
      exact ⟨l.recvBuf s, by rw [work, l.set_recvBuf]; rfl, nofun⟩
    | ok f rest =>
      have hlt := length_rest_lt hdecode
      rw [drainFrames, hdecode, drain_ok hdecode]
      simp only [work, l.dispatch_set]
      by_cases hgo : (l.dispatch f s).2 = true
      · -- the frame is dispatched, and the loop goes on with what follows it
        obtain ⟨b, hloop, hb⟩ := ih (s := l.setRecvBuf rest (l.dispatch f s).1)
          (by rw [l.recvBuf_set]; omega)
        simp only [exit, l.recvBuf_set, l.work_set, l.set_set] at hloop hb
        simp only [hgo, if_true]
        exact ⟨b, hloop, hb⟩
      · simp only [hgo, Bool.false_eq_true, if_false]
        exact ⟨rest, rfl, nofun⟩

/-! ### The bytes of a connection -/

/-- Take bytes in, and run the loop. -/
def feed (bytes : Bytes) (s : σ) : σ × Exit :=
  let s := l.setRecvBuf (l.recvBuf s ++ bytes) s
  l.drainFrames ((l.recvBuf s).length + 1) s

lemma feed_eq (bytes : Bytes) (s : σ) :
    ∃ b, l.feed bytes s =
        (l.setRecvBuf b (l.work (decoder.drain (l.recvBuf s ++ bytes)).frames s).1,
          l.exit (l.recvBuf s ++ bytes) s) ∧
      (l.exit (l.recvBuf s ++ bytes) s = .returned true →
        b = (decoder.drain (l.recvBuf s ++ bytes)).rest) := by
  obtain ⟨b, hloop, hb⟩ := l.drainFrames_eq (s := l.setRecvBuf (l.recvBuf s ++ bytes) s)
    (Nat.lt_succ_self _)
  simp only [l.recvBuf_set, l.work_set, l.set_set, l.exit_set] at hloop hb
  refine ⟨b, ?_, hb⟩
  simp only [feed, l.recvBuf_set]
  exact hloop

/-- `s` is the state that reading `p` from `s₀` has led to, and it can read on. -/
structure Reads (s₀ : σ) (p : Bytes) (s : σ) : Prop where
  state : s = l.setRecvBuf (decoder.drain p).rest (l.work (decoder.drain p).frames s₀).1
  goesOn : l.exit p s₀ = .returned true

/-- However the bytes were cut, the state is the one that working through all their frames leads
to. -/
theorem Reads.feed {l : ReadLoop σ} {s₀ s : σ} {p : Bytes} (h : l.Reads s₀ p s) (bytes : Bytes) :
    ∃ b, l.feed bytes s =
        (l.setRecvBuf b (l.work (decoder.drain (p ++ bytes)).frames s₀).1,
          l.exit (p ++ bytes) s₀) ∧
      (l.exit (p ++ bytes) s₀ = .returned true → l.Reads s₀ (p ++ bytes) (l.feed bytes s).1) := by
  obtain ⟨rfl, hgoesOn⟩ := h
  obtain ⟨hwork, hvalid⟩ := l.exit_eq_returned_true.mp hgoesOn
  have hdrain := decoder.drain_append p bytes
  rw [if_pos hvalid] at hdrain
  have hall : l.work (decoder.drain (p ++ bytes)).frames s₀ =
      l.work (decoder.drain ((decoder.drain p).rest ++ bytes)).frames
        (l.work (decoder.drain p).frames s₀).1 := by
    rw [hdrain, l.work_append, if_pos hwork]
  have hexit : l.exit (p ++ bytes) s₀ =
      l.exit ((decoder.drain p).rest ++ bytes) (l.work (decoder.drain p).frames s₀).1 := by
    rw [exit, exit, hall, hdrain]
  obtain ⟨b, hfeed, hb⟩ := l.feed_eq bytes (l.setRecvBuf (decoder.drain p).rest
    (l.work (decoder.drain p).frames s₀).1)
  simp only [l.recvBuf_set, l.work_set, l.set_set, l.exit_set, ← hexit, ← hall] at hfeed hb
  refine ⟨b, hfeed, fun hgo => ⟨?_, hgo⟩⟩
  rw [hfeed, hb hgo, hdrain]

end ReadLoop

end WsFrame
