import OnPremPbx.Agent.Invariant
import OnPremPbx.Tunnel.Streams

/-!
# What the agent end reads

What every entry point of the agent end does to the sizes of the frames it sends and to the frames
it has heard. Reading valid bytes of the cloud, the agent hears the frames they hold one after the
other, unless a handler throws.
-/

open Framing SipFrame

namespace Agent

/-! ### Sizes -/

/-- Every frame that was handed to `send_frame` fits. -/
def Small (s : Agent) : Prop := ∀ x ∈ s.trace.passed, x.1.Fits

lemma passed_sendFrame (op : Op) (i : UInt32) (p : Bytes) (s : Agent) :
    ∃ kept, (s.sendFrame op i p).trace.passed = s.trace.passed ++ [(⟨op, i, p⟩, kept)] := by
  have henqueue : ∀ t : Agent, t.trace.passed = s.trace.passed →
      ∃ kept, (t.enqueue ⟨op, i, p⟩).trace.passed = s.trace.passed ++ [(⟨op, i, p⟩, kept)] := by
    intro t ht
    rw [enqueue]
    split_ifs
    · exact ⟨true, by simp [record, setOutbound, ht]⟩
    · exact ⟨false, by simp [record, ht]⟩
  rcases h : s.usable with _ | c
  · rw [sendFrame_of_none h]
    exact henqueue s rfl
  · cases hr : s.script.sends.headD .ok with
    | ok =>
      rw [sendFrame_of_ok h hr]
      exact ⟨true, rfl⟩
    | failed n =>
      rw [sendFrame_of_failed h hr]
      exact henqueue _ rfl

@[simp] lemma script_drainPending (s : Agent) : s.drainPending.script = s.script := by
  simp only [drainPending]
  split_ifs <;> rfl

section Small

variable {s : Agent} (hs : s.Small)

include hs

lemma small_sendFrame {op : Op} {i : UInt32} {p : Bytes} (hp : p.length ≤ kMaxPayload) :
    (s.sendFrame op i p).Small := by
  obtain ⟨kept, hpassed⟩ := passed_sendFrame op i p s
  intro x hx
  rw [hpassed] at hx
  obtain hx | hx := List.mem_append.mp hx
  · exact hs x hx
  · rw [List.mem_singleton.mp hx]
    exact hp

lemma small_tunnelSend {op : Op} {i : UInt32} {p : Bytes} (hp : p.length ≤ kMaxPayload) :
    (s.tunnelSend op i p).Small := by
  rcases h : s.demux.tunnel with _ | t
  · rwa [tunnelSend_of_none h]
  · rw [tunnelSend_of_some h]
    exact small_sendFrame hs hp

lemma small_closeStream (i : UInt32) (reason : Bytes) : (s.closeStream i reason).Small := by
  rcases h : s.demux.streams.lookup i with _ | r <;> (simp only [closeStream, h]; exact hs)

lemma small_onAsteriskEof {i : UInt32} {reason : Bytes}
    (hreason : i ∈ s.demux.streams → reason.length ≤ kMaxPayload) :
    (s.onAsteriskEof i reason).Small := by
  rw [onAsteriskEof]
  split_ifs with hi
  · exact small_tunnelSend (s := s.forget i) hs (hreason hi)
  · exact hs

lemma small_onAsteriskData {i : UInt32} {bytes : Bytes}
    (hbytes : i ∈ s.demux.streams → bytes.length ≤ kMaxPayload) :
    (s.onAsteriskData i bytes).Small := by
  rw [onAsteriskData]
  split_ifs with hi
  · exact small_tunnelSend hs (hbytes hi)
  · exact hs

lemma small_openStream (i : UInt32) : (s.openStream i).Small := by
  rw [openStream]
  split_ifs
  · exact hs
  · exact hs
  · exact small_tunnelSend (s := s.setScript { s.script with opens := s.script.opens.tail }) hs
      (by decide)

lemma small_writeStream (i : UInt32) (p : Bytes) : (s.writeStream i p).Small := by
  rcases h : s.demux.streams.lookup i with _ | r
  · simpa only [writeStream, h] using hs
  · have hhand : (s.hand r p).Small := hs
    cases hw : s.script.streamWrites.headD .ok with
    | ok => simpa only [writeStream, h, hw] using hhand
    | broken => simpa only [writeStream, h, hw] using small_closeStream hhand _ _
    | brokenEof =>
      simpa only [writeStream, h, hw] using
        small_closeStream (small_onAsteriskEof hhand fun _ => by decide) _ _

lemma small_dispatch (f : Frame) : (s.dispatch f).1.Small := by
  have hframe : (s.dispatchFrame f).1.Small := by
    obtain ⟨op, i, p⟩ := f
    cases op with
    | OPEN => exact small_openStream hs i
    | DATA => exact small_writeStream hs i p
    | CLOSE => exact small_closeStream hs i p
    | PING => exact small_tunnelSend hs (Nat.zero_le _)
    | SUBSCRIBER_REVOKED | SOCIETY_BOOTSTRAP => exact hs
    | PONG | ERR | PUSH_NOTIFY | CDR_PUSH | REGISTER_STATE | AGENT_HELLO | ASTERISK_STATUS =>
      exact hs
  rw [dispatch]
  split_ifs
  · exact hframe
  · exact hframe

lemma small_foldl_post (fs : List Frame) (hfs : ∀ f ∈ fs, f.Fits) : (fs.foldl post s).Small := by
  induction fs generalizing s with
  | nil => exact hs
  | cons f fs ih =>
    exact ih (small_sendFrame hs (hfs f List.mem_cons_self))
      fun g hg => hfs g (List.mem_cons_of_mem _ hg)

lemma small_onConnected (hfs : ∀ f ∈ s.script.onConnected, f.Fits) : s.onConnected.Small :=
  small_foldl_post (s := s.setTunnel (some .connector)) hs _ hfs

lemma small_tick (dial : Option ConnId) (hfs : ∀ f ∈ s.script.onConnected, f.Fits) :
    (s.tick dial).Small := by
  have hdrain : s.drainPending.Small := by
    simp only [drainPending]
    split_ifs <;> exact hs
  have hping : (s.drainPending.sendFrame .PING 0 []).Small :=
    small_sendFrame hdrain (Nat.zero_le _)
  rw [tick]
  rcases ht : s.drainPending.connector.transport with _ | d
  · simp only [Option.isSome_none, Bool.false_eq_true, if_false]
    split_ifs
    · exact hdrain
    · rcases dial with _ | c
      · exact hdrain
      · rw [← script_drainPending] at hfs
        generalize s.drainPending = t at hdrain hfs
        obtain h | ⟨sent, f, rest, n, -, h⟩ := attemptConnect_cases c t
        · rw [h]
          exact small_onConnected hdrain hfs
        · rw [h]
          exact small_onConnected hdrain hfs
  · simp only [Option.isSome_some, if_true, maybeHeartbeat]
    split_ifs
    · exact hdrain
    · exact hdrain
    · exact hdrain
    · exact hping
    · exact hping

end Small

/-! ### Reading -/

lemma closedInner_transport (transport : Option ConnId) (dialed : List ConnId) :
    ClosedInner fun s => s.connector.transport = transport ∧ s.trace.dialed = dialed where
  setScript _ _ h := h
  wrote _ _ _ _ h := h
  record _ _ _ h := h
  setOutbound _ _ h := h
  requestDisconnect _ h := h
  forget _ _ h := h
  release _ _ _ h := h
  enter _ _ _ h := h
  hand _ _ _ h := h
  recordData _ _ _ h := h
  hear _ _ _ h := h
  setBuffer _ _ h := h

lemma closedFrame_heard (l : List (ConnId × Frame)) :
    ClosedFrame fun s => s.trace.heard = l where
  setScript _ _ h := h
  wrote _ _ _ _ h := h
  record _ _ _ h := h
  setOutbound _ _ h := h
  requestDisconnect _ h := h
  forget _ _ h := h
  release _ _ _ h := h
  enter _ _ _ h := h
  hand _ _ _ h := h
  recordData _ _ _ h := h

lemma heard_dispatch (f : Frame) (s : Agent) :
    (s.dispatch f).1.trace.heard = s.trace.heard ++
      if (s.dispatch f).2 then s.connector.transport.toList.map fun c => (c, f) else [] := by
  have hframe := (closedFrame_heard s.trace.heard).dispatchFrame f s rfl
  rw [dispatch]
  split_ifs with h
  · simp [hear, hframe]
  · simp [hframe]

/-- What the receive loop keeps while it works through the frames `fs` from `c`, after it started
in `s`. -/
structure Reading (s : Agent) (c : ConnId) (all fs : List Frame) (t : Agent) : Prop where
  small : t.Small
  transport : t.connector.transport = some c
  dialed : t.trace.dialed = s.trace.dialed
  losses : t.trace.losses = s.trace.losses
  heard : ofKey c t.trace.heard ++ fs = ofKey c s.trace.heard ++ all
  heard_ne : ∀ d, d ≠ c → ofKey d t.trace.heard = ofKey d s.trace.heard

lemma Reading.setBuffer {s t : Agent} {c : ConnId} {all fs : List Frame}
    (ht : Reading s c all fs t) (b : Bytes) : Reading s c all fs (t.setBuffer b) :=
  ⟨ht.small, ht.transport, ht.dialed, ht.losses, ht.heard, ht.heard_ne⟩

lemma Reading.dispatch {s t : Agent} {c : ConnId} {all fs : List Frame} {f : Frame}
    (ht : Reading s c all (f :: fs) t) :
    Reading s c all (if (t.dispatch f).2 then fs else f :: fs) (t.dispatch f).1 := by
  obtain ⟨htransport, hdialed⟩ :=
    (closedInner_transport (some c) s.trace.dialed).dispatch f t ⟨ht.transport, ht.dialed⟩
  have hheard := heard_dispatch f t
  rw [ht.transport] at hheard
  refine
    { small := small_dispatch ht.small f
      transport := htransport
      dialed := hdialed
      losses := (losses_dispatch f t).trans ht.losses
      heard := ?_
      heard_ne := fun d hd => ?_ }
  · rw [hheard, ofKey_append, ← ht.heard]
    split_ifs
    · simp
    · simp
  · rw [hheard, ofKey_append, ← ht.heard_ne d hd]
    split_ifs
    · simp [ofKey_of_ne (Ne.symm hd)]
    · simp

/-- The state in which the receive loop starts on new bytes. -/
def fed (bytes : Bytes) (s : Agent) : Agent := s.clearPings.setBuffer (s.demux.recvBuffer ++ bytes)

lemma Reading.start {s : Agent} {c : ConnId} {all : List Frame} (hs : s.Small)
    (htransport : s.connector.transport = some c) (bytes : Bytes) :
    Reading s c all all (s.fed bytes) where
  small := hs
  transport := htransport
  dialed := rfl
  losses := rfl
  heard := rfl
  heard_ne _ _ := rfl

/-- Valid bytes do not make the connector ask for a disconnect. -/
lemma onBytesReceived_eq {s : Agent} {bytes : Bytes}
    (hvalid : (codec.drain (s.demux.recvBuffer ++ bytes)).valid = true) :
    s.onBytesReceived bytes = (receiver.receive (s.fed bytes)).state := by
  have hexit : (receiver.receive (s.fed bytes)).exit ≠ .returned false :=
    receiver.exit_receive_of_valid hvalid
  rw [onBytesReceived, if_neg (show (s.clearPings.onTunnelBytes bytes).exit ≠ _ from hexit)]
  rfl

lemma exit_onTunnelBytes_of_invalid {s : Agent} {bytes : Bytes}
    (h : decode (s.demux.recvBuffer ++ bytes) = .invalid) :
    (s.onTunnelBytes bytes).exit = .returned false :=
  congrArg Received.exit
    (receiver.receive_invalid (s := s.setBuffer (s.demux.recvBuffer ++ bytes)) h)

lemma disconnectPending_of_invalid {s : Agent} {bytes : Bytes}
    (h : decode (s.demux.recvBuffer ++ bytes) = .invalid) :
    (s.onBytesReceived bytes).connector.disconnectPending = true := by
  rw [onBytesReceived, if_pos (exit_onTunnelBytes_of_invalid (s := s.clearPings) h)]
  rfl

/-- What the agent has heard after reading bytes that the cloud wrote to `c`. -/
lemma reads {s : Agent} {c : ConnId} (bytes : Bytes) (hs : s.Small)
    (htransport : s.connector.transport = some c)
    (hvalid : (codec.drain (s.demux.recvBuffer ++ bytes)).valid = true) :
    ∃ done rest, (codec.drain (s.demux.recvBuffer ++ bytes)).frames = done ++ rest ∧
      Reading s c (done ++ rest) rest (s.onBytesReceived bytes) ∧
      codec.encodeAll done ++ (s.onBytesReceived bytes).demux.recvBuffer =
        s.demux.recvBuffer ++ bytes := by
  set all := (codec.drain (s.demux.recvBuffer ++ bytes)).frames with hall
  obtain ⟨done, rest, hframes, hreading, henc⟩ := receiver.receive_invariant
    (Q := fun fs t => Reading s c all fs t) (e := s.trace.losses)
    (fun fs b t ht => ht.setBuffer b)
    (fun f fs t _ hd ht => by
      have hnext := ht.dispatch
      rwa [if_pos (show (t.dispatch f).2 = true from hd)] at hnext)
    (fun f fs t _ hd ht => by
      have hnext := ht.dispatch
      rwa [show (t.dispatch f).2 = false from hd, if_neg Bool.false_ne_true] at hnext)
    (s.fed bytes) rfl (Reading.start hs htransport bytes)
  rw [onBytesReceived_eq hvalid]
  exact ⟨done, rest, hframes, hframes ▸ hreading, henc hreading.losses hvalid⟩

/-! ### The other events -/

/-- Nothing was read, and no connection was set up or lost. -/
def Calm (s t : Agent) : Prop :=
  t.trace.heard = s.trace.heard ∧ t.trace.dialed = s.trace.dialed ∧
  t.connector.transport = s.connector.transport ∧ t.demux.recvBuffer = s.demux.recvBuffer

lemma Calm.refl (s : Agent) : Calm s s := ⟨rfl, rfl, rfl, rfl⟩

lemma closedFrame_calm (s : Agent) : ClosedFrame (Calm s) where
  setScript _ _ h := h
  wrote _ _ _ _ h := h
  record _ _ _ h := h
  setOutbound _ _ h := h
  requestDisconnect _ h := h
  forget _ _ h := h
  release _ _ _ h := h
  enter _ _ _ h := h
  hand _ _ _ h := h
  recordData _ _ _ h := h

/-- The connection after a tick is the one before, or the one that was dialed. -/
lemma tick_transport (dial : Option ConnId) (s : Agent) :
    (s.tick dial).trace.heard = s.trace.heard ∧
    (∀ c ∈ (s.tick dial).trace.dialed, c ∈ s.trace.dialed ∨ dial = some c) ∧
    ∀ c, (s.tick dial).connector.transport = some c →
      s.connector.transport = some c ∧ (s.tick dial).trace.dialed = s.trace.dialed ∧
        (s.tick dial).demux.recvBuffer = s.demux.recvBuffer ∨
      dial = some c ∧ (s.tick dial).trace.dialed = s.trace.dialed ++ [c] ∧
        (s.tick dial).demux.recvBuffer = [] := by
  have hdrain : s.drainPending.trace.heard = s.trace.heard ∧
      s.drainPending.trace.dialed = s.trace.dialed ∧
      ∀ c, s.drainPending.connector.transport = some c → s.connector.transport = some c ∧
        s.drainPending.demux.recvBuffer = s.demux.recvBuffer := by
    simp only [drainPending]
    split_ifs
    · refine ⟨rfl, rfl, ?_⟩
      intro c hc
      simp [markDisconnected, onTunnelDisconnect] at hc
    · exact ⟨rfl, rfl, fun c hc => ⟨hc, rfl⟩⟩
    · exact ⟨rfl, rfl, fun c hc => ⟨hc, rfl⟩⟩
  obtain ⟨hheard, hdialed, htransport⟩ := hdrain
  rw [tick]
  generalize s.drainPending = t at hheard hdialed htransport
  have hrest : ∀ {u : Agent}, Calm t u → u.trace.heard = s.trace.heard ∧
      (∀ c ∈ u.trace.dialed, c ∈ s.trace.dialed ∨ dial = some c) ∧
      ∀ c, u.connector.transport = some c →
        s.connector.transport = some c ∧ u.trace.dialed = s.trace.dialed ∧
          u.demux.recvBuffer = s.demux.recvBuffer ∨
        dial = some c ∧ u.trace.dialed = s.trace.dialed ++ [c] ∧ u.demux.recvBuffer = [] := by
    intro u hu
    obtain ⟨hh, hd, ht, hr⟩ := hu
    refine ⟨hh.trans hheard, fun c hc => Or.inl (by rwa [hd, hdialed] at hc), ?_⟩
    intro c hc
    obtain ⟨hc', hbuffer⟩ := htransport c (ht ▸ hc)
    exact Or.inl ⟨hc', hd.trans hdialed, hr.trans hbuffer⟩
  split_ifs with hup hearly
  · have hping := (closedFrame_calm t).sendFrame .PING 0 [] t (.refl t)
    simp only [maybeHeartbeat]
    split_ifs
    · exact hrest (.refl t)
    · exact hrest (.refl t)
    · refine ⟨hheard, fun c hc => Or.inl (hdialed ▸ hc), ?_⟩
      intro c hc
      simp [markDisconnected, onTunnelDisconnect] at hc
    · exact hrest hping
    · exact hrest hping
  · exact hrest (.refl t)
  · rcases dial with _ | c
    · exact hrest (u := t.backOff) (.refl t)
    · obtain h | ⟨sent, f, rest, n, -, h⟩ := attemptConnect_cases c t
      · rw [h, onConnected]
        set u := ((t.install c).flushed c t.connector.outbound []).setTunnel (some .connector)
        obtain ⟨hh, hd, ht, hr⟩ := (closedFrame_calm u).foldl_post _ (.refl u)
        have hd' : (List.foldl post u ((t.install c).flushed c t.connector.outbound
            []).script.onConnected).trace.dialed = s.trace.dialed ++ [c] :=
          hd.trans (congrArg (· ++ [c]) hdialed)
        refine ⟨hh.trans hheard, fun d hd'' => ?_, fun d hd'' => Or.inr ⟨?_, ?_, hr⟩⟩
        · rw [hd'] at hd''
          obtain hmem | hmem := List.mem_append.mp hd''
          · exact Or.inl hmem
          · exact Or.inr (congrArg some (List.mem_singleton.mp hmem).symm)
        · exact ht.symm.trans hd''
        · rw [hd', ← Option.some.inj (ht.symm.trans hd'')]
      · rw [h, onConnected]
        set u := (((t.install c).flushed c sent (f :: rest)).wrote c f
          (.failed n)).markDisconnected.setTunnel (some .connector)
        obtain ⟨hh, hd, ht, -⟩ := (closedFrame_calm u).foldl_post _ (.refl u)
        refine ⟨hh.trans hheard, ?_, ?_⟩
        · intro d hd''
          rw [hd] at hd''
          obtain hmem | hmem := List.mem_append.mp (show d ∈ t.trace.dialed ++ [c] from hd'')
          · exact Or.inl (hdialed ▸ hmem)
          · exact Or.inr (congrArg some (List.mem_singleton.mp hmem).symm)
        · intro d hd''
          have hnone : u.connector.transport = none := rfl
          rw [ht, hnone] at hd''
          cases hd''

end Agent
