import OnPremPbx.Agent.Outbound

/-!
# Invariants of the agent end

As on the cloud end, `Closed P` lists the state changes that the entry points are put together
from: a property that each of them keeps is kept by every run. `ClosedInner P` are those of
sending and receiving, which never tear a connection down.
-/

open Framing SipFrame

namespace Agent

/-- `P` is kept by the state changes that sending, the streams and `dispatch_frame` are put
together from. -/
structure ClosedFrame (P : Agent → Prop) : Prop where
  setScript : ∀ script s, P s → P (s.setScript script)
  wrote : ∀ c f r s, P s → P (s.wrote c f r)
  record : ∀ f kept s, P s → P (s.record f kept)
  setOutbound : ∀ q s, P s → P (s.setOutbound q)
  requestDisconnect : ∀ s, P s → P s.requestDisconnect
  forget : ∀ i s, P s → P (s.forget i)
  release : ∀ r reason s, P s → P (s.release r reason)
  enter : ∀ i s, i ∉ s.demux.streams → P s → P (s.enter i)
  hand : ∀ r bytes s, P s → P (s.hand r bytes)
  recordData : ∀ r bytes s, P s → P (s.recordData r bytes)

/-- `P` is kept also by the receive loop. -/
structure ClosedInner (P : Agent → Prop) : Prop extends ClosedFrame P where
  hear : ∀ c f s, P s → P (s.hear c f)
  setBuffer : ∀ b s, P s → P (s.setBuffer b)

/-- `P` is kept by every state change that the entry points are put together from. -/
structure Closed (P : Agent → Prop) : Prop extends ClosedInner P where
  markDisconnected : ∀ s, P s → P s.markDisconnected
  clearPending : ∀ s, P s → P s.clearPending
  install : ∀ c s, s.connector.transport = none → P s → P (s.install c)
  setTunnel : ∀ t s, P s → P (s.setTunnel t)
  backOff : ∀ s, P s → P s.backOff
  countPing : ∀ now s, P s → P (s.countPing now)
  clearPings : ∀ s, P s → P s.clearPings
  advance : ∀ seconds s, P s → P (s.advance seconds)

namespace ClosedFrame

variable {P : Agent → Prop} (hP : ClosedFrame P)

include hP

lemma enqueue (f : Frame) (s : Agent) (hs : P s) : P (s.enqueue f) := by
  rw [Agent.enqueue]
  split_ifs
  · exact hP.record _ _ _ (hP.setOutbound _ _ hs)
  · exact hP.record _ _ _ hs

lemma sendFrame (op : Op) (i : UInt32) (p : Bytes) (s : Agent) (hs : P s) :
    P (s.sendFrame op i p) := by
  rcases h : s.usable with _ | c
  · rw [sendFrame_of_none h]
    exact hP.enqueue _ _ hs
  · cases hr : s.script.sends.headD .ok with
    | ok =>
      rw [sendFrame_of_ok h hr]
      exact hP.record _ _ _ (hP.wrote _ _ _ _ hs)
    | failed n =>
      rw [sendFrame_of_failed h hr]
      exact hP.enqueue _ _ (hP.requestDisconnect _ (hP.wrote _ _ _ _ hs))

lemma tunnelSend (op : Op) (i : UInt32) (p : Bytes) (s : Agent) (hs : P s) :
    P (s.tunnelSend op i p) := by
  rcases h : s.demux.tunnel with _ | t
  · rwa [tunnelSend_of_none h]
  · rw [tunnelSend_of_some h]
    exact hP.sendFrame _ _ _ _ hs

lemma closeStream (i : UInt32) (reason : Bytes) (s : Agent) (hs : P s) :
    P (s.closeStream i reason) := by
  rcases h : s.demux.streams.lookup i with _ | r
  · simpa only [Agent.closeStream, h] using hs
  · simpa only [Agent.closeStream, h] using hP.forget _ _ (hP.release _ _ _ hs)

lemma onAsteriskData (i : UInt32) (bytes : Bytes) (s : Agent) (hs : P s) :
    P (s.onAsteriskData i bytes) := by
  rw [Agent.onAsteriskData]
  split_ifs
  · exact hP.tunnelSend _ _ _ _ hs
  · exact hs

lemma onAsteriskEof (i : UInt32) (reason : Bytes) (s : Agent) (hs : P s) :
    P (s.onAsteriskEof i reason) := by
  rw [Agent.onAsteriskEof]
  split_ifs
  · exact hP.tunnelSend _ _ _ _ (hP.forget _ _ hs)
  · exact hs

lemma openStream (i : UInt32) (s : Agent) (hs : P s) : P (s.openStream i) := by
  rw [Agent.openStream]
  split_ifs with hmem
  · exact hs
  · exact hP.enter _ _ hmem hs
  · exact hP.tunnelSend _ _ _ _ (hP.setScript _ _ hs)

lemma writeStream (i : UInt32) (p : Bytes) (s : Agent) (hs : P s) : P (s.writeStream i p) := by
  rcases h : s.demux.streams.lookup i with _ | r
  · simpa only [Agent.writeStream, h] using hs
  · have hhand := hP.hand r p s hs
    cases hw : s.script.streamWrites.headD .ok with
    | ok => simpa only [Agent.writeStream, h, hw] using hhand
    | broken => simpa only [Agent.writeStream, h, hw] using hP.closeStream _ _ _ hhand
    | brokenEof =>
      simpa only [Agent.writeStream, h, hw] using
        hP.closeStream _ _ _ (hP.onAsteriskEof _ _ _ hhand)

lemma dispatchFrame (f : Frame) (s : Agent) (hs : P s) : P (s.dispatchFrame f).1 := by
  obtain ⟨op, i, p⟩ := f
  cases op with
  | OPEN => exact hP.openStream _ _ hs
  | DATA => exact hP.writeStream _ _ _ hs
  | CLOSE => exact hP.closeStream _ _ _ hs
  | PING => exact hP.tunnelSend _ _ _ _ hs
  | SUBSCRIBER_REVOKED | SOCIETY_BOOTSTRAP => exact hP.setScript _ _ hs
  | PONG | ERR | PUSH_NOTIFY | CDR_PUSH | REGISTER_STATE | AGENT_HELLO | ASTERISK_STATUS =>
    exact hs

/-- The part of `on_connected` after the demux is armed again. -/
lemma foldl_post (fs : List Frame) {s : Agent} (hs : P s) : P (fs.foldl post s) :=
  Transition.run_invariant (f := post) (fun t _ => hP.sendFrame _ _ _ t) hs fs

/-- The events of the streams. -/
lemma handle_asterisk {e : Event} {s : Agent} (hs : P s)
    (he : (∃ r bytes, e = .asteriskData r bytes) ∨ ∃ r reason, e = .asteriskEof r reason) :
    P (s.handle e) := by
  obtain ⟨r, bytes, rfl⟩ | ⟨r, reason, rfl⟩ := he
  · rcases h : s.trace.opened[r]? with _ | i
    · simpa only [Agent.handle, h] using hs
    · simpa only [Agent.handle, h] using hP.onAsteriskData _ _ _ (hP.recordData _ _ _ hs)
  · rcases h : s.trace.opened[r]? with _ | i
    · simpa only [Agent.handle, h] using hs
    · simpa only [Agent.handle, h] using hP.onAsteriskEof _ _ _ hs

lemma onTransportLost (s : Agent) (hs : P s) : P s.onTransportLost := by
  rw [Agent.onTransportLost]
  split_ifs
  · exact hP.requestDisconnect _ hs
  · exact hs

lemma sendWsPing (ok : Bool) (s : Agent) (hs : P s) : P (s.sendWsPing ok) := by
  rw [Agent.sendWsPing]
  split_ifs
  · exact hP.requestDisconnect _ hs
  · exact hs

end ClosedFrame

namespace ClosedInner

variable {P : Agent → Prop} (hP : ClosedInner P)

include hP

lemma dispatch (f : Frame) (s : Agent) (hs : P s) : P (s.dispatch f).1 := by
  rw [Agent.dispatch]
  split_ifs
  · exact hP.hear _ _ _ (hP.dispatchFrame _ _ hs)
  · exact hP.dispatchFrame _ _ hs

lemma onTunnelBytes (bytes : Bytes) (s : Agent) (hs : P s) : P (s.onTunnelBytes bytes).state :=
  receiver.receive_keeps (P := P) hP.setBuffer hP.dispatch _ (hP.setBuffer _ _ hs)

end ClosedInner

namespace Closed

variable {P : Agent → Prop} (hP : Closed P)

include hP

lemma drainPending (s : Agent) (hs : P s) : P s.drainPending := by
  simp only [Agent.drainPending]
  split_ifs
  · exact hP.markDisconnected _ (hP.clearPending _ hs)
  · exact hP.clearPending _ hs
  · exact hs

lemma flushLoop (c : ConnId) (q : List Frame) (s : Agent) (hs : P s) :
    P (Agent.flushLoop c q s) := by
  induction q generalizing s with
  | nil => exact hs
  | cons f rest ih =>
    have hsend : P (s.transportSend c f).1 := hP.wrote _ _ _ _ hs
    rw [Agent.flushLoop]
    split_ifs
    · exact ih _ (hP.setOutbound _ _ hsend)
    · exact hP.markDisconnected _ hsend

lemma attemptConnect (dial : Option ConnId) (s : Agent) (hnone : s.connector.transport = none)
    (hs : P s) : P (s.attemptConnect dial) := by
  rcases dial with _ | c
  · exact hP.backOff _ hs
  · have hflush : P (s.install c).flushOutbound := hP.flushLoop _ _ _ (hP.install _ _ hnone hs)
    exact hP.foldl_post _ (hP.setTunnel _ _ hflush)

lemma maybeHeartbeat (s : Agent) (hs : P s) : P s.maybeHeartbeat := by
  simp only [Agent.maybeHeartbeat]
  split_ifs
  · exact hs
  · exact hs
  · exact hP.markDisconnected _ hs
  · exact hP.countPing _ _ (hP.sendFrame _ _ _ _ hs)
  · exact hP.sendFrame _ _ _ _ hs

lemma tick (dial : Option ConnId) (s : Agent) (hs : P s) : P (s.tick dial) := by
  have hdrain := hP.drainPending _ hs
  rw [Agent.tick]
  rcases ht : s.drainPending.connector.transport with _ | c
  · simp only [Option.isSome_none, Bool.false_eq_true, if_false]
    split_ifs
    · exact hdrain
    · exact hP.attemptConnect _ _ ht hdrain
  · simp only [Option.isSome_some, if_true]
    exact hP.maybeHeartbeat _ hdrain

lemma onBytesReceived (bytes : Bytes) (s : Agent) (hs : P s) : P (s.onBytesReceived bytes) := by
  have hfeed := hP.onTunnelBytes bytes _ (hP.clearPings _ hs)
  rw [Agent.onBytesReceived]
  split_ifs
  · exact hP.requestDisconnect _ hfeed
  · exact hfeed

lemma handle (e : Event) (s : Agent) (hs : P s) : P (s.handle e) := by
  cases e with
  | tick dial => exact hP.tick _ _ hs
  | bytesReceived bytes => exact hP.onBytesReceived _ _ hs
  | transportLost => exact hP.onTransportLost _ hs
  | asteriskData r bytes => exact hP.handle_asterisk hs (Or.inl ⟨r, bytes, rfl⟩)
  | asteriskEof r reason => exact hP.handle_asterisk hs (Or.inr ⟨r, reason, rfl⟩)
  | sendFrame f => exact hP.sendFrame _ _ _ _ hs
  | wsPing ok => exact hP.sendWsPing _ _ hs
  | advance seconds => exact hP.advance _ _ hs

lemma step (s : Agent) (i : Input) (hs : P s) : P (s.step i) :=
  hP.handle _ _ (hP.setScript _ _ hs)

/-- A closed property holds in every state of a run that starts with it. -/
theorem run {s : Agent} (hs : P s) (is : List Input) : P (s.run is) :=
  Transition.run_invariant (f := Agent.step) hP.step hs is

end Closed

end Agent
