import OnPremPbx.Cloud.Outbound

/-!
# Invariants of the cloud end

Every entry point is put together from a few state changes. `Closed P` lists them: a property
that each of them keeps is kept by every entry point, and so by every run.
-/

open Framing SipFrame

namespace Cloud

/-- `P` is kept by the state changes that sending is put together from. -/
structure ClosedSend (P : Cloud → Prop) : Prop where
  setScript : ∀ script s, P s → P (s.setScript script)
  wrote : ∀ c f r s, P s → P (s.wrote c f r)
  record : ∀ f kept s, P s → P (s.record f kept)
  setOutbound : ∀ q s, P s → P (s.setOutbound q)
  markDisconnected : ∀ s, P s → P s.markDisconnected

/-- `P` is kept also by what browsers and `dispatch_frame` do. -/
structure ClosedFrame (P : Cloud → Prop) : Prop extends ClosedSend P where
  deregister : ∀ i s, P s → P (s.deregister i)
  deliver : ∀ b bytes s, P s → P (s.deliver b bytes)
  release : ∀ b reason s, P s → P (s.release b reason)
  recordData : ∀ b bytes s, P s → P (s.recordData b bytes)
  cacheStatus : ∀ payload s, P s → P (s.cacheStatus payload)

/-- `P` is kept also by the receive loop. -/
structure ClosedInner (P : Cloud → Prop) : Prop extends ClosedFrame P where
  hear : ∀ c f s, P s → P (s.hear c f)
  setBuffer : ∀ b s, P s → P (s.setBuffer b)

/-- `P` is kept by every state change that the entry points are put together from. -/
structure Closed (P : Cloud → Prop) : Prop extends ClosedInner P where
  register : ∀ s, P s → P s.register
  install : ∀ c s, s.endpoint.transport = none → P s → P (s.install c)
  countPing : ∀ now s, P s → P (s.countPing now)
  clearPings : ∀ s, P s → P s.clearPings
  advance : ∀ seconds s, P s → P (s.advance seconds)

namespace ClosedSend

variable {P : Cloud → Prop} (hP : ClosedSend P)

include hP

lemma enqueue (f : Frame) (s : Cloud) (hs : P s) : P (s.enqueue f) := by
  rw [Cloud.enqueue]
  split_ifs
  · exact hP.record _ _ _ (hP.setOutbound _ _ hs)
  · exact hP.record _ _ _ hs

lemma sendFrame (op : Op) (i : UInt32) (p : Bytes) (s : Cloud) (hs : P s) :
    P (s.sendFrame op i p) := by
  rcases h : s.endpoint.transport with _ | c
  · rw [sendFrame_of_none h]
    exact hP.enqueue _ _ hs
  · cases hr : s.script.sends.headD .ok with
    | ok =>
      rw [sendFrame_of_ok h hr]
      exact hP.record _ _ _ (hP.wrote _ _ _ _ hs)
    | failed n =>
      rw [sendFrame_of_failed h hr]
      exact hP.enqueue _ _ (hP.markDisconnected _ (hP.wrote _ _ _ _ hs))

lemma tunnelSend (op : Op) (i : UInt32) (p : Bytes) (s : Cloud) (hs : P s) :
    P (s.tunnelSend op i p) := by
  rcases h : s.bridge.tunnel with _ | t
  · rwa [tunnelSend_of_none h]
  · rw [tunnelSend_of_some h]
    exact hP.sendFrame _ _ _ _ hs

lemma flushLoop (q : List Frame) (s : Cloud) (hs : P s) : P (Cloud.flushLoop q s) := by
  induction q generalizing s with
  | nil => exact hs
  | cons f rest ih =>
    have hsend : P (s.transportSend f).1 := by
      rcases h : s.endpoint.transport with _ | c
      · simpa only [transportSend, h] using hs
      · simpa only [transportSend, h] using hP.wrote _ _ _ _ hs
    rw [Cloud.flushLoop]
    split_ifs
    · exact ih _ (hP.setOutbound _ _ hsend)
    · exact hP.markDisconnected _ hsend

lemma flushOutbound (s : Cloud) (hs : P s) : P s.flushOutbound := by
  rw [Cloud.flushOutbound]
  split_ifs
  · exact hP.flushLoop _ _ hs
  · exact hs

lemma onAgentDisconnected (s : Cloud) (hs : P s) : P s.onAgentDisconnected := by
  rw [Cloud.onAgentDisconnected]
  split_ifs
  · exact hP.markDisconnected _ hs
  · exact hs

/-- A tick, up to the count of its PING. -/
lemma tick (hcount : ∀ now s, P s → P (s.countPing now)) (s : Cloud) (hs : P s) : P s.tick := by
  rw [Cloud.tick]
  split_ifs
  · rcases hclock : s.endpoint.clock with _ | now
    · simpa only [Cloud.maybeHeartbeat, hclock] using hs
    · simp only [Cloud.maybeHeartbeat, hclock]
      split_ifs
      · exact hs
      · exact hs
      · exact hP.markDisconnected _ hs
      · exact hcount _ _ (hP.sendFrame _ _ _ _ hs)
      · exact hP.sendFrame _ _ _ _ hs
  · exact hs

lemma callHandler (s : Cloud) (hs : P s) : P s.callHandler.1 := by
  have hscript := hP.setScript { s.script with handlers := s.script.handlers.tail } s hs
  rcases h : s.script.handlers.headD (.returns none) with _ | _ | p
  · simpa only [Cloud.callHandler, h] using hscript
  · simpa only [Cloud.callHandler, h] using hscript
  · simpa only [Cloud.callHandler, h, bootstrapSociety] using hP.tunnelSend _ _ _ _ hscript

end ClosedSend

namespace ClosedFrame

variable {P : Cloud → Prop} (hP : ClosedFrame P)

include hP

lemma closeStream (i : UInt32) (reason : Bytes) (s : Cloud) (hs : P s) :
    P (s.closeStream i reason) := by
  rcases h : s.bridge.browsers.lookup i with _ | b
  · simpa only [Cloud.closeStream, h] using hs
  · simpa only [Cloud.closeStream, h] using hP.deregister _ _ (hP.release _ _ _ hs)

lemma dispatchFrame (f : Frame) (s : Cloud) (hs : P s) : P (s.dispatchFrame f).1 := by
  obtain ⟨op, i, p⟩ := f
  cases op with
  | DATA =>
    rcases h : s.bridge.browsers.lookup i with _ | b
    · simpa only [Cloud.dispatchFrame, h] using hs
    · simpa only [Cloud.dispatchFrame, h] using hP.deliver _ _ _ hs
  | CLOSE => exact hP.closeStream _ _ _ hs
  | PING => exact hP.tunnelSend _ _ _ _ hs
  | PONG | ERR | OPEN | SUBSCRIBER_REVOKED | SOCIETY_BOOTSTRAP => exact hs
  | PUSH_NOTIFY | CDR_PUSH | REGISTER_STATE | AGENT_HELLO => exact hP.callHandler _ hs
  | ASTERISK_STATUS => exact hP.callHandler _ (hP.cacheStatus _ _ hs)

lemma onBrowserData (i : UInt32) (bytes : Bytes) (s : Cloud) (hs : P s) :
    P (s.onBrowserData i bytes) := by
  rw [Cloud.onBrowserData]
  split_ifs
  · exact hP.tunnelSend _ _ _ _ hs
  · exact hs

lemma onBrowserClose (i : UInt32) (reason : Bytes) (s : Cloud) (hs : P s) :
    P (s.onBrowserClose i reason) := by
  rw [Cloud.onBrowserClose]
  split_ifs
  · exact hP.tunnelSend _ _ _ _ (hP.deregister _ _ hs)
  · exact hs

/-- The browser data and browser close events. -/
lemma handle_browser {e : Event} {s : Cloud} (hs : P s)
    (he : (∃ b bytes, e = .browserData b bytes) ∨ ∃ b reason, e = .browserClose b reason) :
    P (s.handle e) := by
  obtain ⟨b, bytes, rfl⟩ | ⟨b, reason, rfl⟩ := he
  · rcases h : s.trace.issued[b]? with _ | i
    · simpa only [Cloud.handle, h] using hs
    · simpa only [Cloud.handle, h] using hP.onBrowserData _ _ _ (hP.recordData _ _ _ hs)
  · rcases h : s.trace.issued[b]? with _ | i
    · simpa only [Cloud.handle, h] using hs
    · simpa only [Cloud.handle, h] using hP.onBrowserClose _ _ _ hs

end ClosedFrame

namespace ClosedInner

variable {P : Cloud → Prop} (hP : ClosedInner P)

include hP

lemma dispatch (f : Frame) (s : Cloud) (hs : P s) : P (s.dispatch f).1 := by
  rw [Cloud.dispatch]
  split_ifs
  · exact hP.hear _ _ _ (hP.dispatchFrame _ _ hs)
  · exact hP.dispatchFrame _ _ hs

lemma onTunnelBytes (bytes : Bytes) (s : Cloud) (hs : P s) : P (s.onTunnelBytes bytes).state :=
  receiver.receive_keeps (P := P) hP.setBuffer hP.dispatch _ (hP.setBuffer _ _ hs)

end ClosedInner

namespace Closed

variable {P : Cloud → Prop} (hP : Closed P)

include hP

lemma onAgentConnected (c : ConnId) (s : Cloud) (hs : P s) : P (s.onAgentConnected c) := by
  have hinst : P (s.onAgentDisconnected.install c) :=
    hP.install _ _ (transport_onAgentDisconnected s) (hP.onAgentDisconnected _ hs)
  exact hP.flushOutbound _ hinst

lemma onBytesReceived (bytes : Bytes) (s : Cloud) (hs : P s) : P (s.onBytesReceived bytes) := by
  have hfeed := hP.onTunnelBytes bytes _ (hP.clearPings _ hs)
  rw [Cloud.onBytesReceived]
  split_ifs
  · exact hP.markDisconnected _ hfeed
  · exact hfeed

lemma handle (e : Event) (s : Cloud) (hs : P s) : P (s.handle e) := by
  cases e with
  | browserUpgrade openMeta => exact hP.tunnelSend _ _ _ _ (hP.register _ hs)
  | browserData b bytes => exact hP.handle_browser hs (Or.inl ⟨b, bytes, rfl⟩)
  | browserClose b reason => exact hP.handle_browser hs (Or.inr ⟨b, reason, rfl⟩)
  | revoke payload => exact hP.tunnelSend _ _ _ _ hs
  | sendFrame f => exact hP.sendFrame _ _ _ _ hs
  | tick => exact hP.tick hP.countPing _ hs
  | agentConnected c =>
    simp only [Cloud.handle]
    split_ifs
    · exact hs
    · exact hP.onAgentConnected _ _ hs
  | bytesReceived bytes => exact hP.onBytesReceived _ _ hs
  | agentDisconnected => exact hP.onAgentDisconnected _ hs
  | advance seconds => exact hP.advance _ _ hs

lemma step (s : Cloud) (i : Input) (hs : P s) : P (s.step i) :=
  hP.handle _ _ (hP.setScript _ _ hs)

/-- A closed property holds in every state of a run that starts with it. -/
theorem run {s : Cloud} (hs : P s) (is : List Input) : P (s.run is) :=
  Transition.run_invariant (f := Cloud.step) hP.step hs is

end Closed

/-! ### The tunnel pointer and the registered browsers -/

/-- While an agent is attached the bridge points to the endpoint, and every registered browser
was registered after the last loss. -/
structure Linked (s : Cloud) : Prop where
  tunnel : s.hasAgent = true → s.bridge.tunnel = some .endpoint
  browser : ∀ i b, s.bridge.browsers.lookup i = some b →
    s.trace.issuedAtLoss ≤ b ∧ b < s.trace.issued.length
  atLoss_le : s.trace.issuedAtLoss ≤ s.trace.issued.length

lemma lookup_register {s : Cloud} {i : UInt32} {b : BrowserSink}
    (h : s.register.bridge.browsers.lookup i = some b) :
    s.bridge.browsers.lookup i = some b ∨
      i = s.bridge.nextStreamId ∧ b = s.trace.issued.length ∧ i ∉ s.bridge.browsers := by
  simp only [register] at h
  split_ifs at h with hmem
  · exact Or.inl h
  · by_cases hi : i = s.bridge.nextStreamId
    · subst hi
      rw [AList.lookup_insert] at h
      exact Or.inr ⟨rfl, (Option.some.inj h).symm, hmem⟩
    · rw [AList.lookup_insert_ne hi] at h
      exact Or.inl h

lemma lookup_deregister {s : Cloud} {i j : UInt32} {b : BrowserSink}
    (h : (s.deregister j).bridge.browsers.lookup i = some b) :
    i ≠ j ∧ s.bridge.browsers.lookup i = some b := by
  by_cases hi : i = j
  · subst hi
    simp [deregister] at h
  · exact ⟨hi, by rwa [deregister, AList.lookup_erase_ne hi] at h⟩

lemma closed_linked : Closed Linked where
  setScript _ _ h := ⟨h.tunnel, h.browser, h.atLoss_le⟩
  wrote _ _ _ _ h := ⟨h.tunnel, h.browser, h.atLoss_le⟩
  record _ _ _ h := ⟨h.tunnel, h.browser, h.atLoss_le⟩
  setOutbound _ _ h := ⟨h.tunnel, h.browser, h.atLoss_le⟩
  markDisconnected s h :=
    ⟨by simp [hasAgent, markDisconnected, onTunnelDisconnect],
      by simp [markDisconnected, onTunnelDisconnect], le_rfl⟩
  install c s _ h := ⟨fun _ => rfl, h.browser, h.atLoss_le⟩
  countPing _ _ h := ⟨h.tunnel, h.browser, h.atLoss_le⟩
  clearPings _ h := ⟨h.tunnel, h.browser, h.atLoss_le⟩
  advance _ _ h := ⟨h.tunnel, h.browser, h.atLoss_le⟩
  register s h := by
    refine ⟨h.tunnel, ?_, ?_⟩
    · intro i b hb
      simp only [register, List.length_append, List.length_singleton]
      obtain hold | ⟨-, rfl, -⟩ := lookup_register hb
      · exact ⟨(h.browser i b hold).1, Nat.lt_succ_of_lt (h.browser i b hold).2⟩
      · exact ⟨h.atLoss_le, Nat.lt_succ_self _⟩
    · simpa [register] using Nat.le_succ_of_le h.atLoss_le
  deregister j s h := ⟨h.tunnel, fun i b hb => h.browser i b (lookup_deregister hb).2, h.atLoss_le⟩
  deliver _ _ _ h := ⟨h.tunnel, h.browser, h.atLoss_le⟩
  release _ _ _ h := ⟨h.tunnel, h.browser, h.atLoss_le⟩
  recordData _ _ _ h := ⟨h.tunnel, h.browser, h.atLoss_le⟩
  cacheStatus _ _ h := ⟨h.tunnel, h.browser, h.atLoss_le⟩
  hear _ _ _ h := ⟨h.tunnel, h.browser, h.atLoss_le⟩
  setBuffer _ _ h := ⟨h.tunnel, h.browser, h.atLoss_le⟩

lemma linked_init (cfg : CloudTunnelEndpoint.Config) (clock : Option ℤ)
    (connectedField : Bytes → Option Bool) : (init cfg clock connectedField).Linked :=
  ⟨fun _ => rfl, by simp [init], le_rfl⟩

/-- Handing a frame to the tunnel hands it to `send_frame` when the bridge has a tunnel. -/
lemma passed_sendFrame (op : Op) (i : UInt32) (p : Bytes) (s : Cloud) :
    ∃ kept, (s.sendFrame op i p).trace.passed = s.trace.passed ++ [(⟨op, i, p⟩, kept)] := by
  have henqueue : ∀ t : Cloud, t.trace.passed = s.trace.passed →
      ∃ kept, (t.enqueue ⟨op, i, p⟩).trace.passed = s.trace.passed ++ [(⟨op, i, p⟩, kept)] := by
    intro t ht
    rw [enqueue]
    split_ifs
    · exact ⟨true, by simp [record, setOutbound, ht]⟩
    · exact ⟨false, by simp [record, ht]⟩
  rcases h : s.endpoint.transport with _ | c
  · rw [sendFrame_of_none h]
    exact henqueue s rfl
  · cases hr : s.script.sends.headD .ok with
    | ok =>
      rw [sendFrame_of_ok h hr]
      exact ⟨true, rfl⟩
    | failed n =>
      rw [sendFrame_of_failed h hr]
      exact henqueue _ rfl

end Cloud
