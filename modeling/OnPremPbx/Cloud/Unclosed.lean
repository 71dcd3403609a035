import OnPremPbx.Cloud.Streams

/-!
# A registered stream is not closed

The CLOSE of a stream, posted by the bridge or heard from an agent, comes with the end of its
browser's registration, and the id of a new browser was never closed before.
-/

open Framing SipFrame

namespace Cloud

namespace Books

/-- No CLOSE of a registered stream was posted or heard. -/
def Unclosed (b : Books) : Prop :=
  ∀ i ∈ b.browsers, ¬ Closes i b.posted ∧ ∀ c, ¬ Closes i (ofKey c b.heard)

variable {b : Books}

lemma unclosed_of_empty (h : b.browsers = ∅) : b.Unclosed := by
  intro i hi
  rw [h] at hi
  exact absurd hi (AList.notMem_empty i)

namespace Unclosed

variable (hb : b.Unclosed)

include hb

lemma post {f : Frame} (hf : f.op = .CLOSE → f.streamId ∉ b.browsers) : (b.post f).Unclosed := by
  intro i hi
  obtain ⟨hposted, hheard⟩ := hb i hi
  refine ⟨?_, hheard⟩
  intro hclose
  rw [posted, Books.post, Outbound.kept_passed_post, closes_append] at hclose
  obtain hclose | hclose := hclose
  · exact hposted hclose
  · obtain ⟨hop, rfl⟩ := closes_singleton.mp hclose
    exact hf hop hi

lemma deregister (j : UInt32) : (b.deregister j).Unclosed :=
  fun i hi => hb i (AList.mem_erase.mp hi).2

lemma register (hposted : ¬ Closes b.next b.posted)
    (hheard : ∀ c, ¬ Closes b.next (ofKey c b.heard)) : b.register.Unclosed := by
  intro i hi
  have hmem : i = b.next ∨ i ∈ b.browsers := by
    simp only [Books.register] at hi
    split_ifs at hi
    · exact Or.inr hi
    · exact (AList.mem_insert _).mp hi
  obtain rfl | hi := hmem
  · exact ⟨hposted, hheard⟩
  · exact hb i hi

lemma hear (c : ConnId) {f : Frame} (hf : f.op = .CLOSE → f.streamId ∉ b.browsers) :
    (b.hear c f).Unclosed := by
  intro i hi
  obtain ⟨hposted, hheard⟩ := hb i hi
  refine ⟨hposted, ?_⟩
  intro d hclose
  rw [Books.hear, ofKey_append, closes_append] at hclose
  obtain hclose | ⟨g, hg, hop, heq⟩ := hclose
  · exact hheard d hclose
  · obtain ⟨rfl, rfl⟩ := Prod.mk.inj (List.mem_singleton.mp (mem_ofKey.mp hg))
    exact hf hop (heq ▸ hi)

end Unclosed

end Books

/-! ### What keeps the registered streams unclosed -/

section Sends

variable {s : Cloud} (hcap : s.endpoint.cfg.outboundBufferMax = 0)

include hcap

/-- A frame is posted, or the agent it was written to is lost with every browser. -/
lemma unclosed_sendFrame {op : Op} {i : UInt32} {p : Bytes}
    (hpost : (s.books.post ⟨op, i, p⟩).Unclosed) : (s.sendFrame op i p).books.Unclosed := by
  obtain h | ⟨c, n, -, -, h⟩ := books_sendFrame hcap op i p
  · rwa [h]
  · rw [h]
    exact Books.unclosed_of_empty rfl

lemma unclosed_tunnelSend {op : Op} {i : UInt32} {p : Bytes} (hb : s.books.Unclosed)
    (hi : op = .CLOSE → i ∉ s.bridge.browsers) : (s.tunnelSend op i p).books.Unclosed := by
  rcases h : s.bridge.tunnel with _ | t
  · rwa [tunnelSend_of_none h]
  · rw [tunnelSend_of_some h]
    exact unclosed_sendFrame hcap (hb.post hi)

variable (hb : s.books.Unclosed)

include hb

/-- An upgrade gives out an id that was not closed. -/
lemma unclosed_onBrowserUpgrade (openMeta : Bytes)
    (hposted : ¬ Closes s.bridge.nextStreamId s.books.posted)
    (hheard : ∀ c, ¬ Closes s.bridge.nextStreamId (ofKey c s.trace.heard)) :
    (s.onBrowserUpgrade openMeta).1.books.Unclosed :=
  unclosed_tunnelSend (s := s.register) hcap (hb.register hposted hheard) (by simp)

lemma unclosed_onBrowserData (i : UInt32) (bytes : Bytes) :
    (s.onBrowserData i bytes).books.Unclosed := by
  rw [onBrowserData]
  split_ifs
  · exact unclosed_tunnelSend hcap hb (by simp)
  · exact hb

lemma unclosed_onBrowserClose (i : UInt32) (reason : Bytes) :
    (s.onBrowserClose i reason).books.Unclosed := by
  rw [onBrowserClose]
  split_ifs
  · exact unclosed_tunnelSend (s := s.deregister i) hcap (hb.deregister i)
      fun _ h => (AList.mem_erase.mp h).1 rfl
  · exact hb

lemma unclosed_callHandler : s.callHandler.1.books.Unclosed := by
  have hscript : ∀ script, (s.setScript script).books.Unclosed := fun _ => hb
  rcases h : s.script.handlers.headD (.returns none) with _ | _ | p
  · simpa only [callHandler, h] using hscript _
  · simpa only [callHandler, h] using hscript _
  · simp only [callHandler, h, bootstrapSociety]
    exact unclosed_tunnelSend
      (s := s.setScript { s.script with handlers := s.script.handlers.tail }) hcap (hscript _)
      (by simp)

omit hcap in
lemma unclosed_onAgentDisconnected : s.onAgentDisconnected.books.Unclosed := by
  rw [onAgentDisconnected]
  split_ifs
  · exact Books.unclosed_of_empty rfl
  · exact hb

lemma unclosed_tick : s.tick.books.Unclosed := by
  have hping : (s.sendFrame .PING 0 []).books.Unclosed :=
    unclosed_sendFrame hcap (hb.post (by simp))
  rw [tick]
  split_ifs
  · rcases hclock : s.endpoint.clock with _ | now
    · simpa only [maybeHeartbeat, hclock] using hb
    · simp only [maybeHeartbeat, hclock]
      split_ifs
      · exact hb
      · exact hb
      · exact Books.unclosed_of_empty rfl
      · exact hping
      · exact hping
  · exact hb

omit hcap in
lemma unclosed_onAgentConnected (c : ConnId) : (s.onAgentConnected c).books.Unclosed := by
  have hdrop := unclosed_onAgentDisconnected hb
  have hcases := onAgentConnected_cases c s
  generalize s.onAgentDisconnected = t at hdrop hcases
  obtain h | ⟨sent, f, rest, n, -, -, h⟩ := hcases
  · rw [h]
    exact hdrop
  · rw [h]
    exact Books.unclosed_of_empty rfl

/-- Dispatching a frame that came from the agent at `c`. -/
lemma unclosed_dispatch {c : ConnId} (hconn : s.endpoint.transport = some c) (f : Frame) :
    (s.dispatch f).1.books.Unclosed := by
  have hother : f.op ≠ .CLOSE → (s.dispatchFrame f).1.books.Unclosed →
      (s.dispatch f).1.books.Unclosed := by
    intro hop hframe
    rw [dispatch, hconn]
    split_ifs
    · exact hframe.hear c fun h => absurd h hop
    · exact hframe
  obtain ⟨op, i, p⟩ := f
  cases op with
  | DATA =>
    refine hother (by simp) ?_
    rcases h : s.bridge.browsers.lookup i with _ | k
    · simpa only [dispatchFrame, h] using hb
    · simp only [dispatchFrame, h]
      exact hb
  | CLOSE =>
    simp only [dispatch, dispatchFrame, closeStream, if_true, hconn]
    rcases h : s.bridge.browsers.lookup i with _ | k
    · exact hb.hear c fun _ => AList.lookup_eq_none.mp h
    · exact (hb.deregister i).hear c fun _ h => (AList.mem_erase.mp h).1 rfl
  | PING => exact hother (by simp) (unclosed_tunnelSend hcap hb (by simp))
  | PONG | ERR | OPEN | SUBSCRIBER_REVOKED | SOCIETY_BOOTSTRAP => exact hother (by simp) hb
  | PUSH_NOTIFY | CDR_PUSH | REGISTER_STATE | AGENT_HELLO =>
    exact hother (by simp) (unclosed_callHandler hcap hb)
  | ASTERISK_STATUS => exact hother (by simp) (unclosed_callHandler (s := s.cacheStatus p) hcap hb)

end Sends

/-- Reading valid bytes of the agent. -/
lemma unclosed_onBytesReceived {s : Cloud} {c : ConnId} {bytes : Bytes}
    (hcap : s.endpoint.cfg.outboundBufferMax = 0) (hb : s.books.Unclosed)
    (hconn : s.endpoint.transport = some c)
    (hvalid : (codec.drain (s.bridge.recvBuffer ++ bytes)).valid = true) :
    (s.onBytesReceived bytes).books.Unclosed := by
  have hdispatch : ∀ f t, t.trace.losses = s.trace.losses →
      Holds s t ∧ t.endpoint.cfg.outboundBufferMax = 0 ∧ t.books.Unclosed →
      Holds s (t.dispatch f).1 ∧ (t.dispatch f).1.endpoint.cfg.outboundBufferMax = 0 ∧
        (t.dispatch f).1.books.Unclosed := by
    rintro f t hep ⟨hholds, htcap, htb⟩
    exact ⟨(closedInner_holds s).dispatch f t hholds, closed_cap.dispatch f t htcap,
      unclosed_dispatch htcap htb ((hholds.2.1 hep).trans hconn) f⟩
  obtain ⟨-, -, -, ⟨-, -, hunclosed⟩, -⟩ := receiver.receive_invariant
    (Q := fun _ t => Holds s t ∧ t.endpoint.cfg.outboundBufferMax = 0 ∧ t.books.Unclosed)
    (e := s.trace.losses)
    (fun _ _ _ ht => ht) (fun f _ t hep _ ht => hdispatch f t hep ht)
    (fun f _ t hep _ ht => hdispatch f t hep ht) (s.fed bytes) rfl ⟨Holds.refl s, hcap, hb⟩
  rwa [onBytesReceived_eq hvalid]

end Cloud
