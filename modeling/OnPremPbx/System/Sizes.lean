import OnPremPbx.System.Links

/-!
# What is sent is decoded

`SipFrame::encode` takes a payload of any size and `SipFrame::decode` refuses those over
`kMaxPayload`; nothing between a browser or an Asterisk stream and the encoder compares the two.
Where every payload fits, each end decodes all that the other sends, and neither ever meets input
that makes it give the tunnel up.
-/

open Framing SipFrame

namespace System

namespace Linked

variable {s : System}

/-- An agent that reads on is not answered `false`, so its connector does not ask for a disconnect,
and the frames dispatched are the next ones that the cloud wrote. -/
lemma agent_reads (hs : s.Linked) {a : ℕ} {c : ConnId}
    (htransport : (s.agents a).connector.transport = some c) (n : ℕ) (script : Agent.Script) :
    let t := (s.agents a).setScript script
    let out := t.clearPings.onTunnelBytes (s.downward c n)
    out.exit ≠ .returned false ∧ t.onBytesReceived (s.downward c n) = out.state ∧
      ofKey c t.trace.heard ++ out.frames <+: s.cloud.outbound.on c := by
  obtain ⟨hvalid, hframes⟩ :=
    (hs.link_down a c htransport).drain_unread hs.cloud.wf hs.cloud.fits n
  refine ⟨Agent.receiver.exit_receive_of_valid hvalid, Agent.onBytesReceived_eq hvalid, ?_⟩
  exact ((List.prefix_append_right_inj _).mpr
    (Agent.receiver.frames_receive_prefix _)).trans hframes

lemma cloud_reads (hs : s.Linked) {c : ConnId} (hconn : s.cloud.endpoint.transport = some c)
    (n : ℕ) (script : Cloud.Script) :
    let t := s.cloud.setScript script
    let out := t.clearPings.onTunnelBytes (s.upward c n)
    out.exit ≠ .returned false ∧ t.onBytesReceived (s.upward c n) = out.state ∧
      ofKey c t.trace.heard ++ out.frames <+: (s.agents (s.owner c)).outbound.on c := by
  obtain ⟨hvalid, hframes⟩ := (hs.link_up c hconn).drain_unread (hs.agent (s.owner c)).wf
    (hs.agent (s.owner c)).fits n
  refine ⟨Cloud.receiver.exit_receive_of_valid hvalid, Cloud.onBytesReceived_eq hvalid, ?_⟩
  exact ((List.prefix_append_right_inj _).mpr
    (Cloud.receiver.frames_receive_prefix _)).trans hframes

end Linked

/-- In every run whose payloads fit, all that is written to a connection decodes, to the frames
that were sent on it; and whatever part of it an end reads next, `on_tunnel_bytes` does not return
`false`, the connection is not given up for it, and the frames dispatched are the next ones that
the other end sent. -/
theorem sent_is_decoded (setup : Setup) (is : List Input)
    (hsized : Transition.Along step Sized (init setup) is) :
    let s := (init setup).run is
    (∀ c, (codec.drain (s.cloud.outbound.wire codec c)).frames = s.cloud.outbound.on c ∧
      (codec.drain (s.cloud.outbound.wire codec c)).valid = true) ∧
    (∀ a c, (codec.drain ((s.agents a).outbound.wire codec c)).frames =
        (s.agents a).outbound.on c ∧
      (codec.drain ((s.agents a).outbound.wire codec c)).valid = true) ∧
    (∀ a c n script, (s.agents a).connector.transport = some c →
      let t := (s.agents a).setScript script
      let out := t.clearPings.onTunnelBytes (s.downward c n)
      out.exit ≠ .returned false ∧ t.onBytesReceived (s.downward c n) = out.state ∧
        ofKey c t.trace.heard ++ out.frames <+: s.cloud.outbound.on c) ∧
    ∀ c n script, s.cloud.endpoint.transport = some c →
      let t := s.cloud.setScript script
      let out := t.clearPings.onTunnelBytes (s.upward c n)
      out.exit ≠ .returned false ∧ t.onBytesReceived (s.upward c n) = out.state ∧
        ofKey c t.trace.heard ++ out.frames <+: (s.agents (s.owner c)).outbound.on c := by
  intro s
  have hs : s.Linked := linked_run hsized
  exact ⟨hs.cloud.wf.drain_wire hs.cloud.fits,
    fun a => (hs.agent a).wf.drain_wire (hs.agent a).fits,
    fun _ _ n script h => hs.agent_reads h n script, fun _ n script h => hs.cloud_reads h n script⟩

/-- Of an OPEN and a message of two bytes the agent has read three bytes, and reads on. -/
theorem sent_is_decoded_message :
    let s := (init {}).run
      [{ event := .agentTick 0 true [] }, { event := .attach 0 }, { event := .browserUpgrade [] },
        { event := .browserData 0 [1, 2] }, { event := .agentRead 0 3 }]
    s.cloud.outbound.on 0 = [⟨.OPEN, 1, []⟩, ⟨.DATA, 1, [1, 2]⟩] ∧
    (codec.drain (s.cloud.outbound.wire codec 0)).frames = s.cloud.outbound.on 0 ∧
    ((s.agents 0).setScript {}).onBytesReceived (s.downward 0 19) =
      (((s.agents 0).setScript {}).clearPings.onTunnelBytes (s.downward 0 19)).state := by
  intro s
  obtain ⟨hdown, -, hagent, -⟩ := sent_is_decoded {}
    [{ event := .agentTick 0 true [] }, { event := .attach 0 }, { event := .browserUpgrade [] },
      { event := .browserData 0 [1, 2] }, { event := .agentRead 0 3 }] (by decide +kernel)
  exact ⟨by decide +kernel, (hdown 0).1, (hagent 0 0 19 {} (by decide +kernel)).2.1⟩

/-- A browser is connected to an Asterisk stream, and sends `p`. -/
def messaged (p : Bytes) : System :=
  (init {}).run
    [{ event := .agentTick 0 true [] }, { event := .attach 0 }, { event := .browserUpgrade [] },
      { event := .agentRead 0 kHeaderSize }, { event := .browserData 0 p }]

/-- A message over the cap: the agent that reads its header answers `false`, and its connector asks
for a disconnect. -/
lemma messaged_oversized {p : Bytes} (hmax : kMaxPayload < p.length) (hlen : p.length < 2 ^ 32) :
    (((messaged p).agents 0).onTunnelBytes ((messaged p).downward 0 kHeaderSize)).exit =
      .returned false ∧
    (((messaged p).step { event := .agentRead 0 kHeaderSize }).agents 0).connector.disconnectPending
      = true := by
  have hheader := decode_oversized .DATA 1 hmax hlen
  have hinvalid : decode (((messaged p).agents 0).demux.recvBuffer ++
      (messaged p).downward 0 kHeaderSize) = .invalid := hheader
  refine ⟨Agent.exit_onTunnelBytes_of_invalid hinvalid, ?_⟩
  exact Agent.disconnectPending_of_invalid (s := ((messaged p).agents 0).setScript {}) hinvalid

/-- One message of a browser over the cap, and the agent gives the tunnel up. -/
theorem oversized_message_drops_tunnel :
    let s := messaged (List.replicate (kMaxPayload + 1) 0)
    ((s.agents 0).onTunnelBytes (s.downward 0 kHeaderSize)).exit = .returned false ∧
    ((s.step { event := .agentRead 0 kHeaderSize }).agents 0).connector.disconnectPending =
      true :=
  messaged_oversized (by rw [List.length_replicate]; exact Nat.lt_succ_self _)
    (by rw [List.length_replicate]; decide)

end System
