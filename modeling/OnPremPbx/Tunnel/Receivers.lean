import OnPremPbx.Agent.Basic
import OnPremPbx.Cloud.Basic

/-!
# The two receive loops

`SipBridge::on_tunnel_bytes` and `SipFrameDemux::on_tunnel_bytes` are the same loop over different
dispatchers. What follows from the loop erasing a frame only after its dispatch has returned, and
from a dispatch that can lose the tunnel, is stated here for both.
-/

open Framing SipFrame

namespace Cloud

@[simp] lemma handlers_enqueue (f : Frame) (s : Cloud) :
    (s.enqueue f).script.handlers = s.script.handlers := by
  rw [enqueue]
  cases s.hasRoom <;> rfl

@[simp] lemma handlers_sendFrame (op : Op) (i : UInt32) (p : Bytes) (s : Cloud) :
    (s.sendFrame op i p).script.handlers = s.script.handlers := by
  rcases h : s.endpoint.transport with _ | c
  · rw [sendFrame_of_none h, handlers_enqueue]
  · cases hr : s.script.sends.headD .ok with
    | ok => rw [sendFrame_of_ok h hr]; rfl
    | failed n => rw [sendFrame_of_failed h hr, handlers_enqueue]; rfl

@[simp] lemma handlers_tunnelSend (op : Op) (i : UInt32) (p : Bytes) (s : Cloud) :
    (s.tunnelSend op i p).script.handlers = s.script.handlers := by
  rcases h : s.bridge.tunnel with _ | t
  · rw [tunnelSend_of_none h]
  · rw [tunnelSend_of_some h, handlers_sendFrame]

lemma handlers_callHandler (s : Cloud) :
    s.callHandler.1.script.handlers = s.script.handlers.tail := by
  rcases h : s.script.handlers.headD (.returns none) with _ | _ | p
  · simp only [callHandler, h, setScript]
  · simp only [callHandler, h, setScript]
  · simp only [callHandler, h, bootstrapSociety, handlers_tunnelSend, setScript]

/-- A dispatch uses up at most the next handler call of the script. -/
lemma handlers_dispatch_suffix (f : Frame) (s : Cloud) :
    (s.dispatch f).1.script.handlers <:+ s.script.handlers := by
  have hsame : (s.dispatch f).1.script = (s.dispatchFrame f).1.script := by
    rw [dispatch]
    split_ifs <;> rfl
  rw [hsame]
  obtain ⟨op, i, p⟩ := f
  cases op with
  | DATA => rcases h : s.bridge.browsers.lookup i with _ | b <;> simp [dispatchFrame, deliver, h]
  | CLOSE =>
    rcases h : s.bridge.browsers.lookup i with _ | b <;>
      simp [dispatchFrame, closeStream, deregister, release, h]
  | PING => simp [dispatchFrame]
  | PONG | ERR | OPEN | SUBSCRIBER_REVOKED | SOCIETY_BOOTSTRAP => exact List.suffix_rfl
  | PUSH_NOTIFY | CDR_PUSH | REGISTER_STATE | AGENT_HELLO =>
    rw [dispatchFrame, handlers_callHandler]
    exact List.tail_suffix _
  | ASTERISK_STATUS =>
    rw [dispatchFrame, handlers_callHandler]
    exact List.tail_suffix _

/-- The installed handlers return normally. -/
def HandlersReturn (s : Cloud) : Prop := .raises ∉ s.script.handlers

lemma HandlersReturn.dispatch {s : Cloud} (hs : s.HandlersReturn) (f : Frame) :
    (s.dispatch f).1.HandlersReturn :=
  fun h => hs ((handlers_dispatch_suffix f s).mem h)

lemma HandlersReturn.callHandler {s : Cloud} (hs : s.HandlersReturn) :
    s.callHandler.2 = true := by
  rcases h : s.script.handlers.headD (.returns none) with _ | _ | p
  · refine absurd ?_ hs
    rcases hl : s.script.handlers with _ | ⟨x, xs⟩
    · rw [hl] at h; cases h
    · rw [hl] at h
      rw [← show x = .raises from h]
      exact List.mem_cons_self
  · simp only [Cloud.callHandler, h]
  · simp only [Cloud.callHandler, h]

lemma HandlersReturn.dispatch_returns {s : Cloud} (hs : s.HandlersReturn) (f : Frame) :
    (s.dispatch f).2 = true := by
  obtain ⟨op, i, p⟩ := f
  cases op with
  | DATA =>
    rcases h : s.bridge.browsers.lookup i with _ | b <;> simp [Cloud.dispatch, dispatchFrame, h]
  | CLOSE | PING | PONG | ERR | OPEN | SUBSCRIBER_REVOKED | SOCIETY_BOOTSTRAP => rfl
  | PUSH_NOTIFY | CDR_PUSH | REGISTER_STATE | AGENT_HELLO => exact hs.callHandler
  | ASTERISK_STATUS => exact HandlersReturn.callHandler (s := s.cacheStatus p) hs

lemma losses_dispatch_of_raises (f : Frame) (s : Cloud) (h : (s.dispatch f).2 = false) :
    (s.dispatch f).1.trace.losses = s.trace.losses := by
  rw [losses_dispatch]
  exact losses_dispatchFrame_of_raises h

end Cloud

namespace Agent

@[simp] lemma handlers_enqueue (f : Frame) (s : Agent) :
    (s.enqueue f).script.handlers = s.script.handlers := by
  rw [enqueue]
  cases s.hasRoom <;> rfl

@[simp] lemma handlers_sendFrame (op : Op) (i : UInt32) (p : Bytes) (s : Agent) :
    (s.sendFrame op i p).script.handlers = s.script.handlers := by
  rcases h : s.usable with _ | c
  · rw [sendFrame_of_none h, handlers_enqueue]
  · cases hr : s.script.sends.headD .ok with
    | ok => rw [sendFrame_of_ok h hr]; rfl
    | failed n => rw [sendFrame_of_failed h hr, handlers_enqueue]; rfl

@[simp] lemma handlers_tunnelSend (op : Op) (i : UInt32) (p : Bytes) (s : Agent) :
    (s.tunnelSend op i p).script.handlers = s.script.handlers := by
  rcases h : s.demux.tunnel with _ | t
  · rw [tunnelSend_of_none h]
  · rw [tunnelSend_of_some h, handlers_sendFrame]

@[simp] lemma handlers_closeStream (i : UInt32) (reason : Bytes) (s : Agent) :
    (s.closeStream i reason).script.handlers = s.script.handlers := by
  rcases h : s.demux.streams.lookup i with _ | r <;> simp only [closeStream, h, forget, release]

@[simp] lemma handlers_onAsteriskEof (i : UInt32) (reason : Bytes) (s : Agent) :
    (s.onAsteriskEof i reason).script.handlers = s.script.handlers := by
  rw [onAsteriskEof]
  split_ifs
  · exact handlers_tunnelSend _ _ _ (s.forget i)
  · rfl

@[simp] lemma handlers_openStream (i : UInt32) (s : Agent) :
    (s.openStream i).script.handlers = s.script.handlers := by
  rw [openStream]
  split_ifs
  · rfl
  · rfl
  · exact handlers_tunnelSend _ _ _ { s with script.opens := s.script.opens.tail }

@[simp] lemma handlers_writeStream (i : UInt32) (p : Bytes) (s : Agent) :
    (s.writeStream i p).script.handlers = s.script.handlers := by
  rcases h : s.demux.streams.lookup i with _ | r
  · simp only [writeStream, h]
  · cases hw : s.script.streamWrites.headD .ok <;>
      simp only [writeStream, h, hw, handlers_closeStream, handlers_onAsteriskEof, hand]

/-- A dispatch uses up at most the next handler call of the script. -/
lemma handlers_dispatch_suffix (f : Frame) (s : Agent) :
    (s.dispatch f).1.script.handlers <:+ s.script.handlers := by
  have hsame : (s.dispatch f).1.script = (s.dispatchFrame f).1.script := by
    rw [dispatch]
    split_ifs <;> rfl
  rw [hsame]
  obtain ⟨op, i, p⟩ := f
  cases op with
  | OPEN | DATA | CLOSE | PING => simp [dispatchFrame]
  | SUBSCRIBER_REVOKED | SOCIETY_BOOTSTRAP => exact List.tail_suffix _
  | PONG | ERR | PUSH_NOTIFY | CDR_PUSH | REGISTER_STATE | AGENT_HELLO | ASTERISK_STATUS =>
    exact List.suffix_rfl

/-- The installed handlers return normally. -/
def HandlersReturn (s : Agent) : Prop := false ∉ s.script.handlers

lemma HandlersReturn.dispatch {s : Agent} (hs : s.HandlersReturn) (f : Frame) :
    (s.dispatch f).1.HandlersReturn :=
  fun h => hs ((handlers_dispatch_suffix f s).mem h)

lemma HandlersReturn.callHandler {s : Agent} (hs : s.HandlersReturn) :
    s.callHandler.2 = true := by
  rcases h : s.script.handlers with _ | ⟨x, xs⟩
  · simp [Agent.callHandler, h]
  · have hx : x ≠ false := fun hx => hs (by simp [h, hx])
    simpa [Agent.callHandler, h] using hx

lemma HandlersReturn.dispatch_returns {s : Agent} (hs : s.HandlersReturn) (f : Frame) :
    (s.dispatch f).2 = true := by
  obtain ⟨op, i, p⟩ := f
  cases op with
  | OPEN | DATA | CLOSE | PING => rfl
  | SUBSCRIBER_REVOKED | SOCIETY_BOOTSTRAP => exact hs.callHandler
  | PONG | ERR | PUSH_NOTIFY | CDR_PUSH | REGISTER_STATE | AGENT_HELLO | ASTERISK_STATUS => rfl

end Agent

/-! ### Frames whose handler throws -/

/-- The frames that `on_tunnel_bytes` dispatched are no longer in the receive buffer: it is
empty, or holds exactly the bytes behind them. -/
def FramesLeave (buffer bytes : Bytes) (dispatched : List Frame) (buffer' : Bytes) : Prop :=
  buffer' = [] ∨ dispatched.flatMap Frame.encode ++ buffer' = buffer ++ bytes

/-- For the bridge and for the demux: the frames that a call dispatched have left the receive
buffer exactly when every dispatch that the call reaches returns normally. -/
theorem framesLeave_iff_quiet (s : Cloud) (t : Agent) (bytes : Bytes) :
    (FramesLeave s.bridge.recvBuffer bytes (s.onTunnelBytes bytes).frames
        (s.onTunnelBytes bytes).state.bridge.recvBuffer ↔
      Cloud.receiver.Quiet (codec.drain (s.bridge.recvBuffer ++ bytes)).frames s) ∧
    (FramesLeave t.demux.recvBuffer bytes (t.onTunnelBytes bytes).frames
        (t.onTunnelBytes bytes).state.demux.recvBuffer ↔
      Agent.receiver.Quiet (codec.drain (t.demux.recvBuffer ++ bytes)).frames t) := by
  constructor
  · have h := Cloud.receiver.consumed_receive_iff Cloud.losses_dispatch_of_raises
      (Cloud.receiver.setBuffer (s.bridge.recvBuffer ++ bytes) s)
    rwa [Cloud.receiver.quiet_setBuffer] at h
  · have h := Agent.receiver.consumed_receive_iff (fun f t _ => Agent.losses_dispatch f t)
      (Agent.receiver.setBuffer (t.demux.recvBuffer ++ bytes) t)
    rwa [Agent.receiver.quiet_setBuffer] at h

/-- A CDR whose database write throws stays in the buffer, and the next call dispatches it
again. -/
theorem cdr_dispatched_again :
    let s : Cloud := { script := { handlers := [.raises] } }
    let bytes := encode .CDR_PUSH 0 [0x7b, 0x7d]
    let out := s.onTunnelBytes bytes
    ¬ FramesLeave s.bridge.recvBuffer bytes out.frames out.state.bridge.recvBuffer ∧
      out.frames = [⟨.CDR_PUSH, 0, [0x7b, 0x7d]⟩] ∧
      (out.state.onTunnelBytes []).frames = [⟨.CDR_PUSH, 0, [0x7b, 0x7d]⟩] := by
  unfold FramesLeave
  decide

/-! ### Chunks -/

/-- How the stream of bytes is cut into calls does not matter: the bridge, called until a call
returns false or loses the tunnel, ends where one call with all the bytes ends, and so does the
demux, called until a call returns false. A call that lost the tunnel leaves no bytes of the dead
connection behind. -/
theorem chunking_invariant :
    (∀ (s : Cloud) (chunks : List Bytes), s.HandlersReturn →
      decode s.bridge.recvBuffer = .needMore →
      Cloud.receiver.deliver chunks s = s.onTunnelBytes chunks.flatten ∧
      ((s.onTunnelBytes chunks.flatten).state.trace.losses ≠ s.trace.losses →
        (s.onTunnelBytes chunks.flatten).state.bridge.recvBuffer = [])) ∧
    (∀ (s : Agent) (chunks : List Bytes), s.HandlersReturn →
      decode s.demux.recvBuffer = .needMore →
      Agent.receiver.calls chunks s = s.onTunnelBytes chunks.flatten) := by
  constructor
  · intro s chunks hs hsettled
    constructor
    · exact Cloud.receiver.deliver_eq_feed (P := Cloud.HandlersReturn) (fun _ _ h => h)
        (fun f _ h => h.dispatch f) (fun f _ h => h.dispatch_returns f) chunks s hs hsettled
    · intro hlost
      exact Cloud.receiver.buffer_receive_of_lost Cloud.losses_dispatch_of_raises hlost
  · intro s chunks hs hsettled
    rw [Agent.receiver.calls_eq_deliver Agent.losses_dispatch]
    exact Agent.receiver.deliver_eq_feed (P := Agent.HandlersReturn) (fun _ _ h => h)
      (fun f _ h => h.dispatch f) (fun f _ h => h.dispatch_returns f) chunks s hs hsettled

/-- A PING cut in two, read by a bridge with an agent and by a demux. -/
theorem chunking_invariant_split_ping :
    let chunks := [(encode .PING 0 []).take 4, (encode .PING 0 []).drop 4]
    let s := (Cloud.init {} none fun _ => none).run [(.agentConnected 0, {})]
    let t := Agent.init {} 0
    Cloud.receiver.deliver chunks s = s.onTunnelBytes chunks.flatten ∧
      Agent.receiver.calls chunks t = t.onTunnelBytes chunks.flatten :=
  ⟨(chunking_invariant.1 _ _ (by unfold Cloud.HandlersReturn; decide) (by decide)).1,
    chunking_invariant.2 _ _ (by unfold Agent.HandlersReturn; decide) (by decide)⟩

/-- A caller that goes on after the tunnel was lost does see the cut: the PONG to the first frame
fails, and the second frame is dispatched only if it comes in a call of its own. -/
theorem chunking_visible_after_loss :
    let s : Cloud := { (Cloud.init {} none fun _ => none).run [(.agentConnected 0, {})] with
      script := { sends := [.failed 0] } }
    let chunks := [encode .PING 0 [], encode .CDR_PUSH 0 []]
    (Cloud.receiver.calls chunks s).frames = [⟨.PING, 0, []⟩, ⟨.CDR_PUSH, 0, []⟩] ∧
      (s.onTunnelBytes chunks.flatten).frames = [⟨.PING, 0, []⟩] := by
  decide
