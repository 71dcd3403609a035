import OnPremPbx.Cloud.Basic
import OnPremPbx.Transition.Run

/-!
# What the cloud sends

The endpoint is an `Outbound` queue: every entry point of the cloud end takes it from one state
of such a queue to another by steps of the queue. Nothing that was passed to `send_frame` is
lost, doubled or reordered, and the frames written to one transport are a contiguous part of what
was passed.
-/

open Framing SipFrame

namespace Cloud

/-- The endpoint as an outbound queue. -/
def outbound (s : Cloud) : Outbound ConnId Frame where
  conn := s.endpoint.transport
  queue := s.endpoint.outbound
  cap := s.endpoint.cfg.outboundBufferMax
  writes := s.trace.writes
  passed := s.trace.passed
  used := s.trace.attached

/-! ### Flushing -/

/-- The state of a flush after `sent` went out to `c` and `rest` is still queued. -/
def flushed (c : ConnId) (sent rest : List Frame) (s : Cloud) : Cloud :=
  { s with
    endpoint.outbound := rest
    script.sends := s.script.sends.drop sent.length
    trace.writes := s.trace.writes ++ sent.map (⟨c, ·, .ok⟩) }

lemma flushed_nil {c : ConnId} {rest : List Frame} {s : Cloud} (h : s.endpoint.outbound = rest) :
    s.flushed c [] rest = s := by
  subst h
  simp [flushed]

/-- What a flush of the queue `q` leaves queued when its sends have the results `sends`: nothing, or
all from the first frame whose send fails. -/
def unflushed : List Frame → List SendResult → List Frame
  | [], _            => []
  | f :: rest, sends => if sends.headD .ok = .ok then unflushed rest sends.tail else f :: rest

/-- A flush sends the whole queue, or stops at the first frame whose send fails and drops the
agent. -/
lemma flushLoop_cases {s : Cloud} {c : ConnId} (h : s.endpoint.transport = some c)
    {q : List Frame} (hq : s.endpoint.outbound = q) :
    flushLoop q s = s.flushed c q [] ∨
    ∃ sent f rest n, q = sent ++ f :: rest ∧ unflushed q s.script.sends = f :: rest ∧
      flushLoop q s = ((s.flushed c sent (f :: rest)).wrote c f (.failed n)).markDisconnected := by
  induction q generalizing s with
  | nil => exact Or.inl (flushed_nil hq).symm
  | cons f rest ih =>
    cases hr : s.script.sends.headD .ok with
    | ok =>
      have hloop : flushLoop (f :: rest) s =
          flushLoop rest ((s.wrote c f .ok).setOutbound rest) := by
        simp only [flushLoop, transportSend, h, hr, decide_true, if_true]
      rw [hloop]
      obtain hall | ⟨sent, g, rest', n, rfl, hg, hlost⟩ :=
        ih (s := ((s.wrote c f .ok).setOutbound rest)) h rfl
      · exact Or.inl (hall.trans (by simp [flushed, wrote, setOutbound]))
      · refine Or.inr ⟨f :: sent, g, rest', n, rfl, ?_, hlost.trans ?_⟩
        · rw [unflushed, if_pos hr]
          exact hg
        · simp [flushed, wrote, setOutbound]
    | failed n =>
      refine Or.inr ⟨[], f, rest, n, rfl, by rw [unflushed, hr, if_neg (by simp)], ?_⟩
      rw [flushed_nil hq]
      simp only [flushLoop, transportSend, h, hr, reduceCtorEq, decide_false, Bool.false_eq_true,
        if_false]

/-- A fresh agent gets the whole queue, or is dropped again at the first frame whose send
fails. The previous agent, if any, was dropped first. -/
lemma onAgentConnected_cases (c : ConnId) (s : Cloud) :
    let t := s.onAgentDisconnected
    s.onAgentConnected c = (t.install c).flushed c t.endpoint.outbound [] ∨
    ∃ sent f rest n, t.endpoint.outbound = sent ++ f :: rest ∧
      unflushed t.endpoint.outbound t.script.sends = f :: rest ∧
      s.onAgentConnected c =
        (((t.install c).flushed c sent (f :: rest)).wrote c f (.failed n)).markDisconnected :=
  flushLoop_cases (s := s.onAgentDisconnected.install c) (c := c) rfl rfl

@[simp] lemma transport_onAgentDisconnected (s : Cloud) :
    s.onAgentDisconnected.endpoint.transport = none := by
  rcases h : s.endpoint.transport with _ | c
  · simp [onAgentDisconnected, hasAgent, h]
  · simp [onAgentDisconnected, hasAgent, h, markDisconnected, onTunnelDisconnect]

@[simp] lemma attached_onAgentDisconnected (s : Cloud) :
    s.onAgentDisconnected.trace.attached = s.trace.attached := by
  cases h : s.hasAgent <;> simp only [onAgentDisconnected, h] <;> rfl

@[simp] lemma queue_onAgentDisconnected (s : Cloud) :
    s.onAgentDisconnected.endpoint.outbound = s.endpoint.outbound := by
  cases h : s.hasAgent <;> simp only [onAgentDisconnected, h] <;> rfl

@[simp] lemma script_onAgentDisconnected (s : Cloud) :
    s.onAgentDisconnected.script = s.script := by
  cases h : s.hasAgent <;> simp only [onAgentDisconnected, h] <;> rfl

/-! ### Every entry point is a sequence of queue steps -/

lemma steps_markDisconnected (s : Cloud) : s.outbound.Steps s.markDisconnected.outbound :=
  Outbound.Step.dropped.steps

lemma steps_onAgentDisconnected (s : Cloud) :
    s.outbound.Steps s.onAgentDisconnected.outbound := by
  cases h : s.hasAgent
  · simp only [onAgentDisconnected, h]
    exact .refl _
  · simp only [onAgentDisconnected, h, if_true]
    exact steps_markDisconnected s

lemma hasRoom_iff (s : Cloud) : s.hasRoom = true ↔ s.outbound.Room := by
  simp [hasRoom, Outbound.Room, outbound]

lemma steps_sendFrame (op : Op) (i : UInt32) (p : Bytes) (s : Cloud) :
    s.outbound.Steps (s.sendFrame op i p).outbound := by
  rcases h : s.endpoint.transport with _ | c
  · rw [sendFrame_of_none h, enqueue]
    split_ifs with hroom
    · exact (Outbound.Step.queued (o := s.outbound) ⟨op, i, p⟩ h (s.hasRoom_iff.mp hroom)).steps
    · exact (Outbound.Step.refused (o := s.outbound) ⟨op, i, p⟩ h
        fun hr => hroom (s.hasRoom_iff.mpr hr)).steps
  · cases hr : s.script.sends.headD .ok with
    | ok =>
      rw [sendFrame_of_ok h hr]
      exact (Outbound.Step.sent (o := s.outbound) c ⟨op, i, p⟩ h).steps
    | failed n =>
      have hsame : ((s.wrote c ⟨op, i, p⟩ (.failed n)).markDisconnected).hasRoom = s.hasRoom := rfl
      rw [sendFrame_of_failed h hr, enqueue, hsame]
      split_ifs with hroom
      · exact (Outbound.Step.broke (o := s.outbound) c ⟨op, i, p⟩ n h
          (s.hasRoom_iff.mp hroom)).steps
      · exact (Outbound.Step.brokeRefused (o := s.outbound) c ⟨op, i, p⟩ n h
          fun hr => hroom (s.hasRoom_iff.mpr hr)).steps

lemma steps_tunnelSend (op : Op) (i : UInt32) (p : Bytes) (s : Cloud) :
    s.outbound.Steps (s.tunnelSend op i p).outbound := by
  rcases h : s.bridge.tunnel with _ | t
  · rw [tunnelSend_of_none h]
    exact .refl _
  · rw [tunnelSend_of_some h]
    exact steps_sendFrame op i p s

lemma steps_callHandler (s : Cloud) : s.outbound.Steps s.callHandler.1.outbound := by
  rcases h : s.script.handlers.headD (.returns none) with _ | _ | p
  · simp only [callHandler, h]; exact .refl _
  · simp only [callHandler, h]; exact .refl _
  · simp only [callHandler, h]
    exact steps_tunnelSend _ _ _
      (s.setScript { s.script with handlers := s.script.handlers.tail })

lemma outbound_closeStream (i : UInt32) (reason : Bytes) (s : Cloud) :
    (s.closeStream i reason).outbound = s.outbound := by
  rcases h : s.bridge.browsers.lookup i with _ | b
  · simp only [closeStream, h]
  · simp only [closeStream, h]; rfl

lemma steps_dispatchFrame (f : Frame) (s : Cloud) :
    s.outbound.Steps (s.dispatchFrame f).1.outbound := by
  obtain ⟨op, i, p⟩ := f
  cases op with
  | DATA =>
    rcases h : s.bridge.browsers.lookup i with _ | b <;> simp only [dispatchFrame, h] <;>
      exact .refl _
  | CLOSE => simp only [dispatchFrame, outbound_closeStream]; exact .refl _
  | PING => exact steps_tunnelSend _ _ _ s
  | PONG | ERR | OPEN | SUBSCRIBER_REVOKED | SOCIETY_BOOTSTRAP => exact .refl _
  | PUSH_NOTIFY | CDR_PUSH | REGISTER_STATE | AGENT_HELLO => exact steps_callHandler s
  | ASTERISK_STATUS => exact steps_callHandler (s.cacheStatus p)

lemma steps_dispatch (f : Frame) (s : Cloud) : s.outbound.Steps (s.dispatch f).1.outbound := by
  have := steps_dispatchFrame f s
  rw [dispatch]
  split_ifs <;> exact this

lemma steps_onTunnelBytes (bytes : Bytes) (s : Cloud) :
    s.outbound.Steps (s.onTunnelBytes bytes).state.outbound := by
  obtain ⟨-, -, -, hsteps, -⟩ := receiver.receive_invariant
    (Q := fun _ t => s.outbound.Steps t.outbound) (fun _ _ _ h => h)
    (fun f _ t _ _ h => h.trans (steps_dispatch f t))
    (fun f _ t _ _ h => h.trans (steps_dispatch f t))
    (receiver.setBuffer (receiver.buffer s ++ bytes) s) rfl (.refl _)
  exact hsteps

lemma steps_onBytesReceived (bytes : Bytes) (s : Cloud) :
    s.outbound.Steps (s.onBytesReceived bytes).outbound := by
  rw [onBytesReceived]
  have := steps_onTunnelBytes bytes s.clearPings
  split_ifs
  · exact this.trans (steps_markDisconnected _)
  · exact this

lemma steps_onAgentConnected {c : ConnId} {s : Cloud} (hc : c ∉ s.trace.attached) :
    s.outbound.Steps (s.onAgentConnected c).outbound := by
  have hcases := onAgentConnected_cases c s
  have hnone := transport_onAgentDisconnected s
  rw [← attached_onAgentDisconnected] at hc
  refine (steps_onAgentDisconnected s).trans ?_
  generalize s.onAgentDisconnected = t at hcases hnone hc ⊢
  obtain h | ⟨sent, f, rest, n, hq, -, h⟩ := hcases
  · rw [h]
    exact (Outbound.Step.connected (o := t.outbound) c hnone hc).steps
  · have hstep := Outbound.Step.brokeFlushing (o := t.outbound) c sent f rest n hnone hc hq
    rw [h]
    simpa [outbound, hnone, flushed, wrote, markDisconnected, onTunnelDisconnect, install,
      setTunnel] using hstep.steps

lemma steps_maybeHeartbeat (s : Cloud) : s.outbound.Steps s.maybeHeartbeat.outbound := by
  rcases hclock : s.endpoint.clock with _ | now
  · simp only [maybeHeartbeat, hclock]; exact .refl _
  · simp only [maybeHeartbeat, hclock]
    split_ifs
    · exact .refl _
    · exact .refl _
    · exact steps_markDisconnected s
    · exact steps_sendFrame .PING 0 [] s
    · exact steps_sendFrame .PING 0 [] s

lemma steps_tick (s : Cloud) : s.outbound.Steps s.tick.outbound := by
  rw [tick]
  split_ifs
  · exact steps_maybeHeartbeat s
  · exact .refl _

lemma steps_handle (e : Event) (s : Cloud) : s.outbound.Steps (s.handle e).outbound := by
  cases e with
  | browserUpgrade openMeta => exact steps_tunnelSend _ _ _ s.register
  | browserData b bytes =>
    rcases h : s.trace.issued[b]? with _ | i
    · simp only [handle, h]; exact .refl _
    · simp only [handle, h, onBrowserData]
      split_ifs
      · exact steps_tunnelSend _ _ _ (s.recordData b bytes)
      · exact .refl _
  | browserClose b reason =>
    rcases h : s.trace.issued[b]? with _ | i
    · simp only [handle, h]; exact .refl _
    · simp only [handle, h, onBrowserClose]
      split_ifs
      · exact steps_tunnelSend _ _ _ (s.deregister i)
      · exact .refl _
  | revoke payload => exact steps_tunnelSend _ _ _ s
  | sendFrame f => exact steps_sendFrame _ _ _ s
  | tick => exact steps_tick s
  | agentConnected c =>
    simp only [handle]
    split_ifs with hc
    · exact .refl _
    · exact steps_onAgentConnected hc
  | bytesReceived bytes => exact steps_onBytesReceived bytes s
  | agentDisconnected => exact steps_onAgentDisconnected s
  | advance seconds => exact .refl _

/-! ### Runs -/

lemma steps_run (s : Cloud) (is : List Input) : s.outbound.Steps (s.run is).outbound :=
  Transition.run_invariant (f := step) (P := fun t : Cloud => s.outbound.Steps t.outbound)
    (fun t i h => h.trans (steps_handle i.1 (t.setScript i.2))) (.refl _) is

lemma wf_init (cfg : CloudTunnelEndpoint.Config) (clock : Option ℤ)
    (connectedField : Bytes → Option Bool) : (init cfg clock connectedField).outbound.Wf where
  accepted_append_queue := rfl
  length_queue_le := Or.inr (Nat.zero_le _)
  kept_of_unbounded := by simp [outbound, init]
  queue_eq_nil _ _ := rfl
  conn_mem_used := by simp [outbound, init]
  write_mem_used := by simp [outbound, init]
  write_mem_passed := by simp [outbound, init]
  segment _ := ⟨[], [], rfl, fun _ => rfl⟩
  torn _ := ⟨[], [], rfl, by simp, Or.inl rfl⟩

/-- The queue of the endpoint is well formed in every run. -/
theorem wf_run (cfg : CloudTunnelEndpoint.Config) (clock : Option ℤ)
    (connectedField : Bytes → Option Bool) (is : List Input) :
    ((init cfg clock connectedField).run is).outbound.Wf :=
  (wf_init cfg clock connectedField).steps (steps_run _ is)

end Cloud
