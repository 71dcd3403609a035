import OnPremPbx.Agent.Basic
import OnPremPbx.Transition.Run

/-!
# What the agent sends

The connector is an `Outbound` queue whose connection is the transport that `send_frame` may
write to: from a request to disconnect on, it is none, although the transport is there until the
next tick.
-/

open Framing SipFrame

namespace Agent

/-- The connector as an outbound queue. -/
def outbound (s : Agent) : Outbound ConnId Frame where
  conn := s.usable
  queue := s.connector.outbound
  cap := s.connector.cfg.outboundBufferMax
  writes := s.trace.writes
  passed := s.trace.passed
  used := s.trace.dialed

/-! ### Flushing -/

/-- The state of a flush after `sent` went out to `c` and `rest` is still queued. -/
def flushed (c : ConnId) (sent rest : List Frame) (s : Agent) : Agent :=
  { s with
    connector.outbound := rest
    script.sends := s.script.sends.drop sent.length
    trace.writes := s.trace.writes ++ sent.map (⟨c, ·, .ok⟩) }

lemma flushed_nil {c : ConnId} {rest : List Frame} {s : Agent} (h : s.connector.outbound = rest) :
    s.flushed c [] rest = s := by
  subst h
  simp [flushed]

/-- A flush sends the whole queue, or stops at the first frame whose send fails and drops the
connection. -/
lemma flushLoop_cases {s : Agent} (c : ConnId) {q : List Frame} (hq : s.connector.outbound = q) :
    flushLoop c q s = s.flushed c q [] ∨
    ∃ sent f rest n, q = sent ++ f :: rest ∧
      flushLoop c q s =
        ((s.flushed c sent (f :: rest)).wrote c f (.failed n)).markDisconnected := by
  induction q generalizing s with
  | nil => exact Or.inl (flushed_nil hq).symm
  | cons f rest ih =>
    cases hr : s.script.sends.headD .ok with
    | ok =>
      have hloop : flushLoop c (f :: rest) s =
          flushLoop c rest ((s.wrote c f .ok).setOutbound rest) := by
        simp only [flushLoop, transportSend, hr, decide_true, if_true]
      rw [hloop]
      obtain hall | ⟨sent, g, rest', n, rfl, hlost⟩ :=
        ih (s := (s.wrote c f .ok).setOutbound rest) rfl
      · exact Or.inl (hall.trans (by simp [flushed, wrote, setOutbound]))
      · refine Or.inr ⟨f :: sent, g, rest', n, rfl, hlost.trans ?_⟩
        simp [flushed, wrote, setOutbound]
    | failed n =>
      refine Or.inr ⟨[], f, rest, n, rfl, ?_⟩
      rw [flushed_nil hq]
      simp only [flushLoop, transportSend, hr, reduceCtorEq, decide_false, Bool.false_eq_true,
        if_false]

/-- A fresh transport gets the whole queue, or is dropped again at the first frame whose send
fails. Then the on-connected handler runs. -/
lemma attemptConnect_cases (c : ConnId) (s : Agent) :
    s.attemptConnect (some c) =
      ((s.install c).flushed c s.connector.outbound []).onConnected ∨
    ∃ sent f rest n, s.connector.outbound = sent ++ f :: rest ∧
      s.attemptConnect (some c) =
        (((s.install c).flushed c sent (f :: rest)).wrote c f
          (.failed n)).markDisconnected.onConnected := by
  obtain h | ⟨sent, f, rest, n, hq, h⟩ := flushLoop_cases (s := s.install c) c rfl
  · exact Or.inl (congrArg onConnected h)
  · exact Or.inr ⟨sent, f, rest, n, hq, congrArg onConnected h⟩

/-! ### Every entry point is a sequence of queue steps -/

lemma steps_requestDisconnect (s : Agent) : s.outbound.Steps s.requestDisconnect.outbound :=
  Outbound.Step.dropped.steps

lemma steps_markDisconnected (s : Agent) : s.outbound.Steps s.markDisconnected.outbound :=
  Outbound.Step.dropped.steps

lemma hasRoom_iff (s : Agent) : s.hasRoom = true ↔ s.outbound.Room := by
  simp [hasRoom, Outbound.Room, outbound]

lemma steps_sendFrame (op : Op) (i : UInt32) (p : Bytes) (s : Agent) :
    s.outbound.Steps (s.sendFrame op i p).outbound := by
  rcases h : s.usable with _ | c
  · rw [sendFrame_of_none h, enqueue]
    split_ifs with hroom
    · exact (Outbound.Step.queued (o := s.outbound) ⟨op, i, p⟩ h (s.hasRoom_iff.mp hroom)).steps
    · exact (Outbound.Step.refused (o := s.outbound) ⟨op, i, p⟩ h
        fun hr => hroom (s.hasRoom_iff.mpr hr)).steps
  · cases hr : s.script.sends.headD .ok with
    | ok =>
      rw [sendFrame_of_ok h hr]
      exact (Outbound.Step.sent (o := s.outbound) c ⟨op, i, p⟩ h).steps
    | failed n =>
      have hsame : ((s.wrote c ⟨op, i, p⟩ (.failed n)).requestDisconnect).hasRoom =
        s.hasRoom := rfl
      rw [sendFrame_of_failed h hr, enqueue, hsame]
      split_ifs with hroom
      · exact (Outbound.Step.broke (o := s.outbound) c ⟨op, i, p⟩ n h
          (s.hasRoom_iff.mp hroom)).steps
      · exact (Outbound.Step.brokeRefused (o := s.outbound) c ⟨op, i, p⟩ n h
          fun hr => hroom (s.hasRoom_iff.mpr hr)).steps

lemma steps_tunnelSend (op : Op) (i : UInt32) (p : Bytes) (s : Agent) :
    s.outbound.Steps (s.tunnelSend op i p).outbound := by
  rcases h : s.demux.tunnel with _ | t
  · rw [tunnelSend_of_none h]
    exact .refl _
  · rw [tunnelSend_of_some h]
    exact steps_sendFrame op i p s

lemma outbound_closeStream (i : UInt32) (reason : Bytes) (s : Agent) :
    (s.closeStream i reason).outbound = s.outbound := by
  rcases h : s.demux.streams.lookup i with _ | r
  · simp only [closeStream, h]
  · simp only [closeStream, h]; rfl

lemma steps_onAsteriskEof (i : UInt32) (reason : Bytes) (s : Agent) :
    s.outbound.Steps (s.onAsteriskEof i reason).outbound := by
  rw [onAsteriskEof]
  split_ifs
  · exact steps_tunnelSend _ _ _ (s.forget i)
  · exact .refl _

lemma steps_onAsteriskData (i : UInt32) (bytes : Bytes) (s : Agent) :
    s.outbound.Steps (s.onAsteriskData i bytes).outbound := by
  rw [onAsteriskData]
  split_ifs
  · exact steps_tunnelSend _ _ _ s
  · exact .refl _

lemma steps_openStream (i : UInt32) (s : Agent) : s.outbound.Steps (s.openStream i).outbound := by
  rw [openStream]
  split_ifs
  · exact .refl _
  · exact .refl _
  · exact steps_tunnelSend _ _ _ (s.setScript { s.script with opens := s.script.opens.tail })

lemma steps_writeStream (i : UInt32) (p : Bytes) (s : Agent) :
    s.outbound.Steps (s.writeStream i p).outbound := by
  rcases h : s.demux.streams.lookup i with _ | r
  · simp only [writeStream, h]; exact .refl _
  · cases hw : s.script.streamWrites.headD .ok with
    | ok => simp only [writeStream, h, hw]; exact .refl _
    | broken => simp only [writeStream, h, hw, outbound_closeStream]; exact .refl _
    | brokenEof =>
      simp only [writeStream, h, hw, outbound_closeStream]
      exact steps_onAsteriskEof i _ (s.hand r p)

lemma steps_dispatchFrame (f : Frame) (s : Agent) :
    s.outbound.Steps (s.dispatchFrame f).1.outbound := by
  obtain ⟨op, i, p⟩ := f
  cases op with
  | OPEN => exact steps_openStream i s
  | DATA => exact steps_writeStream i p s
  | CLOSE => simp only [dispatchFrame, outbound_closeStream]; exact .refl _
  | PING => exact steps_tunnelSend _ _ _ s
  | SUBSCRIBER_REVOKED | SOCIETY_BOOTSTRAP => exact .refl _
  | PONG | ERR | PUSH_NOTIFY | CDR_PUSH | REGISTER_STATE | AGENT_HELLO | ASTERISK_STATUS =>
    exact .refl _

lemma steps_dispatch (f : Frame) (s : Agent) : s.outbound.Steps (s.dispatch f).1.outbound := by
  have := steps_dispatchFrame f s
  rw [dispatch]
  split_ifs <;> exact this

lemma steps_onTunnelBytes (bytes : Bytes) (s : Agent) :
    s.outbound.Steps (s.onTunnelBytes bytes).state.outbound := by
  obtain ⟨-, -, -, hsteps, -⟩ := receiver.receive_invariant
    (Q := fun _ t => s.outbound.Steps t.outbound) (fun _ _ _ h => h)
    (fun f _ t _ _ h => h.trans (steps_dispatch f t))
    (fun f _ t _ _ h => h.trans (steps_dispatch f t))
    (receiver.setBuffer (receiver.buffer s ++ bytes) s) rfl (.refl _)
  exact hsteps

lemma steps_onBytesReceived (bytes : Bytes) (s : Agent) :
    s.outbound.Steps (s.onBytesReceived bytes).outbound := by
  rw [onBytesReceived]
  have := steps_onTunnelBytes bytes s.clearPings
  split_ifs
  · exact this.trans (steps_requestDisconnect _)
  · exact this

lemma steps_onConnected (s : Agent) : s.outbound.Steps s.onConnected.outbound :=
  Transition.run_invariant (f := post) (P := fun t : Agent => s.outbound.Steps t.outbound)
    (s := s.setTunnel (some .connector)) (fun t _ h => h.trans (steps_sendFrame _ _ _ t))
    (.refl s.outbound) _

lemma steps_attemptConnect {c : ConnId} {s : Agent} (hc : c ∉ s.trace.dialed)
    (htransport : s.connector.transport = none) (hpending : s.connector.disconnectPending = false) :
    s.outbound.Steps (s.attemptConnect (some c)).outbound := by
  have hnone : s.usable = none := by simp [usable, htransport]
  obtain h | ⟨sent, f, rest, n, hq, h⟩ := attemptConnect_cases c s
  · have hstep := Outbound.Step.connected (o := s.outbound) c hnone hc
    rw [h]
    refine Outbound.Steps.trans ?_ (steps_onConnected _)
    simpa [outbound, usable, flushed, install, hpending] using hstep.steps
  · have hstep := Outbound.Step.brokeFlushing (o := s.outbound) c sent f rest n hnone hc hq
    rw [h]
    refine Outbound.Steps.trans ?_ (steps_onConnected _)
    simpa [outbound, usable, htransport, flushed, wrote, markDisconnected, onTunnelDisconnect,
      install] using hstep.steps

lemma steps_maybeHeartbeat (s : Agent) : s.outbound.Steps s.maybeHeartbeat.outbound := by
  simp only [maybeHeartbeat]
  split_ifs
  · exact .refl _
  · exact .refl _
  · exact steps_markDisconnected s
  · exact steps_sendFrame .PING 0 [] s
  · exact steps_sendFrame .PING 0 [] s

lemma steps_drainPending (s : Agent) : s.outbound.Steps s.drainPending.outbound := by
  cases hp : s.connector.disconnectPending
  · simp only [drainPending, hp, Bool.false_eq_true, if_false]; exact .refl _
  · rcases ht : s.connector.transport with _ | c
    · simp only [drainPending, hp, if_true, clearPending, ht, Option.isSome_none,
        Bool.false_eq_true, if_false]
      simpa [outbound, usable, ht] using Outbound.Steps.refl _
    · simp only [drainPending, hp, if_true, clearPending, ht, Option.isSome_some]
      exact Outbound.Step.dropped.steps

@[simp] lemma disconnectPending_drainPending (s : Agent) :
    s.drainPending.connector.disconnectPending = false := by
  simp only [drainPending]
  split_ifs with hp
  · rfl
  · rfl
  · simpa using hp

@[simp] lemma dialed_drainPending (s : Agent) : s.drainPending.trace.dialed = s.trace.dialed := by
  simp only [drainPending]
  split_ifs <;> rfl

lemma steps_tick {dial : Option ConnId} {s : Agent}
    (hdial : ∀ c, dial = some c → c ∉ s.trace.dialed) :
    s.outbound.Steps (s.tick dial).outbound := by
  refine (steps_drainPending s).trans ?_
  rw [tick]
  rcases ht : s.drainPending.connector.transport with _ | d
  · simp only [Option.isSome_none, Bool.false_eq_true, if_false]
    split_ifs
    · exact .refl _
    · rcases dial with _ | c
      · exact .refl _
      · exact steps_attemptConnect (by simpa using hdial c rfl) ht (by simp)
  · simp only [Option.isSome_some, if_true]
    exact steps_maybeHeartbeat _

lemma steps_handle (e : Event) (s : Agent) : s.outbound.Steps (s.handle e).outbound := by
  cases e with
  | tick dial =>
    apply steps_tick
    intro c hc
    simpa using (Option.filter_eq_some_iff.mp hc).2
  | bytesReceived bytes => exact steps_onBytesReceived bytes s
  | transportLost =>
    simp only [handle, onTransportLost]
    split_ifs
    · exact steps_requestDisconnect s
    · exact .refl _
  | asteriskData r bytes =>
    rcases h : s.trace.opened[r]? with _ | i
    · simp only [handle, h]; exact .refl _
    · simp only [handle, h]
      exact steps_onAsteriskData i bytes (s.recordData r bytes)
  | asteriskEof r reason =>
    rcases h : s.trace.opened[r]? with _ | i
    · simp only [handle, h]; exact .refl _
    · simp only [handle, h]
      exact steps_onAsteriskEof i reason s
  | sendFrame f => exact steps_sendFrame _ _ _ s
  | wsPing ok =>
    simp only [handle, sendWsPing]
    split_ifs
    · exact steps_requestDisconnect s
    · exact .refl _
  | advance seconds => exact .refl _

/-! ### Runs -/

lemma steps_run (s : Agent) (is : List Input) : s.outbound.Steps (s.run is).outbound :=
  Transition.run_invariant (f := step) (P := fun t : Agent => s.outbound.Steps t.outbound)
    (fun t i h => h.trans (steps_handle i.1 (t.setScript i.2))) (.refl _) is

lemma wf_init (cfg : CloudConnector.Config) (clock : ℤ) : (init cfg clock).outbound.Wf where
  accepted_append_queue := rfl
  length_queue_le := Or.inr (Nat.zero_le _)
  kept_of_unbounded := by simp [outbound, init]
  queue_eq_nil _ _ := rfl
  conn_mem_used := by simp [outbound, init, usable]
  write_mem_used := by simp [outbound, init]
  write_mem_passed := by simp [outbound, init]
  segment _ := ⟨[], [], rfl, fun _ => rfl⟩
  torn _ := ⟨[], [], rfl, by simp, Or.inl rfl⟩

/-- The queue of the connector is well formed in every run. -/
theorem wf_run (cfg : CloudConnector.Config) (clock : ℤ) (is : List Input) :
    ((init cfg clock).run is).outbound.Wf := (wf_init cfg clock).steps (steps_run _ is)

end Agent
