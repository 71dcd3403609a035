import OnPremPbx.Cloud.Invariant
import OnPremPbx.Transition.Heartbeat

/-!
# The heartbeat of the endpoint

The endpoint is a `Heartbeat.Monitor` of its agent: every event of the cloud end is a step of the
monitor.
-/

open Framing SipFrame

namespace Cloud

open Heartbeat

/-- The endpoint as a monitor of the agent. -/
def monitor (s : Cloud) : Monitor where
  up := s.hasAgent
  now := s.endpoint.clock.getD 0
  last := s.endpoint.lastHeartbeatUnix
  sent := s.endpoint.pingsOutstanding
  losses := s.trace.losses
  heard := s.trace.recvTimes

/-- What an input is to the monitor. -/
def kind (i : Input) : Kind :=
  match i.1 with
  | .tick            => .tick
  | .bytesReceived _ => .hear
  | _                => .other

/-- The monitor has not changed, or the agent was lost. -/
def SameOrLost (s t : Cloud) : Prop :=
  t.monitor = s.monitor ∨
    s.trace.losses < t.trace.losses ∧ t.hasAgent = false ∧ t.endpoint.clock = s.endpoint.clock

lemma SameOrLost.losses_le {s t : Cloud} (h : SameOrLost s t) :
    s.trace.losses ≤ t.trace.losses := by
  obtain hsame | hlost := h
  · exact (congrArg Monitor.losses hsame).ge
  · exact hlost.1.le

/-- Sending, the browsers and dispatching leave the heartbeat alone, unless the agent is lost. -/
lemma closedInner_sameOrLost {s : Cloud} :
    ClosedInner fun t => SameOrLost s t ∧ t.endpoint.clock = s.endpoint.clock where
  setScript _ _ h := h
  wrote _ _ _ _ h := h
  record _ _ _ h := h
  setOutbound _ _ h := h
  markDisconnected _ h := ⟨Or.inr ⟨Nat.lt_succ_of_le h.1.losses_le, rfl, h.2⟩, h.2⟩
  deregister _ _ h := h
  deliver _ _ _ h := h
  release _ _ _ h := h
  recordData _ _ _ h := h
  cacheStatus _ _ h := h
  hear _ _ _ h := h
  setBuffer _ _ h := h

lemma SameOrLost.refl (s : Cloud) : SameOrLost s s ∧ s.endpoint.clock = s.endpoint.clock :=
  ⟨Or.inl rfl, rfl⟩

variable {interval missed : ℤ}

lemma SameOrLost.step {s t : Cloud} (h : SameOrLost s t) :
    Monitor.Step interval missed .other s.monitor t.monitor := by
  obtain hsame | ⟨hlosses, hdown, hclock⟩ := h
  · rw [hsame]
    exact .waits s.monitor.now le_rfl
  · exact .lost hlosses (by simp [monitor, hclock]) (by simp [monitor, hdown])

/-- Losing the agent is a step of any kind. -/
lemma step_markDisconnected (s : Cloud) (k : Kind) :
    Monitor.Step interval missed k s.monitor s.markDisconnected.monitor :=
  .lost (Nat.lt_succ_self _) rfl (by simp [monitor, hasAgent, markDisconnected,
    onTunnelDisconnect])

lemma step_onAgentConnected {s : Cloud} (c : ConnId) (hclock : s.endpoint.clock.isSome) :
    Monitor.Step interval missed .other s.monitor (s.onAgentConnected c).monitor := by
  obtain ⟨now, hnow⟩ := Option.isSome_iff_exists.mp hclock
  have hdrop : s.onAgentDisconnected.endpoint.clock = some now ∧
      (s.hasAgent = false ∧ s.onAgentDisconnected.trace.losses = s.trace.losses ∨
        s.onAgentDisconnected.trace.losses = s.trace.losses + 1) := by
    cases h : s.hasAgent
    · simp [onAgentDisconnected, h, hnow]
    · simp [onAgentDisconnected, h, hnow, markDisconnected, onTunnelDisconnect]
  have hcases := onAgentConnected_cases c s
  generalize s.onAgentDisconnected = t at hdrop hcases
  obtain ⟨hclock', hloss⟩ := hdrop
  obtain h | ⟨sent, f, rest, n, -, -, h⟩ := hcases
  · -- the whole queue went out, and the monitor is armed
    have harmed : (s.onAgentConnected c).monitor.Armed := by
      rw [h]
      simp [Monitor.Armed, monitor, flushed, install, setTunnel, hclock']
    have hnow' : (s.onAgentConnected c).monitor.now = s.monitor.now := by
      rw [h]
      simp [monitor, flushed, install, setTunnel, hclock', hnow]
    have hlosses : (s.onAgentConnected c).trace.losses = t.trace.losses := by rw [h]; rfl
    obtain ⟨hdown, hsame⟩ | hlost := hloss
    · exact .connects hdown (hlosses.trans hsame) hnow' harmed
    · exact .lost (by simp [monitor, hlosses, hlost]) hnow' fun _ => harmed
  · rw [h]
    refine .lost ?_ ?_ ?_
    · have hle : s.trace.losses ≤ t.trace.losses := by
        obtain ⟨-, hsame⟩ | hlost := hloss <;> omega
      exact Nat.lt_succ_of_le hle
    · simp [monitor, markDisconnected, onTunnelDisconnect, wrote, flushed, install, setTunnel,
        hclock', hnow]
    · simp [monitor, hasAgent, markDisconnected, onTunnelDisconnect]

lemma step_tick {s : Cloud} (hclock : s.endpoint.clock.isSome)
    (hinterval : 0 < s.endpoint.cfg.heartbeatIntervalSec) :
    Monitor.Step s.endpoint.cfg.heartbeatIntervalSec s.endpoint.cfg.heartbeatMaxMissed .tick
      s.monitor s.tick.monitor := by
  obtain ⟨now, hnow⟩ := Option.isSome_iff_exists.mp hclock
  have hnow' : s.monitor.now = now := by simp [monitor, hnow]
  cases hagent : s.hasAgent with
  | false =>
    simp only [tick, hagent, Bool.false_eq_true, if_false]
    exact .down hagent hagent rfl le_rfl
  | true =>
    simp only [tick, hagent, if_true, maybeHeartbeat, hnow]
    split_ifs with hdisabled hearly hexpired hsent
    · omega
    · exact .rests (by rw [hnow']; exact hearly)
    · exact step_markDisconnected s .tick
    · obtain hsame | ⟨-, hdown, -⟩ :=
        ((closedInner_sameOrLost (s := s)).sendFrame .PING 0 [] s (SameOrLost.refl s)).1
      · have hdue : s.endpoint.cfg.heartbeatIntervalSec ≤ s.monitor.now - s.monitor.last := by
          rw [hnow']
          exact not_lt.mp hearly
        have hbeat := Monitor.Step.beats hdue (not_le.mp hexpired)
        rw [← hsame] at hbeat
        have hcount : ((s.sendFrame .PING 0 []).countPing now).monitor =
            { (s.sendFrame .PING 0 []).monitor with
              sent := (s.sendFrame .PING 0 []).monitor.sent + 1
              last := (s.sendFrame .PING 0 []).monitor.now } := by
          rw [show (s.sendFrame .PING 0 []).monitor.now = now by rw [hsame, hnow']]
          rfl
        rw [hcount, ← hsame]
        exact hbeat
      · simp [hsent] at hdown
    · obtain hsame | ⟨hlosses, hdown, hclock'⟩ :=
        ((closedInner_sameOrLost (s := s)).sendFrame .PING 0 [] s (SameOrLost.refl s)).1
      · exact absurd ((congrArg Monitor.up hsame).trans hagent) hsent
      · exact .lost hlosses (by simp [monitor, hclock']) (by simp [monitor, hdown])

lemma step_onBytesReceived {s : Cloud} (bytes : Bytes) (hclock : s.endpoint.clock.isSome) :
    Monitor.Step interval missed .hear s.monitor (s.onBytesReceived bytes).monitor := by
  obtain ⟨now, hnow⟩ := Option.isSome_iff_exists.mp hclock
  have hclear : s.clearPings.monitor =
      { s.monitor with sent := 0, heard := s.monitor.heard ++ [s.monitor.now] } := by
    simp [monitor, clearPings, hasAgent, hnow]
  obtain ⟨hfed, hclock'⟩ := (closedInner_sameOrLost (s := s.clearPings)).onTunnelBytes bytes
    s.clearPings (SameOrLost.refl s.clearPings)
  rw [onBytesReceived]
  generalize s.clearPings.onTunnelBytes bytes = out at hfed hclock'
  have hnow' : out.state.monitor.now = s.monitor.now := congrArg (·.getD 0) hclock'
  split_ifs
  · exact .lost (Nat.lt_succ_of_le hfed.losses_le) hnow' (by simp [monitor, hasAgent,
      markDisconnected, onTunnelDisconnect])
  · obtain hsame | ⟨hlosses, hdown, -⟩ := hfed
    · rw [hsame, hclear]
      exact .hears
    · exact .lost hlosses hnow' (by simp [monitor, hdown])

/-- The endpoint has this configuration and a clock. -/
def Configured (cfg : CloudTunnelEndpoint.Config) (s : Cloud) : Prop :=
  s.endpoint.cfg = cfg ∧ s.endpoint.clock.isSome

lemma closed_configured (cfg : CloudTunnelEndpoint.Config) : Closed (Configured cfg) where
  setScript _ _ h := h
  wrote _ _ _ _ h := h
  record _ _ _ h := h
  setOutbound _ _ h := h
  markDisconnected _ h := h
  deregister _ _ h := h
  deliver _ _ _ h := h
  release _ _ _ h := h
  recordData _ _ _ h := h
  cacheStatus _ _ h := h
  hear _ _ _ h := h
  setBuffer _ _ h := h
  register _ h := h
  install _ _ _ h := h
  countPing _ _ h := h
  clearPings _ h := h
  advance _ s h := ⟨h.1, by simpa [Cloud.advance] using h.2⟩

/-- Every event of the cloud end is a step of the monitor. -/
lemma step_monitor {cfg : CloudTunnelEndpoint.Config} (hinterval : 0 < cfg.heartbeatIntervalSec)
    (s : Cloud) (i : Input) (hs : Configured cfg s) :
    Monitor.Step cfg.heartbeatIntervalSec cfg.heartbeatMaxMissed (kind i) s.monitor
      (s.step i).monitor := by
  obtain ⟨rfl, hclock⟩ := hs
  obtain ⟨e, script⟩ := i
  change Monitor.Step _ _ _ (s.setScript script).monitor ((s.setScript script).handle e).monitor
  change 0 < (s.setScript script).endpoint.cfg.heartbeatIntervalSec at hinterval
  change (s.setScript script).endpoint.clock.isSome at hclock
  change Monitor.Step (s.setScript script).endpoint.cfg.heartbeatIntervalSec
    (s.setScript script).endpoint.cfg.heartbeatMaxMissed (kind (e, script)) _ _
  generalize s.setScript script = s at hclock hinterval
  have hinner := closedInner_sameOrLost (s := s)
  cases e with
  | browserUpgrade openMeta =>
    exact (hinner.tunnelSend _ _ _ s.register (SameOrLost.refl s)).1.step
  | browserData b bytes =>
    exact (hinner.handle_browser (SameOrLost.refl s) (Or.inl ⟨b, bytes, rfl⟩)).1.step
  | browserClose b reason =>
    exact (hinner.handle_browser (SameOrLost.refl s) (Or.inr ⟨b, reason, rfl⟩)).1.step
  | revoke payload => exact (hinner.tunnelSend _ _ _ s (SameOrLost.refl s)).1.step
  | sendFrame f => exact (hinner.sendFrame _ _ _ s (SameOrLost.refl s)).1.step
  | tick => exact step_tick hclock hinterval
  | agentConnected c =>
    simp only [handle]
    split_ifs
    · exact SameOrLost.step (SameOrLost.refl s).1
    · exact step_onAgentConnected c hclock
  | bytesReceived bytes => exact step_onBytesReceived bytes hclock
  | agentDisconnected => exact (hinner.onAgentDisconnected s (SameOrLost.refl s)).1.step
  | advance seconds =>
    obtain ⟨now, hnow⟩ := Option.isSome_iff_exists.mp hclock
    have hadvance : (s.advance seconds).monitor = { s.monitor with now := now + seconds } := by
      simp [monitor, advance, hnow, hasAgent]
    simp only [handle, hadvance]
    exact .waits _ (by simp [monitor, hnow])

/-- A tick whose send does not fail loses the agent only when the connection expired. -/
lemma expired_of_tick {s : Cloud} (hsends : ∀ r ∈ s.script.sends, r = .ok)
    (hlost : s.trace.losses < s.tick.trace.losses) :
    s.monitor.Expired s.endpoint.cfg.heartbeatIntervalSec s.endpoint.cfg.heartbeatMaxMissed := by
  have hhead : s.script.sends.headD .ok = .ok := by
    cases h : s.script.sends with
    | nil => rfl
    | cons r rs => exact hsends r (by simp [h])
  have hagent : s.hasAgent = true := by
    by_contra hnone
    simp [tick, hnone] at hlost
  obtain ⟨c, hc⟩ := Option.isSome_iff_exists.mp hagent
  rcases hclock : s.endpoint.clock with _ | now
  · simp [tick, hagent, maybeHeartbeat, hclock] at hlost
  · have hping : (s.sendFrame .PING 0 []).trace.losses = s.trace.losses := by
      rw [sendFrame_of_ok hc hhead]
      rfl
    simp only [tick, hagent, if_true, maybeHeartbeat, hclock] at hlost
    split_ifs at hlost with hdisabled hearly hexpired hsent
    · exact absurd hlost (lt_irrefl _)
    · exact absurd hlost (lt_irrefl _)
    · exact ⟨hagent, by simpa [monitor, hclock] using hearly, hexpired⟩
    · exact absurd hlost hping.not_gt
    · exact absurd hlost hping.not_gt

/-- The monitor of an endpoint without an agent. -/
lemma sound_init (cfg : CloudTunnelEndpoint.Config) (clock : Option ℤ)
    (connectedField : Bytes → Option Bool) :
    (init cfg clock connectedField).monitor.Sound interval missed := Monitor.sound_of_down rfl

end Cloud
