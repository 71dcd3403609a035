import OnPremPbx.Agent.Invariant
import OnPremPbx.Transition.Heartbeat

/-!
# The heartbeat of the connector

The connector is a `Heartbeat.Monitor` of the cloud. It gives a connection up only in `tick`, so
a tick can lose one connection and set up the next.
-/

open Framing SipFrame

namespace Agent

open Heartbeat

/-- The connector as a monitor of the cloud. -/
def monitor (s : Agent) : Monitor where
  up := s.connector.transport.isSome
  now := s.connector.clock
  last := s.connector.lastHeartbeatUnix
  sent := s.connector.pingsOutstanding
  losses := s.trace.losses
  heard := s.trace.recvTimes

/-- What an input is to the monitor. -/
def kind (i : Input) : Kind :=
  match i.1 with
  | .tick _          => .tick
  | .bytesReceived _ => .hear
  | _                => .other

/-- Sending, the streams and dispatching leave the heartbeat alone. -/
lemma closedInner_monitor (m : Monitor) : ClosedInner fun t => t.monitor = m where
  setScript _ _ h := h
  wrote _ _ _ _ h := h
  record _ _ _ h := h
  setOutbound _ _ h := h
  requestDisconnect _ h := h
  forget _ _ h := h
  release _ _ _ h := h
  enter _ _ _ h := h
  hand _ _ _ h := h
  recordData _ _ _ h := h
  hear _ _ _ h := h
  setBuffer _ _ h := h

@[simp] lemma monitor_onConnected (s : Agent) : s.onConnected.monitor = s.monitor :=
  (closedInner_monitor s.monitor).foldl_post _ (s := s.setTunnel (some .connector)) rfl

variable {interval missed : ℤ}

/-- A connect attempt: it fails, or the connection is set up, or it breaks at once. -/
lemma attemptConnect_monitor (dial : Option ConnId) (s : Agent) :
    (s.attemptConnect dial).monitor = s.monitor ∨
    ((s.attemptConnect dial).monitor.losses = s.monitor.losses ∧
      (s.attemptConnect dial).monitor.now = s.monitor.now ∧
      (s.attemptConnect dial).monitor.Armed) ∨
    (s.monitor.losses < (s.attemptConnect dial).monitor.losses ∧
      (s.attemptConnect dial).monitor.now = s.monitor.now ∧
      (s.attemptConnect dial).monitor.up = false) := by
  rcases dial with _ | c
  · exact Or.inl rfl
  · obtain h | ⟨sent, f, rest, n, -, h⟩ := attemptConnect_cases c s
    · rw [h, monitor_onConnected]
      exact Or.inr (Or.inl ⟨rfl, rfl, rfl, rfl, rfl⟩)
    · rw [h, monitor_onConnected]
      exact Or.inr (Or.inr ⟨Nat.lt_succ_self _, rfl, rfl⟩)

lemma step_maybeHeartbeat {s : Agent} (hup : s.connector.transport.isSome)
    (hinterval : 0 < s.connector.cfg.heartbeatIntervalSec) :
    Monitor.Step s.connector.cfg.heartbeatIntervalSec s.connector.cfg.heartbeatMaxMissed .tick
      s.monitor s.maybeHeartbeat.monitor := by
  have hsame : (s.sendFrame .PING 0 []).monitor = s.monitor :=
    (closedInner_monitor s.monitor).sendFrame .PING 0 [] s rfl
  simp only [maybeHeartbeat]
  split_ifs with hdisabled hearly hexpired hsent
  · omega
  · exact .rests hearly
  · exact .lost (Nat.lt_succ_self _) rfl (by simp [monitor, markDisconnected, onTunnelDisconnect])
  · have hcount : ((s.sendFrame .PING 0 []).countPing s.connector.clock).monitor =
        { (s.sendFrame .PING 0 []).monitor with
          sent := (s.sendFrame .PING 0 []).monitor.sent + 1
          last := s.connector.clock } := rfl
    rw [hcount, hsame]
    exact .beats (not_lt.mp hearly) (not_le.mp hexpired)
  · exact absurd ((congrArg Monitor.up hsame).trans hup) hsent

/-- A disconnect that was put off is a loss; otherwise nothing happens to the connection. -/
lemma drainPending_monitor (s : Agent) :
    s.drainPending.monitor = s.monitor ∨
    (s.monitor.losses < s.drainPending.monitor.losses ∧ s.drainPending.monitor.now = s.monitor.now ∧
      s.drainPending.monitor.up = false) := by
  simp only [drainPending]
  split_ifs
  · exact Or.inr ⟨Nat.lt_succ_self _, rfl, rfl⟩
  · exact Or.inl rfl
  · exact Or.inl rfl

@[simp] lemma cfg_drainPending (s : Agent) : s.drainPending.connector.cfg = s.connector.cfg := by
  simp only [drainPending]
  split_ifs <;> rfl

lemma step_tick (dial : Option ConnId) {s : Agent}
    (hinterval : 0 < s.connector.cfg.heartbeatIntervalSec) :
    Monitor.Step s.connector.cfg.heartbeatIntervalSec s.connector.cfg.heartbeatMaxMissed .tick
      s.monitor (s.tick dial).monitor := by
  have hdrain := drainPending_monitor s
  have hcfg := cfg_drainPending s
  rw [tick]
  generalize s.drainPending = t at hdrain hcfg
  rcases ht : t.connector.transport with _ | c
  · have hdown : t.monitor.up = false := by simp [monitor, ht]
    have hconnect := attemptConnect_monitor dial t
    simp only [Option.isSome_none, Bool.false_eq_true, if_false]
    obtain hsame | ⟨hlosses, hnow, -⟩ := hdrain
    · rw [← hsame]
      split_ifs
      · exact .down hdown hdown rfl le_rfl
      · obtain h | ⟨hl, hn, harmed⟩ | ⟨hl, hn, hu⟩ := hconnect
        · rw [h]
          exact .down hdown hdown rfl le_rfl
        · exact .connects hdown hl hn harmed
        · exact .lost hl hn (by simp [hu])
    · split_ifs
      · exact .lost hlosses hnow (by simp [hdown])
      · obtain h | ⟨hl, hn, harmed⟩ | ⟨hl, hn, hu⟩ := hconnect
        · rw [h]
          exact .lost hlosses hnow (by simp [hdown])
        · exact .lost (hl ▸ hlosses) (hn.trans hnow) fun _ => harmed
        · exact .lost (hlosses.trans hl) (hn.trans hnow) (by simp [hu])
  · have hup : t.monitor.up = true := by simp [monitor, ht]
    simp only [Option.isSome_some, if_true]
    obtain hsame | ⟨-, -, hdown⟩ := hdrain
    · rw [← hsame, ← hcfg]
      exact step_maybeHeartbeat hup (hcfg ▸ hinterval)
    · simp [hup] at hdown

lemma step_onBytesReceived (bytes : Bytes) (s : Agent) :
    Monitor.Step interval missed .hear s.monitor (s.onBytesReceived bytes).monitor := by
  have hfed : (s.clearPings.onTunnelBytes bytes).state.monitor = s.clearPings.monitor :=
    (closedInner_monitor _).onTunnelBytes bytes s.clearPings rfl
  have hsame : (s.onBytesReceived bytes).monitor = s.clearPings.monitor := by
    rw [onBytesReceived]
    split_ifs
    · exact hfed
    · exact hfed
  rw [hsame]
  exact .hears

lemma closed_cfg (cfg : CloudConnector.Config) : Closed fun s => s.connector.cfg = cfg where
  setScript _ _ h := h
  wrote _ _ _ _ h := h
  record _ _ _ h := h
  setOutbound _ _ h := h
  requestDisconnect _ h := h
  forget _ _ h := h
  release _ _ _ h := h
  enter _ _ _ h := h
  hand _ _ _ h := h
  recordData _ _ _ h := h
  hear _ _ _ h := h
  setBuffer _ _ h := h
  markDisconnected _ h := h
  clearPending _ h := h
  install _ _ _ h := h
  setTunnel _ _ h := h
  backOff _ h := h
  countPing _ _ h := h
  clearPings _ h := h
  advance _ _ h := h

/-- Every event of the agent end is a step of the monitor. -/
lemma step_monitor {cfg : CloudConnector.Config} (hinterval : 0 < cfg.heartbeatIntervalSec)
    (s : Agent) (i : Input) (hs : s.connector.cfg = cfg) :
    Monitor.Step cfg.heartbeatIntervalSec cfg.heartbeatMaxMissed (kind i) s.monitor
      (s.step i).monitor := by
  subst hs
  obtain ⟨e, script⟩ := i
  have hinner := closedInner_monitor s.monitor
  have hwaits : ∀ {t : Agent}, t.monitor = s.monitor →
      Monitor.Step s.connector.cfg.heartbeatIntervalSec s.connector.cfg.heartbeatMaxMissed .other
        s.monitor t.monitor := by
    intro t h
    rw [h]
    exact .waits s.monitor.now le_rfl
  have hs : (s.setScript script).monitor = s.monitor := rfl
  cases e with
  | tick dial => exact step_tick _ (s := s.setScript script) hinterval
  | bytesReceived bytes => exact step_onBytesReceived bytes (s.setScript script)
  | transportLost => exact hwaits (hinner.onTransportLost _ hs)
  | asteriskData r bytes => exact hwaits (hinner.handle_asterisk hs (Or.inl ⟨r, bytes, rfl⟩))
  | asteriskEof r reason => exact hwaits (hinner.handle_asterisk hs (Or.inr ⟨r, reason, rfl⟩))
  | sendFrame f => exact hwaits (hinner.sendFrame _ _ _ _ hs)
  | wsPing ok => exact hwaits (hinner.sendWsPing _ _ hs)
  | advance seconds => exact .waits (s.connector.clock + seconds) (by simp [monitor])

/-- A tick loses a connection that was not to be torn down anyway only when it expired. -/
lemma expired_of_tick {s : Agent} {dial : Option ConnId}
    (hpending : s.connector.disconnectPending = false) (hup : s.connector.transport.isSome)
    (hlost : s.trace.losses < (s.tick dial).trace.losses) :
    s.monitor.Expired s.connector.cfg.heartbeatIntervalSec s.connector.cfg.heartbeatMaxMissed := by
  have hdrain : s.drainPending = s := by simp [drainPending, hpending]
  have hping : (s.sendFrame .PING 0 []).trace.losses = s.trace.losses := losses_sendFrame _ _ _ s
  simp only [tick, hdrain, hup, if_true, maybeHeartbeat] at hlost
  split_ifs at hlost with hdisabled hearly hexpired hsent
  · exact absurd hlost (lt_irrefl _)
  · exact absurd hlost (lt_irrefl _)
  · exact ⟨hup, not_lt.mp hearly, hexpired⟩
  · exact absurd hlost hping.not_gt
  · exact absurd hlost hping.not_gt

/-- The monitor of a connector that has not dialed yet. -/
lemma sound_init (cfg : CloudConnector.Config) (clock : ℤ) :
    (init cfg clock).monitor.Sound interval missed := Monitor.sound_of_down rfl

end Agent
