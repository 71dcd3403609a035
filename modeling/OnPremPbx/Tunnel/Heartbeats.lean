import OnPremPbx.Agent.Heartbeat
import OnPremPbx.Cloud.Heartbeat

/-!
# The heartbeats of both ends

Both `maybe_heartbeat` drop a tunnel only after `heartbeat_max_missed` silent intervals, and a
silent tunnel does not outlive one interval more. The first PING goes out one full interval after
the connection was set up, so the interval is counted from there and not from the first tick.
-/

open SipFrame Heartbeat

/-- The instants of the ticks of a run. -/
def Cloud.tickTimes (s : Cloud) (is : List Cloud.Input) : List ℤ :=
  Heartbeat.tickTimes Cloud.monitor Cloud.kind Cloud.step s is

/-- The instants of the ticks of a run. -/
def Agent.tickTimes (s : Agent) (is : List Agent.Input) : List ℤ :=
  Heartbeat.tickTimes Agent.monitor Agent.kind Agent.step s is

lemma Cloud.sound_run {cfg : CloudTunnelEndpoint.Config} (hinterval : 0 < cfg.heartbeatIntervalSec)
    (hmissed : 0 ≤ cfg.heartbeatMaxMissed) (start : ℤ) (connectedField : Bytes → Option Bool)
    (is : List Cloud.Input) :
    ((Cloud.init cfg (some start) connectedField).run is).monitor.Sound cfg.heartbeatIntervalSec
      cfg.heartbeatMaxMissed :=
  run_sound (closed_configured cfg).step (step_monitor hinterval) hmissed ⟨rfl, rfl⟩
    (sound_init cfg _ _) is

lemma Agent.sound_run {cfg : CloudConnector.Config} (hinterval : 0 < cfg.heartbeatIntervalSec)
    (hmissed : 0 ≤ cfg.heartbeatMaxMissed) (start : ℤ) (is : List Agent.Input) :
    ((Agent.init cfg start).run is).monitor.Sound cfg.heartbeatIntervalSec
      cfg.heartbeatMaxMissed :=
  run_sound (closed_cfg cfg).step (step_monitor hinterval) hmissed rfl (sound_init cfg _) is
