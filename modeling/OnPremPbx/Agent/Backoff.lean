import OnPremPbx.Agent.Heartbeat
import OnPremPbx.Transition.Backoff

/-!
# The backoff of the connector

How long `CloudConnector` waits before it dials again. A streak is the times of the failed attempts
since the connector last had a connection, or last lost one.
-/

open Framing SipFrame

namespace Agent

/-! ### Attempts -/

/-- A tick would dial. -/
def attempts (s : Agent) : Bool :=
  s.drainPending.connector.transport.isNone &&
    s.drainPending.connector.nextReconnectAt ≤ s.drainPending.connector.clock

/-- The input is a tick that dials in vain. -/
def failed (s : Agent) (i : Input) : Bool :=
  match i.1 with
  | .tick dial => s.attempts && (dial.filter fun c => c ∉ s.trace.dialed).isNone
  | _          => false

/-- The input sets up a connection, or loses one. -/
def resets (s : Agent) (i : Input) : Bool :=
  (s.step i).trace.dialed ≠ s.trace.dialed ∨ (s.step i).trace.losses ≠ s.trace.losses

lemma failed_tick (s : Agent) (dial : Option ConnId) (script : Script) :
    s.failed (.tick dial, script) =
      (s.attempts && (dial.filter fun c => c ∉ s.trace.dialed).isNone) := rfl

/-- The state, and the streak that it ends. -/
def streakStep (p : Agent × List ℤ) (i : Input) : Agent × List ℤ :=
  (p.1.step i,
    (if p.1.resets i then [] else p.2) ++ if p.1.failed i then [p.1.connector.clock] else [])

/-- The streak at the end of a run. -/
def streak (s : Agent) (is : List Input) : List ℤ := (is.foldl streakStep (s, [])).2

/-- The ints that a failed attempt computes from the state: the number of attempts, and the wait
before it is cut off. -/
def computed (s : Agent) : List ℤ :=
  [s.drainPending.connector.reconnectAttempts + 1,
    if s.drainPending.connector.currentBackoffSec = 0 then s.connector.cfg.initialBackoffSec
    else s.drainPending.connector.currentBackoffSec * 2]

/-- The largest `int`. -/
def intMax : ℤ := 2 ^ 31 - 1

/-- `dial` makes a difference only to a tick that dials. -/
lemma tick_of_attempts {s : Agent} (h : s.attempts = true) (dial : Option ConnId) :
    s.tick dial = s.drainPending.attemptConnect dial := by
  rw [attempts, Bool.and_eq_true, Option.isNone_iff_eq_none, decide_eq_true_eq] at h
  simp only [tick]
  rw [h.1, Option.isSome_none, if_neg Bool.false_ne_true, if_neg (not_lt.mpr h.2)]

lemma tick_of_not_attempts {s : Agent} (h : s.attempts = false) (dial : Option ConnId) :
    s.tick dial =
      if s.drainPending.connector.transport.isSome then s.drainPending.maybeHeartbeat
      else s.drainPending := by
  simp only [tick]
  split_ifs with hup hearly
  · rfl
  · rfl
  · have hdown : s.drainPending.connector.transport.isNone = true := by
      rw [Option.isNone_iff_eq_none, ← Option.not_isSome_iff_eq_none]
      exact hup
    rw [attempts, hdown, Bool.true_and, decide_eq_false_iff_not] at h
    exact absurd (not_lt.mp hearly) h

/-! ### What an input does to the timer -/

/-- What the waits depend on, and what tells whether a connection was set up or lost. -/
structure Timer where
  cfg : CloudConnector.Config
  transport : Option ConnId
  wait : ℤ
  due : ℤ
  count : ℤ
  dialed : List ConnId
  losses : ℕ

def timer (s : Agent) : Timer where
  cfg := s.connector.cfg
  transport := s.connector.transport
  wait := s.connector.currentBackoffSec
  due := s.connector.nextReconnectAt
  count := s.connector.reconnectAttempts
  dialed := s.trace.dialed
  losses := s.trace.losses

/-- Sending, the streams and dispatching leave the timer alone. -/
lemma closedInner_timer (m : Timer) : ClosedInner fun t => t.timer = m where
  setScript _ _ h := h
  wrote _ _ _ _ h := h
  record _ _ _ h := h
  setOutbound _ _ h := h
  requestDisconnect _ h := h
  forget _ _ h := h
  release _ _ _ h := h
  enter _ _ _ h := h
  hand _ _ _ h := h
  recordData _ _ _ h := h
  hear _ _ _ h := h
  setBuffer _ _ h := h

@[simp] lemma timer_onConnected (s : Agent) : s.onConnected.timer = s.timer :=
  (closedInner_timer s.timer).foldl_post _ (s := s.setTunnel (some .connector)) rfl

/-- The timer, and the streak behind it. -/
structure Follows (cfg : CloudConnector.Config) (m : Timer) (ts : List ℤ) : Prop where
  cfg_eq : m.cfg = cfg
  wait : m.wait = Backoff.wait cfg.initialBackoffSec cfg.maxBackoffSec ts.length
  due : m.due = (ts.getLast?.map (· + m.wait)).getD 0
  count : m.count = ts.length
  down : ts ≠ [] → m.transport = none

/-- The timer of a connector that has just got a connection, or lost one. -/
structure Timer.Reset (m m' : Timer) : Prop where
  cfg : m'.cfg = m.cfg
  wait : m'.wait = 0
  due : m'.due = 0
  count : m'.count = 0
  changed : m'.dialed ≠ m.dialed ∨ m'.losses ≠ m.losses

variable {cfg : CloudConnector.Config} {s : Agent} {ts : List ℤ} {m m' : Timer}

lemma Timer.Reset.follows (h : m.Reset m') (hcfg : m.cfg = cfg) : Follows cfg m' [] :=
  ⟨h.cfg.trans hcfg, h.wait, h.due, h.count, fun hne => absurd rfl hne⟩

/-- Only a connection that is there is lost, and then there is no streak. -/
lemma Follows.markDisconnected (h : Follows cfg s.timer ts)
    (hup : s.connector.transport.isSome = true) :
    s.timer.Reset s.markDisconnected.timer := by
  have hnil : ts = [] := by
    by_contra hne
    have hdown : s.connector.transport = none := h.down hne
    rw [hdown] at hup
    cases hup
  refine ⟨rfl, rfl, rfl, ?_, .inr (Nat.succ_ne_self _)⟩
  have hcount := h.count
  rw [hnil] at hcount
  exact hcount

/-- A connection that is set up is a new one, even if it is lost at once. -/
lemma reset_attemptConnect (c : ConnId) (s : Agent) :
    s.timer.Reset (s.attemptConnect (some c)).timer ∧
      (s.attemptConnect (some c)).trace.dialed ≠ s.trace.dialed := by
  have hdialed : (s.attemptConnect (some c)).timer.dialed = s.trace.dialed ++ [c] := by
    obtain h | ⟨sent, f, rest, n, -, h⟩ := attemptConnect_cases c s <;>
      rw [h, timer_onConnected] <;> rfl
  have hne : (s.attemptConnect (some c)).timer.dialed ≠ s.trace.dialed := by
    rw [hdialed]
    simp
  refine ⟨?_, hne⟩
  obtain h | ⟨sent, f, rest, n, -, h⟩ := attemptConnect_cases c s <;>
    rw [h, timer_onConnected] at hne ⊢ <;> exact ⟨rfl, rfl, rfl, rfl, .inl hne⟩

/-- A failed attempt is one more of the streak. -/
lemma Follows.backOff (h : Follows cfg s.timer ts) (hdown : s.connector.transport = none) :
    Follows cfg s.backOff.timer (ts ++ [s.connector.clock]) := by
  have hwait : s.backOff.timer.wait =
      Backoff.next cfg.initialBackoffSec cfg.maxBackoffSec s.timer.wait := by
    rw [← h.cfg_eq]
    rfl
  refine ⟨h.cfg_eq, ?_, ?_, ?_, fun _ => hdown⟩
  · rw [hwait, h.wait, List.length_append, List.length_singleton, Backoff.wait_succ]
  · rw [List.getLast?_concat]
    rfl
  · rw [List.length_append, List.length_singleton, Nat.cast_add, ← h.count]
    rfl

lemma Follows.drainPending (h : Follows cfg s.timer ts) :
    s.drainPending.connector.clock = s.connector.clock ∧
      (s.drainPending.timer = s.timer ∨
        s.timer.Reset s.drainPending.timer ∧ s.drainPending.connector.transport = none ∧
          s.drainPending.trace.dialed = s.trace.dialed ∧
          s.trace.losses < s.drainPending.trace.losses) := by
  simp only [Agent.drainPending]
  split_ifs with hpending hup
  · have hreset := Follows.markDisconnected (s := s.clearPending) h hup
    exact ⟨rfl, .inr ⟨hreset, rfl, rfl, Nat.lt_succ_self _⟩⟩
  · exact ⟨rfl, .inl rfl⟩
  · exact ⟨rfl, .inl rfl⟩

lemma Follows.maybeHeartbeat (h : Follows cfg s.timer ts)
    (hup : s.connector.transport.isSome = true) :
    s.maybeHeartbeat.timer = s.timer ∨ s.timer.Reset s.maybeHeartbeat.timer := by
  have hsame : (s.sendFrame .PING 0 []).timer = s.timer :=
    (closedInner_timer s.timer).sendFrame .PING 0 [] s rfl
  simp only [Agent.maybeHeartbeat]
  split_ifs
  · exact .inl rfl
  · exact .inl rfl
  · exact .inr (h.markDisconnected hup)
  · exact .inl hsame
  · exact .inl hsame

/-! ### Runs -/

lemma attempts_setScript (script : Script) (s : Agent) :
    (s.setScript script).attempts = s.attempts := by
  have hconnector : (s.setScript script).drainPending.connector = s.drainPending.connector := by
    cases hpending : s.connector.disconnectPending with
    | false =>
      have hpending' : (s.setScript script).connector.disconnectPending = false := hpending
      rw [Agent.drainPending, Agent.drainPending, hpending, hpending']
      rfl
    | true =>
      have hpending' : (s.setScript script).connector.disconnectPending = true := hpending
      rw [Agent.drainPending, Agent.drainPending, hpending, hpending', if_pos rfl, if_pos rfl]
      change (if s.connector.transport.isSome = true then _ else _ : Agent).connector =
        (if s.connector.transport.isSome = true then _ else _ : Agent).connector
      split_ifs <;> rfl
  rw [attempts, attempts, hconnector]

/-- The streak after an input. -/
def streakAfter (s : Agent) (ts : List ℤ) (i : Input) : List ℤ :=
  (if s.resets i then [] else ts) ++ if s.failed i then [s.connector.clock] else []

variable {i : Input}

/-- The input does nothing to the timer. -/
lemma Follows.same (h : Follows cfg s.timer ts) (hsame : (s.step i).timer = s.timer)
    (hfailed : s.failed i = false) : Follows cfg (s.step i).timer (s.streakAfter ts i) := by
  have hresets : s.resets i = false := by
    have hdialed := congrArg Timer.dialed hsame
    have hlosses := congrArg Timer.losses hsame
    simp only [timer] at hdialed hlosses
    simp [resets, hdialed, hlosses]
  rw [streakAfter, hresets, hfailed, hsame]
  simpa using h

/-- The input sets up a connection or loses one. -/
lemma Follows.reset (h : Follows cfg s.timer ts) (hreset : s.timer.Reset (s.step i).timer)
    (hfailed : s.failed i = false) : Follows cfg (s.step i).timer (s.streakAfter ts i) := by
  have hresets : s.resets i = true := decide_eq_true hreset.changed
  rw [streakAfter, hresets, hfailed]
  exact hreset.follows h.cfg_eq

lemma Follows.tick (h : Follows cfg s.timer ts) (dial : Option ConnId) (script : Script) :
    Follows cfg (s.step (.tick dial, script)).timer (s.streakAfter ts (.tick dial, script)) := by
  have ht : Follows cfg (s.setScript script).timer ts := h
  obtain ⟨hclock, hdrain⟩ := ht.drainPending
  have hstep : s.step (.tick dial, script) =
      (s.setScript script).tick (dial.filter fun c => c ∉ s.trace.dialed) := rfl
  cases hattempts : (s.setScript script).attempts with
  | true =>
    have hdown : (s.setScript script).drainPending.connector.transport = none := by
      rw [attempts, Bool.and_eq_true, Option.isNone_iff_eq_none] at hattempts
      exact hattempts.1
    rw [tick_of_attempts hattempts] at hstep
    rw [attempts_setScript] at hattempts
    cases hdial : dial.filter fun c => c ∉ s.trace.dialed with
    | none =>
      have hfailed : s.failed (.tick dial, script) = true := by
        rw [failed_tick, hattempts, hdial]
        rfl
      rw [hdial] at hstep
      obtain hsame | ⟨hreset, -, -, hlosses⟩ := hdrain
      · have hresets : s.resets (.tick dial, script) = false := by
          have hdialed : (s.setScript script).drainPending.trace.dialed = s.trace.dialed :=
            congrArg Timer.dialed hsame
          have hlosses : (s.setScript script).drainPending.trace.losses = s.trace.losses :=
            congrArg Timer.losses hsame
          refine decide_eq_false ?_
          rw [hstep]
          rintro (hne | hne)
          · exact hne hdialed
          · exact hne hlosses
        rw [streakAfter, hresets, hfailed, hstep]
        have hfollows := Follows.backOff (hsame ▸ ht) hdown
        rwa [hclock] at hfollows
      · have hresets : s.resets (.tick dial, script) = true := by
          refine decide_eq_true (.inr ?_)
          rw [hstep]
          exact hlosses.ne'
        rw [streakAfter, hresets, hfailed, hstep]
        have hfollows := Follows.backOff (hreset.follows ht.cfg_eq) hdown
        rwa [hclock] at hfollows
    | some c =>
      have hfailed : s.failed (.tick dial, script) = false := by
        rw [failed_tick, hattempts, hdial]
        rfl
      rw [hdial] at hstep
      obtain ⟨hconnect, hdialed⟩ :=
        reset_attemptConnect c (s.setScript script).drainPending
      refine h.reset ?_ hfailed
      rw [hstep]
      obtain hsame | ⟨hreset, -, hsame, -⟩ := hdrain
      · rw [hsame] at hconnect
        exact hconnect
      · rw [hsame] at hdialed
        exact ⟨hconnect.cfg.trans hreset.cfg, hconnect.wait, hconnect.due, hconnect.count,
          .inl hdialed⟩
  | false =>
    rw [tick_of_not_attempts hattempts] at hstep
    rw [attempts_setScript] at hattempts
    have hfailed : s.failed (.tick dial, script) = false := by
      rw [failed_tick, hattempts, Bool.false_and]
    obtain hsame | ⟨hreset, hdown, -, -⟩ := hdrain
    · by_cases hup : (s.setScript script).drainPending.connector.transport.isSome = true
      · rw [if_pos hup] at hstep
        obtain hbeat | hbeat := Follows.maybeHeartbeat (hsame ▸ ht) hup
        · exact h.same (by rw [hstep]; exact hbeat.trans hsame) hfailed
        · rw [hsame] at hbeat
          exact h.reset (by rw [hstep]; exact hbeat) hfailed
      · rw [if_neg hup] at hstep
        exact h.same (by rw [hstep]; exact hsame) hfailed
    · rw [hdown, Option.isSome_none, if_neg Bool.false_ne_true] at hstep
      exact h.reset (by rw [hstep]; exact hreset) hfailed

/-- What an input does to the timer and the streak. -/
lemma Follows.step (h : Follows cfg s.timer ts) (i : Input) :
    Follows cfg (s.step i).timer (s.streakAfter ts i) := by
  obtain ⟨e, script⟩ := i
  have hinner := closedInner_timer s.timer
  have hs : (s.setScript script).timer = s.timer := rfl
  cases e with
  | tick dial => exact h.tick dial script
  | bytesReceived bytes =>
    refine h.same ?_ rfl
    have hfed := hinner.onTunnelBytes bytes _
      (show (s.setScript script).clearPings.timer = _ from rfl)
    change ((s.setScript script).onBytesReceived bytes).timer = s.timer
    rw [onBytesReceived]
    split_ifs
    · exact hfed
    · exact hfed
  | transportLost => exact h.same (hinner.onTransportLost _ hs) rfl
  | asteriskData r bytes => exact h.same (hinner.handle_asterisk hs (.inl ⟨r, bytes, rfl⟩)) rfl
  | asteriskEof r reason => exact h.same (hinner.handle_asterisk hs (.inr ⟨r, reason, rfl⟩)) rfl
  | sendFrame f => exact h.same (hinner.sendFrame _ _ _ _ hs) rfl
  | wsPing ok => exact h.same (hinner.sendWsPing _ _ hs) rfl
  | advance seconds => exact h.same rfl rfl

lemma follows_init (cfg : CloudConnector.Config) (clock : ℤ) :
    Follows cfg (init cfg clock).timer [] :=
  ⟨rfl, rfl, rfl, rfl, fun hne => absurd rfl hne⟩

lemma follows_run (h : Follows cfg s.timer ts) (is : List Input) :
    (is.foldl streakStep (s, ts)).1 = s.run is ∧
      Follows cfg (s.run is).timer (is.foldl streakStep (s, ts)).2 := by
  induction is generalizing s ts with
  | nil => exact ⟨rfl, h⟩
  | cons i is ih => exact ih (h.step i)

lemma connector_drainPending (hdown : s.connector.transport = none) :
    s.drainPending.connector.transport = none ∧
      s.drainPending.connector.nextReconnectAt = s.connector.nextReconnectAt ∧
      s.drainPending.connector.clock = s.connector.clock := by
  simp only [Agent.drainPending]
  split_ifs with hpending hup
  · rw [show s.clearPending.connector.transport = none from hdown] at hup
    cases hup
  · exact ⟨hdown, rfl, rfl⟩
  · exact ⟨hdown, rfl, rfl⟩

/-- The next attempt is made when the wait is over. -/
lemma Follows.attempts_iff {earlier : List ℤ} {t : ℤ} (h : Follows cfg s.timer (earlier ++ [t])) :
    s.attempts = true ↔ t + s.connector.currentBackoffSec ≤ s.connector.clock := by
  have hdown : s.connector.transport = none := h.down (by simp)
  have hdue : s.connector.nextReconnectAt = t + s.connector.currentBackoffSec := by
    have hdue := h.due
    rw [List.getLast?_concat] at hdue
    exact hdue
  obtain ⟨hnone, hnext, hclock⟩ := connector_drainPending hdown
  rw [attempts, hnone, hnext, hclock, hdue]
  simp

/-- A failed attempt computes ints. -/
lemma Follows.computed_le (h : Follows cfg s.timer ts) (hfirst : 1 ≤ cfg.initialBackoffSec)
    (hmost : cfg.initialBackoffSec ≤ cfg.maxBackoffSec) (hmax : cfg.maxBackoffSec < 2 ^ 30)
    (hlen : (ts.length : ℤ) < intMax) : ∀ v ∈ s.computed, v ≤ intMax := by
  have hwait := (Backoff.wait_le hfirst hmost ts.length).2
  rw [← h.wait] at hwait
  have hcount := h.count
  have hcfg : s.connector.cfg.initialBackoffSec = cfg.initialBackoffSec := by
    rw [← h.cfg_eq]
    rfl
  obtain ⟨hwait', hcount'⟩ : s.drainPending.timer.wait ≤ cfg.maxBackoffSec ∧
      s.drainPending.timer.count < intMax := by
    obtain ⟨-, hsame | ⟨hreset, -⟩⟩ := h.drainPending
    · rw [hsame, hcount]
      exact ⟨hwait, hlen⟩
    · rw [hreset.wait, hreset.count]
      exact ⟨by omega, by decide⟩
  simp only [timer] at hwait' hcount'
  simp only [computed, List.forall_mem_cons, intMax, hcfg] at hcount' ⊢
  refine ⟨by omega, ?_, fun v hv => nomatch hv⟩
  split_ifs <;> omega

end Agent
