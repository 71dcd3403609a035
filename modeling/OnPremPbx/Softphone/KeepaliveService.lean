import OnPremPbx.Transition.Run

/-!
# The sessions of the web softphone

`KeepaliveService` (`keepalive.service.ts`) is told by `AuthService` (`auth.service.ts`) when a
session begins and when it ends, and ends it itself when pings have failed or nobody was active. A
ping is not cancelled by the end of a session, and all results count together. The sessions are
numbered in the order of the logins; the fields from `sessions` on are read by no function.
-/

open Transition

structure KeepaliveService where
  /-- the session that is on -/
  subscriber : Option ℕ := none
  timer : Option ℕ := none
  /-- the intervals that run -/
  intervals : List ℕ := []
  intervalsSet : ℕ := 0
  /-- the listeners of user activity are there -/
  listening : Bool := false
  lastActivity : ℤ
  failures : ℕ := 0
  /-- the pings without a result, with the sessions in which they were sent -/
  pings : List (ℕ × Option ℕ) := []
  pingsSent : ℕ := 0
  sessions : ℕ := 0
  /-- when the latest login or activity was -/
  latest : ℤ
  /-- `lastActivity` is of the session that is on -/
  stamped : Bool := false
  /-- the sessions of the pings whose failures are counted -/
  counted : List (Option ℕ) := []
  /-- the results of the pings, with the sessions in which they were sent -/
  results : List (Option ℕ × Bool) := []

namespace KeepaliveService

def PING_FAIL_THRESHOLD : ℕ := 3

/-- In milliseconds. -/
def IDLE_TIMEOUT_MS : ℤ := 30 * 60 * 1000

def start (now : ℤ) (s : KeepaliveService) : KeepaliveService :=
  if s.timer.isSome then s
  else { s with
    lastActivity := now
    failures := 0
    listening := true
    timer := some s.intervalsSet
    intervals := s.intervals ++ [s.intervalsSet]
    intervalsSet := s.intervalsSet + 1
    stamped := true
    counted := [] }

def stop (s : KeepaliveService) : KeepaliveService :=
  match s.timer with
  | none   => { s with listening := false }
  | some h => { s with intervals := s.intervals.filter (· ≠ h), timer := none, listening := false }

/-- `setSession`, which tells of the subscriber. -/
def setSession (now : ℤ) (s : KeepaliveService) : KeepaliveService :=
  start now { s with
    subscriber := some s.sessions, sessions := s.sessions + 1, latest := now, stamped := false }

def clearSession (s : KeepaliveService) : KeepaliveService := stop { s with subscriber := none }

/-- The user is active. -/
def onActivity (now : ℤ) (s : KeepaliveService) : KeepaliveService :=
  if s.listening then { s with latest := now, lastActivity := now, stamped := true }
  else { s with latest := now }

/-- The interval comes round. -/
def tick (now : ℤ) (s : KeepaliveService) : KeepaliveService :=
  if IDLE_TIMEOUT_MS < now - s.lastActivity then s.clearSession
  else { s with pings := s.pings ++ [(s.pingsSent, s.subscriber)], pingsSent := s.pingsSent + 1 }

/-- A ping that has a result does not get another one. -/
def note (k : ℕ) (session : Option ℕ) (ok : Bool) (s : KeepaliveService) : KeepaliveService :=
  { s with pings := s.pings.filter (·.1 ≠ k), results := s.results ++ [(session, ok)] }

def pingSucceeded (k : ℕ) (s : KeepaliveService) : KeepaliveService :=
  match s.pings.lookup k with
  | none         => s
  | some session => note k session true { s with failures := 0, counted := [] }

def pingFailed (k : ℕ) (s : KeepaliveService) : KeepaliveService :=
  match s.pings.lookup k with
  | none         => s
  | some session =>
    let s := note k session false { s with
      failures := s.failures + 1, counted := s.counted ++ [session] }
    if PING_FAIL_THRESHOLD ≤ s.failures then s.clearSession else s

/-! ### Runs -/

inductive Event where
  | login (now : ℤ)
  | logout
  | activity (now : ℤ)
  | tick (h : ℕ) (now : ℤ)
  | pingSucceeded (k : ℕ)
  | pingFailed (k : ℕ)
  deriving DecidableEq, Repr

/-- An interval that does not run does not come round. -/
def step (s : KeepaliveService) : Event → KeepaliveService
  | .login now       => s.setSession now
  | .logout          => s.clearSession
  | .activity now    => s.onActivity now
  | .tick h now      => if h ∈ s.intervals then s.tick now else s
  | .pingSucceeded k => s.pingSucceeded k
  | .pingFailed k    => s.pingFailed k

/-- The service when it is made. -/
def init (now : ℤ) : KeepaliveService := { lastActivity := now, latest := now }

/-- The results of the pings that were sent in a session. -/
def resultsOf (n : ℕ) (results : List (Option ℕ × Bool)) : List Bool :=
  (results.filter (·.1 = some n)).map (·.2)

/-- A session is ended as unreachable when three of its pings have failed in a row, and as idle when
the limit has passed since its login and since the last activity. -/
def OwnReason (s : KeepaliveService) : Event → Prop
  | .pingFailed k => ∀ n, s.subscriber = some n → (s.step (.pingFailed k)).subscriber = none →
    [false, false, false] <:+: resultsOf n (s.step (.pingFailed k)).results
  | .tick h now   => ∀ n, s.subscriber = some n → (s.step (.tick h now)).subscriber = none →
    IDLE_TIMEOUT_MS < now - s.latest
  | _             => True

/-- When a session is ended, all failures that are counted are of its pings, or the last activity is
of that session. -/
def CountsOwn (s : KeepaliveService) : Event → Prop
  | .pingFailed k => ∀ n, s.subscriber = some n → (s.step (.pingFailed k)).subscriber = none →
    ∀ session ∈ (s.step (.pingFailed k)).counted, session = some n
  | .tick h now   => ∀ n, s.subscriber = some n → (s.step (.tick h now)).subscriber = none →
    s.stamped = true
  | _             => True

/-- No login comes while a session is on, and no ping of another session fails then. -/
def KeepsApart (s : KeepaliveService) : Event → Prop
  | .login _      => s.subscriber = none
  | .pingFailed k => ∀ n, s.subscriber = some n → ∀ session ∈ s.pings.lookup k, session = some n
  | _             => True

/-! ### The timer and the counter -/

variable {s : KeepaliveService}

/-- One interval runs while a session is on, and the counter is about the latest results. -/
structure Inv (s : KeepaliveService) : Prop where
  timer : s.timer.isSome = s.subscriber.isSome
  intervals : s.intervals = s.timer.toList
  listening : s.listening = s.timer.isSome
  failures : s.failures = s.counted.length
  results : ∃ old, s.results = old ++ s.counted.map (·, false)
  latest : s.subscriber.isSome → s.stamped = true → s.lastActivity = s.latest

/-- Nothing runs on after a session. -/
lemma clearSession_eq (h : s.intervals = s.timer.toList) : s.clearSession =
    { s with subscriber := none, timer := none, intervals := [], listening := false } := by
  rw [clearSession, stop]
  cases htimer : s.timer with
  | none =>
    rw [htimer] at h
    dsimp only
    rw [h]
    rfl
  | some k =>
    rw [htimer] at h
    dsimp only
    rw [h]
    simp

namespace Inv

lemma init (now : ℤ) : Inv (init now) := ⟨rfl, rfl, rfl, rfl, ⟨[], rfl⟩, nofun⟩

lemma clearSession (h : Inv s) : Inv s.clearSession := by
  rw [clearSession_eq h.intervals]
  exact ⟨rfl, rfl, rfl, h.failures, h.results, nofun⟩

lemma setSession (h : Inv s) (now : ℤ) : Inv (s.setSession now) := by
  rw [KeepaliveService.setSession, start]
  split_ifs with htimer
  · exact ⟨htimer, h.intervals, h.listening, h.failures, h.results, nofun⟩
  · have hintervals := h.intervals
    rw [Option.not_isSome_iff_eq_none.mp htimer] at hintervals
    refine ⟨rfl, ?_, rfl, rfl, ⟨s.results, (List.append_nil _).symm⟩, fun _ _ => rfl⟩
    dsimp only
    rw [hintervals]
    rfl

lemma onActivity (h : Inv s) (now : ℤ) : Inv (s.onActivity now) := by
  rw [KeepaliveService.onActivity]
  split_ifs with hlistening
  · exact ⟨h.timer, h.intervals, h.listening, h.failures, h.results, fun _ _ => rfl⟩
  · refine ⟨h.timer, h.intervals, h.listening, h.failures, h.results, fun hon => ?_⟩
    rw [h.listening, h.timer] at hlistening
    exact absurd hon hlistening

lemma tick (h : Inv s) (now : ℤ) : Inv (s.tick now) := by
  rw [KeepaliveService.tick]
  split_ifs
  · exact h.clearSession
  · exact ⟨h.timer, h.intervals, h.listening, h.failures, h.results, h.latest⟩

lemma pingSucceeded (h : Inv s) (k : ℕ) : Inv (s.pingSucceeded k) := by
  rw [KeepaliveService.pingSucceeded]
  cases s.pings.lookup k with
  | none => exact h
  | some session =>
    exact ⟨h.timer, h.intervals, h.listening, rfl, ⟨_, (List.append_nil _).symm⟩, h.latest⟩

/-- One more failure is counted. -/
lemma counts (h : Inv s) (k : ℕ) (session : Option ℕ) : Inv (note k session false { s with
    failures := s.failures + 1, counted := s.counted ++ [session] }) := by
  obtain ⟨old, hold⟩ := h.results
  refine ⟨h.timer, h.intervals, h.listening, ?_, ⟨old, ?_⟩, h.latest⟩
  · rw [note, h.failures, List.length_append, List.length_singleton]
  · rw [note, hold, List.map_append, List.append_assoc]
    rfl

lemma pingFailed (h : Inv s) (k : ℕ) : Inv (s.pingFailed k) := by
  rw [KeepaliveService.pingFailed]
  cases s.pings.lookup k with
  | none => exact h
  | some session =>
    dsimp only
    split_ifs
    · exact (h.counts k session).clearSession
    · exact h.counts k session

lemma step (h : Inv s) (i : Event) : Inv (s.step i) := by
  cases i with
  | login now => exact h.setSession now
  | logout => exact h.clearSession
  | activity now => exact h.onActivity now
  | tick k now =>
    rw [KeepaliveService.step]
    split_ifs
    · exact h.tick now
    · exact h
  | pingSucceeded k => exact h.pingSucceeded k
  | pingFailed k => exact h.pingFailed k

end Inv

/-! ### The end of a session -/

/-- What a session is ended by. -/
lemma pingFailed_of_ended {k n : ℕ} (hn : s.subscriber = some n)
    (hnone : (s.pingFailed k).subscriber = none) :
    PING_FAIL_THRESHOLD ≤ (s.pingFailed k).failures := by
  rw [pingFailed] at hnone ⊢
  cases hk : s.pings.lookup k with
  | none =>
    rw [hk] at hnone
    exact absurd (hn.symm.trans hnone) nofun
  | some session =>
    rw [hk] at hnone
    dsimp only at hnone ⊢
    split_ifs at hnone ⊢ with hthree
    · rw [clearSession, stop]
      split <;> exact hthree
    · exact absurd (hn.symm.trans hnone) nofun

lemma tick_of_ended {h n : ℕ} {now : ℤ} (hn : s.subscriber = some n)
    (hnone : (s.step (.tick h now)).subscriber = none) :
    IDLE_TIMEOUT_MS < now - s.lastActivity := by
  rw [step, tick] at hnone
  split_ifs at hnone with hruns hidle
  · exact hidle
  · rw [hn] at hnone
    cases hnone
  · rw [hn] at hnone
    cases hnone

/-- Failures of one session that come one after the other. -/
lemma threeFailed {n : ℕ} {counted : List (Option ℕ)} (old : List (Option ℕ × Bool))
    (hthree : 3 ≤ counted.length) (hown : ∀ session ∈ counted, session = some n) :
    [false, false, false] <:+: resultsOf n (old ++ counted.map (·, false)) := by
  obtain ⟨m, hm⟩ := Nat.exists_eq_add_of_le hthree
  have hcounted : counted = List.replicate (3 + m) (some n) :=
    List.eq_replicate_iff.mpr ⟨hm, hown⟩
  have hresults : resultsOf n (counted.map (·, false)) = List.replicate (3 + m) false := by
    rw [hcounted, resultsOf, List.map_replicate, List.filter_replicate_of_pos (by simp),
      List.map_replicate]
  have hsplit : resultsOf n (old ++ counted.map (·, false)) =
      resultsOf n old ++ List.replicate (3 + m) false := by
    rw [← hresults, resultsOf, List.filter_append, List.map_append]
    rfl
  rw [hsplit, List.replicate_add]
  exact ⟨resultsOf n old, List.replicate m false, by simp⟩

/-- A session whose own pings are counted is ended for its own reasons. -/
lemma Inv.ownReason (h : Inv s) {i : Event} (hown : s.CountsOwn i) : s.OwnReason i := by
  cases i with
  | pingFailed k =>
    intro n hn hnone
    have hthree := pingFailed_of_ended hn hnone
    obtain ⟨old, hold⟩ := (h.step (.pingFailed k)).results
    rw [hold]
    refine threeFailed old ?_ (hown n hn hnone)
    exact (h.step (.pingFailed k)).failures ▸ hthree
  | tick k now =>
    intro n hn hnone
    rw [← h.latest (Option.isSome_of_eq_some hn) (hown n hn hnone)]
    exact tick_of_ended hn hnone
  | login now | logout | activity now | pingSucceeded k => trivial

/-! ### Sessions that are kept apart -/

/-- What is counted is of the session that is on. -/
structure Apart (s : KeepaliveService) : Prop where
  inv : Inv s
  stamped : s.subscriber.isSome → s.stamped = true
  counted : ∀ n, s.subscriber = some n → ∀ session ∈ s.counted, session = some n

lemma Apart.of_ended (h : Inv s) (hnone : s.subscriber = none) : Apart s where
  inv := h
  stamped hsome := by rw [hnone] at hsome; cases hsome
  counted n hn := by rw [hnone] at hn; cases hn

lemma subscriber_clearSession : s.clearSession.subscriber = none := by
  rw [clearSession, stop]
  split <;> rfl

lemma Apart.step (h : Apart s) {i : Event} (hapart : s.KeepsApart i) : Apart (s.step i) := by
  have hinv := h.inv.step i
  cases i with
  | login now =>
    have htimer : s.timer.isSome = false := by
      rw [h.inv.timer, show s.subscriber = none from hapart]
      rfl
    have hstart : (s.step (.login now)).counted = [] ∧ (s.step (.login now)).stamped = true := by
      rw [KeepaliveService.step, setSession, start]
      dsimp only
      rw [htimer]
      exact ⟨rfl, rfl⟩
    refine ⟨hinv, fun _ => hstart.2, fun n _ => ?_⟩
    rw [hstart.1]
    exact nofun
  | logout => exact .of_ended hinv subscriber_clearSession
  | activity now =>
    rw [KeepaliveService.step, onActivity] at hinv ⊢
    split_ifs at hinv ⊢
    · exact ⟨hinv, fun _ => rfl, h.counted⟩
    · exact ⟨hinv, h.stamped, h.counted⟩
  | tick k now =>
    rw [KeepaliveService.step, tick] at hinv ⊢
    split_ifs at hinv ⊢
    · exact .of_ended hinv subscriber_clearSession
    · exact ⟨hinv, h.stamped, h.counted⟩
    · exact ⟨hinv, h.stamped, h.counted⟩
  | pingSucceeded k =>
    rw [KeepaliveService.step, pingSucceeded] at hinv ⊢
    cases hk : s.pings.lookup k with
    | none => exact h
    | some session =>
      rw [hk] at hinv
      exact ⟨hinv, h.stamped, fun _ _ => nofun⟩
  | pingFailed k =>
    rw [KeepaliveService.step, pingFailed] at hinv ⊢
    cases hk : s.pings.lookup k with
    | none => exact h
    | some session =>
      rw [hk] at hinv
      dsimp only at hinv ⊢
      split_ifs at hinv ⊢
      · exact .of_ended hinv subscriber_clearSession
      · refine ⟨hinv, h.stamped, fun n hn p hp => ?_⟩
        obtain hold | hnew := List.mem_append.mp hp
        · exact h.counted n hn p hold
        · rw [List.mem_singleton.mp hnew]
          exact hapart n hn session hk

lemma Apart.countsOwn (h : Apart s) {i : Event} (hapart : s.KeepsApart i) : s.CountsOwn i := by
  cases i with
  | pingFailed k =>
    intro n hn hnone p hp
    rw [KeepaliveService.step, pingFailed] at hp
    cases hk : s.pings.lookup k with
    | none =>
      rw [hk] at hp
      exact h.counted n hn p hp
    | some session =>
      rw [hk] at hp
      dsimp only at hp
      have hcounted : p ∈ s.counted ++ [session] := by
        split_ifs at hp
        · rw [clearSession, stop] at hp
          split at hp <;> exact hp
        · exact hp
      obtain hold | hnew := List.mem_append.mp hcounted
      · exact h.counted n hn p hold
      · rw [List.mem_singleton.mp hnew]
        exact hapart n hn session hk
  | tick k now => exact fun n hn _ => h.stamped (Option.isSome_of_eq_some hn)
  | login now | logout | activity now | pingSucceeded k => trivial

end KeepaliveService
