import Mathlib.Data.List.AList
import OnPremPbx.Softphone.SipCallController

/-!
# Calls to the mobile app

`createSipEnv` (`createSipEnv.ts`): the controller of incoming calls (`incomingCallController.ts`,
`incomingCall.ts`, `pushPayload.ts`) and the bridge that gives it the INVITEs
(`sipIncomingSignaling.ts`), beside `SipCallController`. An accept waits twice, for the connection
and for the answer of the SIP layer, and other events come in between. The fields from `passed` on
are read by no function.
-/

namespace SipEnv

/-! ### The state of a ring -/

inductive RingState
  | ringing | accepted | declined | missed
  deriving DecidableEq, Repr

inductive RingEvent
  | ring (callId callerFlat callerName : String)
  | accept
  | decline
  | timeout
  | remoteCancel
  deriving DecidableEq, Repr

structure IncomingCall where
  state : RingState
  callId : String
  callerFlat : String
  callerName : String
  deriving DecidableEq, Repr

/-- A call that rings goes to the state; no other call changes. -/
def settle (call : Option IncomingCall) (state : RingState) : Option IncomingCall :=
  match call with
  | none   => none
  | some c => if c.state = .ringing then some { c with state } else some c

def ringReducer (call : Option IncomingCall) : RingEvent → Option IncomingCall
  | .ring callId callerFlat callerName =>
    match call with
    | some c =>
      if c.state = .ringing then some c else some ⟨.ringing, callId, callerFlat, callerName⟩
    | none   => some ⟨.ringing, callId, callerFlat, callerName⟩
  | .accept                            => settle call .accepted
  | .decline                           => settle call .declined
  | .timeout | .remoteCancel           => settle call .missed

structure WakeUpCall where
  callId : String
  callerFlat : String
  callerName : String

/-- `parseWakeUp` of a payload of the bridge. -/
def parseWakeUp (callId callerFlat callerName : String) : Option WakeUpCall :=
  if callId = "" ∨ callerFlat = "" then none
  else some ⟨callId, callerFlat, if callerName = "" then callerFlat else callerName⟩

inductive RejectCause
  | busy | declined
  deriving DecidableEq, Repr

/-- The code of the responses that the app gives on purpose. -/
def SIP_DECLINE : ℕ := 603

end SipEnv

open SipEnv in
structure SipEnv where
  callController : SipCallController := {}
  /-- The call of `IncomingCallController`. -/
  incoming : Option IncomingCall := none
  ringTimer : Option ℕ := none
  /-- The timers that are pending, and how many were set. -/
  timers : List ℕ := []
  timersSet : ℕ := 0
  /-- The callers of the INVITEs that the bridge knows. -/
  pending : AList fun _ : String => String := ∅
  /-- The accepts that wait for the connection. -/
  connecting : List String := []
  /-- The accepts that wait for the SIP layer, with the callers. -/
  answering : List (String × String) := []
  /-- The INVITEs that were not busy, and those that were rejected. -/
  passed : List String := []
  rejected : List (String × RejectCause) := []
  /-- The accepted handles, as `SipCallController` numbers them, and those that it did not take. -/
  adopted : List (String × ℕ) := []
  refused : List String := []

namespace SipEnv

open SipCallController (isCallActive)
open SipUa (SipCallStateChange)

/-! ### The controller of incoming calls -/

def dispatch (s : SipEnv) (event : RingEvent) : SipEnv :=
  { s with incoming := ringReducer s.incoming event }

def clearRingTimer (s : SipEnv) : SipEnv :=
  match s.ringTimer with
  | none   => s
  | some h => { s with timers := s.timers.filter (· ≠ h), ringTimer := none }

/-- The call that rings. -/
def ringing (s : SipEnv) : Option IncomingCall := s.incoming.filter (·.state = .ringing)

/-- `accept` up to its first wait. -/
def accept (s : SipEnv) : SipEnv :=
  match s.ringing with
  | none   => s
  | some c => { s.clearRingTimer.dispatch .accept with connecting := s.connecting ++ [c.callId] }

/-- What rings is not cleared. -/
def clear (s : SipEnv) : SipEnv :=
  match s.ringing with
  | none   => { s with incoming := none }
  | some _ => s

/-- `reject` of the bridge. -/
def reject (s : SipEnv) (callId : String) (code : ℕ) : SipEnv :=
  match s.pending.lookup callId with
  | none   => s
  | some _ =>
    { s with
      pending := s.pending.erase callId
      rejected := s.rejected ++ [(callId, if code = SIP_DECLINE then .declined else .busy)] }

def decline (s : SipEnv) : SipEnv :=
  match s.ringing with
  | none   => s
  | some c => (s.clearRingTimer.dispatch .decline).reject c.callId SIP_DECLINE

def onTimeout (s : SipEnv) : SipEnv := if s.ringing.isSome then s.dispatch .timeout else s

/-- The timer of `reportPush`. -/
def armRingTimer (s : SipEnv) : SipEnv :=
  { s with
    ringTimer := some s.timersSet
    timers := s.timers ++ [s.timersSet]
    timersSet := s.timersSet + 1 }

/-- `autoAnswer` is the result of `shouldAutoAnswer`. -/
def reportPush (autoAnswer : Bool) (callId callerFlat callerName : String) (s : SipEnv) : SipEnv :=
  match parseWakeUp callId callerFlat callerName with
  | none      => s
  | some wake =>
    let t := s.dispatch (.ring wake.callId wake.callerFlat wake.callerName)
    if t.incoming = none ∨ t.incoming = s.incoming then t
    else if autoAnswer then t.accept
    else t.armRingTimer

/-! ### The bridge -/

def isBusy (s : SipEnv) : Prop :=
  isCallActive s.callController.call ∨
    ∃ c ∈ s.incoming, c.state = .ringing ∨ c.state = .accepted

instance (s : SipEnv) : Decidable s.isBusy :=
  inferInstanceAs (Decidable (_ ∨ ∃ c ∈ s.incoming, _))

def onInvite (autoAnswer : Bool) (callId fromFlat : String) (s : SipEnv) : SipEnv :=
  if s.isBusy then { s with rejected := s.rejected ++ [(callId, .busy)] }
  else
    let s : SipEnv := { s with
      pending := s.pending.insert callId fromFlat
      passed := s.passed ++ [callId] }
    s.reportPush autoAnswer callId fromFlat fromFlat

/-- The connection is there: `answer` up to its wait. -/
def answer (s : SipEnv) (callId : String) : SipEnv :=
  let s : SipEnv := { s with connecting := s.connecting.erase callId }
  match s.pending.lookup callId with
  | none          => s
  | some peerFlat =>
    { s with
      pending := s.pending.erase callId
      answering := s.answering ++ [(callId, peerFlat)] }

/-- The calls change, and the subscription of `createSipEnv` is told. -/
def withCalls (s : SipEnv) (calls : SipCallController) : SipEnv :=
  let t := { s with callController := calls }
  if (calls.notified.drop s.callController.notified.length).any (·.state = .ended) then t.clear
  else t

/-- `onAnswered` for an accept that the SIP layer has answered. -/
def onAnswered (s : SipEnv) (w : String × String) (now : ℤ) : SipEnv :=
  let s := { s with answering := s.answering.erase w }
  let t := s.withCalls (s.callController.adoptInboundCall w.2 now)
  if isCallActive s.callController.call then { t with refused := t.refused ++ [w.1] }
  else { t with adopted := t.adopted ++ [(w.1, s.callController.calls.length)] }

/-- The incoming call is one that was accepted. -/
def isAccepted (s : SipEnv) : Prop := ∃ c, s.incoming = some c ∧ c.state = .accepted

instance (s : SipEnv) : Decidable s.isAccepted :=
  inferInstanceAs (Decidable (∃ c ∈ s.incoming, c.state = .accepted))

/-! ### Runs -/

inductive Event
  | invite (callId fromFlat : String)
  | placeCall (flatNumber : String) (placed : Bool) (now : ℤ)
  | accept
  | decline
  | hangup
  | ringTimeout (h : ℕ)
  /-- `ensureConnected` is done -/
  | connected (callId : String)
  /-- the SIP layer has answered, or raises -/
  | answered (w : String × String) (now : ℤ)
  | answerFailed (w : String × String)
  /-- a handle reports a change of its call -/
  | sipState (k : ℕ) (change : SipCallStateChange) (now : ℤ)

def step (autoAnswer : Bool) (s : SipEnv) : Event → SipEnv
  | .invite callId fromFlat          => s.onInvite autoAnswer callId fromFlat
  | .placeCall flatNumber placed now =>
    s.withCalls (s.callController.placeCall flatNumber placed now)
  | .accept                          => s.accept
  | .decline                         => s.decline
  | .hangup                          => s.withCalls s.callController.hangup
  | .ringTimeout h                   =>
    { s with timers := s.timers.filter (· ≠ h), ringTimer := none }.onTimeout
  | .connected callId                => s.answer callId
  | .answered w now                  => s.onAnswered w now
  | .answerFailed w                  => { s with answering := s.answering.erase w }
  | .sipState k change now           => s.withCalls (s.callController.report k change now)

/-- Timers fire that are pending, and accepts go on that wait. -/
def Possible (s : SipEnv) : Event → Prop
  | .ringTimeout h                    => h ∈ s.timers
  | .connected callId                 => callId ∈ s.connecting
  | .answered w _ | .answerFailed w   => w ∈ s.answering
  | _                                 => True

instance (s : SipEnv) : ∀ e, Decidable (s.Possible e)
  | .ringTimeout _  => inferInstanceAs (Decidable (_ ∈ _))
  | .connected _    => inferInstanceAs (Decidable (_ ∈ _))
  | .answered ..    => inferInstanceAs (Decidable (_ ∈ _))
  | .answerFailed _ => inferInstanceAs (Decidable (_ ∈ _))
  | .invite ..      => inferInstanceAs (Decidable True)
  | .placeCall ..   => inferInstanceAs (Decidable True)
  | .accept         => inferInstanceAs (Decidable True)
  | .decline        => inferInstanceAs (Decidable True)
  | .hangup         => inferInstanceAs (Decidable True)
  | .sipState ..    => inferInstanceAs (Decidable True)

/-! ### Rings -/

section

variable {s : SipEnv} {c : IncomingCall}

@[simp] lemma ringing_eq_some : s.ringing = some c ↔ s.incoming = some c ∧ c.state = .ringing := by
  rw [ringing, Option.filter_eq_some_iff, decide_eq_true_iff]

lemma clearRingTimer_eq (s : SipEnv) :
    ∃ timers ringTimer, s.clearRingTimer = { s with timers, ringTimer } := by
  rw [clearRingTimer]
  split
  · exact ⟨s.timers, s.ringTimer, rfl⟩
  · exact ⟨_, _, rfl⟩

lemma incoming_clearRingTimer : s.clearRingTimer.incoming = s.incoming := by
  obtain ⟨timers, ringTimer, heq⟩ := s.clearRingTimer_eq
  rw [heq]

/-- The call that rings goes to the state. -/
lemma settle_of_ringing (h : s.ringing = some c) (state : RingState) :
    settle s.incoming state = some { c with state } := by
  obtain ⟨hincoming, hstate⟩ := ringing_eq_some.mp h
  rw [hincoming, settle]
  exact if_pos hstate

lemma accept_of_ringing (h : s.ringing = some c) :
    s.accept = { s.clearRingTimer with
      incoming := some { c with state := .accepted }
      connecting := s.connecting ++ [c.callId] } := by
  have hincoming : ringReducer s.clearRingTimer.incoming .accept =
      some { c with state := .accepted } := by
    rw [incoming_clearRingTimer]
    exact settle_of_ringing h .accepted
  rw [accept, h]
  dsimp only
  rw [dispatch, hincoming]

lemma decline_of_ringing (h : s.ringing = some c) (hpending : c.callId ∈ s.pending) :
    ∃ timers ringTimer, s.decline = { s with
      timers, ringTimer
      incoming := some { c with state := .declined }
      pending := s.pending.erase c.callId
      rejected := s.rejected ++ [(c.callId, .declined)] } := by
  obtain ⟨timers, ringTimer, heq⟩ := s.clearRingTimer_eq
  obtain ⟨flat, hflat⟩ := Option.isSome_iff_exists.mp (AList.lookup_isSome.mpr hpending)
  have hincoming : ringReducer s.incoming .decline = some { c with state := .declined } :=
    settle_of_ringing h .declined
  refine ⟨timers, ringTimer, ?_⟩
  rw [decline, h]
  dsimp only
  rw [heq, dispatch, hincoming, reject, hflat]
  rfl

/-- Nothing changes but a call that does not ring. -/
lemma clear_eq (s : SipEnv) :
    ∃ incoming, s.clear = { s with incoming } ∧ s.clear.ringing = s.ringing := by
  rw [clear]
  split
  case h_1 h => exact ⟨none, rfl, h.symm⟩
  case h_2 => exact ⟨s.incoming, rfl, rfl⟩

lemma withCalls_eq (s : SipEnv) (calls : SipCallController) :
    ∃ incoming, s.withCalls calls = { s with callController := calls, incoming } ∧
      (s.withCalls calls).ringing = s.ringing := by
  rw [withCalls]
  split_ifs
  · exact clear_eq { s with callController := calls }
  · exact ⟨s.incoming, rfl, rfl⟩

@[simp] lemma callController_withCalls (calls : SipCallController) :
    (s.withCalls calls).callController = calls := by
  obtain ⟨incoming, heq, -⟩ := s.withCalls_eq calls
  rw [heq]

/-- Where nothing rings, an INVITE does. -/
lemma ring_of_ringing_none (h : s.ringing = none) (callId flat name : String) :
    ringReducer s.incoming (.ring callId flat name) = some ⟨.ringing, callId, flat, name⟩ := by
  cases hincoming : s.incoming with
  | none => rfl
  | some c =>
    refine if_neg fun hstate => ?_
    rw [ringing_eq_some.mpr ⟨hincoming, hstate⟩] at h
    cases h

/-- An INVITE that comes to a line where nothing rings. -/
lemma reportPush_of_ringing_none (h : s.ringing = none) {autoAnswer : Bool}
    {callId flat : String} (hid : callId ≠ "") (hflat : flat ≠ "") :
    let t : SipEnv := { s with incoming := some ⟨.ringing, callId, flat, flat⟩ }
    s.reportPush autoAnswer callId flat flat = if autoAnswer then t.accept else t.armRingTimer := by
  have hparse : parseWakeUp callId flat flat = some ⟨callId, flat, flat⟩ := by
    rw [parseWakeUp, if_neg (by simp [hid, hflat]), if_neg hflat]
  have hnew : s.incoming ≠ some ⟨.ringing, callId, flat, flat⟩ := fun heq => by
    rw [ringing_eq_some.mpr ⟨heq, rfl⟩] at h
    cases h
  rw [reportPush, hparse]
  dsimp only
  rw [dispatch, ring_of_ringing_none h]
  dsimp only
  rw [if_neg]
  rintro (hnone | hsame)
  · cases hnone
  · exact hnew hsame.symm

lemma isBusy_iff : s.isBusy ↔
    isCallActive s.callController.call ∨ s.ringing.isSome ∨ s.isAccepted := by
  refine or_congr_right ⟨?_, ?_⟩
  · rintro ⟨c, hc, hstate | hstate⟩
    · exact .inl (Option.isSome_of_eq_some (ringing_eq_some.mpr ⟨hc, hstate⟩))
    · exact .inr ⟨c, hc, hstate⟩
  · rintro (hring | ⟨c, hc, hstate⟩)
    · obtain ⟨c, hc⟩ := Option.isSome_iff_exists.mp hring
      exact ⟨c, (ringing_eq_some.mp hc).1, .inl (ringing_eq_some.mp hc).2⟩
    · exact ⟨c, hc, .inr hstate⟩

/-- On a line that is not busy nothing rings. -/
lemma ringing_of_not_busy (h : ¬ s.isBusy) : s.ringing = none := by
  rw [isBusy_iff, not_or, not_or, Option.not_isSome_iff_eq_none] at h
  exact h.2.1

end

/-! ### What the listeners of the calls are told -/

open SipCallController (Call CallEvent callReducer) in
/-- The call and what the listeners were told, before and after: they are told of each change. -/
inductive Told (call : Call) (notified : List Call) : Call → List Call → Prop
  | nothing : Told call notified call notified
  | change (event : CallEvent) :
    Told call notified (callReducer call event) (notified ++ [callReducer call event])

lemma told_dispatch (c : SipCallController) (event : SipCallController.CallEvent) :
    Told c.call c.notified (c.dispatch event).call (c.dispatch event).notified := by
  rw [SipCallController.dispatch]
  split_ifs
  · exact .nothing
  · exact .change event

lemma call_trackCallEnd (c : SipCallController) (success : Bool) (now : ℤ) :
    (c.trackCallEnd success now).call = c.call ∧
      (c.trackCallEnd success now).notified = c.notified := by
  rw [SipCallController.trackCallEnd]
  split <;> exact ⟨rfl, rfl⟩

lemma told_onSipState (c : SipCallController) (change : SipCallStateChange) (now : ℤ) :
    Told c.call c.notified (c.onSipState change now).call (c.onSipState change now).notified := by
  cases hend : change.isEnd with
  | true =>
    obtain ⟨t, success, ht, heq⟩ := c.onSipState_of_isEnd hend now
    obtain ⟨hcall, hnotified⟩ := call_trackCallEnd { t with currentSipCall := none } success now
    rw [heq, hcall, hnotified]
    obtain ⟨-, rfl⟩ | ⟨event, -, rfl⟩ := ht
    · exact .nothing
    · exact told_dispatch c event
  | false =>
    obtain ⟨state, detail⟩ := change
    cases state with
    | calling | progressing => exact .nothing
    | inCall => exact told_dispatch c .answered
    | ended | failed => cases hend

lemma told_begin (c : SipCallController) (direction : SipCallController.Direction) (peer : String)
    (event : SipCallController.CallEvent) (now : ℤ) :
    Told c.call c.notified (c.begin direction peer event now).call
      (c.begin direction peer event now).notified :=
  told_dispatch { c with
    currentSipCall := some c.calls.length
    calls := c.calls ++ [⟨direction, peer, false⟩] } event

lemma told_step (c : SipCallController) (i : SipCallController.Input) :
    Told c.call c.notified (c.step i).call (c.step i).notified := by
  cases i with
  | placeCall flatNumber placed now =>
    rw [SipCallController.step, SipCallController.placeCall]
    split
    · exact .nothing
    · split_ifs
      · exact .nothing
      · exact told_begin { c with weHungUp := false } _ _ _ _
      · exact .nothing
  | adoptInboundCall peerFlat now =>
    rw [SipCallController.step, SipCallController.adoptInboundCall]
    split_ifs
    · exact .nothing
    · exact told_begin { c with weHungUp := false } _ _ _ _
  | hangup =>
    rw [SipCallController.step, SipCallController.hangup]
    split
    · exact .nothing
    case h_2 h _ => exact told_dispatch { c with weHungUp := true, hangups := c.hangups ++ [h] } _
  | sipState k change now =>
    rw [SipCallController.step, SipCallController.report]
    split_ifs
    · exact told_onSipState c change now
    · exact told_onSipState c change now
    · exact .nothing

/-- A call that is up goes to its end, if it does not stay up. -/
lemma state_callReducer {call : SipCallController.Call} {event : SipCallController.CallEvent}
    (hactive : isCallActive call)
    (hdown : ¬ isCallActive (SipCallController.callReducer call event)) :
    (SipCallController.callReducer call event).state = .ended := by
  obtain ⟨state, target, reason⟩ := call
  cases event <;> cases state <;>
    simp_all [isCallActive, SipCallController.callReducer]

/-- The listeners are told of the end of a call that was up. -/
lemma told_ended {c : SipCallController} (i : SipCallController.Input)
    (hactive : isCallActive c.call) (hdown : ¬ isCallActive (c.step i).call) :
    ((c.step i).notified.drop c.notified.length).any (·.state = .ended) := by
  have htold := told_step c i
  generalize (c.step i).call = call, (c.step i).notified = notified at htold hdown ⊢
  cases htold with
  | nothing => exact absurd hactive hdown
  | change event =>
    rw [List.drop_left]
    simp [state_callReducer hactive hdown]

end SipEnv
