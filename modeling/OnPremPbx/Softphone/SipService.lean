import OnPremPbx.Softphone.SipUa
import OnPremPbx.Transition.Run

/-!
# The calls of the web softphone

`SipService` (`sip.service.ts`) has one call or one incoming invitation at a time. Its methods wait
for the SIP layer at some points, and anything else can happen until they go on: what goes on then
is an input of its own. Calls and invitations are sessions, numbered in the order in which they come
up; the handle of a session has its number. No function reads `phase`.
-/

namespace SipService

/-- What the rest of the app is told. -/
inductive CallState
  | idle
  | registering
  | registered
  | incoming (fromFlat callId : String)
  | outgoing (toFlat callId : String)
  | inCall (peerFlat callId : String) (startedAt : ℤ)
  | failed (reason : String)
  deriving DecidableEq, Repr

structure ActiveCall where
  handle : ℕ
  peerFlat : String
  callId : String
  deriving DecidableEq, Repr

structure IncomingCall where
  handle : ℕ
  fromFlat : String
  callId : String
  deriving DecidableEq, Repr

structure Subscriber where
  role : String
  autoAnswer : Bool
  deriving DecidableEq, Repr

inductive Phase
  | ringing | accepting | up | over
  deriving DecidableEq, Repr

inductive SipUaState
  | starting | started | registering | registered | unregistered | terminated
  deriving DecidableEq, Repr

end SipService

open SipService in
structure SipService where
  /-- Whether there is a user agent. -/
  handle : Bool := false
  stopping : Bool := false
  registered : Bool := false
  subscriber : Option SipService.Subscriber := none
  call : Option ActiveCall := none
  incoming : Option IncomingCall := none
  ringtone : Bool := false
  /-- The calls of `acceptIncoming` that wait for `accept`. -/
  accepting : List IncomingCall := []
  /-- The calls of `hangup` that wait for the handle. -/
  hangingUp : List ℕ := []
  /-- The calls of `rejectIncoming` that wait for `reject`. -/
  declining : List ℕ := []
  /-- The handles whose reports are subscribed to. -/
  listening : List ℕ := []
  emitted : List CallState := []
  /-- The addresses that the user agent was asked to call. -/
  invites : List String := []
  sessions : ℕ := 0
  phase : ℕ → Phase := fun _ => .over

namespace SipService

open SipUa Transition

def emit (s : SipService) (state : CallState) : SipService :=
  { s with emitted := s.emitted ++ [state] }

def emitLine (s : SipService) : SipService := s.emit (if s.registered then .registered else .idle)

def setPhase (s : SipService) (k : ℕ) (p : Phase) : SipService :=
  { s with phase := Function.update s.phase k p }

/-- The session of a handle is over. -/
def endSession (s : SipService) (k : ℕ) : SipService :=
  if s.phase k = .up then s.setPhase k .over else s

def connect (s : SipService) : SipService :=
  if s.handle then s
  else
    match s.subscriber with
    | none   => s.emit (.failed "not_authenticated")
    | some _ => { s with stopping := false, handle := true }.emit .registering

def startFailed (s : SipService) (reason : String) : SipService :=
  { s.emit (.failed reason) with handle := false }

def disconnect (s : SipService) : SipService := if s.handle then { s with stopping := true } else s

def stopped (s : SipService) : SipService := { s with handle := false }.emit .idle

def onUaState (s : SipService) (detail : Option String) : SipUaState → SipService
  | .starting | .started | .registering => { s with registered := false }.emit .registering
  | .registered                         => { s with registered := true }.emit .registered
  | .unregistered                       =>
    let s := { s with registered := false }
    if s.stopping then s.emit .idle else s
  | .terminated                         =>
    let s := { s with registered := false }
    if s.stopping then s else s.emit (.failed (detail.getD "terminated"))

/-- `placed` tells whether the user agent has made the call, or why it raised. -/
def dial (s : SipService) (sipUser displayLabel callId : String) (placed : Except String Unit) :
    SipService :=
  if s.call.isSome then s
  else if ¬ s.handle then s.emit (.failed "not_connected")
  else if ¬ s.registered then s.emit (.failed "not_registered")
  else if s.subscriber = none then s
  else
    let s := { s with invites := s.invites ++ ["sip:" ++ sipUser ++ "@pbx.local"] }
    match placed with
    | .error reason => s.emit (.failed reason)
    | .ok ()        =>
      let t : SipService := { s with
        call := some ⟨s.sessions, displayLabel, callId⟩
        listening := s.listening ++ [s.sessions]
        sessions := s.sessions + 1 }
      (t.emit (.outgoing displayLabel callId)).setPhase s.sessions .up

def hangup (s : SipService) : SipService :=
  match s.call with
  | none   => s
  | some c => { s with hangingUp := s.hangingUp ++ [c.handle] }

/-- `hangup` goes on when the handle has hung up. -/
def hungUp (s : SipService) (k : ℕ) : SipService :=
  if k ∈ s.hangingUp then
    ({ s with call := none, hangingUp := s.hangingUp.erase k }.emitLine).endSession k
  else s

def acceptIncoming (s : SipService) : SipService :=
  match s.incoming with
  | none     => s
  | some inc =>
    { s with incoming := none, ringtone := false,
             accepting := s.accepting ++ [inc] }.setPhase inc.handle .accepting

/-- `acceptIncoming` goes on when the invitation is accepted, or that has failed. -/
def accepted (s : SipService) (k : ℕ) (result : Except String Unit) (now : ℤ) : SipService :=
  match s.accepting.find? (·.handle == k) with
  | none     => s
  | some inc =>
    let s := { s with accepting := s.accepting.erase inc }
    match result with
    | .error reason => (s.emit (.failed reason)).setPhase inc.handle .over
    | .ok ()        =>
      let t : SipService := { s with
        call := some ⟨inc.handle, inc.fromFlat, inc.callId⟩
        listening := s.listening ++ [inc.handle] }
      (t.emit (.inCall inc.fromFlat inc.callId now)).setPhase inc.handle .up

/-- An invitation comes up while there is a call or another invitation, or it rings. -/
def onIncoming (s : SipService) (fromFlat callId : String) : SipService :=
  let k := s.sessions
  let s := { s with sessions := k + 1 }
  if s.call.isSome ∨ s.incoming.isSome then s
  else
    let s := { s with incoming := some ⟨k, fromFlat, callId⟩ }.setPhase k .ringing
    if s.subscriber.any fun sub => sub.autoAnswer && sub.role == "guard" then s.acceptIncoming
    else { s.emit (.incoming fromFlat callId) with ringtone := true }

def rejectIncoming (s : SipService) : SipService :=
  match s.incoming with
  | none     => s
  | some inc =>
    { s with incoming := none, ringtone := false,
             declining := s.declining ++ [inc.handle] }.setPhase inc.handle .over

/-- `rejectIncoming` goes on, whether the invitation was rejected or that has failed. -/
def declined (s : SipService) (k : ℕ) : SipService :=
  if k ∈ s.declining then { s with declining := s.declining.erase k }.emitLine else s

def onCallState (s : SipService) (change : SipCallStateChange) (now : ℤ) : SipService :=
  match s.call with
  | none   => s
  | some c =>
    match change.state with
    | .calling | .progressing => s.emit (.outgoing c.peerFlat c.callId)
    | .inCall                 => s.emit (.inCall c.peerFlat c.callId now)
    | .ended                  => { s with call := none }.emitLine
    | .failed                 =>
      { s with call := none }.emit (.failed (change.detail.getD "call_failed"))

/-- A handle reports; its session is over where it reports the end. -/
def report (s : SipService) (h : ℕ) (change : SipCallStateChange) (now : ℤ) : SipService :=
  if h ∈ s.listening then
    let s := s.onCallState change now
    if change.isEnd then s.endSession h else s
  else s

inductive Input
  | auth (subscriber : Option Subscriber)
  | connect
  | startFailed (reason : String)
  | disconnect
  | stopped
  | uaState (state : SipUaState) (detail : Option String)
  | dial (sipUser displayLabel callId : String) (placed : Except String Unit)
  | hangup
  | hungUp (k : ℕ)
  | invite (fromFlat callId : String)
  | acceptIncoming
  | accepted (k : ℕ) (result : Except String Unit) (now : ℤ)
  | rejectIncoming
  | declined (k : ℕ)
  | callState (h : ℕ) (change : SipCallStateChange) (now : ℤ)

def step (s : SipService) : Input → SipService
  | .auth subscriber                         => { s with subscriber }
  | .connect                                 => s.connect
  | .startFailed reason                      => s.startFailed reason
  | .disconnect                              => s.disconnect
  | .stopped                                 => s.stopped
  | .uaState state detail                    => s.onUaState detail state
  | .dial sipUser displayLabel callId placed => s.dial sipUser displayLabel callId placed
  | .hangup                                  => s.hangup
  | .hungUp k                                => s.hungUp k
  | .invite fromFlat callId                  => s.onIncoming fromFlat callId
  | .acceptIncoming                          => s.acceptIncoming
  | .accepted k result now                   => s.accepted k result now
  | .rejectIncoming                          => s.rejectIncoming
  | .declined k                              => s.declined k
  | .callState h change now                  => s.report h change now

def run (is : List Input) : SipService := is.foldl step {}

/-! ### One session -/

/-- At most one session is neither rejected nor over, and one that is up is the call. -/
structure OneSession (s : SipService) : Prop where
  unique : ∀ j k, s.phase j ≠ .over → s.phase k ≠ .over → j = k
  reached : ∀ k, s.phase k = .up → ∃ c, s.call = some c ∧ c.handle = k

/-- The handle that an input is about: one that reports, or has hung up. -/
def Input.about : Input → Option ℕ
  | .callState h _ _ => some h
  | .hungUp k        => some k
  | _                => none

/-- What comes from one handle leaves the call of another as it is, and what was told of it. -/
def OwnStep (s : SipService) (i : Input) : Prop :=
  ∀ h ∈ i.about, ∀ c ∈ s.call, c.handle ≠ h →
    (s.step i).call = some c ∧ (s.step i).emitted = s.emitted

/-- Nothing is dialed while an invitation rings or is being accepted, none comes up while one is
being accepted, and while there is a call nothing comes from other handles. -/
def InTurn (s : SipService) : Input → Prop
  | .dial _ _ _ placed =>
    s.call = none → s.handle = true → s.registered = true → s.subscriber ≠ none →
      placed = .ok () → s.incoming = none ∧ s.accepting = []
  | .invite _ _        => s.call = none → s.incoming = none → s.accepting = []
  | .hungUp k          => k ∈ s.hangingUp → ∀ c ∈ s.call, c.handle = k
  | .callState h _ _   => h ∈ s.listening → ∀ c ∈ s.call, c.handle = h
  | _                  => True

/-- What the service has for the session `k`, the only one that may not be over. -/
inductive Current (s : SipService) (k : ℕ) : Prop
  | idle (hcall : s.call = none) (hincoming : s.incoming = none) (haccepting : s.accepting = [])
      (hphase : s.phase k = .over)
  | ringing (inc : IncomingCall) (hcall : s.call = none) (hincoming : s.incoming = some inc)
      (haccepting : s.accepting = []) (hphase : s.phase k = .ringing) (hk : inc.handle = k)
  | accepting (inc : IncomingCall) (hcall : s.call = none) (hincoming : s.incoming = none)
      (haccepting : s.accepting = [inc]) (hphase : s.phase k = .accepting) (hk : inc.handle = k)
  | up (c : ActiveCall) (hcall : s.call = some c) (hincoming : s.incoming = none)
      (haccepting : s.accepting = []) (hphase : s.phase k = .up) (hk : c.handle = k)

structure Inv (s : SipService) (k : ℕ) : Prop where
  others : ∀ j ≠ k, s.phase j = .over
  current : Current s k

variable {s t : SipService} {k : ℕ}

lemma Inv.init : Inv {} 0 := ⟨fun _ _ => rfl, .idle rfl rfl rfl rfl⟩

lemma Inv.oneSession (h : Inv s k) : OneSession s := by
  have hk : ∀ j, s.phase j ≠ .over → j = k := fun j hj => by
    by_contra hne
    exact hj (h.others j hne)
  refine ⟨fun i j hi hj => (hk i hi).trans (hk j hj).symm, fun j hj => ?_⟩
  obtain rfl := hk j (by rw [hj]; decide)
  cases h.current with
  | idle _ _ _ hphase | ringing _ _ _ _ hphase | accepting _ _ _ _ hphase =>
    rw [hphase] at hj
    cases hj
  | up c hcall _ _ _ hc => exact ⟨c, hcall, hc⟩

/-- The invariant is about four of the fields. -/
lemma Inv.congr (h : Inv s k) (hcall : t.call = s.call := by rfl)
    (hincoming : t.incoming = s.incoming := by rfl)
    (haccepting : t.accepting = s.accepting := by rfl) (hphase : t.phase = s.phase := by rfl) :
    Inv t k := by
  obtain ⟨hothers, hcurrent⟩ := h
  rw [← hphase] at hothers
  refine ⟨hothers, ?_⟩
  cases hcurrent with
  | idle h₁ h₂ h₃ h₄ =>
    exact .idle (hcall.trans h₁) (hincoming.trans h₂) (haccepting.trans h₃)
      ((congrFun hphase k).trans h₄)
  | ringing inc h₁ h₂ h₃ h₄ hk =>
    exact .ringing inc (hcall.trans h₁) (hincoming.trans h₂) (haccepting.trans h₃)
      ((congrFun hphase k).trans h₄) hk
  | accepting inc h₁ h₂ h₃ h₄ hk =>
    exact .accepting inc (hcall.trans h₁) (hincoming.trans h₂) (haccepting.trans h₃)
      ((congrFun hphase k).trans h₄) hk
  | up c h₁ h₂ h₃ h₄ hk =>
    exact .up c (hcall.trans h₁) (hincoming.trans h₂) (haccepting.trans h₃)
      ((congrFun hphase k).trans h₄) hk

lemma Inv.phase_eq_over (h : Inv s k) (hcall : s.call = none) (hincoming : s.incoming = none)
    (haccepting : s.accepting = []) (j : ℕ) : s.phase j = .over := by
  by_cases hj : j = k
  · subst hj
    cases h.current with
    | idle _ _ _ hphase => exact hphase
    | ringing inc _ hsome => rw [hsome] at hincoming; cases hincoming
    | accepting inc _ _ hone => rw [hone] at haccepting; cases haccepting
    | up c hsome => rw [hsome] at hcall; cases hcall
  · exact h.others j hj

/-- The other sessions stay over when the session `k` changes. -/
lemma others_setPhase (h : ∀ j ≠ k, s.phase j = .over) (p : Phase) :
    ∀ j ≠ k, (s.setPhase k p).phase j = .over := by
  intro j hj
  exact (Function.update_of_ne hj p s.phase).trans (h j hj)

@[simp] lemma phase_setPhase (s : SipService) (k : ℕ) (p : Phase) :
    (s.setPhase k p).phase k = p := by
  simp [setPhase]

lemma Inv.dial (h : Inv s k) {sipUser displayLabel callId : String} {placed : Except String Unit}
    (hturn : InTurn s (.dial sipUser displayLabel callId placed)) :
    ∃ k', Inv (s.dial sipUser displayLabel callId placed) k' := by
  rw [SipService.dial]
  split_ifs with hcall hhandle hregistered hsub
  · exact ⟨k, h⟩
  · exact ⟨k, h⟩
  · cases placed with
    | error reason => exact ⟨k, h.congr⟩
    | ok u =>
      rw [Bool.not_eq_true, Option.isSome_eq_false_iff, Option.isNone_iff_eq_none] at hcall
      obtain ⟨hincoming, haccepting⟩ := hturn hcall hhandle hregistered hsub rfl
      refine ⟨s.sessions, others_setPhase (fun j _ => ?_) _, ?_⟩
      · exact h.phase_eq_over hcall hincoming haccepting j
      · exact .up _ rfl hincoming haccepting (phase_setPhase _ _ _) rfl
  · exact ⟨k, h.congr⟩
  · exact ⟨k, h.congr⟩

lemma Inv.hangup (h : Inv s k) : Inv s.hangup k := by
  rw [SipService.hangup]
  split
  · exact h
  · exact h.congr

/-- Without a call no session is up. -/
lemma Inv.endSession_eq (h : Inv s k) (hcall : s.call = none) (j : ℕ) : s.endSession j = s := by
  rw [endSession, if_neg]
  intro hup
  obtain ⟨c, hc, -⟩ := h.oneSession.reached j hup
  rw [hcall] at hc
  cases hc

/-- The call ends with its session. -/
lemma Inv.clear (h : Inv s k) {j : ℕ} (hj : ∀ c ∈ s.call, c.handle = j) :
    Inv ({ s with call := none }.endSession j) k := by
  cases h.current with
  | idle hcall | ringing _ hcall | accepting _ hcall =>
    have hsame : { s with call := none } = s := by rw [← hcall]
    rw [hsame, h.endSession_eq hcall]
    exact h
  | up c hcall hincoming haccepting hphase hk =>
    obtain rfl : k = j := hk.symm.trans (hj c (Option.mem_def.mpr hcall))
    rw [endSession, if_pos hphase]
    refine ⟨others_setPhase h.others _, ?_⟩
    exact .idle rfl hincoming haccepting (phase_setPhase _ _ _)

lemma Inv.hungUp (h : Inv s k) {j : ℕ} (hturn : InTurn s (.hungUp j)) : Inv (s.hungUp j) k := by
  rw [SipService.hungUp]
  split_ifs with hj
  · have hcongr : Inv { s with hangingUp := s.hangingUp.erase j,
                               emitted := (emitLine s).emitted } k := h.congr
    exact hcongr.clear (hturn hj)
  · exact h

lemma Inv.acceptIncoming (h : Inv s k) : Inv s.acceptIncoming k := by
  unfold SipService.acceptIncoming
  split
  · exact h
  · rename_i inc hinc
    cases h.current with
    | idle _ hincoming | accepting _ _ hincoming | up _ _ hincoming =>
      rw [hincoming] at hinc
      cases hinc
    | ringing inc' hcall hincoming haccepting hphase hk =>
      obtain rfl : inc' = inc := Option.some.inj (hincoming.symm.trans hinc)
      subst hk
      refine ⟨others_setPhase h.others _, ?_⟩
      refine .accepting inc' hcall rfl ?_ (phase_setPhase _ _ _) rfl
      show s.accepting ++ [inc'] = _
      rw [haccepting, List.nil_append]

lemma Inv.accepted (h : Inv s k) {j : ℕ} {result : Except String Unit} {now : ℤ} :
    Inv (s.accepted j result now) k := by
  unfold SipService.accepted
  split
  · exact h
  · rename_i inc hfind
    have hmem := List.mem_of_find?_eq_some hfind
    cases h.current with
    | idle _ _ haccepting | ringing _ _ _ haccepting | up _ _ _ haccepting =>
      rw [haccepting] at hmem
      cases hmem
    | accepting inc' hcall hincoming haccepting hphase hk =>
      rw [haccepting, List.mem_singleton] at hmem
      subst hmem hk
      have hnil : s.accepting.erase inc = [] := by rw [haccepting, List.erase_cons_head]
      cases result with
      | error reason =>
        refine ⟨others_setPhase h.others _, ?_⟩
        exact .idle hcall hincoming hnil (phase_setPhase _ _ _)
      | ok u =>
        refine ⟨others_setPhase h.others _, ?_⟩
        exact .up _ rfl hincoming hnil (phase_setPhase _ _ _) rfl

lemma Inv.onIncoming (h : Inv s k) {fromFlat callId : String}
    (hturn : InTurn s (.invite fromFlat callId)) :
    ∃ k', Inv (s.onIncoming fromFlat callId) k' := by
  rw [SipService.onIncoming]
  dsimp only
  split_ifs with hbusy hguard
  · exact ⟨k, h.congr⟩
  all_goals
    rw [not_or, Bool.not_eq_true, Bool.not_eq_true, Option.isSome_eq_false_iff,
      Option.isSome_eq_false_iff, Option.isNone_iff_eq_none, Option.isNone_iff_eq_none] at hbusy
    obtain ⟨hcall, hincoming⟩ := hbusy
    have haccepting := hturn hcall hincoming
    have hrings : Inv ({ s with
        sessions := s.sessions + 1
        incoming := some ⟨s.sessions, fromFlat, callId⟩ }.setPhase s.sessions .ringing)
        s.sessions := by
      refine ⟨others_setPhase (fun j _ => ?_) _, ?_⟩
      · exact h.phase_eq_over hcall hincoming haccepting j
      · exact .ringing _ hcall rfl haccepting (phase_setPhase _ _ _) rfl
  · exact ⟨s.sessions, hrings.acceptIncoming⟩
  · exact ⟨s.sessions, hrings.congr⟩

lemma Inv.rejectIncoming (h : Inv s k) : Inv s.rejectIncoming k := by
  unfold SipService.rejectIncoming
  split
  · exact h
  · rename_i inc hinc
    cases h.current with
    | idle _ hincoming | accepting _ _ hincoming | up _ _ hincoming =>
      rw [hincoming] at hinc
      cases hinc
    | ringing inc' hcall hincoming haccepting hphase hk =>
      obtain rfl : inc' = inc := Option.some.inj (hincoming.symm.trans hinc)
      subst hk
      refine ⟨others_setPhase h.others _, ?_⟩
      exact .idle hcall rfl haccepting (phase_setPhase _ _ _)

lemma Inv.declined (h : Inv s k) (j : ℕ) : Inv (s.declined j) k := by
  rw [SipService.declined]
  split_ifs
  · exact h.congr
  · exact h

lemma Inv.onUaState (h : Inv s k) (detail : Option String) (state : SipUaState) :
    Inv (s.onUaState detail state) k := by
  cases state with
  | starting | started | registering | registered => exact h.congr
  | unregistered | terminated =>
    rw [SipService.onUaState]
    dsimp only
    split_ifs <;> exact h.congr

/-- Without a call, what a handle reports is not told. -/
lemma onCallState_of_none (hcall : s.call = none) (change : SipCallStateChange) (now : ℤ) :
    s.onCallState change now = s := by
  unfold SipService.onCallState
  split
  · rfl
  · rename_i c hc
    rw [hcall] at hc
    cases hc

lemma onCallState_of_some {c : ActiveCall} (hcall : s.call = some c)
    (change : SipCallStateChange) (now : ℤ) : ∃ state,
      s.onCallState change now =
        if change.isEnd then { s with call := none }.emit state else s.emit state := by
  obtain ⟨state, detail⟩ := change
  simp only [onCallState, hcall]
  cases state with
  | calling | progressing | inCall | failed => exact ⟨_, rfl⟩
  | ended => exact ⟨_, rfl⟩

lemma Inv.report (h : Inv s k) {j : ℕ} {change : SipCallStateChange} {now : ℤ}
    (hturn : InTurn s (.callState j change now)) : Inv (s.report j change now) k := by
  rw [SipService.report]
  by_cases hlistening : j ∈ s.listening
  · rw [if_pos hlistening]
    cases hcall : s.call with
    | none =>
      rw [onCallState_of_none hcall]
      dsimp only
      rw [h.endSession_eq hcall, ite_self]
      exact h
    | some c =>
      obtain ⟨state, heq⟩ := onCallState_of_some hcall change now
      rw [heq]
      cases change.isEnd with
      | true =>
        have hcongr : Inv (s.emit state) k := h.congr
        exact hcongr.clear (hturn hlistening)
      | false => exact h.congr
  · rw [if_neg hlistening]
    exact h

lemma Inv.step (h : Inv s k) {i : Input} (hturn : InTurn s i) : ∃ k', Inv (s.step i) k' := by
  cases i with
  | auth => exact ⟨k, h.congr⟩
  | connect =>
    refine ⟨k, ?_⟩
    unfold SipService.step SipService.connect
    dsimp only
    split
    · exact h
    · split <;> exact h.congr
  | startFailed => exact ⟨k, h.congr⟩
  | disconnect =>
    refine ⟨k, ?_⟩
    unfold SipService.step SipService.disconnect
    dsimp only
    split_ifs
    · exact h.congr
    · exact h
  | stopped => exact ⟨k, h.congr⟩
  | uaState state detail => exact ⟨k, h.onUaState detail state⟩
  | dial => exact h.dial hturn
  | hangup => exact ⟨k, h.hangup⟩
  | hungUp => exact ⟨k, h.hungUp hturn⟩
  | invite => exact h.onIncoming hturn
  | acceptIncoming => exact ⟨k, h.acceptIncoming⟩
  | accepted => exact ⟨k, h.accepted⟩
  | rejectIncoming => exact ⟨k, h.rejectIncoming⟩
  | declined j => exact ⟨k, h.declined j⟩
  | callState => exact ⟨k, h.report hturn⟩

/-- What comes in turn is from the handle of the call, or from one that is not listened to. -/
lemma ownStep_of_inTurn {i : Input} (hturn : InTurn s i) : OwnStep s i := by
  intro j hj c hc hne
  cases i with
  | hungUp k =>
    obtain rfl : k = j := Option.some.inj hj
    have hk : k ∉ s.hangingUp := fun hk => hne (hturn hk c hc)
    rw [SipService.step, SipService.hungUp, if_neg hk]
    exact ⟨hc, rfl⟩
  | callState k change now =>
    obtain rfl : k = j := Option.some.inj hj
    have hk : k ∉ s.listening := fun hk => hne (hturn hk c hc)
    rw [SipService.step, SipService.report, if_neg hk]
    exact ⟨hc, rfl⟩
  | _ => cases hj

/-- While nothing new comes up during an invitation, and nothing comes from an older handle during
a call, there is at most one session, `hangup` reaches it, and no handle touches the call of
another. -/
theorem one_session_of_inTurn (is : List Input) (hturn : Along step InTurn {} is) :
    Along step OwnStep {} is ∧ OneSession (run is) := by
  refine ⟨hturn.mono fun s i hi => ownStep_of_inTurn hi, ?_⟩
  have hstep : ∀ s i, InTurn s i → (∃ k, Inv s k) → ∃ k, Inv (s.step i) k :=
    fun s i hi ⟨_, hk⟩ => hk.step hi
  obtain ⟨k, hk⟩ := hturn.invariant hstep ⟨0, Inv.init⟩
  exact hk.oneSession

def resident : Subscriber where
  role := "resident"
  autoAnswer := false

/-- A call that is hung up, and then an invitation that is accepted. -/
theorem one_session_of_inTurn_accepted :
    (run [.auth (some resident), .connect, .uaState .registered none,
      .dial "B-12" "B-12" "c1" (.ok ()), .hangup, .callState 0 ⟨.ended, none⟩ 3, .hungUp 0,
      .invite "C-99" "c2", .acceptIncoming, .accepted 1 (.ok ()) 5]).phase 1 = .up ∧
    OneSession (run [.auth (some resident), .connect, .uaState .registered none,
      .dial "B-12" "B-12" "c1" (.ok ()), .hangup, .callState 0 ⟨.ended, none⟩ 3, .hungUp 0,
      .invite "C-99" "c2", .acceptIncoming, .accepted 1 (.ok ()) 5]) := by
  refine ⟨rfl, (one_session_of_inTurn _ ?_).2⟩
  exact ⟨trivial, trivial, trivial, fun _ _ _ _ _ => ⟨rfl, rfl⟩, trivial,
    fun _ c hc => (by cases hc; rfl), fun _ c hc => (by cases hc), fun _ _ => rfl, trivial,
    trivial, trivial⟩

/-- A second invitation comes up while the first is being accepted: both are answered, and the first
cannot be hung up any more. -/
theorem two_sessions : ¬ ∀ is : List Input, Along step OwnStep {} is ∧ OneSession (run is) := by
  intro hclaim
  have hunique := (hclaim [.invite "C-99" "c1", .acceptIncoming, .invite "D-1" "c2",
    .acceptIncoming, .accepted 0 (.ok ()) 5, .accepted 1 (.ok ()) 6]).2.unique 0 1
  exact absurd (hunique (by decide) (by decide)) (by decide)

end SipService
