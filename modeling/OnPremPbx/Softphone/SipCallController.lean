import OnPremPbx.Softphone.SipUa
import OnPremPbx.Transition.Run

/-!
# The calls of the mobile app

`SipCallController` (`sipCallController.ts`) turns what the SIP layer reports about a call into the
events of `callReducer` (`callState.ts`), and counts each call once it has ended. The handles are
numbered in the order in which the controller gets them, and each is the handle of one call; what
`calls` says of these is read by no function.
-/

namespace SipCallController

/-! ### The state of a call -/

inductive CallState
  | idle | calling | connected | ended
  deriving DecidableEq, Repr

inductive CallEvent
  | dial (target : String)
  | adopted (target : String)
  | answered
  | localHangup
  | remoteHangup
  | rejected (reason : String)
  | failed (reason : String)
  deriving DecidableEq, Repr

structure Call where
  state : CallState
  target : Option String
  endReason : Option String
  deriving DecidableEq, Repr

def idleCall : Call := ⟨.idle, none, none⟩

def isCallActive (call : Call) : Prop := call.state = .calling ∨ call.state = .connected

instance (call : Call) : Decidable (isCallActive call) := inferInstanceAs (Decidable (_ ∨ _))

/-- An event that does not apply leaves the call as it is. -/
def callReducer (call : Call) : CallEvent → Call
  | .dial target     => if isCallActive call then call else ⟨.calling, some target, none⟩
  | .adopted target  => if isCallActive call then call else ⟨.connected, some target, none⟩
  | .answered        => if call.state ≠ .calling then call else { call with state := .connected }
  | .localHangup     =>
    if ¬ isCallActive call then call
    else { call with state := .ended, endReason := some "hung up" }
  | .remoteHangup    =>
    if ¬ isCallActive call then call
    else { call with state := .ended, endReason := some "remote hung up" }
  | .rejected reason =>
    if call.state ≠ .calling then call else { call with state := .ended, endReason := some reason }
  | .failed reason   =>
    if call.state = .idle ∨ call.state = .ended then call
    else { call with state := .ended, endReason := some reason }

/-- The white space that `trim` removes. -/
def isSpace (c : Char) : Bool :=
  (0x09 ≤ c.toNat && c.toNat ≤ 0x0D) || (0x2000 ≤ c.toNat && c.toNat ≤ 0x200A) ||
    [0x20, 0xA0, 0x1680, 0x2028, 0x2029, 0x202F, 0x205F, 0x3000, 0xFEFF].contains c.toNat

def trim (flat : List Char) : List Char :=
  ((flat.dropWhile isSpace).reverse.dropWhile isSpace).reverse

def isDialableFlat : List Char → Bool
  | []     => false
  | c :: s => c.isAlphanum && s.all fun c => c.isAlphanum || c == '.' || c == '_' || c == '-'

/-- The address of a flat, or an exception. -/
def callTargetUri (flat : String) : Option String :=
  if isDialableFlat (trim flat.toList) then
    some ("sip:" ++ String.ofList (trim flat.toList) ++ "@pbx.local")
  else none

/-! ### The controller -/

inductive Direction
  | outbound | inbound
  deriving DecidableEq, Repr

/-- The event of `trackOutboundCall` or `trackInboundCall`. -/
structure Metric where
  direction : Direction
  peer : String
  duration : Option ℤ
  success : Bool
  deriving DecidableEq, Repr

/-- A call that was made, and whether its handle has reported the end. -/
structure SipCall where
  direction : Direction
  peer : String
  ended : Bool := false
  deriving DecidableEq, Repr

end SipCallController

open SipCallController in
structure SipCallController where
  call : Call := idleCall
  currentSipCall : Option ℕ := none
  weHungUp : Bool := false
  callStartedAt : Option ℤ := none
  callDirection : Option Direction := none
  callPeer : Option String := none
  /-- What the listeners were told. -/
  notified : List Call := []
  metrics : List Metric := []
  /-- The handles that `hangup` was called on. -/
  hangups : List ℕ := []
  /-- The calls by their handles. -/
  calls : List SipCall := []
  deriving DecidableEq

namespace SipCallController

open SipUa Transition

def dispatch (s : SipCallController) (event : CallEvent) : SipCallController :=
  let next := callReducer s.call event
  if next = s.call then s else { s with call := next, notified := s.notified ++ [next] }

@[simp] lemma dispatch_call (s : SipCallController) (event : CallEvent) :
    (s.dispatch event).call = callReducer s.call event := by
  rw [dispatch]
  split_ifs with h
  · exact h.symm
  · rfl

lemma dispatch_of_eq {s : SipCallController} {event : CallEvent}
    (h : callReducer s.call event = s.call) : s.dispatch event = s := if_pos h

/-- An event changes nothing but the call. -/
lemma dispatch_eq (s : SipCallController) (event : CallEvent) :
    ∃ call notified, s.dispatch event = { s with call, notified } := by
  rw [dispatch]
  split_ifs
  · exact ⟨s.call, s.notified, rfl⟩
  · exact ⟨_, _, rfl⟩

/-- The part that `placeCall` and `adoptInboundCall` share once they have a handle. -/
def begin (s : SipCallController) (direction : Direction) (peer : String) (event : CallEvent)
    (now : ℤ) : SipCallController :=
  let t : SipCallController := { s with
    currentSipCall := some s.calls.length
    calls := s.calls ++ [⟨direction, peer, false⟩] }
  { t.dispatch event with
    callStartedAt := some now, callDirection := some direction, callPeer := some peer }

/-- `placed` tells whether the SIP layer has made the call, or raised. -/
def placeCall (s : SipCallController) (flatNumber : String) (placed : Bool) (now : ℤ) :
    SipCallController :=
  match callTargetUri flatNumber with
  | none        => s
  | some target =>
    if isCallActive s.call then s
    else
      let s := { s with weHungUp := false }
      if placed then s.begin .outbound flatNumber (.dial target) now else s

def adoptInboundCall (s : SipCallController) (peerFlat : String) (now : ℤ) : SipCallController :=
  if isCallActive s.call then s
  else
    let s := { s with weHungUp := false }
    s.begin .inbound peerFlat (.adopted ("sip:" ++ peerFlat ++ "@pbx.local")) now

def hangup (s : SipCallController) : SipCallController :=
  match s.currentSipCall with
  | none   => s
  | some h => { s with weHungUp := true, hangups := s.hangups ++ [h] }.dispatch .localHangup

def trackCallEnd (s : SipCallController) (success : Bool) (now : ℤ) : SipCallController :=
  match s.callDirection with
  | none           => s
  | some direction =>
    { s with
      metrics := s.metrics ++ [⟨direction, s.callPeer.getD "unknown",
        s.callStartedAt.map (now - ·), success⟩]
      callStartedAt := none, callDirection := none, callPeer := none }

lemma trackCallEnd_of_none {s : SipCallController} (h : s.callDirection = none) (success : Bool)
    (now : ℤ) : s.trackCallEnd success now = s := by
  rw [trackCallEnd]
  split
  · rfl
  · simp_all

@[simp] lemma calls_trackCallEnd (s : SipCallController) (success : Bool) (now : ℤ) :
    (s.trackCallEnd success now).calls = s.calls := by
  rw [trackCallEnd]
  split <;> rfl

/-- The callback of every handle. -/
def onSipState (s : SipCallController) (change : SipCallStateChange) (now : ℤ) :
    SipCallController :=
  match change.state with
  | .calling | .progressing => s
  | .inCall                 => s.dispatch .answered
  | .ended                  =>
    let s := if s.weHungUp then s else s.dispatch .remoteHangup
    { s with currentSipCall := none }.trackCallEnd true now
  | .failed                 =>
    let s := s.dispatch (.failed (change.detail.getD "failed"))
    { s with currentSipCall := none }.trackCallEnd false now

inductive Input
  | placeCall (flatNumber : String) (placed : Bool) (now : ℤ)
  | adoptInboundCall (peerFlat : String) (now : ℤ)
  | hangup
  | sipState (h : ℕ) (change : SipCallStateChange) (now : ℤ)
  deriving DecidableEq

/-- The report of a handle, which the controller has only if it was given that handle. -/
def report (s : SipCallController) (h : ℕ) (change : SipCallStateChange) (now : ℤ) :
    SipCallController :=
  if h < s.calls.length then
    let s := s.onSipState change now
    if change.isEnd then { s with calls := s.calls.modify h ({ · with ended := true }) } else s
  else s

def step (s : SipCallController) : Input → SipCallController
  | .placeCall flatNumber placed now => s.placeCall flatNumber placed now
  | .adoptInboundCall peerFlat now   => s.adoptInboundCall peerFlat now
  | .hangup                          => s.hangup
  | .sipState h change now           => s.report h change now

def run (is : List Input) : SipCallController := is.foldl step {}

/-! ### Whose call an event changes -/

/-- What a metric says about its call. -/
def Metric.key (m : Metric) : Direction × String := (m.direction, m.peer)

def SipCall.key (c : SipCall) : Direction × String := (c.direction, c.peer)

/-- The report of `h` that led from `s` to `t` was about the call of `h`. -/
structure AboutOwn (s t : SipCallController) (h : ℕ) : Prop where
  call : h + 1 ≠ s.calls.length → t.call = s.call ∧ t.notified = s.notified
  currentSipCall : t.currentSipCall = s.currentSipCall ∨
    s.currentSipCall = some h ∧ t.currentSipCall = none
  metrics : t.metrics = s.metrics ∨ ∃ c m, s.calls[h]? = some c ∧
    t.metrics = s.metrics ++ [m] ∧ m.key = c.key

def OwnStep (s : SipCallController) (i : Input) : Prop :=
  ∀ h change now, i = .sipState h change now → AboutOwn s (s.step i) h

/-- The call that is up is within reach, and each call whose handle has reported the end is counted
once, in the order of the calls. -/
structure Owned (s : SipCallController) : Prop where
  reached : isCallActive s.call → ∃ n, s.calls.length = n + 1 ∧ s.currentSipCall = some n
  counted : s.metrics.map Metric.key = (s.calls.filter (·.ended)).map SipCall.key

/-- No call is made before the handle of the last one has reported its end, and then no other
handle reports anything that matters. -/
def InTurn (s : SipCallController) : Input → Prop
  | .placeCall flatNumber placed _ =>
    callTargetUri flatNumber ≠ none → placed = true → ¬ isCallActive s.call →
      s.currentSipCall = none
  | .adoptInboundCall _ _          => ¬ isCallActive s.call → s.currentSipCall = none
  | .hangup                        => True
  | .sipState h change _           =>
    s.currentSipCall = none ∨ s.currentSipCall = some h ∨
      change.isEnd = false ∧ (change.state = .inCall → s.call.state ≠ .calling)

/-- The invariant of runs in turn: the last call is the one that the controller is about, and until
its handle reports the end it is the only one that is not counted. -/
inductive Inv (s : SipCallController) : Prop
  | free (hcall : ¬ isCallActive s.call) (hcurrent : s.currentSipCall = none)
      (hdirection : s.callDirection = none) (hended : ∀ c ∈ s.calls, c.ended = true)
      (hcounted : s.metrics.map Metric.key = s.calls.map SipCall.key)
  | busy (done : List SipCall) (direction : Direction) (peer : String)
      (hcalls : s.calls = done ++ [⟨direction, peer, false⟩])
      (hcurrent : s.currentSipCall = some done.length)
      (hdirection : s.callDirection = some direction) (hpeer : s.callPeer = some peer)
      (hhung : s.weHungUp = true → ¬ isCallActive s.call)
      (hended : ∀ c ∈ done, c.ended = true)
      (hcounted : s.metrics.map Metric.key = done.map SipCall.key)

variable {s : SipCallController}

lemma Inv.init : Inv {} := .free (by decide) rfl rfl nofun rfl

lemma Inv.owned (h : Inv s) : Owned s := by
  cases h with
  | free hcall _ _ hended hcounted =>
    exact ⟨fun h => absurd h hcall, by rw [hcounted, List.filter_eq_self.mpr hended]⟩
  | busy done direction peer hcalls hcurrent _ _ _ hended hcounted =>
    refine ⟨fun _ => ⟨done.length, by simp [hcalls], hcurrent⟩, ?_⟩
    rw [hcounted, hcalls, List.filter_append, List.filter_eq_self.mpr hended]
    simp

/-- A new call is the one that the controller is about. -/
lemma Inv.begin (h : Inv s) (hcurrent : s.currentSipCall = none) (hhung : s.weHungUp = false)
    (direction : Direction) (peer : String) (event : CallEvent) (now : ℤ) :
    Inv (s.begin direction peer event now) := by
  cases h with
  | busy _ _ _ _ hsome => rw [hsome] at hcurrent; cases hcurrent
  | free _ _ _ hended hcounted =>
    obtain ⟨call, notified, heq⟩ := dispatch_eq { s with
      currentSipCall := some s.calls.length
      calls := s.calls ++ [⟨direction, peer, false⟩] } event
    rw [SipCallController.begin, heq]
    exact .busy s.calls direction peer rfl rfl rfl rfl (by simp [hhung]) hended hcounted

/-- The flag of an older hangup does not matter. -/
lemma Inv.clear (h : Inv s) : Inv { s with weHungUp := false } := by
  cases h with
  | free hcall hcurrent hdirection hended hcounted =>
    exact .free hcall hcurrent hdirection hended hcounted
  | busy done direction peer hcalls hcurrent hdirection hpeer _ hended hcounted =>
    exact .busy done direction peer hcalls hcurrent hdirection hpeer nofun hended hcounted

lemma Inv.placeCall (h : Inv s) {flatNumber : String} {placed : Bool} {now : ℤ}
    (hturn : InTurn s (.placeCall flatNumber placed now)) :
    Inv (s.placeCall flatNumber placed now) := by
  rw [SipCallController.placeCall]
  cases htarget : callTargetUri flatNumber with
  | none => exact h
  | some target =>
    dsimp only
    split_ifs with hactive hplaced
    · exact h
    · exact h.clear.begin (hturn (by simp [htarget]) hplaced hactive) rfl _ _ _ _
    · exact h.clear

lemma Inv.adoptInboundCall (h : Inv s) {peerFlat : String} {now : ℤ}
    (hturn : InTurn s (.adoptInboundCall peerFlat now)) :
    Inv (s.adoptInboundCall peerFlat now) := by
  rw [SipCallController.adoptInboundCall]
  split_ifs with hactive
  · exact h
  · exact h.clear.begin (hturn hactive) rfl _ _ _ _

/-- The events after which no call is up. -/
def CallEvent.Ends : CallEvent → Prop
  | .localHangup | .remoteHangup | .failed _ => True
  | _                                        => False

lemma not_active_of_ends (call : Call) {event : CallEvent} (h : event.Ends) :
    ¬ isCallActive (callReducer call event) := by
  obtain ⟨state, target, endReason⟩ := call
  cases event with
  | localHangup | remoteHangup | failed => cases state <;> simp [callReducer, isCallActive]
  | dial | adopted | answered | rejected => cases h

/-- No report matters while no call is up. -/
lemma callReducer_of_not_active {call : Call} (h : ¬ isCallActive call) {event : CallEvent}
    (hevent : event.Ends ∨ event = .answered) : callReducer call event = call := by
  obtain ⟨state, target, endReason⟩ := call
  cases event with
  | dial | adopted | rejected => rcases hevent with hevent | hevent <;> cases hevent
  | answered | localHangup | remoteHangup | failed =>
    cases state <;> simp_all [callReducer, isCallActive]

/-- What a handle or `hangup` reports about the call keeps the invariant. -/
lemma Inv.dispatch (h : Inv s) {event : CallEvent} (hevent : event.Ends ∨ event = .answered) :
    Inv (s.dispatch event) := by
  have hcall : ¬ isCallActive s.call → ¬ isCallActive (s.dispatch event).call := by
    intro hcall
    rw [dispatch_call]
    rwa [callReducer_of_not_active hcall hevent]
  obtain ⟨call, notified, heq⟩ := dispatch_eq s event
  rw [heq] at hcall ⊢
  cases h with
  | free hfree hcurrent hdirection hended hcounted =>
    exact .free (hcall hfree) hcurrent hdirection hended hcounted
  | busy done direction peer hcalls hcurrent hdirection hpeer hhung hended hcounted =>
    exact .busy done direction peer hcalls hcurrent hdirection hpeer
      (fun hset => hcall (hhung hset)) hended hcounted

lemma Inv.hangup (h : Inv s) : Inv s.hangup := by
  unfold SipCallController.hangup
  split
  · exact h
  · rename_i k hk
    cases h with
    | free _ hcurrent => rw [hcurrent] at hk; cases hk
    | busy done direction peer hcalls hcurrent hdirection hpeer _ hended hcounted =>
      have hcall := dispatch_call { s with weHungUp := true, hangups := s.hangups ++ [k] }
        .localHangup
      obtain ⟨call, notified, heq⟩ := dispatch_eq
        { s with weHungUp := true, hangups := s.hangups ++ [k] } .localHangup
      rw [heq] at hcall ⊢
      refine .busy done direction peer hcalls hcurrent hdirection hpeer (fun _ => ?_) hended
        hcounted
      rw [hcall]
      exact not_active_of_ends _ trivial

lemma modify_length_append (f : SipCall → SipCall) (l : List SipCall) (c : SipCall) :
    (l ++ [c]).modify l.length f = l ++ [f c] := by
  induction l with
  | nil => rfl
  | cons d l ih => simp [ih]

/-- A handle that reports the end of its call again changes nothing. -/
lemma modify_of_ended {l : List SipCall} (h : ∀ c ∈ l, c.ended = true) (n : ℕ) :
    l.modify n ({ · with ended := true }) = l := by
  induction l generalizing n with
  | nil => exact List.modify_nil _ _
  | cons c l ih =>
    obtain ⟨hc, hl⟩ := List.forall_mem_cons.mp h
    cases n with
    | zero => rw [List.modify_zero_cons, ← hc]
    | succ n => rw [List.modify_succ_cons, ih hl]

/-- The end of the call that the controller is about, which is not up any more. -/
lemma Inv.finish (h : Inv s) (hcall : ¬ isCallActive s.call) {n : ℕ}
    (hcurrent : s.currentSipCall = some n) (success : Bool) (now : ℤ) :
    Inv { { s with currentSipCall := none }.trackCallEnd success now with
      calls := s.calls.modify n ({ · with ended := true }) } := by
  cases h with
  | free _ hnone => rw [hnone] at hcurrent; cases hcurrent
  | busy done direction peer hcalls hsome hdirection hpeer _ hended hcounted =>
    rw [hsome, Option.some.injEq] at hcurrent
    subst hcurrent
    simp only [trackCallEnd, hdirection, hpeer, Option.getD_some]
    rw [hcalls, modify_length_append]
    refine .free hcall rfl rfl ?_ ?_
    · simpa [or_imp, forall_and] using hended
    · simp [Metric.key, SipCall.key, ← hcounted]

/-- At the end of a call the listeners are told, unless they know of it, and the call is counted. -/
lemma onSipState_of_isEnd (s : SipCallController) {change : SipCallStateChange}
    (h : change.isEnd = true) (now : ℤ) : ∃ t success,
      (s.weHungUp = true ∧ t = s ∨ ∃ event : CallEvent, event.Ends ∧ t = s.dispatch event) ∧
      s.onSipState change now = { t with currentSipCall := none }.trackCallEnd success now := by
  obtain ⟨state, detail⟩ := change
  cases state with
  | calling | progressing | inCall => cases h
  | ended =>
    refine ⟨_, true, ?_, rfl⟩
    split_ifs with hhung
    · exact .inl ⟨hhung, rfl⟩
    · exact .inr ⟨.remoteHangup, trivial, rfl⟩
  | failed => exact ⟨_, false, .inr ⟨.failed _, trivial, rfl⟩, rfl⟩

/-- While no handle is awaited, reports change nothing. -/
lemma Inv.report_of_free (h : Inv s) (hcurrent : s.currentSipCall = none) (k : ℕ)
    (change : SipCallStateChange) (now : ℤ) : s.report k change now = s := by
  cases h with
  | busy _ _ _ _ hsome => rw [hsome] at hcurrent; cases hcurrent
  | free hcall _ hdirection hended _ =>
    have hsame : ∀ event : CallEvent, event.Ends ∨ event = .answered → s.dispatch event = s :=
      fun event hevent => dispatch_of_eq (callReducer_of_not_active hcall hevent)
    have hstate : s.onSipState change now = s := by
      cases hend : change.isEnd with
      | true =>
        obtain ⟨t, success, ht, heq⟩ := onSipState_of_isEnd s hend now
        have hts : t = s := by
          obtain ⟨-, rfl⟩ | ⟨event, hevent, rfl⟩ := ht
          · rfl
          · exact hsame event (.inl hevent)
        have hnone : { s with currentSipCall := none } = s := by rw [← hcurrent]
        rw [heq, hts, hnone, trackCallEnd_of_none hdirection]
      | false =>
        obtain ⟨state, detail⟩ := change
        cases state with
        | calling | progressing => rfl
        | inCall => exact hsame _ (.inr rfl)
        | ended | failed => cases hend
    rw [report, hstate]
    dsimp only
    rw [modify_of_ended hended]
    split_ifs <;> rfl

lemma Inv.length_calls (h : Inv s) {k : ℕ} (hcurrent : s.currentSipCall = some k) :
    s.calls.length = k + 1 := by
  cases h with
  | free _ hnone => rw [hnone] at hcurrent; cases hcurrent
  | busy done _ _ hcalls hsome =>
    rw [hsome, Option.some.injEq] at hcurrent
    simp [hcalls, ← hcurrent]

/-- What the listeners are told at the end leaves a call that is not up. -/
lemma Inv.told (h : Inv s) {k : ℕ} (hcurrent : s.currentSipCall = some k) {t : SipCallController}
    (ht : s.weHungUp = true ∧ t = s ∨ ∃ event : CallEvent, event.Ends ∧ t = s.dispatch event) :
    Inv t ∧ ¬ isCallActive t.call ∧ t.currentSipCall = some k ∧ t.calls = s.calls ∧
      t.metrics = s.metrics := by
  obtain ⟨hhung, rfl⟩ | ⟨event, hevent, rfl⟩ := ht
  · cases h with
    | free _ hnone => rw [hnone] at hcurrent; cases hcurrent
    | busy done direction peer hcalls hsome hdirection hpeer hset hended hcounted =>
      exact ⟨.busy done direction peer hcalls hsome hdirection hpeer hset hended hcounted,
        hset hhung, hcurrent, rfl, rfl⟩
  · have hinv := h.dispatch (.inl hevent)
    have hcall := not_active_of_ends s.call hevent
    rw [← dispatch_call] at hcall
    obtain ⟨call, notified, heq⟩ := dispatch_eq s event
    rw [heq] at hinv hcall ⊢
    exact ⟨hinv, hcall, hcurrent, rfl, rfl⟩

/-- The report of the awaited handle. -/
lemma Inv.report_of_current (h : Inv s) {k : ℕ} (hcurrent : s.currentSipCall = some k)
    (change : SipCallStateChange) (now : ℤ) : Inv (s.report k change now) := by
  rw [report, if_pos (by rw [h.length_calls hcurrent]; exact Nat.lt_succ_self k)]
  cases hend : change.isEnd with
  | true =>
    obtain ⟨t, success, ht, heq⟩ := onSipState_of_isEnd s hend now
    obtain ⟨hinv, hcall, htcurrent, -, -⟩ := h.told hcurrent ht
    have hfinish := hinv.finish hcall htcurrent success now
    simpa only [heq, if_true, calls_trackCallEnd] using hfinish
  | false =>
    rw [if_neg Bool.false_ne_true]
    obtain ⟨state, detail⟩ := change
    cases state with
    | calling | progressing => exact h
    | inCall => exact h.dispatch (.inr rfl)
    | ended | failed => cases hend

/-- A report that is in turn is of the awaited handle, or it changes nothing. -/
lemma Inv.report_or (h : Inv s) {k : ℕ} {change : SipCallStateChange} {now : ℤ}
    (hturn : InTurn s (.sipState k change now)) :
    s.currentSipCall = some k ∨ s.report k change now = s := by
  obtain hcurrent | hcurrent | ⟨hend, hcalling⟩ := hturn
  · exact .inr (h.report_of_free hcurrent k change now)
  · exact .inl hcurrent
  · refine .inr ?_
    obtain ⟨state, detail⟩ := change
    cases state with
    | calling | progressing => exact ite_self _
    | inCall =>
      have hsame : s.dispatch .answered = s :=
        dispatch_of_eq (by rw [callReducer, if_pos (hcalling rfl)])
      simp only [report, onSipState, hsame]
      exact ite_self _
    | ended | failed => cases hend

lemma Inv.step (h : Inv s) {i : Input} (hturn : InTurn s i) : Inv (s.step i) := by
  cases i with
  | placeCall flatNumber placed now => exact h.placeCall hturn
  | adoptInboundCall peerFlat now => exact h.adoptInboundCall hturn
  | hangup => exact h.hangup
  | sipState k change now =>
    obtain hcurrent | hsame := h.report_or hturn
    · exact h.report_of_current hcurrent change now
    · rw [SipCallController.step, hsame]
      exact h

lemma AboutOwn.refl (s : SipCallController) (k : ℕ) : AboutOwn s s k :=
  ⟨fun _ => ⟨rfl, rfl⟩, .inl rfl, .inl rfl⟩

/-- The end of the call that the controller is about is counted as that call's. -/
lemma Inv.counts (h : Inv s) {k : ℕ} (hcurrent : s.currentSipCall = some k) (success : Bool)
    (now : ℤ) : ∃ c m, s.calls[k]? = some c ∧
      ({ s with currentSipCall := none }.trackCallEnd success now).metrics = s.metrics ++ [m] ∧
      m.key = c.key := by
  cases h with
  | free _ hnone => rw [hnone] at hcurrent; cases hcurrent
  | busy done direction peer hcalls hsome hdirection hpeer _ _ _ =>
    rw [hsome, Option.some.injEq] at hcurrent
    subst hcurrent
    refine ⟨⟨direction, peer, false⟩,
      ⟨direction, peer, s.callStartedAt.map (now - ·), success⟩, by simp [hcalls], ?_, rfl⟩
    simp only [trackCallEnd, hdirection, hpeer, Option.getD_some]

lemma currentSipCall_trackCallEnd (s : SipCallController) (success : Bool) (now : ℤ) :
    (s.trackCallEnd success now).currentSipCall = s.currentSipCall := by
  rw [trackCallEnd]
  split <;> rfl

/-- What the awaited handle reports is about its own call. -/
lemma Inv.aboutOwn (h : Inv s) {k : ℕ} (hcurrent : s.currentSipCall = some k)
    (change : SipCallStateChange) (now : ℤ) : AboutOwn s (s.report k change now) k := by
  have hlength := h.length_calls hcurrent
  rw [report, if_pos (by rw [hlength]; exact Nat.lt_succ_self k)]
  cases hend : change.isEnd with
  | true =>
    obtain ⟨t, success, ht, heq⟩ := onSipState_of_isEnd s hend now
    obtain ⟨hinv, -, htcurrent, hcalls, hmetrics⟩ := h.told hcurrent ht
    obtain ⟨c, m, hc, hm, hkey⟩ := hinv.counts htcurrent success now
    rw [if_pos rfl, heq]
    refine ⟨fun hne => absurd hlength.symm hne, .inr ⟨hcurrent, ?_⟩, .inr ⟨c, m, ?_, ?_, hkey⟩⟩
    · exact currentSipCall_trackCallEnd _ _ _
    · rw [← hcalls, hc]
    · rw [← hmetrics, ← hm]
  | false =>
    obtain ⟨state, detail⟩ := change
    cases state with
    | calling | progressing => exact .refl s k
    | inCall =>
      obtain ⟨call, notified, heq⟩ := dispatch_eq s .answered
      rw [if_neg Bool.false_ne_true, onSipState, heq]
      exact ⟨fun hne => absurd hlength.symm hne, .inl rfl, .inl rfl⟩
    | ended | failed => cases hend

lemma Inv.ownStep (h : Inv s) {i : Input} (hturn : InTurn s i) : OwnStep s i := by
  rintro k change now rfl
  obtain hcurrent | hsame := h.report_or hturn
  · exact h.aboutOwn hcurrent change now
  · rw [SipCallController.step, hsame]
    exact .refl s k

/-- While each call is made after the end of the one before, and older handles are silent, reports
are about the call of their handle, the call that is up can be hung up, and every call is counted
once, as what it was. -/
theorem owned_of_inTurn (is : List Input) (hturn : Along step InTurn {} is) :
    Along step OwnStep {} is ∧ Owned (run is) := by
  have hinv : Inv (run is) := hturn.invariant (fun s i hi hs => hs.step hi) Inv.init
  refine ⟨?_, hinv.owned⟩
  exact hturn.of_invariant (fun s i hi hs => hs.step hi) (fun s i hi hs => hs.ownStep hi) Inv.init

/-- A call from outside that the other side ends, and then one to a flat that is hung up. -/
theorem owned_of_inTurn_twice :
    (run [.adoptInboundCall "B-204" 5, .sipState 0 ⟨.ended, none⟩ 9, .adoptInboundCall "C-3" 10,
      .hangup, .sipState 1 ⟨.ended, none⟩ 20]).metrics.length = 2 ∧
    Owned (run [.adoptInboundCall "B-204" 5, .sipState 0 ⟨.ended, none⟩ 9,
      .adoptInboundCall "C-3" 10, .hangup, .sipState 1 ⟨.ended, none⟩ 20]) := by
  refine ⟨rfl, (owned_of_inTurn _ ?_).2⟩
  exact ⟨fun _ => rfl, .inr (.inl rfl), fun _ => rfl, trivial, .inr (.inl rfl), trivial⟩

/-- The first call is hung up and the next one is made; the report that the first is over ends the
second on the screen. -/
theorem late_report_ends_call : ¬ ∀ is : List Input, Along step OwnStep {} is ∧ Owned (run is) := by
  intro hclaim
  obtain ⟨⟨-, -, -, hlate, -⟩, -⟩ := hclaim [.placeCall "A-101" true 5, .hangup,
    .placeCall "B-204" true 6, .sipState 0 ⟨.ended, none⟩ 7]
  obtain ⟨hcall, -⟩ := (hlate 0 ⟨.ended, none⟩ 7 rfl).call (by decide)
  exact absurd hcall (by decide)

end SipCallController
