import OnPremPbx.Softphone.SipEnv

/-!
# The rings of the mobile app

`IncomingCallController` (`incomingCallController.ts`) has one place for a call and one for a timer,
and one ring after the other uses them. The rings are numbered from one in the order in which they
begin, and each thing that happens is noted with the ring that the call belongs to; no function
reads these notes. What follows the first wait of `accept` is in `SipEnv`.
-/

open SipEnv (RingState RingEvent IncomingCall WakeUpCall ringReducer settle SIP_DECLINE)
open Transition (run_invariant)

/-- What a wake-up push carries. -/
inductive Payload where
  | notObject
  /-- the properties that are strings -/
  | object (property : String → Option String)

namespace IncomingCallController

/-- `parseWakeUp` of any payload. -/
def parseWakeUp : Payload → Option WakeUpCall
  | .notObject       => none
  | .object property =>
    if property "type" = some "incoming-call" then
      match property "callId", property "callerFlat" with
      | some callId, some callerFlat =>
        SipEnv.parseWakeUp callId callerFlat ((property "callerName").getD "")
      | _, _                         => none
    else none

/-- What happens to a ring. -/
inductive Deed where
  /-- the call of the ring changes to the state -/
  | became (state : RingState)
  /-- what `shouldAutoAnswer` says -/
  | asked (autoAnswer : Bool)
  | displayIncomingCall (callId handle callerName : String)
  | ensureConnected
  | reject (callId : String) (code : ℕ)
  | endCall (callId : String)
  | logMissedCall (call : IncomingCall)
  /-- a timer, armed for the ring with that number, times the call out -/
  | timedOut (armedFor : ℕ)
  deriving DecidableEq, Repr

end IncomingCallController

open IncomingCallController in
structure IncomingCallController where
  call : Option IncomingCall := none
  ringTimer : Option ℕ := none
  /-- the timers that are pending, with the rings that they were armed for -/
  timers : List (ℕ × ℕ) := []
  timersSet : ℕ := 0
  /-- what the listeners were told -/
  notified : List (Option IncomingCall) := []
  /-- the number of rings, and so the number of the latest one -/
  rings : ℕ := 0
  log : List (ℕ × Deed) := []

namespace IncomingCallController

def note (deed : Deed) (s : IncomingCallController) : IncomingCallController :=
  { s with log := s.log ++ [(s.rings, deed)] }

/-- A call that rings begins a ring. -/
def enter (c : IncomingCall) (s : IncomingCallController) : IncomingCallController :=
  let s : IncomingCallController :=
    { s with
      call := some c
      notified := s.notified ++ [some c]
      rings := if c.state = .ringing then s.rings + 1 else s.rings }
  s.note (.became c.state)

/-- A call that is new is another object, in another state. -/
def dispatch (event : RingEvent) (s : IncomingCallController) : IncomingCallController :=
  match ringReducer s.call event with
  | none   => s
  | some c => if s.call = some c then s else s.enter c

def clearRingTimer (s : IncomingCallController) : IncomingCallController :=
  match s.ringTimer with
  | none   => s
  | some h => { s with timers := s.timers.filter (·.1 ≠ h), ringTimer := none }

/-- The call that rings. -/
def ringing (s : IncomingCallController) : Option IncomingCall :=
  s.call.filter (·.state = .ringing)

/-- `accept` up to its first wait. -/
def accept (s : IncomingCallController) : IncomingCallController :=
  match s.ringing with
  | none   => s
  | some _ => (s.clearRingTimer.dispatch .accept).note .ensureConnected

def clear (s : IncomingCallController) : IncomingCallController :=
  if s.call = none ∨ s.ringing.isSome then s
  else { s with call := none, notified := s.notified ++ [none] }

def decline (s : IncomingCallController) : IncomingCallController :=
  match s.ringing with
  | none   => s
  | some c =>
    ((s.clearRingTimer.dispatch .decline).note (.reject c.callId SIP_DECLINE)).note
      (.endCall c.callId)

def onTimeout (armedFor : ℕ) (s : IncomingCallController) : IncomingCallController :=
  match s.ringing with
  | none   => s
  | some c =>
    let s := ((s.dispatch .timeout).note (.timedOut armedFor)).note (.endCall c.callId)
    match s.call with
    | none        => s
    | some missed => s.note (.logMissedCall missed)

def armRingTimer (s : IncomingCallController) : IncomingCallController :=
  { s with
    ringTimer := some s.timersSet
    timers := s.timers ++ [(s.timersSet, s.rings)]
    timersSet := s.timersSet + 1 }

/-- The controller, and the call that is returned. `autoAnswer` is what `shouldAutoAnswer` says if
it is asked. -/
def reportPush (payload : Payload) (autoAnswer : Bool) (s : IncomingCallController) :
    IncomingCallController × Option IncomingCall :=
  match parseWakeUp payload with
  | none      => (s, none)
  | some wake =>
    let t := s.dispatch (.ring wake.callId wake.callerFlat wake.callerName)
    match t.call with
    | none         => (t, none)
    | some ringing =>
      if s.call = some ringing then (t, some ringing)
      else
        let t := t.note (.asked autoAnswer)
        if autoAnswer then (t.accept, some ringing)
        else
          ((t.note (.displayIncomingCall ringing.callId ringing.callerFlat
            ringing.callerName)).armRingTimer, some ringing)

/-! ### Runs -/

inductive Event where
  | push (payload : Payload) (autoAnswer : Bool)
  | accept
  | decline
  | clear
  /-- the time of a timer has come -/
  | fire (h : ℕ)

/-- A timer that is not pending does not fire. -/
def fire (h : ℕ) (s : IncomingCallController) : IncomingCallController :=
  match s.timers.lookup h with
  | none          => s
  | some armedFor =>
    onTimeout armedFor { s with timers := s.timers.filter (·.1 ≠ h), ringTimer := none }

def step (s : IncomingCallController) : Event → IncomingCallController
  | .push payload autoAnswer => (s.reportPush payload autoAnswer).1
  | .accept                  => s.accept
  | .decline                 => s.decline
  | .clear                   => s.clear
  | .fire h                  => s.fire h

/-- What happened to a ring, in order. -/
def deeds (r : ℕ) (log : List (ℕ × Deed)) : List Deed :=
  (log.filter (·.1 = r)).map (·.2)

@[simp] def Deed.isDisplay : Deed → Bool
  | .displayIncomingCall .. => true
  | _                       => false

@[simp] def Deed.isEndCall : Deed → Bool
  | .endCall _ => true
  | _          => false

@[simp] def Deed.isLogMissedCall : Deed → Bool
  | .logMissedCall _ => true
  | _                => false

/-- The ends among the states that the call of a ring went to. -/
def outcomes (ds : List Deed) : List RingState :=
  ds.filterMap fun
    | .became state => if state = .ringing then none else some state
    | _             => none

/-- What the deeds of a ring may be. -/
structure OneOutcome (r : ℕ) (ds : List Deed) : Prop where
  began : ds.count (.became .ringing) ≤ 1
  outcome : (outcomes ds).length ≤ 1
  timedOut : ∀ armedFor, .timedOut armedFor ∈ ds → armedFor = r
  logged : ds.countP Deed.isLogMissedCall = (outcomes ds).count .missed
  displayed : ds.countP Deed.isDisplay =
    if .became .ringing ∈ ds ∧ .asked true ∉ ds then 1 else 0
  ended : ds.countP Deed.isEndCall =
    if ds.any Deed.isDisplay ∧ (.declined ∈ outcomes ds ∨ .missed ∈ outcomes ds) then 1 else 0
  accepted : .accepted ∈ outcomes ds → ds.countP Deed.isEndCall = 0

/-! ### The story of a ring -/

/-- A ring that has been displayed. -/
def opening (c : IncomingCall) : List Deed :=
  [.became .ringing, .asked false, .displayIncomingCall c.callId c.callerFlat c.callerName]

/-- What happens to a ring from its beginning to its end. -/
inductive Over (r : ℕ) : List Deed → Prop where
  | autoAnswered : Over r [.became .ringing, .asked true, .became .accepted, .ensureConnected]
  | accepted (c : IncomingCall) : Over r (opening c ++ [.became .accepted, .ensureConnected])
  | declined (c : IncomingCall) :
    Over r (opening c ++ [.became .declined, .reject c.callId SIP_DECLINE, .endCall c.callId])
  | missed (c : IncomingCall) :
    Over r (opening c ++ [.became .missed, .timedOut r, .endCall c.callId,
      .logMissedCall { c with state := .missed }])

variable {r : ℕ} {c : IncomingCall} {ds : List Deed}

lemma Over.oneOutcome (h : Over r ds) : OneOutcome r ds := by
  cases h with
  | autoAnswered => constructor <;> simp [outcomes]
  | accepted c => constructor <;> simp [opening, outcomes, List.countP_cons]
  | declined c => constructor <;> simp [opening, outcomes, List.countP_cons]
  | missed c => constructor <;> simp [opening, outcomes, List.countP_cons]

lemma oneOutcome_opening (r : ℕ) (c : IncomingCall) : OneOutcome r (opening c) := by
  constructor <;> simp [opening, outcomes, List.countP_cons]

lemma oneOutcome_nil (r : ℕ) : OneOutcome r [] := by
  constructor <;> simp [outcomes]

/-! ### What each operation does -/

variable {s : IncomingCallController}

@[simp] lemma ringing_eq_some : s.ringing = some c ↔ s.call = some c ∧ c.state = .ringing := by
  rw [ringing, Option.filter_eq_some_iff, decide_eq_true_iff]

/-- The call that rings goes to its end, without its timer. -/
lemma dispatch_of_ringing {event : RingEvent} {state : RingState} (h : s.ringing = some c)
    (hevent : ringReducer s.call event = settle s.call state) (hstate : state ≠ .ringing) :
    ({ s with timers := [], ringTimer := none } : IncomingCallController).dispatch event = { s with
      timers := []
      ringTimer := none
      call := some { c with state }
      notified := s.notified ++ [some { c with state }]
      log := s.log ++ [(s.rings, .became state)] } := by
  obtain ⟨hcall, hringing⟩ := ringing_eq_some.mp h
  have hne : some c ≠ some { c with state } := by
    intro heq
    rw [Option.some.injEq] at heq
    rw [heq] at hringing
    exact hstate hringing
  rw [dispatch, hevent, hcall, settle, if_pos hringing]
  dsimp only
  rw [if_neg hne, enter, if_neg hstate]
  rfl

/-- A ring begins where nothing rings. -/
lemma dispatch_ring (h : s.ringing = none) (callId flat name : String) :
    s.call ≠ some ⟨.ringing, callId, flat, name⟩ ∧
      s.dispatch (.ring callId flat name) = s.enter ⟨.ringing, callId, flat, name⟩ := by
  have hreducer : ringReducer s.call (.ring callId flat name) =
      some ⟨.ringing, callId, flat, name⟩ := by
    cases hcall : s.call with
    | none => rfl
    | some c =>
      refine if_neg fun hstate => ?_
      rw [ringing_eq_some.mpr ⟨hcall, hstate⟩] at h
      cases h
  have hne : s.call ≠ some ⟨.ringing, callId, flat, name⟩ := by
    intro hcall
    rw [ringing_eq_some.mpr ⟨hcall, rfl⟩] at h
    cases h
  refine ⟨hne, ?_⟩
  rw [dispatch, hreducer]
  exact if_neg hne

/-- Another push does not change a line that rings. -/
lemma dispatch_ring_of_ringing (h : s.ringing = some c) (callId flat name : String) :
    s.dispatch (.ring callId flat name) = s := by
  obtain ⟨hcall, hringing⟩ := ringing_eq_some.mp h
  have hreducer : ringReducer s.call (.ring callId flat name) = some c := by
    rw [hcall]
    exact if_pos hringing
  rw [dispatch, hreducer]
  exact if_pos hcall

/-- Without its timer, the ring is accepted. -/
lemma accept_of_ringing (h : s.ringing = some c)
    (hclear : s.clearRingTimer = { s with timers := [], ringTimer := none }) :
    s.accept = { s with
      call := some { c with state := .accepted }
      ringTimer := none
      timers := []
      notified := s.notified ++ [some { c with state := .accepted }]
      log := s.log ++ [Deed.became .accepted, .ensureConnected].map (s.rings, ·) } := by
  rw [accept, h]
  dsimp only
  rw [hclear, @dispatch_of_ringing _ _ .accept .accepted h rfl (by decide)]
  simp [note]

/-- The deeds of one ring are added to its own. -/
lemma deeds_append (log : List (ℕ × Deed)) (k : ℕ) :
    deeds r (log ++ ds.map (k, ·)) = deeds r log ++ if k = r then ds else [] := by
  rw [deeds, List.filter_append, List.map_append]
  congr 1
  split_ifs with h
  · simp [h, List.filter_map, Function.comp_def]
  · simp [h, List.filter_map, Function.comp_def]

/-! ### The invariant -/

/-- All rings but the one that is in progress are over, and that one has the timer. -/
structure Inv (s : IncomingCallController) : Prop where
  past : ∀ r, 0 < r → r < s.rings → Over r (deeds r s.log)
  unborn : ∀ r, r = 0 ∨ s.rings < r → deeds r s.log = []
  ringing : ∀ c, s.ringing = some c → 0 < s.rings ∧ deeds s.rings s.log = opening c ∧
    ∃ h, s.ringTimer = some h ∧ s.timers = [(h, s.rings)]
  quiet : s.ringing = none → s.ringTimer = none ∧ s.timers = [] ∧
    (0 < s.rings → Over s.rings (deeds s.rings s.log))

namespace Inv

lemma init : Inv {} where
  past _ _ hlt := absurd hlt (Nat.not_lt_zero _)
  unborn _ _ := rfl
  ringing _ h := nomatch h
  quiet _ := ⟨rfl, rfl, fun h => absurd h (Nat.lt_irrefl 0)⟩

/-- The ring in progress has the only timer. -/
lemma clearRingTimer (hinv : Inv s) :
    s.clearRingTimer = { s with timers := [], ringTimer := none } := by
  cases hring : s.ringing with
  | none =>
    obtain ⟨htimer, htimers, -⟩ := hinv.quiet hring
    rw [IncomingCallController.clearRingTimer, htimer]
    dsimp only
    rw [← htimers, ← htimer]
  | some c =>
    obtain ⟨-, -, h, htimer, htimers⟩ := hinv.ringing c hring
    rw [IncomingCallController.clearRingTimer, htimer, htimers]
    simp

/-- Each ring up to the latest one that does not ring is over. -/
lemma isOver (hinv : Inv s) (h : s.ringing = none) (hpos : 0 < r) (hle : r ≤ s.rings) :
    Over r (deeds r s.log) := by
  obtain hlt | rfl := hle.lt_or_eq
  · exact hinv.past r hpos hlt
  · exact (hinv.quiet h).2.2 hpos

/-- The ring in progress comes to its end. -/
lemma ends (hinv : Inv s) (h : s.ringing = some c) {state : RingState} (hstate : state ≠ .ringing)
    {notified : List (Option IncomingCall)} {log : List (ℕ × Deed)}
    (hlog : log = s.log ++ ds.map (s.rings, ·)) (hover : Over s.rings (opening c ++ ds)) :
    Inv { s with
      call := some { c with state }, ringTimer := none, timers := [], notified, log } := by
  obtain ⟨hpos, hdeeds, -⟩ := hinv.ringing c h
  subst hlog
  constructor
  case past =>
    intro r hr hlt
    rw [deeds_append, if_neg hlt.ne', List.append_nil]
    exact hinv.past r hr hlt
  case unborn =>
    intro r hr
    have hne : s.rings ≠ r := by
      obtain rfl | hlt := hr
      · exact hpos.ne'
      · exact hlt.ne
    rw [deeds_append, if_neg hne, List.append_nil]
    exact hinv.unborn r hr
  case ringing =>
    intro d hd
    obtain ⟨hcall, hringing⟩ := ringing_eq_some.mp hd
    rw [Option.some.injEq] at hcall
    rw [← hcall] at hringing
    exact absurd hringing hstate
  case quiet =>
    refine fun _ => ⟨rfl, rfl, fun _ => ?_⟩
    rw [deeds_append, if_pos rfl, hdeeds]
    exact hover

/-- A ring begins. -/
lemma begins (hinv : Inv s) (h : s.ringing = none) {t : IncomingCallController}
    (hrings : t.rings = s.rings + 1) (hlog : t.log = s.log ++ ds.map (t.rings, ·))
    (hringing : ∀ c, t.ringing = some c → ds = opening c ∧
      ∃ h, t.ringTimer = some h ∧ t.timers = [(h, t.rings)])
    (hquiet : t.ringing = none → t.ringTimer = none ∧ t.timers = [] ∧ Over t.rings ds) :
    Inv t := by
  have hnew : deeds t.rings t.log = ds := by
    rw [hlog, deeds_append, if_pos rfl, hinv.unborn _ (.inr (hrings ▸ Nat.lt_succ_self _)),
      List.nil_append]
  have hold : ∀ r ≠ t.rings, deeds r t.log = deeds r s.log := fun r hr => by
    rw [hlog, deeds_append, if_neg hr.symm, List.append_nil]
  constructor
  case past =>
    intro r hr hlt
    rw [hold r hlt.ne]
    exact hinv.isOver h hr (by omega)
  case unborn =>
    rintro r (rfl | hlt)
    · rw [hold 0 (hrings ▸ (Nat.succ_ne_zero _).symm)]
      exact hinv.unborn 0 (.inl rfl)
    · rw [hold r hlt.ne']
      exact hinv.unborn r (.inr (by omega))
  case ringing =>
    intro c hc
    obtain ⟨hds, htimer⟩ := hringing c hc
    exact ⟨hrings ▸ Nat.succ_pos _, hnew.trans hds, htimer⟩
  case quiet =>
    intro hnone
    obtain ⟨htimer, htimers, hover⟩ := hquiet hnone
    exact ⟨htimer, htimers, fun _ => hnew.symm ▸ hover⟩

lemma push (hinv : Inv s) (payload : Payload) (autoAnswer : Bool) :
    Inv (s.reportPush payload autoAnswer).1 := by
  rw [reportPush]
  cases parseWakeUp payload with
  | none => exact hinv
  | some wake =>
    dsimp only
    cases hring : s.ringing with
    | some c =>
      rw [dispatch_ring_of_ringing hring, (ringing_eq_some.mp hring).1]
      dsimp only
      rw [if_pos rfl]
      exact hinv
    | none =>
      obtain ⟨hne, heq⟩ := dispatch_ring hring wake.callId wake.callerFlat wake.callerName
      obtain ⟨htimer, htimers, -⟩ := hinv.quiet hring
      rw [heq]
      dsimp only [enter, note]
      rw [if_neg hne]
      cases autoAnswer with
      | true =>
        rw [if_pos rfl, accept_of_ringing rfl (by
          rw [IncomingCallController.clearRingTimer, htimer]
          dsimp only
          rw [← htimers, ← htimer])]
        refine @begins [.became .ringing, .asked true, .became .accepted, .ensureConnected] _ hinv
          hring _ rfl ?_ ?_ ?_
        · simp
        · rintro c hc
          obtain ⟨hcall, hringing⟩ := ringing_eq_some.mp hc
          cases hcall
          cases hringing
        · exact fun _ => ⟨rfl, rfl, .autoAnswered⟩
      | false =>
        rw [if_neg Bool.false_ne_true]
        refine @begins (opening ⟨.ringing, wake.callId, wake.callerFlat, wake.callerName⟩) _ hinv
          hring _ rfl ?_ ?_ ?_
        · simp [armRingTimer, opening]
        · rintro c hc
          obtain ⟨hcall, -⟩ := ringing_eq_some.mp hc
          cases hcall
          exact ⟨rfl, s.timersSet, rfl, by simp [armRingTimer, htimers]⟩
        · intro hnone
          cases hnone

lemma accept (hinv : Inv s) : Inv s.accept := by
  cases hring : s.ringing with
  | none =>
    rw [IncomingCallController.accept, hring]
    exact hinv
  | some c =>
    rw [accept_of_ringing hring hinv.clearRingTimer]
    exact hinv.ends hring (by decide) rfl (.accepted c)

lemma decline (hinv : Inv s) : Inv s.decline := by
  rw [IncomingCallController.decline]
  cases hring : s.ringing with
  | none => exact hinv
  | some c =>
    dsimp only
    rw [hinv.clearRingTimer, @dispatch_of_ringing _ _ .decline .declined hring rfl (by decide)]
    dsimp only [note]
    refine hinv.ends hring (by decide) ?_ (.declined c)
    simp

/-- The timer that fires is that of the ring. -/
lemma fire (hinv : Inv s) (h : ℕ) : Inv (s.fire h) := by
  rw [IncomingCallController.fire]
  cases hring : s.ringing with
  | none =>
    obtain ⟨-, htimers, -⟩ := hinv.quiet hring
    rw [htimers]
    exact hinv
  | some c =>
    obtain ⟨-, -, k, htimer, htimers⟩ := hinv.ringing c hring
    cases hlookup : s.timers.lookup h with
    | none => exact hinv
    | some armedFor =>
      obtain ⟨rfl, rfl⟩ : h = k ∧ armedFor = s.rings := by
        rw [htimers, List.lookup_cons] at hlookup
        split at hlookup
        case h_1 heq =>
          rw [Option.some.injEq] at hlookup
          exact ⟨by simpa using heq, hlookup.symm⟩
        case h_2 => cases hlookup
      have hfiltered : s.timers.filter (·.1 ≠ h) = [] := by rw [htimers]; simp
      dsimp only
      rw [hfiltered, onTimeout, show IncomingCallController.ringing { s with
        timers := [], ringTimer := none } = some c from hring]
      dsimp only
      rw [@dispatch_of_ringing _ _ .timeout .missed hring rfl (by decide)]
      dsimp only [note]
      refine hinv.ends hring (by decide) ?_ (.missed c)
      simp

lemma clear (hinv : Inv s) : Inv s.clear := by
  rw [IncomingCallController.clear]
  split_ifs with h
  · exact hinv
  · rw [not_or, Option.not_isSome_iff_eq_none] at h
    exact ⟨hinv.past, hinv.unborn, nofun, fun _ => hinv.quiet h.2⟩

lemma step (hinv : Inv s) (e : Event) : Inv (s.step e) := by
  cases e with
  | push payload autoAnswer => exact hinv.push payload autoAnswer
  | accept => exact hinv.accept
  | decline => exact hinv.decline
  | clear => exact hinv.clear
  | fire h => exact hinv.fire h

lemma oneOutcome (hinv : Inv s) (r : ℕ) : OneOutcome r (deeds r s.log) := by
  by_cases hborn : r = 0 ∨ s.rings < r
  · rw [hinv.unborn r hborn]
    exact oneOutcome_nil r
  · rw [not_or, not_lt] at hborn
    cases hring : s.ringing with
    | none => exact (hinv.isOver hring (Nat.pos_of_ne_zero hborn.1) hborn.2).oneOutcome
    | some c =>
      obtain hlt | rfl := hborn.2.lt_or_eq
      · exact (hinv.past r (Nat.pos_of_ne_zero hborn.1) hlt).oneOutcome
      · rw [(hinv.ringing c hring).2.1]
        exact oneOutcome_opening s.rings c

end Inv

end IncomingCallController
