import OnPremPbx.Softphone.SipEnv

/-!
# Inbound calls of the mobile app

What becomes of an INVITE that was not busy: it rings, or it is being accepted, or it was rejected,
or its handle is the one that `SipCallController` has, until it ends or is hung up.
-/

namespace SipEnv

open SipCallController (isCallActive)
open SipUa (SipCallStateChange)
open Transition

/-! ### Handles -/

/-- The handle has reported its end. -/
def Ended (calls : List SipCallController.SipCall) (h : ℕ) : Prop :=
  ∃ call, calls[h]? = some call ∧ call.ended = true

/-- `hangup` reaches the handle, or it is not needed any more. -/
def Kept (c : SipCallController) (h : ℕ) : Prop :=
  c.currentSipCall = some h ∨ h ∈ c.hangups ∨ Ended c.calls h

/-- A handle is done with, or it is that of the call that is up, which can be hung up. -/
structure CallsInv (c : SipCallController) : Prop where
  handles : ∀ h < c.calls.length,
    h ∈ c.hangups ∨ Ended c.calls h ∨ c.currentSipCall = some h ∧ isCallActive c.call
  up : isCallActive c.call → c.weHungUp = false ∧ ∃ h < c.calls.length,
    c.currentSipCall = some h ∧ h ∉ c.hangups ∧ ¬ Ended c.calls h
  current : ∀ h, c.currentSipCall = some h → h < c.calls.length
  hangups : ∀ h ∈ c.hangups, h < c.calls.length

/-- A handle reports its end that is the current one, or while no call is up. -/
def ReportInTurn (c : SipCallController) (k : ℕ) (change : SipCallStateChange) : Prop :=
  k < c.calls.length → change.isEnd = true →
    c.currentSipCall = some k ∨ ¬ isCallActive c.call

def CallsInTurn (c : SipCallController) : SipCallController.Input → Prop
  | .sipState k change _ => ReportInTurn c k change
  | _                    => True

lemma fields_dispatch (c : SipCallController) (event : SipCallController.CallEvent) :
    (c.dispatch event).currentSipCall = c.currentSipCall ∧
      (c.dispatch event).weHungUp = c.weHungUp ∧ (c.dispatch event).hangups = c.hangups ∧
      (c.dispatch event).calls = c.calls := by
  obtain ⟨call, notified, heq⟩ := c.dispatch_eq event
  rw [heq]
  exact ⟨rfl, rfl, rfl, rfl⟩

lemma ended_append {calls : List SipCallController.SipCall} {call : SipCallController.SipCall}
    {k : ℕ} : Ended (calls ++ [call]) k ↔ Ended calls k ∨ k = calls.length ∧ call.ended = true := by
  rw [Ended, Ended]
  obtain hlt | rfl | hgt := lt_trichotomy k calls.length
  · rw [List.getElem?_append_left hlt]
    exact (or_iff_left fun h => absurd h.1 hlt.ne).symm
  · simp
  · rw [List.getElem?_append_right hgt.le, List.getElem?_eq_none hgt.le]
    have hpos : 0 < k - calls.length := Nat.sub_pos_of_lt hgt
    simp [hgt.ne', hpos.ne']

/-- A report of the end marks its own handle. -/
lemma ended_modify {calls : List SipCallController.SipCall} {k h : ℕ} (hk : k < calls.length) :
    Ended (calls.modify k ({ · with ended := true })) h ↔ h = k ∨ Ended calls h := by
  rw [Ended, Ended, List.getElem?_modify]
  by_cases hkh : k = h
  · subst hkh
    simp [hk]
  · simp [hkh, Ne.symm hkh]

lemma fields_trackCallEnd (c : SipCallController) (success : Bool) (now : ℤ) :
    (c.trackCallEnd success now).currentSipCall = c.currentSipCall ∧
      (c.trackCallEnd success now).hangups = c.hangups ∧
      (c.trackCallEnd success now).calls = c.calls ∧
      (c.trackCallEnd success now).call = c.call := by
  rw [SipCallController.trackCallEnd]
  split <;> exact ⟨rfl, rfl, rfl, rfl⟩

/-- What the report of an end leaves. -/
lemma fields_report {c : SipCallController} {k : ℕ} (hk : k < c.calls.length)
    {change : SipCallStateChange} (hend : change.isEnd = true) (now : ℤ) :
    (c.report k change now).currentSipCall = none ∧
      (c.report k change now).hangups = c.hangups ∧
      (c.report k change now).calls = c.calls.modify k ({ · with ended := true }) ∧
      (¬ isCallActive (c.report k change now).call ∨
        c.weHungUp = true ∧ (c.report k change now).call = c.call) := by
  obtain ⟨t, success, ht, heq⟩ := c.onSipState_of_isEnd hend now
  obtain ⟨hcurrent, hhangups, hcalls, hcall⟩ :=
    fields_trackCallEnd { t with currentSipCall := none } success now
  rw [SipCallController.report, if_pos hk, hend, if_pos rfl, heq]
  dsimp only
  rw [hcurrent, hhangups, hcalls, hcall]
  obtain ⟨hhung, rfl⟩ | ⟨event, hevent, rfl⟩ := ht
  · exact ⟨rfl, rfl, rfl, .inr ⟨hhung, rfl⟩⟩
  · obtain ⟨-, -, hhangups', hcalls'⟩ := fields_dispatch c event
    rw [hhangups', hcalls', SipCallController.dispatch_call]
    exact ⟨rfl, rfl, rfl, .inl (SipCallController.not_active_of_ends c.call hevent)⟩

lemma active_answered (call : SipCallController.Call) :
    isCallActive (SipCallController.callReducer call .answered) ↔ isCallActive call := by
  obtain ⟨state, target, reason⟩ := call
  cases state <;> simp [isCallActive, SipCallController.callReducer]

namespace CallsInv

variable {c d : SipCallController}

lemma init : CallsInv {} where
  handles _ hlt := absurd hlt (Nat.not_lt_zero _)
  up hactive := absurd hactive (by decide)
  current _ h := nomatch h
  hangups _ h := nomatch h

lemma kept (h : CallsInv c) {k : ℕ} (hk : k < c.calls.length) : Kept c k := by
  obtain hhung | hended | ⟨hcurrent, -⟩ := h.handles k hk
  · exact .inr (.inl hhung)
  · exact .inr (.inr hended)
  · exact .inl hcurrent

/-- While no call is up, every handle is done with. -/
lemma done (h : CallsInv c) (hdown : ¬ isCallActive c.call) {k : ℕ} (hk : k < c.calls.length) :
    k ∈ c.hangups ∨ Ended c.calls k :=
  (h.handles k hk).imp_right fun hk => hk.resolve_right fun hcurrent => hdown hcurrent.2

/-- A new call is up, and is the one that the controller is about. -/
lemma next (h : CallsInv c) (hdown : ¬ isCallActive c.call) {call : SipCallController.SipCall}
    (hnew : call.ended = false) (hup : isCallActive d.call) (hhung : d.weHungUp = false)
    (hcurrent : d.currentSipCall = some c.calls.length) (hhangups : d.hangups = c.hangups)
    (hcalls : d.calls = c.calls ++ [call]) : CallsInv d := by
  have hlength : d.calls.length = c.calls.length + 1 := by rw [hcalls, List.length_append]; rfl
  refine ⟨fun k hk => ?_, fun _ => ⟨hhung, c.calls.length, ?_, hcurrent, ?_, ?_⟩, ?_, ?_⟩
  · rw [hlength, Nat.lt_succ_iff_lt_or_eq] at hk
    rw [hhangups, hcalls, ended_append]
    obtain hk | rfl := hk
    · obtain hhung | hended := h.done hdown hk
      · exact .inl hhung
      · exact .inr (.inl (.inl hended))
    · exact .inr (.inr ⟨hcurrent, hup⟩)
  · rw [hlength]
    exact Nat.lt_succ_self _
  · rw [hhangups]
    exact fun hmem => absurd (h.hangups _ hmem) (lt_irrefl _)
  · rw [hcalls, ended_append, hnew]
    rintro (⟨last, hlast, -⟩ | ⟨-, hended⟩)
    · exact absurd (List.getElem?_eq_some_iff.mp hlast).1 (lt_irrefl _)
    · cases hended
  · intro k hk
    rw [hcurrent, Option.some.injEq] at hk
    rw [hlength, ← hk]
    exact Nat.lt_succ_self _
  · intro k hk
    rw [hhangups] at hk
    rw [hlength]
    exact (h.hangups k hk).trans (Nat.lt_succ_self _)

/-- The flag of an older hangup does not matter. -/
lemma clear (h : CallsInv c) (hdown : ¬ isCallActive c.call) :
    CallsInv { c with weHungUp := false } :=
  ⟨h.handles, fun hactive => absurd hactive hdown, h.current, h.hangups⟩

lemma begin (h : CallsInv c) (hdown : ¬ isCallActive c.call)
    (direction : SipCallController.Direction) (peer : String)
    {event : SipCallController.CallEvent} (now : ℤ)
    (hup : isCallActive (SipCallController.callReducer c.call event)) :
    CallsInv ({ c with weHungUp := false }.begin direction peer event now) := by
  have hcall := SipCallController.dispatch_call { c with
    weHungUp := false
    currentSipCall := some c.calls.length
    calls := c.calls ++ [⟨direction, peer, false⟩] } event
  obtain ⟨hcurrent, hhung, hhangups, hcalls⟩ := fields_dispatch { c with
    weHungUp := false
    currentSipCall := some c.calls.length
    calls := c.calls ++ [⟨direction, peer, false⟩] } event
  rw [← hcall] at hup
  exact @next _ _ h hdown ⟨direction, peer, false⟩ rfl hup hhung hcurrent hhangups hcalls

lemma placeCall (h : CallsInv c) (flatNumber : String) (placed : Bool) (now : ℤ) :
    CallsInv (c.placeCall flatNumber placed now) := by
  rw [SipCallController.placeCall]
  split
  · exact h
  · split_ifs with hactive
    · exact h
    · refine h.begin hactive _ _ _ ?_
      rw [SipCallController.callReducer, if_neg hactive]
      exact .inl rfl
    · exact h.clear hactive

lemma adoptInboundCall (h : CallsInv c) (peerFlat : String) (now : ℤ) :
    CallsInv (c.adoptInboundCall peerFlat now) := by
  rw [SipCallController.adoptInboundCall]
  split_ifs with hactive
  · exact h
  · refine h.begin hactive _ _ _ ?_
    rw [SipCallController.callReducer, if_neg hactive]
    exact .inr rfl

lemma hangup (h : CallsInv c) : CallsInv c.hangup := by
  rw [SipCallController.hangup]
  split
  case h_1 => exact h
  case h_2 k hk =>
    have hcall := SipCallController.dispatch_call { c with
      weHungUp := true
      hangups := c.hangups ++ [k] } .localHangup
    obtain ⟨hcurrent, -, hhangups, hcalls⟩ := fields_dispatch { c with
      weHungUp := true
      hangups := c.hangups ++ [k] } .localHangup
    have hdown := @SipCallController.not_active_of_ends c.call .localHangup trivial
    rw [← hcall] at hdown
    refine ⟨fun j hj => ?_, fun hactive => absurd hactive hdown, fun j hj => ?_, fun j hj => ?_⟩
    · rw [hhangups, hcalls, List.mem_append, List.mem_singleton]
      rw [hcalls] at hj
      obtain hhung | hended | ⟨hj, -⟩ := h.handles j hj
      · exact .inl (.inl hhung)
      · exact .inr (.inl hended)
      · exact .inl (.inr (Option.some.inj (hj.symm.trans hk)))
    · rw [hcalls]
      exact h.current j (hcurrent.symm.trans hj)
    · rw [hhangups, List.mem_append, List.mem_singleton] at hj
      rw [hcalls]
      obtain hj | rfl := hj
      · exact h.hangups j hj
      · exact h.current _ hk

/-- A report that is in turn. -/
lemma report (h : CallsInv c) {k : ℕ} {change : SipCallStateChange} (now : ℤ)
    (hturn : ReportInTurn c k change) : CallsInv (c.report k change now) := by
  by_cases hk : k < c.calls.length
  · cases hend : change.isEnd with
    | true =>
      obtain ⟨hcurrent, hhangups, hcalls, hcall⟩ := fields_report hk hend now
      have hdown : ¬ isCallActive (c.report k change now).call := by
        obtain hdown | ⟨hhung, hsame⟩ := hcall
        · exact hdown
        · rw [hsame]
          intro hactive
          rw [(h.up hactive).1] at hhung
          cases hhung
      refine ⟨fun j hj => ?_, fun hactive => absurd hactive hdown, fun j hj => ?_, fun j hj => ?_⟩
      · rw [hcalls, List.length_modify] at hj
        rw [hhangups, hcalls, ended_modify hk]
        obtain hhung | hended | ⟨hj, hactive⟩ := h.handles j hj
        · exact .inl hhung
        · exact .inr (.inl (.inr hended))
        · -- the call that was up is the one that reports
          have hcurrent' := (hturn hk hend).resolve_right (not_not.mpr hactive)
          exact .inr (.inl (.inl (Option.some.inj (hj.symm.trans hcurrent'))))
      · rw [hcurrent] at hj
        cases hj
      · rw [hcalls, List.length_modify]
        rw [hhangups] at hj
        exact h.hangups j hj
    | false =>
      rw [SipCallController.report, if_pos hk, hend, if_neg Bool.false_ne_true]
      obtain ⟨state, detail⟩ := change
      cases state with
      | calling | progressing => exact h
      | ended | failed => cases hend
      | inCall =>
        obtain ⟨hcurrent, hhung, hhangups, hcalls⟩ := fields_dispatch c .answered
        have hactive : isCallActive (c.dispatch .answered).call ↔ isCallActive c.call := by
          rw [SipCallController.dispatch_call]
          exact active_answered c.call
        rw [SipCallController.onSipState]
        dsimp only
        constructor
        · rw [hhangups, hcalls, hcurrent, hactive]
          exact h.handles
        · rw [hhangups, hcalls, hcurrent, hactive, hhung]
          exact h.up
        · rw [hcalls, hcurrent]
          exact h.current
        · rw [hhangups, hcalls]
          exact h.hangups
  · rw [SipCallController.report, if_neg hk]
    exact h

lemma step (h : CallsInv c) {i : SipCallController.Input} (hturn : CallsInTurn c i) :
    CallsInv (c.step i) := by
  cases i with
  | placeCall flatNumber placed now => exact h.placeCall flatNumber placed now
  | adoptInboundCall peerFlat now => exact h.adoptInboundCall peerFlat now
  | hangup => exact h.hangup
  | sipState k change now => exact h.report now hturn

/-- A report that is out of turn leaves a call that nothing reaches. -/
lemma reportInTurn (h : CallsInv c) {k : ℕ} {change : SipCallStateChange} {now : ℤ}
    (hkept : ∀ j < (c.report k change now).calls.length, Kept (c.report k change now) j) :
    ReportInTurn c k change := by
  intro hk hend
  rw [or_iff_not_imp_right, not_not]
  intro hactive
  obtain ⟨-, j, hj, hcurrent, hhung, hended⟩ := h.up hactive
  obtain ⟨hnone, hhangups, hcalls, -⟩ := fields_report hk hend now
  have hj' : j < (c.report k change now).calls.length := by
    rw [hcalls, List.length_modify]
    exact hj
  obtain hnow | hnow | hnow := hkept j hj'
  · rw [hnone] at hnow
    cases hnow
  · rw [hhangups] at hnow
    exact absurd hnow hhung
  · rw [hcalls, ended_modify hk] at hnow
    rw [hcurrent, hnow.resolve_right hended]

end CallsInv

lemma calls_begin (c : SipCallController) (direction : SipCallController.Direction) (peer : String)
    (event : SipCallController.CallEvent) (now : ℤ) :
    (c.begin direction peer event now).calls = c.calls ++ [⟨direction, peer, false⟩] :=
  (fields_dispatch { c with
    currentSipCall := some c.calls.length
    calls := c.calls ++ [⟨direction, peer, false⟩] } event).2.2.2

/-- Handles are not forgotten. -/
lemma length_calls_step (c : SipCallController) (i : SipCallController.Input) :
    c.calls.length ≤ (c.step i).calls.length := by
  have hbegin : ∀ direction peer event now, c.calls.length ≤
      (({ c with weHungUp := false } : SipCallController).begin direction peer event
        now).calls.length := by
    intro direction peer event now
    rw [calls_begin, List.length_append]
    exact Nat.le_add_right _ _
  cases i with
  | placeCall flatNumber placed now =>
    rw [SipCallController.step, SipCallController.placeCall]
    split
    · exact le_rfl
    · split_ifs
      · exact le_rfl
      · exact hbegin _ _ _ _
      · exact le_rfl
  | adoptInboundCall peerFlat now =>
    rw [SipCallController.step, SipCallController.adoptInboundCall]
    split_ifs
    · exact le_rfl
    · exact hbegin _ _ _ _
  | hangup =>
    rw [SipCallController.step, SipCallController.hangup]
    split
    case h_1 => exact le_rfl
    case h_2 h _ =>
      have hcalls := (fields_dispatch { c with weHungUp := true, hangups := c.hangups ++ [h] }
        .localHangup).2.2.2
      exact (congrArg List.length hcalls).ge
  | sipState k change now =>
    rw [SipCallController.step]
    by_cases hk : k < c.calls.length
    · cases hend : change.isEnd with
      | true =>
        rw [(fields_report hk hend now).2.2.1, List.length_modify]
      | false =>
        rw [SipCallController.report, if_pos hk, hend, if_neg Bool.false_ne_true]
        obtain ⟨state, detail⟩ := change
        cases state with
        | calling | progressing => exact le_rfl
        | ended | failed => cases hend
        | inCall =>
          rw [SipCallController.onSipState]
          dsimp only
          rw [(fields_dispatch c .answered).2.2.2]
    · rw [SipCallController.report, if_neg hk]

/-! ### INVITEs -/

/-- Where an INVITE is that was not busy. -/
inductive Fate (s : SipEnv) (callId : String) : Prop
  | ringing (c : IncomingCall) (hring : s.ringing = some c) (hid : c.callId = callId)
  | connecting (h : callId ∈ s.connecting)
  | answering (peerFlat : String) (h : (callId, peerFlat) ∈ s.answering)
  | rejected (cause : RejectCause) (h : (callId, cause) ∈ s.rejected)
  | adopted (k : ℕ) (h : (callId, k) ∈ s.adopted) (hkept : Kept s.callController k)

/-- No INVITE is orphaned: each is somewhere, the bridge keeps none whose ring is over, and `hangup`
reaches every handle that is not done with. -/
structure Accounted (s : SipEnv) : Prop where
  fate : ∀ callId ∈ s.passed, Fate s callId
  pending : ∀ callId ∈ s.pending,
    (∃ c, s.ringing = some c ∧ c.callId = callId) ∨ callId ∈ s.connecting
  reached : ∀ k < s.callController.calls.length, Kept s.callController k
  refused : s.refused = []

def LeavesAccounted (autoAnswer : Bool) (s : SipEnv) (e : Event) : Prop :=
  Accounted (s.step autoAnswer e)

/-- The Call-IDs are distinct, and what an accept waits for comes in the end. -/
def Interleaved (s : SipEnv) : Event → Prop
  | .invite callId _ => callId ∉ s.passed
  | .answerFailed _  => False
  | e                => s.Possible e

/-- No ring times out, a caller that passes the gate is well-formed, an accept is answered while no
call is up, and a handle reports its end that is the current one, or while no call is up. -/
def InTurn (s : SipEnv) : Event → Prop
  | .invite callId fromFlat => s.isBusy ∨ callId ≠ "" ∧ fromFlat ≠ ""
  | .ringTimeout _          => s.ringing = none
  | .answered _ _           => ¬ isCallActive s.callController.call
  | .sipState k change _    => ReportInTurn s.callController k change
  | _                       => True

instance (s : SipEnv) : ∀ e, Decidable (s.Interleaved e)
  | .invite ..      => inferInstanceAs (Decidable (_ ∉ _))
  | .answerFailed _ => inferInstanceAs (Decidable False)
  | .ringTimeout h  => inferInstanceAs (Decidable (s.Possible (.ringTimeout h)))
  | .connected i    => inferInstanceAs (Decidable (s.Possible (.connected i)))
  | .answered w n   => inferInstanceAs (Decidable (s.Possible (.answered w n)))
  | .placeCall ..   => inferInstanceAs (Decidable True)
  | .accept         => inferInstanceAs (Decidable True)
  | .decline        => inferInstanceAs (Decidable True)
  | .hangup         => inferInstanceAs (Decidable True)
  | .sipState ..    => inferInstanceAs (Decidable True)

instance (s : SipEnv) : ∀ e, Decidable (s.InTurn e)
  | .invite ..      => inferInstanceAs (Decidable (_ ∨ _))
  | .ringTimeout _  => inferInstanceAs (Decidable (_ = none))
  | .answered ..    => inferInstanceAs (Decidable (¬ _))
  | .sipState ..    => inferInstanceAs (Decidable (_ < _ → _ = true → _ ∨ _))
  | .connected _    => inferInstanceAs (Decidable True)
  | .answerFailed _ => inferInstanceAs (Decidable True)
  | .placeCall ..   => inferInstanceAs (Decidable True)
  | .accept         => inferInstanceAs (Decidable True)
  | .decline        => inferInstanceAs (Decidable True)
  | .hangup         => inferInstanceAs (Decidable True)

/-- The bridge knows what rings and what is being accepted, and the rest is somewhere else. -/
structure Inv (s : SipEnv) : Prop where
  calls : CallsInv s.callController
  ringing : ∀ c, s.ringing = some c → c.callId ∈ s.pending ∧ c.callId ∉ s.connecting
  connecting : ∀ callId ∈ s.connecting, callId ∈ s.pending
  nodup : s.connecting.Nodup
  pending : ∀ callId ∈ s.pending,
    (∃ c, s.ringing = some c ∧ c.callId = callId) ∨ callId ∈ s.connecting
  passed : ∀ callId ∈ s.pending, callId ∈ s.passed
  fate : ∀ callId ∈ s.passed, callId ∈ s.pending ∨ (∃ flat, (callId, flat) ∈ s.answering) ∨
    (∃ cause, (callId, cause) ∈ s.rejected) ∨
    ∃ k < s.callController.calls.length, (callId, k) ∈ s.adopted
  refused : s.refused = []

namespace Inv

variable {autoAnswer : Bool} {s : SipEnv}

lemma init : Inv {} where
  calls := CallsInv.init
  ringing _ h := nomatch h
  connecting _ h := nomatch h
  nodup := List.nodup_nil
  pending _ h := absurd h (AList.notMem_empty _)
  passed _ h := absurd h (AList.notMem_empty _)
  fate _ h := nomatch h
  refused := rfl

lemma accounted (h : Inv s) : Accounted s where
  fate callId hid := by
    obtain hpending | ⟨flat, hflat⟩ | ⟨cause, hcause⟩ | ⟨k, hk, hadopted⟩ := h.fate callId hid
    · obtain ⟨c, hring, hc⟩ | hconnecting := h.pending callId hpending
      · exact .ringing c hring hc
      · exact .connecting hconnecting
    · exact .answering flat hflat
    · exact .rejected cause hcause
    · exact .adopted k hadopted (h.calls.kept hk)
  pending := h.pending
  reached _ hk := h.calls.kept hk
  refused := h.refused

/-- A change of the calls leaves the INVITEs. -/
lemma withCalls (h : Inv s) {i : SipCallController.Input} (hturn : CallsInTurn s.callController i) :
    Inv (s.withCalls (s.callController.step i)) := by
  have hlength := length_calls_step s.callController i
  obtain ⟨incoming, heq, hring⟩ := s.withCalls_eq (s.callController.step i)
  rw [heq] at hring ⊢
  refine ⟨h.calls.step hturn, ?_, h.connecting, h.nodup, ?_, h.passed, fun callId hid => ?_,
    h.refused⟩
  · rw [hring]
    exact h.ringing
  · rw [hring]
    exact h.pending
  · obtain hpending | hflat | hcause | ⟨k, hk, hadopted⟩ := h.fate callId hid
    · exact .inl hpending
    · exact .inr (.inl hflat)
    · exact .inr (.inr (.inl hcause))
    · exact .inr (.inr (.inr ⟨k, hk.trans_le hlength, hadopted⟩))

/-- A call that is accepted or was declined does not ring. -/
lemma ringing_ne_of_settled {c d : IncomingCall} {t : SipEnv} (ht : t.incoming = some d)
    (hstate : d.state ≠ .ringing) : t.ringing ≠ some c := by
  intro hring
  obtain ⟨hc, hringing⟩ := ringing_eq_some.mp hring
  rw [ht, Option.some.injEq] at hc
  exact hstate (hc ▸ hringing)

lemma accept (h : Inv s) : Inv s.accept := by
  cases hring : s.ringing with
  | none =>
    rw [SipEnv.accept, hring]
    exact h
  | some c =>
    obtain ⟨hpending, hnot⟩ := h.ringing c hring
    obtain ⟨timers, ringTimer, htimer⟩ := s.clearRingTimer_eq
    rw [accept_of_ringing hring, htimer]
    have hsettled := fun d => ringing_ne_of_settled (c := d) (d := { c with state := .accepted })
      (t := { s with
        timers, ringTimer
        incoming := some { c with state := .accepted }
        connecting := s.connecting ++ [c.callId] }) rfl (by simp)
    refine ⟨h.calls, fun d hd => absurd hd (hsettled d), fun callId hid => ?_, ?_,
      fun callId hid => .inr ?_, h.passed, h.fate, h.refused⟩
    · obtain hid | hid := List.mem_append.mp hid
      · exact h.connecting callId hid
      · rw [List.mem_singleton.mp hid]
        exact hpending
    · refine List.nodup_append.mpr ⟨h.nodup, List.nodup_singleton _, fun a ha b hb => ?_⟩
      rw [List.mem_singleton.mp hb]
      exact fun heq => hnot (heq ▸ ha)
    · obtain ⟨d, hd, rfl⟩ | hid := h.pending callId hid
      · rw [hring, Option.some.injEq] at hd
        rw [hd]
        exact List.mem_append_right _ List.mem_cons_self
      · exact List.mem_append_left _ hid

lemma decline (h : Inv s) : Inv s.decline := by
  cases hring : s.ringing with
  | none =>
    rw [SipEnv.decline, hring]
    exact h
  | some c =>
    obtain ⟨hpending, hnot⟩ := h.ringing c hring
    obtain ⟨timers, ringTimer, heq⟩ := decline_of_ringing hring hpending
    rw [heq]
    have hsettled := fun d => ringing_ne_of_settled (c := d) (d := { c with state := .declined })
      (t := { s with
        timers, ringTimer
        incoming := some { c with state := .declined }
        pending := s.pending.erase c.callId
        rejected := s.rejected ++ [(c.callId, .declined)] }) rfl (by simp)
    refine ⟨h.calls, fun d hd => absurd hd (hsettled d), fun callId hid => ?_, h.nodup,
      fun callId hid => .inr ?_, fun callId hid => ?_, fun callId hid => ?_, h.refused⟩
    · exact AList.mem_erase.mpr ⟨fun heq => hnot (heq ▸ hid), h.connecting callId hid⟩
    · obtain ⟨hne, hid⟩ := AList.mem_erase.mp hid
      obtain ⟨d, hd, rfl⟩ | hid := h.pending callId hid
      · rw [hring, Option.some.injEq] at hd
        exact absurd (congrArg IncomingCall.callId hd.symm) hne
      · exact hid
    · exact h.passed callId (AList.mem_erase.mp hid).2
    · obtain hid | hflat | ⟨cause, hcause⟩ | hadopted := h.fate callId hid
      · by_cases heq : callId = c.callId
        · exact .inr (.inr (.inl ⟨.declined, List.mem_append_right _ (by simp [heq])⟩))
        · exact .inl (AList.mem_erase.mpr ⟨heq, hid⟩)
      · exact .inr (.inl hflat)
      · exact .inr (.inr (.inl ⟨cause, List.mem_append_left _ hcause⟩))
      · exact .inr (.inr (.inr hadopted))

/-- The connection is there for an accept. -/
lemma answer (h : Inv s) {callId : String} (hmem : callId ∈ s.connecting) :
    Inv (s.answer callId) := by
  have hpending := h.connecting callId hmem
  obtain ⟨flat, hflat⟩ := Option.isSome_iff_exists.mp (AList.lookup_isSome.mpr hpending)
  have hconnecting : ∀ id, id ∈ s.connecting.erase callId ↔ id ≠ callId ∧ id ∈ s.connecting :=
    fun id => h.nodup.mem_erase_iff
  rw [SipEnv.answer, hflat]
  refine ⟨h.calls, fun c hring => ?_, fun id hid => ?_, h.nodup.erase _, fun id hid => ?_,
    fun id hid => ?_, fun id hid => ?_, h.refused⟩
  · obtain ⟨hc, hnot⟩ := h.ringing c hring
    refine ⟨AList.mem_erase.mpr ⟨fun heq => hnot (heq ▸ hmem), hc⟩, ?_⟩
    exact fun hin => hnot ((hconnecting _).mp hin).2
  · obtain ⟨hne, hid⟩ := (hconnecting id).mp hid
    exact AList.mem_erase.mpr ⟨hne, h.connecting id hid⟩
  · obtain ⟨hne, hid⟩ := AList.mem_erase.mp hid
    obtain hring | hid := h.pending id hid
    · exact .inl hring
    · exact .inr ((hconnecting id).mpr ⟨hne, hid⟩)
  · exact h.passed id (AList.mem_erase.mp hid).2
  · obtain hid | ⟨flat', hflat'⟩ | hcause | hadopted := h.fate id hid
    · by_cases heq : id = callId
      · exact .inr (.inl ⟨flat, List.mem_append_right _ (by simp [heq])⟩)
      · exact .inl (AList.mem_erase.mpr ⟨heq, hid⟩)
    · exact .inr (.inl ⟨flat', List.mem_append_left _ hflat'⟩)
    · exact .inr (.inr (.inl hcause))
    · exact .inr (.inr (.inr hadopted))

lemma armRingTimer (h : Inv s) : Inv s.armRingTimer :=
  ⟨h.calls, h.ringing, h.connecting, h.nodup, h.pending, h.passed, h.fate, h.refused⟩

/-- An INVITE rings that is not busy. -/
lemma ring (h : Inv s) {callId : String} (hnew : callId ∉ s.passed) (hnone : s.ringing = none)
    (flat : String) : Inv { s with
      pending := s.pending.insert callId flat
      passed := s.passed ++ [callId]
      incoming := some ⟨.ringing, callId, flat, flat⟩ } := by
  have hring : ∀ t : SipEnv, t.incoming = some ⟨.ringing, callId, flat, flat⟩ →
      t.ringing = some ⟨.ringing, callId, flat, flat⟩ := fun t ht => ringing_eq_some.mpr ⟨ht, rfl⟩
  have hold : ∀ id ∈ s.pending, id ∈ s.connecting := fun id hid =>
    (h.pending id hid).resolve_left fun ⟨c, hc, _⟩ => by
      rw [hnone] at hc
      cases hc
  refine ⟨h.calls, fun c hc => ?_, fun id hid => ?_, h.nodup, fun id hid => ?_, fun id hid => ?_,
    fun id hid => ?_, h.refused⟩
  · rw [hring _ rfl, Option.some.injEq] at hc
    rw [← hc]
    refine ⟨(AList.mem_insert _).mpr (.inl rfl), fun hin => hnew ?_⟩
    exact h.passed _ (h.connecting _ hin)
  · exact (AList.mem_insert _).mpr (.inr (h.connecting id hid))
  · obtain rfl | hid := (AList.mem_insert _).mp hid
    · exact .inl ⟨_, hring _ rfl, rfl⟩
    · exact .inr (hold id hid)
  · obtain rfl | hid := (AList.mem_insert _).mp hid
    · exact List.mem_append_right _ List.mem_cons_self
    · exact List.mem_append_left _ (h.passed id hid)
  · obtain hid | hid := List.mem_append.mp hid
    · exact (h.fate id hid).imp_left fun hid => (AList.mem_insert _).mpr (.inr hid)
    · exact .inl ((AList.mem_insert _).mpr (.inl (List.mem_singleton.mp hid)))

lemma onInvite (h : Inv s) {callId fromFlat : String} (hnew : callId ∉ s.passed)
    (hturn : s.isBusy ∨ callId ≠ "" ∧ fromFlat ≠ "") :
    Inv (s.onInvite autoAnswer callId fromFlat) := by
  rw [SipEnv.onInvite]
  split_ifs with hbusy
  · refine ⟨h.calls, h.ringing, h.connecting, h.nodup, h.pending, h.passed, fun id hid => ?_,
      h.refused⟩
    obtain hid | hflat | ⟨cause, hcause⟩ | hadopted := h.fate id hid
    · exact .inl hid
    · exact .inr (.inl hflat)
    · exact .inr (.inr (.inl ⟨cause, List.mem_append_left _ hcause⟩))
    · exact .inr (.inr (.inr hadopted))
  · obtain ⟨hid, hflat⟩ := hturn.resolve_left hbusy
    have hnone := ringing_of_not_busy hbusy
    have hring := h.ring hnew hnone fromFlat
    dsimp only
    rw [reportPush_of_ringing_none (by exact hnone) hid hflat]
    cases autoAnswer with
    | true => exact hring.accept
    | false => exact hring.armRingTimer

/-- An accept is answered while no call is up. -/
lemma onAnswered (h : Inv s) (w : String × String) (now : ℤ)
    (hdown : ¬ isCallActive s.callController.call) : Inv (s.onAnswered w now) := by
  have hlength : (s.callController.adoptInboundCall w.2 now).calls.length =
      s.callController.calls.length + 1 := by
    rw [SipCallController.adoptInboundCall, if_neg hdown, calls_begin, List.length_append]
    rfl
  obtain ⟨incoming, heq, hring⟩ := withCalls_eq { s with answering := s.answering.erase w }
    (s.callController.adoptInboundCall w.2 now)
  rw [heq] at hring
  have hring : SipEnv.ringing { s with incoming } = s.ringing := hring
  rw [SipEnv.onAnswered]
  dsimp only
  rw [if_neg hdown, heq]
  refine ⟨h.calls.adoptInboundCall w.2 now, ?_, h.connecting, h.nodup, ?_, h.passed,
    fun id hid => ?_, h.refused⟩
  · change ∀ c, SipEnv.ringing { s with incoming } = some c → _
    rw [hring]
    exact h.ringing
  · change ∀ callId ∈ s.pending, (∃ c, SipEnv.ringing { s with incoming } = some c ∧ _) ∨ _
    rw [hring]
    exact h.pending
  · have hadopts : ∀ k, k ≤ s.callController.calls.length → (id, k) ∈ s.adopted ++
        [(w.1, s.callController.calls.length)] → ∃ k < (s.callController.adoptInboundCall w.2
          now).calls.length, (id, k) ∈ s.adopted ++ [(w.1, s.callController.calls.length)] :=
      fun k hk hmem => ⟨k, hlength ▸ Nat.lt_succ_of_le hk, hmem⟩
    obtain hid | ⟨flat, hflat⟩ | hcause | ⟨k, hk, hadopted⟩ := h.fate id hid
    · exact .inl hid
    · by_cases hw : (id, flat) = w
      · exact .inr (.inr (.inr (hadopts _ le_rfl (List.mem_append_right _ (by simp [← hw])))))
      · exact .inr (.inl ⟨flat, (List.mem_erase_of_ne hw).mpr hflat⟩)
    · exact .inr (.inr (.inl hcause))
    · exact .inr (.inr (.inr (hadopts k hk.le (List.mem_append_left _ hadopted))))

/-- A timer that fires when nothing rings. -/
lemma ringTimeout (h : Inv s) (t : ℕ) (hnone : s.ringing = none) :
    Inv ({ s with timers := s.timers.filter (· ≠ t), ringTimer := none }.onTimeout) := by
  rw [onTimeout, if_neg]
  · exact ⟨h.calls, h.ringing, h.connecting, h.nodup, h.pending, h.passed, h.fate, h.refused⟩
  · rw [Option.not_isSome_iff_eq_none]
    exact hnone

/-- One step of a run. -/
lemma step (h : Inv s) {e : Event} (hpossible : Interleaved s e) (hturn : InTurn s e) :
    Inv (s.step autoAnswer e) := by
  cases e with
  | invite callId fromFlat => exact h.onInvite hpossible hturn
  | placeCall flatNumber placed now =>
    exact h.withCalls (i := .placeCall flatNumber placed now) trivial
  | accept => exact h.accept
  | decline => exact h.decline
  | hangup => exact h.withCalls (i := .hangup) trivial
  | ringTimeout t => exact h.ringTimeout t hturn
  | connected callId => exact h.answer hpossible
  | answered w now => exact h.onAnswered w now hturn
  | answerFailed w => exact hpossible.elim
  | sipState k change now => exact h.withCalls (i := .sipState k change now) hturn

/-- A step that is out of turn orphans a call at once. -/
lemma inTurn (h : Inv s) {e : Event} (hpossible : Interleaved s e)
    (hleaves : LeavesAccounted autoAnswer s e) : InTurn s e := by
  cases e with
  | placeCall | accept | decline | hangup | connected | answerFailed => trivial
  | invite callId fromFlat =>
    rw [InTurn, or_iff_not_imp_left]
    intro hbusy
    rw [← not_or]
    intro hformed
    rw [LeavesAccounted, SipEnv.step, SipEnv.onInvite, if_neg hbusy, reportPush, parseWakeUp,
      if_pos hformed] at hleaves
    obtain ⟨c, hring, -⟩ | hconnecting :=
      hleaves.pending callId ((AList.mem_insert _).mpr (.inl rfl))
    · have hring : s.ringing = some c := hring
      rw [ringing_of_not_busy hbusy] at hring
      cases hring
    · exact hpossible (h.passed _ (h.connecting _ hconnecting))
  | ringTimeout t =>
    rw [InTurn]
    by_contra hne
    obtain ⟨c, hring⟩ := Option.ne_none_iff_exists'.mp hne
    obtain ⟨hpending, hnot⟩ := h.ringing c hring
    have hsome : (SipEnv.ringing { s with
        timers := s.timers.filter (· ≠ t)
        ringTimer := none }).isSome := Option.isSome_of_eq_some (by exact hring)
    rw [LeavesAccounted, SipEnv.step, onTimeout, if_pos hsome] at hleaves
    obtain ⟨d, hd, -⟩ | hconnecting := hleaves.pending c.callId hpending
    · exact ringing_ne_of_settled (settle_of_ringing hring .missed) (by simp) hd
    · exact hnot hconnecting
  | answered w now =>
    intro hactive
    have hrefused := hleaves.refused
    rw [SipEnv.step, SipEnv.onAnswered] at hrefused
    dsimp only at hrefused
    rw [if_pos hactive] at hrefused
    simp at hrefused
  | sipState k change now =>
    have hreached := hleaves.reached
    rw [SipEnv.step, callController_withCalls] at hreached
    exact h.calls.reportInTurn hreached

lemma leavesAccounted_iff (h : Inv s) {e : Event} (hpossible : Interleaved s e) :
    LeavesAccounted autoAnswer s e ↔ InTurn s e :=
  ⟨h.inTurn hpossible, fun hturn => (h.step hpossible hturn).accounted⟩

end Inv

/-- In every state of a run each INVITE is accounted for, if and only if no ring times out, each
caller that passes the gate is well-formed, each accept is answered while no call is up, and a
handle reports its end that is the current one, or while no call is up. -/
theorem inbound_accounted_iff (autoAnswer : Bool) (es : List Event)
    (hpossible : Along (step autoAnswer) Interleaved {} es) :
    Accounted {} ∧ Along (step autoAnswer) (LeavesAccounted autoAnswer) {} es ↔
      Along (step autoAnswer) InTurn {} es := by
  rw [and_iff_right Inv.init.accounted]
  exact Along.congr (fun s e hs he hturn => hs.step he hturn)
    (fun s e hs he => hs.leavesAccounted_iff he) hpossible Inv.init

/-- A ring that is accepted and hung up, and one that is declined. -/
def twoRings : List Event :=
  [.invite "1" "A-101", .accept, .connected "1", .answered ("1", "A-101") 5, .hangup,
    .sipState 0 ⟨.ended, none⟩ 9, .invite "2" "B-204", .decline]

theorem inbound_accounted_twoRings :
    Accounted {} ∧ Along (step false) (LeavesAccounted false) {} twoRings :=
  (inbound_accounted_iff false twoRings (by decide)).mpr (by decide)

/-- A ring times out, and the bridge keeps the INVITE, which is neither answered nor rejected. -/
theorem timeout_orphans : ¬ ∀ (autoAnswer : Bool) (es : List Event),
    Along (step autoAnswer) Interleaved {} es →
      Along (step autoAnswer) (LeavesAccounted autoAnswer) {} es := by
  intro hclaim
  obtain ⟨-, hleaves, -⟩ := hclaim false [.invite "1" "A-101", .ringTimeout 0] (by decide)
  obtain ⟨c, hring, -⟩ | hconnecting := hleaves.pending "1" (by decide)
  · exact absurd (Option.isSome_of_eq_some hring) (by decide)
  · exact absurd hconnecting (by decide)

end SipEnv
