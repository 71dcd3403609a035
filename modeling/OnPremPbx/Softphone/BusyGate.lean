import OnPremPbx.Softphone.SipEnv

/-!
# The busy gate of the mobile app

A ring that was accepted is cleared by the end of a call. The gate stays closed after an accept that
leads to no call, if none is up or on its way.
-/

namespace SipEnv

open SipCallController (isCallActive)
open SipUa (SipCallStateChange)
open Transition

/-- No ring is in progress, no accept is pending and no call is up. -/
structure Idle (s : SipEnv) : Prop where
  ringing : s.ringing = none
  connecting : s.connecting = []
  answering : s.answering = []
  call : ¬ isCallActive s.callController.call

/-- How a call is shown that has come in. -/
def shown (autoAnswer : Bool) : RingState := if autoAnswer then .accepted else .ringing

/-- An INVITE with a well-formed caller is not rejected, but rings or is answered. -/
def Rings (autoAnswer : Bool) (s : SipEnv) : Prop :=
  ∀ callId fromFlat, callId ≠ "" → fromFlat ≠ "" →
    (s.onInvite autoAnswer callId fromFlat).rejected = s.rejected ∧
    (s.onInvite autoAnswer callId fromFlat).incoming =
      some ⟨shown autoAnswer, callId, fromFlat, fromFlat⟩

/-- The gate is open when nothing is in progress. -/
def Open (autoAnswer : Bool) (s : SipEnv) : Prop := s.Idle → s.Rings autoAnswer

/-- The gate is open after the step. -/
def LeavesOpen (autoAnswer : Bool) (s : SipEnv) (e : Event) : Prop :=
  Open autoAnswer (s.step autoAnswer e)

/-- An accept ends without a call only while another accept is pending, or a call is up, or the ring
has been cleared: one that fails, or whose INVITE the bridge does not know any more. -/
def NotLatching (s : SipEnv) : Event → Prop
  | .answerFailed w    =>
    s.isAccepted → isCallActive s.callController.call ∨ s.connecting ≠ [] ∨ s.answering ≠ [w]
  | .connected callId  =>
    callId ∉ s.pending → s.isAccepted →
      isCallActive s.callController.call ∨ s.connecting ≠ [callId] ∨ s.answering ≠ []
  | _                  => True

instance (s : SipEnv) : ∀ e, Decidable (s.NotLatching e)
  | .answerFailed _ => inferInstanceAs (Decidable (_ → _ ∨ _ ∨ _))
  | .connected _    => inferInstanceAs (Decidable (_ → _ → _ ∨ _ ∨ _))
  | .invite ..      => inferInstanceAs (Decidable True)
  | .placeCall ..   => inferInstanceAs (Decidable True)
  | .accept         => inferInstanceAs (Decidable True)
  | .decline        => inferInstanceAs (Decidable True)
  | .hangup         => inferInstanceAs (Decidable True)
  | .ringTimeout _  => inferInstanceAs (Decidable True)
  | .answered ..    => inferInstanceAs (Decidable True)
  | .sipState ..    => inferInstanceAs (Decidable True)

/-- A ring that was accepted has a call that is up or on its way. -/
def Unlatched (s : SipEnv) : Prop :=
  s.isAccepted → isCallActive s.callController.call ∨ s.connecting ≠ [] ∨ s.answering ≠ []

variable {autoAnswer : Bool} {s : SipEnv}

/-! ### INVITEs -/

lemma rejected_clearRingTimer : s.clearRingTimer.rejected = s.rejected := by
  rw [clearRingTimer]
  split <;> rfl

/-- A line that is not busy rings. -/
lemma rings_of_not_busy (h : ¬ s.isBusy) : s.Rings autoAnswer := by
  intro callId flat hid hflat
  have hnone := ringing_of_not_busy h
  have hpush := @reportPush_of_ringing_none { s with
    pending := s.pending.insert callId flat
    passed := s.passed ++ [callId] } hnone autoAnswer callId flat hid hflat
  rw [onInvite, if_neg h]
  dsimp only at hpush ⊢
  rw [hpush, shown]
  cases autoAnswer with
  | true =>
    rw [if_pos rfl, if_pos rfl, accept_of_ringing (ringing_eq_some.mpr ⟨rfl, rfl⟩)]
    exact ⟨rejected_clearRingTimer, rfl⟩
  | false => exact ⟨rfl, rfl⟩

/-- The gate is open when nothing is in progress if and only if no accepted ring is left over. -/
lemma open_iff : s.Open autoAnswer ↔ s.Unlatched := by
  constructor
  · intro hopen hacc
    by_contra hidle
    rw [not_or, not_or, not_not, not_not] at hidle
    obtain ⟨hcall, hconnecting, hanswering⟩ := hidle
    have hnone : s.ringing = none := by
      obtain ⟨c, hc, hstate⟩ := hacc
      rw [ringing, hc, Option.filter_some, hstate]
      rfl
    obtain ⟨hrejected, -⟩ := hopen ⟨hnone, hconnecting, hanswering, hcall⟩ "1" "A" (by decide)
      (by decide)
    rw [onInvite, if_pos (isBusy_iff.mpr (.inr (.inr hacc)))] at hrejected
    simp at hrejected
  · intro hunlatched hidle
    refine rings_of_not_busy fun hbusy => ?_
    obtain hcall | hring | hacc := isBusy_iff.mp hbusy
    · exact hidle.call hcall
    · rw [hidle.ringing] at hring
      cases hring
    · obtain hcall | hne | hne := hunlatched hacc
      · exact hidle.call hcall
      · exact hne hidle.connecting
      · exact hne hidle.answering

/-! ### Steps -/

lemma not_isAccepted_of_ringing {c : IncomingCall} (h : s.ringing = some c) : ¬ s.isAccepted := by
  obtain ⟨hc, hstate⟩ := ringing_eq_some.mp h
  rintro ⟨d, hd, hacc⟩
  rw [hc, Option.some.injEq] at hd
  rw [← hd, hstate] at hacc
  cases hacc

/-- The end of a call clears a ring that was accepted. -/
lemma not_isAccepted_clear : ¬ s.clear.isAccepted := by
  rw [clear]
  split
  case h_1 =>
    rintro ⟨c, hc, -⟩
    cases hc
  case h_2 c hc => exact not_isAccepted_of_ringing hc

/-- Whatever the calls do, no accepted ring is left over. -/
lemma Unlatched.withCalls (h : s.Unlatched) (i : SipCallController.Input) :
    (s.withCalls (s.callController.step i)).Unlatched := by
  rw [SipEnv.withCalls]
  split_ifs with htold
  · exact fun hacc => absurd hacc not_isAccepted_clear
  · intro hacc
    obtain hcall | hwait := h hacc
    · refine .inl ?_
      by_contra hdown
      exact htold (told_ended i hcall hdown)
    · exact .inr hwait

/-- A call that is adopted is up, unless another is. -/
lemma active_adopt (c : SipCallController) (peer : String) (now : ℤ) :
    isCallActive (c.adoptInboundCall peer now).call := by
  rw [SipCallController.adoptInboundCall]
  split_ifs with hactive
  · exact hactive
  · have hcall : ((({ c with weHungUp := false } : SipCallController).begin .inbound peer
        (.adopted ("sip:" ++ peer ++ "@pbx.local")) now).call) =
        SipCallController.callReducer c.call (.adopted ("sip:" ++ peer ++ "@pbx.local")) :=
      SipCallController.dispatch_call _ _
    rw [hcall, SipCallController.callReducer, if_neg hactive]
    exact .inr rfl

lemma unlatched_onAnswered (w : String × String) (now : ℤ) : (s.onAnswered w now).Unlatched := by
  intro _
  have hactive := active_adopt s.callController w.2 now
  rw [onAnswered]
  split_ifs
  · exact .inl (by simpa using hactive)
  · exact .inl (by simpa using hactive)

/-- A ring that is settled otherwise was not accepted. -/
lemma not_isAccepted_settle {state : RingState} (hstate : state ≠ .accepted) {c : IncomingCall}
    (hring : s.ringing = some c) {t : SipEnv} (ht : t.incoming = settle s.incoming state) :
    ¬ t.isAccepted := by
  obtain ⟨hc, hringing⟩ := ringing_eq_some.mp hring
  rintro ⟨d, hd, hacc⟩
  rw [ht, hc, settle, if_pos hringing, Option.some.injEq] at hd
  rw [← hd] at hacc
  exact hstate hacc

lemma incoming_reject (callId : String) (code : ℕ) :
    (s.reject callId code).incoming = s.incoming := by
  rw [reject]
  split <;> rfl

lemma Unlatched.accept (h : s.Unlatched) : s.accept.Unlatched := by
  cases hring : s.ringing with
  | none =>
    rw [SipEnv.accept, hring]
    exact h
  | some c =>
    rw [accept_of_ringing hring]
    exact fun _ => .inr (.inl (by simp))

lemma Unlatched.decline (h : s.Unlatched) : s.decline.Unlatched := by
  rw [SipEnv.decline]
  split
  case h_1 => exact h
  case h_2 c hring =>
    refine fun hacc => absurd hacc (@not_isAccepted_settle _ .declined (by decide) _ hring _ ?_)
    rw [incoming_reject, dispatch, incoming_clearRingTimer]
    rfl

lemma Unlatched.onTimeout (h : s.Unlatched) : s.onTimeout.Unlatched := by
  rw [SipEnv.onTimeout]
  split_ifs with hsome
  · obtain ⟨c, hring⟩ := Option.isSome_iff_exists.mp hsome
    exact fun hacc => absurd hacc (@not_isAccepted_settle _ .missed (by decide) _ hring _ rfl)
  · exact h

lemma Unlatched.onInvite (h : s.Unlatched) (callId fromFlat : String) :
    (s.onInvite autoAnswer callId fromFlat).Unlatched := by
  rw [SipEnv.onInvite]
  split_ifs with hbusy
  · exact h
  · have hnone := ringing_of_not_busy hbusy
    by_cases hformed : callId = "" ∨ fromFlat = ""
    · -- a malformed caller leaves the ring as it was
      rw [reportPush, parseWakeUp, if_pos hformed]
      exact h
    · obtain ⟨hid, hflat⟩ := not_or.mp hformed
      dsimp only
      rw [reportPush_of_ringing_none (by exact hnone) hid hflat]
      cases autoAnswer with
      | true =>
        rw [if_pos rfl, accept_of_ringing (ringing_eq_some.mpr ⟨rfl, rfl⟩)]
        exact fun _ => .inr (.inl (by simp))
      | false =>
        refine fun hacc => absurd hacc ?_
        exact not_isAccepted_of_ringing (c := ⟨.ringing, callId, fromFlat, fromFlat⟩)
          (ringing_eq_some.mpr ⟨rfl, rfl⟩)

/-- The connection is there: the INVITE is answered, or the bridge does not know it. -/
lemma unlatched_answer {callId : String} (hmem : callId ∈ s.connecting) :
    (s.answer callId).Unlatched ↔
      (callId ∉ s.pending → s.isAccepted →
        isCallActive s.callController.call ∨ s.connecting ≠ [callId] ∨ s.answering ≠ []) := by
  have herase : s.connecting.erase callId = [] ↔ s.connecting = [callId] := by
    rw [List.erase_eq_nil_iff]
    exact or_iff_right (List.ne_nil_of_mem hmem)
  rw [answer]
  split
  case h_1 hnone =>
    have habsent : callId ∉ s.pending := fun hin => by
      have hsome := AList.lookup_isSome.mpr hin
      rw [hnone] at hsome
      cases hsome
    rw [forall_prop_of_true habsent, Unlatched]
    simp only [ne_eq, herase]
    rfl
  case h_2 flat hsome =>
    have hin : callId ∈ s.pending := AList.lookup_isSome.mp (Option.isSome_of_eq_some hsome)
    exact ⟨fun _ habsent => absurd hin habsent, fun _ _ => .inr (.inr (by simp))⟩

lemma unlatched_answerFailed {w : String × String} (hmem : w ∈ s.answering) :
    Unlatched { s with answering := s.answering.erase w } ↔
      (s.isAccepted → isCallActive s.callController.call ∨ s.connecting ≠ [] ∨
        s.answering ≠ [w]) := by
  have herase : s.answering.erase w = [] ↔ s.answering = [w] := by
    rw [List.erase_eq_nil_iff]
    exact or_iff_right (List.ne_nil_of_mem hmem)
  rw [Unlatched]
  simp only [ne_eq, herase]
  rfl

/-- A step leaves the gate open exactly if no accept ends without a call that could clear it. -/
lemma Unlatched.step_iff (h : s.Unlatched) {e : Event} (hpossible : s.Possible e) :
    (s.step autoAnswer e).Unlatched ↔ s.NotLatching e := by
  cases e with
  | connected callId => exact unlatched_answer hpossible
  | answerFailed w => exact unlatched_answerFailed hpossible
  | invite callId fromFlat => exact iff_of_true (h.onInvite callId fromFlat) trivial
  | placeCall flatNumber placed now =>
    exact iff_of_true (h.withCalls (.placeCall flatNumber placed now)) trivial
  | accept => exact iff_of_true h.accept trivial
  | decline => exact iff_of_true h.decline trivial
  | hangup => exact iff_of_true (h.withCalls .hangup) trivial
  | ringTimeout t => exact iff_of_true (Unlatched.onTimeout h) trivial
  | answered w now => exact iff_of_true (unlatched_onAnswered w now) trivial
  | sipState k change now => exact iff_of_true (h.withCalls (.sipState k change now)) trivial

lemma unlatched_init : Unlatched {} := fun ⟨_, h, _⟩ => nomatch h

/-- In every state of a run the gate is open when nothing is in progress, if and only if in each
step an accept that ends without a call leaves a call or another accept behind, or was cleared. -/
theorem gate_opens_iff (autoAnswer : Bool) (es : List Event)
    (hpossible : Along (step autoAnswer) Possible {} es) :
    Open autoAnswer {} ∧ Along (step autoAnswer) (LeavesOpen autoAnswer) {} es ↔
      Along (step autoAnswer) NotLatching {} es := by
  rw [and_iff_right (open_iff.mpr unlatched_init)]
  refine Along.congr (P := Unlatched) (fun s e hs he hok => ?_) (fun s e hs he => ?_) hpossible
    unlatched_init
  · exact (hs.step_iff he).mpr hok
  · rw [LeavesOpen, open_iff]
    exact hs.step_iff he

/-- A ring that is accepted, the call that is hung up, and a ring that is declined. -/
def answeredAndDeclined : List Event :=
  [.invite "1" "A-101", .accept, .connected "1", .answered ("1", "A-101") 5, .hangup,
    .invite "2" "B-204", .decline]

theorem gate_opens_answeredAndDeclined :
    Open false {} ∧ Along (step false) (LeavesOpen false) {} answeredAndDeclined :=
  (gate_opens_iff false answeredAndDeclined (by decide)).mpr (by decide)

/-- An accept fails, and the app is busy from then on. -/
theorem failed_accept_latches : ¬ ∀ (autoAnswer : Bool) (es : List Event),
    Along (step autoAnswer) Possible {} es →
      Along (step autoAnswer) (LeavesOpen autoAnswer) {} es := by
  intro hclaim
  obtain ⟨-, -, -, hopen, -⟩ := hclaim false
    [.invite "1" "A-101", .accept, .connected "1", .answerFailed ("1", "A-101")] (by decide)
  rw [LeavesOpen, open_iff] at hopen
  exact absurd (hopen ⟨⟨.accepted, "1", "A-101", "A-101"⟩, by decide, rfl⟩) (by decide)

end SipEnv
