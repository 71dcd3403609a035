import OnPremPbx.Calls.Admission

/-!
# A start that is delivered again

Asterisk can deliver the `StasisStart` of a channel more than once. The router has a guard against
it for callers with a call and for the leg that has won; admission and the conference have none.
-/

namespace CallRouter

/-- The request of an entry. -/
def Entry.request? : Entry → Option AriRequest
  | .request r _ => some r
  | _            => none

/-- The requests that were made. -/
def requests (s : CallRouter) : List AriRequest := s.log.filterMap Entry.request?

lemma requests_append {s t : CallRouter} {es : List Entry} (hlog : t.log = s.log ++ es) :
    t.requests = s.requests ++ es.filterMap Entry.request? := by
  rw [requests, hlog, List.filterMap_append, requests]

/-- No request is made while entries are added that are none. -/
lemma requests_eq_iff {s t : CallRouter} {es : List Entry} (hlog : t.log = s.log ++ es) :
    t.requests = s.requests ↔ ∀ e ∈ es, e.request? = none := by
  rw [requests_append hlog, List.append_right_eq_self, List.filterMap_eq_nil_iff]

/-- The tables stay, and no request is made. -/
structure Untouched (s t : CallRouter) : Prop where
  calls : t.calls = s.calls
  legToCaller : t.legToCaller = s.legToCaller
  requests : t.requests = s.requests

lemma Untouched.not_of_request {s t : CallRouter} {es : List Entry} {r : AriRequest} {status : ℤ}
    (hlog : t.log = s.log ++ es) (hmem : .request r status ∈ es) : ¬ Untouched s t := by
  intro h
  have hnone := (requests_eq_iff hlog).mp h.requests _ hmem
  cases hnone

/-- The start of a caller is a no-op exactly if it has a call. -/
lemma untouched_callerStart_iff (caller callerId dialedExt : String) (s : CallRouter) :
    Untouched s (s.onCallerStart caller callerId dialedExt) ↔ caller ∈ s.calls := by
  obtain ⟨es, hlog, hstep⟩ := step_onCallerStart caller callerId dialedExt s
  revert hlog hstep
  generalize s.onCallerStart caller callerId dialedExt = t
  intro hlog hstep
  cases hstep with
  | known hmem ht =>
    refine iff_of_true ⟨ht.calls, ht.legToCaller, ?_⟩ hmem
    rw [requests_eq_iff hlog]
    simp [Entry.request?]
  | noRoute hmem _ =>
    exact iff_of_false (Untouched.not_of_request hlog
      (List.mem_cons_of_mem _ (List.mem_append_right _ List.mem_cons_self))) hmem
  | rings hmem _ _ hcalls _ =>
    refine iff_of_false (fun h => hmem ?_) hmem
    rw [← h.calls, hcalls, AList.mem_insert]
    exact Or.inl rfl

/-- The start of a leg is a no-op exactly if it is the connected leg of the caller. -/
lemma untouched_legStart_iff (leg caller : String) (s : CallRouter) :
    Untouched s (s.onLegStart leg caller) ↔
      ∃ call, s.calls.lookup caller = some call ∧ call.connectedLeg ≠ "" ∧
        call.connectedLeg = leg := by
  obtain ⟨es, hlog, hstep⟩ := step_onLegStart leg caller s
  revert hlog hstep
  generalize s.onLegStart leg caller = t
  intro hlog hstep
  cases hstep with
  | tooLate hcall _ =>
    refine iff_of_false (Untouched.not_of_request hlog
      (List.mem_cons_of_mem _ List.mem_cons_self)) ?_
    rintro ⟨call, hcall', -⟩
    cases hcall.symm.trans hcall'
  | winner hcall hconn hleg ht =>
    refine iff_of_true ⟨ht.calls, ht.legToCaller, ?_⟩ ⟨_, hcall, hconn, hleg⟩
    rw [requests_eq_iff hlog]
    simp [Entry.request?]
  | loser hcall _ hleg _ _ =>
    refine iff_of_false (Untouched.not_of_request hlog
      (List.mem_cons_of_mem _ List.mem_cons_self)) ?_
    rintro ⟨call, hcall', -, hleg'⟩
    obtain rfl := Option.some.inj (hcall.symm.trans hcall')
    exact hleg hleg'
  | connects hcall hconn _ _ _ =>
    refine iff_of_false (Untouched.not_of_request hlog
      (List.mem_cons_of_mem _ List.mem_cons_self)) ?_
    rintro ⟨call, hcall', hne, -⟩
    obtain rfl := Option.some.inj (hcall.symm.trans hcall')
    exact hne hconn

end CallRouter

namespace AriClient

/-- Nothing changes, and no request is made. -/
structure NoOp (s t : AriClient) : Prop where
  activeBridges : t.activeBridges = s.activeBridges
  channels : t.channels = s.channels
  bridges : t.bridges = s.bridges
  cdrs : t.cdrs = s.cdrs
  published : t.published = s.published
  router : CallRouter.Untouched s.router t.router

/-- The start of the channel finds a guard: the leg is the connected one of its caller; or the
caller is below the cap, has not dialed the conference, and has a call. -/
def Guarded (ch : StasisChannel) (args : List JsonField) (channelId : String) (s : AriClient) :
    Prop :=
  match outboundCaller args with
  | some caller => ∃ call, s.router.calls.lookup caller = some call ∧ call.connectedLeg ≠ "" ∧
    call.connectedLeg = channelId
  | none        => s.overAdmissionCap = false ∧ calleeFlat ch args ≠ kConfExtension ∧
    channelId ∈ s.router.calls

/-- A request of the client itself. -/
lemma not_noOp_of_log {s t : AriClient} {es : List CallRouter.Entry} {r : AriRequest} {status : ℤ}
    (hlog : t.router.log = s.router.log ++ es) (hmem : .request r status ∈ es) : ¬ NoOp s t :=
  fun h => CallRouter.Untouched.not_of_request hlog hmem h.router

/-- Joining the conference begins with a request. -/
lemma log_handleConferenceJoin (channelId : String) (s : AriClient) :
    ∃ status es, (s.handleConferenceJoin channelId).router.log =
      s.router.log ++ (.request (.createBridge s.confBridge "mixing") status :: es) := by
  simp only [handleConferenceJoin]
  split_ifs
  · exact ⟨_, _, List.append_assoc _ _ _⟩
  · exact ⟨_, _, (congrArg (· ++ _) (List.append_assoc _ _ _)).trans (List.append_assoc _ _ _)⟩
  · exact ⟨_, _, List.append_assoc _ _ _⟩

/-- An admitted channel is enrolled again. -/
lemma enroll_of_mem {s : AriClient} {channelId : String} (hmem : channelId ∈ s.channels)
    (ch : StasisChannel) (name : String) (args : List JsonField) :
    s.enroll channelId ch name args = s.note (.admitted channelId s.script.now) := by
  rw [enroll, addChannel, if_pos]
  exact hmem

/-- An admitted caller is admitted again. -/
lemma noOp_admitCaller_iff {s : AriClient} {channelId : String} (hmem : channelId ∈ s.channels)
    (ch : StasisChannel) (name : String) (args : List JsonField) :
    NoOp s (s.admitCaller channelId ch name args) ↔
      calleeFlat ch args ≠ kConfExtension ∧ channelId ∈ s.router.calls := by
  rw [admitCaller_eq, enroll_of_mem hmem]
  split_ifs with hconf
  · obtain ⟨status, es, hlog⟩ :=
      log_handleConferenceJoin channelId (s.note (.admitted channelId s.script.now))
    refine iff_of_false (not_noOp_of_log hlog List.mem_cons_self) ?_
    intro h
    exact h.1 hconf
  · have huntouched := CallRouter.untouched_callerStart_iff channelId (s.callerFlat ch name)
      (calleeFlat ch args) s.router
    constructor
    · intro h
      exact ⟨hconf, huntouched.mp h.router⟩
    · rintro ⟨-, hcall⟩
      exact ⟨rfl, rfl, rfl, rfl, rfl, huntouched.mpr hcall⟩

/-- The start of a leg, or of a caller that is admitted and not yet destroyed. -/
lemma noOp_stasisStart_iff {s : AriClient} {ch : StasisChannel} {args : List JsonField}
    {channelId : String} (hid : ch.id = .text channelId)
    (hadmitted : (outboundCaller args).isSome ∨ channelId ∈ s.channels ∧ ch.name ≠ .other) :
    NoOp s (s.handleStasisStart (some ch) args) ↔ Guarded ch args channelId s := by
  simp only [handleStasisStart, hid, JsonField.string?, Guarded]
  rcases hout : outboundCaller args with _ | caller
  · rw [hout] at hadmitted
    obtain ⟨hmem, hname⟩ := hadmitted.resolve_left (by simp)
    obtain ⟨name, hvalue⟩ : ∃ name, ch.name.value = some name := by
      rcases hfield : ch.name with _ | name | _
      · exact ⟨"", rfl⟩
      · exact ⟨name, rfl⟩
      · exact absurd hfield hname
    simp only [hvalue]
    split_ifs with hcap
    · exact iff_of_false (not_noOp_of_log rfl List.mem_cons_self) (by simp [hcap])
    · rw [noOp_admitCaller_iff hmem]
      simp [hcap]
  · have huntouched := CallRouter.untouched_legStart_iff channelId caller s.router
    constructor
    · intro h
      exact huntouched.mp h.router
    · intro hwon
      exact ⟨rfl, rfl, rfl, rfl, rfl, huntouched.mpr hwon⟩

lemma noOp_setScript_iff {s t : AriClient} (script : Script) :
    NoOp (s.setScript script) t ↔ NoOp s t := by
  constructor
  · rintro ⟨h₁, h₂, h₃, h₄, h₅, h₆, h₇, h₈⟩
    exact ⟨h₁, h₂, h₃, h₄, h₅, h₆, h₇, h₈⟩
  · rintro ⟨h₁, h₂, h₃, h₄, h₅, h₆, h₇, h₈⟩
    exact ⟨h₁, h₂, h₃, h₄, h₅, h₆, h₇, h₈⟩

/-- In every reachable state: the start of a leg, or of a caller that is admitted and not yet
destroyed, is a no-op exactly if it finds a guard. -/
theorem redelivered_start_iff (cfg : Config) (appName : String) (is : List Input)
    (script : Script) (ch : StasisChannel) (args : List JsonField) (channelId : String)
    (hid : ch.id = .text channelId)
    (hadmitted : (outboundCaller args).isSome ∨
      channelId ∈ ((init cfg appName).run is).channels ∧ ch.name ≠ .other) :
    let s := (init cfg appName).run is
    NoOp s (s.step (.stasisStart (some ch) args, script)) ↔ Guarded ch args channelId s := by
  intro s
  have hguarded : Guarded ch args channelId (s.setScript script) ↔ Guarded ch args channelId s :=
    Iff.rfl
  rw [← noOp_setScript_iff script, ← hguarded]
  exact noOp_stasisStart_iff hid hadmitted

/-- The start of the caller `c`, which dials a flat. -/
def startOf (c : String) : AriEvent :=
  .stasisStart (some { id := .text c }) [.text "B-2"]

/-- One subscriber answers for the flat. -/
def oneSubscriber : Script :=
  { router := { subscribers := fun _ => some [{ sipUsername := some "a" }] } }

/-- A caller that rings is started again. -/
theorem redelivered_start_iff_ringing :
    let s := (init {} "pbx").run [(startOf "c", oneSubscriber)]
    NoOp s (s.step (startOf "c", oneSubscriber)) := by
  refine (redelivered_start_iff {} "pbx" [(startOf "c", oneSubscriber)] oneSubscriber _ _ "c" rfl
    (Or.inr ⟨by decide +kernel, by decide⟩)).mpr ?_
  refine ⟨by decide +kernel, by decide +kernel, by decide +kernel⟩

/-- With a cap of one, the only call is answered and its bridge is counted. When the start of its
caller is delivered again, the caller is sent back to the dialplan. -/
theorem live_call_bounced :
    let s := (init { maxConcurrentCalls := 1 } "pbx").run [(startOf "c", oneSubscriber),
      (.stasisStart (some { id := .text (CallRouter.legId "c" 0) })
        [.text "outbound", .text "c"], {}),
      (.bridgeCreated (.text (CallRouter.bridgeId "c")) (.text "mixing"), {})]
    "c" ∈ s.channels ∧ (s.router.calls.lookup "c").isSome ∧
      (s.step (startOf "c", oneSubscriber)).router.requests =
        s.router.requests ++ [.continueInDialplan "c" "pbx-busy" "s" 1] ∧
      ¬ NoOp s (s.step (startOf "c", oneSubscriber)) := by
  intro s
  have hbounced : (s.step (startOf "c", oneSubscriber)).router.requests =
      s.router.requests ++ [.continueInDialplan "c" "pbx-busy" "s" 1] := by decide +kernel
  refine ⟨by decide +kernel, by decide +kernel, hbounced, ?_⟩
  intro h
  have hsame := h.router.requests
  rw [hbounced, List.append_right_eq_self] at hsame
  cases hsame

end AriClient
