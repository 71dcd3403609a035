import OnPremPbx.Calls.AriSteps

/-!
# Admission

A caller is admitted while fewer bridges than the cap are counted. The count follows the events of
Asterisk, and a call has no bridge before it is answered: the callers that are still ringing are
not in it. The number of bridges is bounded in the runs in which they are.
-/

open Transition

namespace CallRouter

/-! ### Bridges of the router -/

/-- The bridge that the entry creates. -/
def createdBridge : Entry → Option String
  | .request (.createBridge bridge _) status => if isSuccess status then some bridge else none
  | _                                        => none

/-- The bridge is that of a call that no leg has answered. -/
def Awaited (bridge : String) (s : CallRouter) : Prop :=
  ∃ caller call, s.calls.lookup caller = some call ∧ call.connectedLeg = "" ∧
    bridge = bridgeId caller

/-- From `s` to `t` only bridges are created, and calls begun, whose bridge was awaited or is one
of the `wanted`. -/
def Commits (wanted : String → Prop) (s t : CallRouter) : Prop :=
  ∃ es, t.log = s.log ++ es ∧
    (∀ e ∈ es, ∀ b, createdBridge e = some b → Awaited b s ∨ wanted b) ∧
    ∀ b, Awaited b t → Awaited b s ∨ wanted b

section Awaited

variable {s t : CallRouter} {c b : String}

/-- The call of `c` is set, and its bridge is awaited only if it was. -/
lemma Awaited.of_insert {call call' : PendingCall} (h : Awaited b t)
    (hcalls : t.calls = s.calls.insert c call') (hcall : s.calls.lookup c = some call)
    (hconn : call'.connectedLeg = "" → call.connectedLeg = "") : Awaited b s := by
  obtain ⟨d, call'', hd, hempty, rfl⟩ := h
  rw [hcalls] at hd
  by_cases hdc : d = c
  · subst hdc
    rw [AList.lookup_insert] at hd
    obtain rfl := Option.some.inj hd
    exact ⟨d, call, hcall, hconn hempty, rfl⟩
  · rw [AList.lookup_insert_ne hdc] at hd
    exact ⟨d, call'', hd, hempty, rfl⟩

lemma Awaited.of_erase (h : Awaited b t) (hcalls : t.calls = s.calls.erase c) : Awaited b s := by
  obtain ⟨d, call, hd, hempty, rfl⟩ := h
  rw [hcalls] at hd
  by_cases hdc : d = c
  · subst hdc
    simp at hd
  · rw [AList.lookup_erase_ne hdc] at hd
    exact ⟨d, call, hd, hempty, rfl⟩

lemma Awaited.of_calls (h : Awaited b t) (hcalls : t.calls = s.calls) : Awaited b s := by
  obtain ⟨d, call, hd, hempty, rfl⟩ := h
  exact ⟨d, call, hcalls ▸ hd, hempty, rfl⟩

end Awaited

lemma HangsUp.not_createdBridge {legs : List String} {es : List Entry} (h : HangsUp legs es) :
    ∀ e ∈ es, createdBridge e = none := by
  intro e he
  obtain ⟨_, _, _, _, rfl⟩ := h.each e he
  rfl

lemma Rings.not_createdBridge {c : String} {s t : CallRouter} {es : List Entry}
    {ringing : List String} (h : Rings c s t es ringing) : ∀ e ∈ es, createdBridge e = none := by
  intro e he
  obtain ⟨_, _, _, _, _, _, rfl⟩ := h.each e he
  rfl

namespace Commits

variable {wanted : String → Prop} {s t u : CallRouter}

lemma refl (wanted : String → Prop) (s : CallRouter) : Commits wanted s s :=
  ⟨[], by simp, by simp, fun _ => Or.inl⟩

lemma trans (h : Commits wanted s t) (h' : Commits wanted t u) : Commits wanted s u := by
  obtain ⟨es, hlog, hcreated, hawaited⟩ := h
  obtain ⟨es', hlog', hcreated', hawaited'⟩ := h'
  have hback : ∀ b, Awaited b t ∨ wanted b → Awaited b s ∨ wanted b := by
    rintro b (hb | hb)
    · exact hawaited b hb
    · exact Or.inr hb
  refine ⟨es ++ es', by rw [hlog', hlog, List.append_assoc], ?_, ?_⟩
  · intro e he b hb
    obtain he | he := List.mem_append.mp he
    · exact hcreated e he b hb
    · exact hback b (hcreated' e he b hb)
  · intro b hb
    exact hback b (hawaited' b hb)

/-- A request, which creates a bridge only if that is wanted. -/
lemma demand {r : AriRequest} (s : CallRouter)
    (hr : ∀ b type, r = .createBridge b type → wanted b) : Commits wanted s (s.demand r) := by
  refine ⟨_, log_demand r s, ?_, fun b hb => Or.inl (hb.of_calls (calls_demand r s))⟩
  intro e he b hb
  rw [List.mem_singleton.mp he] at hb
  cases r with
  | createBridge bridge type =>
    simp only [createdBridge] at hb
    split_ifs at hb
    exact Or.inr (Option.some.inj hb ▸ hr bridge type rfl)
  | _ => cases hb

/-- A step that creates no bridge, and after which no further one is awaited. -/
lemma of_none {es : List Entry} (hlog : t.log = s.log ++ es)
    (hnone : ∀ e ∈ es, createdBridge e = none) (hback : ∀ b, Awaited b t → Awaited b s) :
    Commits wanted s t := by
  refine ⟨es, hlog, ?_, ?_⟩
  · intro e he b hb
    rw [hnone e he] at hb
    cases hb
  · intro b hb
    exact Or.inl (hback b hb)

lemma of_step {e : Event} {es : List Entry} (hlog : t.log = s.log ++ es) (h : Step s e t es)
    (hwanted : ∀ caller callerId dialedExt, e = .callerStart caller callerId dialedExt →
      wanted (bridgeId caller)) : Commits wanted s t := by
  cases h with
  | known _ ht => exact of_none hlog (by simp [createdBridge]) fun b hb => hb.of_calls ht.calls
  | tooLate _ ht => exact of_none hlog (by simp [createdBridge]) fun b hb => hb.of_calls ht.calls
  | winner _ _ _ ht =>
    exact of_none hlog (by simp [createdBridge]) fun b hb => hb.of_calls ht.calls
  | unknownGone _ _ ht =>
    exact of_none hlog (by simp [createdBridge]) fun b hb => hb.of_calls ht.calls
  | strayGone _ _ _ hcalls _ =>
    exact of_none hlog (by simp [createdBridge]) fun b hb => hb.of_calls hcalls
  | noRoute _ hrings =>
    apply of_none hlog
    · simpa [createdBridge, or_imp, forall_and] using hrings.not_createdBridge
    · intro b hb
      exact hb.of_calls hrings.calls
  | @rings caller _ _ _ _ _ _ _ hrings _ hcalls _ =>
    refine ⟨_, hlog, ?_, ?_⟩
    · intro e he b hb
      simp only [List.mem_cons, List.mem_append, List.not_mem_nil, or_false] at he
      obtain rfl | he | rfl := he
      · cases hb
      · rw [hrings.not_createdBridge e he] at hb
        cases hb
      · cases hb
    · rintro b ⟨d, call, hd, hempty, rfl⟩
      rw [hcalls] at hd
      by_cases hdc : d = caller
      · exact Or.inr (hdc ▸ hwanted _ _ _ rfl)
      · rw [AList.lookup_insert_ne hdc] at hd
        exact Or.inl ⟨d, call, hd, hempty, rfl⟩
  | loser hcall _ _ hcalls _ =>
    exact of_none hlog (by simp [createdBridge]) fun b hb => hb.of_insert hcalls hcall id
  | connects hcall hconn hhangs hcalls _ =>
    refine ⟨_, hlog, ?_, fun b hb => Or.inl (hb.of_insert hcalls hcall fun _ => hconn)⟩
    -- the bridge of the call is created
    intro e he b hb
    simp only [List.mem_cons] at he
    obtain rfl | rfl | rfl | rfl | rfl | he := he
    · cases hb
    · cases hb
    · simp only [createdBridge] at hb
      split_ifs at hb
      exact Or.inl ⟨_, _, hcall, hconn, (Option.some.inj hb).symm⟩
    · cases hb
    · cases hb
    · rw [hhangs.not_createdBridge e he] at hb
      cases hb
  | callerGone _ hhangs hcalls _ =>
    apply of_none hlog
    · simpa [createdBridge] using hhangs.not_createdBridge
    · intro b hb
      exact hb.of_erase hcalls
  | connectedGone _ _ _ _ hcalls _ =>
    exact of_none hlog (by simp [createdBridge]) fun b hb => hb.of_erase hcalls
  | ringingGone _ _ hcall _ _ hcalls _ =>
    exact of_none hlog (by simp [createdBridge]) fun b hb => hb.of_insert hcalls hcall id
  | lastGone _ _ _ _ _ hcalls _ =>
    exact of_none hlog (by simp [createdBridge]) fun b hb => hb.of_erase hcalls

/-- An entry point of the router. -/
lemma handle {e : Event} (s : CallRouter)
    (hwanted : ∀ caller callerId dialedExt, e = .callerStart caller callerId dialedExt →
      wanted (bridgeId caller)) : Commits wanted s (s.handle e) := by
  obtain ⟨es, hlog, hstep⟩ := step_handle e s
  exact of_step hlog hstep hwanted

end Commits

end CallRouter

namespace AriClient

/-! ### The count -/

/-- The client counts the bridges it has entries of. -/
def Counts (s : AriClient) : Prop := s.activeBridges = s.bridges.keys.length

lemma length_keys_insert {β : Type} {l : AList fun _ : String => β} {k : String} {v : β}
    (h : k ∉ l) : (l.insert k v).keys.length = l.keys.length + 1 := by
  rw [AList.keys_insert, List.length_cons, List.erase_of_not_mem h]

lemma length_keys_erase {β : Type} {l : AList fun _ : String => β} {k : String} (h : k ∈ l) :
    (l.erase k).keys.length + 1 = l.keys.length := by
  rw [AList.keys_erase, List.length_erase_of_mem h, Nat.sub_add_cancel]
  exact List.length_pos_of_mem h

lemma length_keys_modify {β : Type} (f : β → β) (k : String) (l : AList fun _ : String => β) :
    (modify k f l).keys.length = l.keys.length := by
  simp only [modify]
  rcases h : l.lookup k with _ | v
  · rfl
  · have hmem : k ∈ l := AList.lookup_isSome.mp (by rw [h]; rfl)
    have herase : (l.erase k).keys.length + 1 = l.keys.length := length_keys_erase hmem
    rw [AList.keys_erase] at herase
    rw [AList.keys_insert, List.length_cons, herase]

namespace Counts

variable {s t : AriClient}

lemma of_same (hs : s.Counts) (hactive : t.activeBridges = s.activeBridges)
    (hbridges : t.bridges = s.bridges) : t.Counts := by
  rw [Counts, hactive, hbridges]
  exact hs

lemma handleBridgeCreated (hs : s.Counts) (bridgeId : String) (type : JsonField) :
    (s.handleBridgeCreated (.text bridgeId) type).Counts := by
  simp only [AriClient.handleBridgeCreated, JsonField.string?]
  split_ifs with hmem
  · exact hs
  · rw [bridges_note] at hmem
    rw [Counts] at hs ⊢
    simp only [bridges_note, activeBridges_note, length_keys_insert hmem, hs]
    push_cast
    rfl

lemma handleBridgeDestroyed (hs : s.Counts) (bridgeId : String) :
    (s.handleBridgeDestroyed (.text bridgeId)).Counts := by
  simp only [AriClient.handleBridgeDestroyed, JsonField.string?]
  split_ifs with hmem hpos
  · have hlength := length_keys_erase hmem
    simp only [Counts, bridges_note, activeBridges_note] at hs hlength ⊢
    omega
  · have hlength := length_keys_erase hmem
    simp only [Counts, bridges_note, activeBridges_note] at hs hlength hpos
    omega
  · exact hs

theorem step {e : AriEvent} (hs : s.Counts) (h : Step s e t) : t.Counts := by
  cases h with
  | ignored => exact hs
  | published => exact hs.of_same rfl rfl
  | leg => exact hs.of_same rfl rfl
  | bounced => exact hs.of_same rfl rfl
  | @admitted ch args channelId name =>
    have hsame := sameClient_admitCaller channelId ch name args s
    rw [enroll_eq] at hsame
    exact hs.of_same hsame.activeBridges hsame.bridges
  | bridgeCreated bridgeId type => exact hs.handleBridgeCreated bridgeId type
  | bridgeDestroyed bridgeId => exact hs.handleBridgeDestroyed bridgeId
  | entered channelId bridgeId =>
    rw [Counts, enterBridge, length_keys_modify]
    exact hs
  | left => exact hs.of_same rfl rfl
  | destroyed channelId causeTxt =>
    rw [finishCall_eq]
    exact hs.of_same rfl rfl

end Counts

/-! ### The bridges that callers need -/

/-- The bridge of the caller that the event gets admitted. -/
def wantedBridge (e : AriEvent) (s : AriClient) : Option String :=
  match e with
  | .stasisStart (some ch) args =>
    match ch.id.string?, outboundCaller args with
    | some channelId, none =>
      if s.overAdmissionCap then none
      else if calleeFlat ch args = kConfExtension then some s.confBridge
      else some (CallRouter.bridgeId channelId)
    | _, _ => none
  | _ => none

lemma commits_handleConferenceJoin (channelId : String) (s : AriClient) :
    CallRouter.Commits (· = s.confBridge) s.router (s.handleConferenceJoin channelId).router := by
  have hcreate : CallRouter.Commits (· = s.confBridge) s.router
      (s.router.demand (.createBridge s.confBridge "mixing")) :=
    .demand s.router (by simp)
  set t := s.router.demand (.createBridge s.confBridge "mixing")
  have hadd : CallRouter.Commits (· = s.confBridge) t
      (t.demand (.addChannelToBridge s.confBridge channelId)) := .demand t (by simp)
  set u := t.demand (.addChannelToBridge s.confBridge channelId)
  simp only [handleConferenceJoin]
  split_ifs
  · exact hcreate.trans hadd
  · exact (hcreate.trans hadd).trans (.demand u (by simp))
  · exact hcreate.trans (.demand t (by simp))

/-- Bridges are created only for calls that were ringing and for the caller that is admitted. -/
lemma commits_step {s t : AriClient} {e : AriEvent} (h : Step s e t) :
    CallRouter.Commits (· ∈ s.wantedBridge e) s.router t.router := by
  cases h with
  | ignored => exact .refl _ _
  | published => exact .refl _ _
  | leg leg caller => exact .handle (e := .legStart leg caller) s.router (by simp)
  | bounced channelId => exact .demand s.router (by simp)
  | @admitted ch args channelId name hid hout hcap _ =>
    rw [admitCaller_eq]
    split_ifs with hconf
    · have hwanted : s.wantedBridge (.stasisStart (some ch) args) = some s.confBridge := by
        simp [wantedBridge, hid, JsonField.string?, hout, hcap, hconf]
      have hjoin := commits_handleConferenceJoin channelId (s.enroll channelId ch name args)
      rw [hwanted]
      rw [router_enroll] at hjoin
      have hbridge : (s.enroll channelId ch name args).confBridge = s.confBridge := by
        rw [enroll_eq]
        rfl
      simpa [hbridge, eq_comm] using hjoin
    · have hwanted : s.wantedBridge (.stasisStart (some ch) args) =
          some (CallRouter.bridgeId channelId) := by
        simp [wantedBridge, hid, JsonField.string?, hout, hcap, hconf]
      rw [hwanted, router_withRouter, router_enroll]
      refine .handle (e := .callerStart channelId (s.callerFlat ch name) (calleeFlat ch args))
        s.router fun _ _ _ heq => ?_
      cases heq
      rfl
  | bridgeCreated bridgeId type =>
    rw [router_handleBridgeCreated]
    exact .refl _ _
  | bridgeDestroyed bridgeId =>
    rw [router_handleBridgeDestroyed]
    exact .refl _ _
  | entered => exact .refl _ _
  | left => exact .refl _ _
  | destroyed channelId causeTxt =>
    rw [finishCall_eq]
    exact .handle (e := .channelGone channelId) s.router (by simp)

end AriClient

/-! ### The exchange -/

/-- The client with the bridges that exist in Asterisk. -/
structure Exchange where
  client : AriClient
  live : Finset String := ∅

namespace Exchange

inductive Input where
  | event (i : AriClient.Input)
  | bridgeEnds (bridgeId : String)

/-- A bridge exists from the request that creates it to its end, of which the client hears later
or never. -/
def step (x : Exchange) : Input → Exchange
  | .event i         =>
    let t := x.client.step i
    let created := (t.router.log.drop x.client.router.log.length).filterMap
      CallRouter.createdBridge
    { client := t, live := x.live ∪ created.toFinset }
  | .bridgeEnds bridgeId => { x with live := x.live.erase bridgeId }

def run (x : Exchange) (is : List Input) : Exchange := is.foldl step x

def init (cfg : AriClient.Config) (appName : String) : Exchange :=
  { client := AriClient.init cfg appName }

/-- The bridges that exist, and those of the calls that are still ringing. -/
def due (x : Exchange) : Finset String :=
  x.live ∪ ((x.client.router.calls.entries.filter fun call => call.2.connectedLeg = "").map
    fun call => CallRouter.bridgeId call.1).toFinset

/-- A caller is admitted only if its bridge is at most the last one that the cap allows, with the
bridges of the calls that are still ringing counted. -/
def Fits (x : Exchange) : Input → Prop
  | .event i      => ∀ b ∈ (x.client.setScript i.2).wantedBridge i.1,
    (insert b x.due).card ≤ x.client.cfg.maxConcurrentCalls.toNat
  | .bridgeEnds _ => True

instance (x : Exchange) : ∀ i, Decidable (x.Fits i)
  | .event i      => inferInstanceAs (Decidable (∀ b ∈ (x.client.setScript i.2).wantedBridge i.1,
    (insert b x.due).card ≤ x.client.cfg.maxConcurrentCalls.toNat))
  | .bridgeEnds _ => .isTrue trivial

lemma mem_due {x : Exchange} {b : String} :
    b ∈ x.due ↔ b ∈ x.live ∨ CallRouter.Awaited b x.client.router := by
  simp only [due, Finset.mem_union, List.mem_toFinset, List.mem_map, List.mem_filter,
    CallRouter.Awaited, decide_eq_true_eq]
  refine or_congr_right ⟨?_, ?_⟩
  · rintro ⟨⟨caller, call⟩, ⟨hmem, hempty⟩, rfl⟩
    exact ⟨caller, call, AList.mem_lookup_iff.mpr hmem, hempty, rfl⟩
  · rintro ⟨caller, call, hcall, hempty, rfl⟩
    exact ⟨⟨caller, call⟩, ⟨AList.mem_lookup_iff.mp hcall, hempty⟩, rfl⟩

/-- What is due after an event was due before, or is the bridge of the caller it gets admitted. -/
lemma due_event (x : Exchange) (i : AriClient.Input) :
    ∀ b ∈ (x.step (.event i)).due,
      b ∈ x.due ∨ b ∈ (x.client.setScript i.2).wantedBridge i.1 := by
  obtain ⟨es, hlog, hcreated, hawaited⟩ :=
    AriClient.commits_step (AriClient.step_onEvent i.1 (x.client.setScript i.2))
  intro b hb
  rw [mem_due] at hb ⊢
  obtain hb | hb := hb
  · obtain hb | hb := Finset.mem_union.mp hb
    · exact Or.inl (Or.inl hb)
    · have hdrop : (x.client.step i).router.log.drop x.client.router.log.length = es := by
        rw [show (x.client.step i).router.log = x.client.router.log ++ es from hlog,
          List.drop_left]
      rw [hdrop, List.mem_toFinset, List.mem_filterMap] at hb
      obtain ⟨e, he, hcreates⟩ := hb
      exact (hcreated e he b hcreates).imp_left Or.inr
  · exact (hawaited b hb).imp_left Or.inr

/-- No more bridges are due than the cap of the client allows. -/
def Bounded (x : Exchange) : Prop := x.due.card ≤ x.client.cfg.maxConcurrentCalls.toNat

lemma cfg_step (x : Exchange) (i : Input) : (x.step i).client.cfg = x.client.cfg := by
  cases i with
  | event i =>
    have hkept := AriClient.kept_step (AriClient.step_onEvent i.1 (x.client.setScript i.2))
    exact hkept.1
  | bridgeEnds bridgeId => rfl

lemma Bounded.step {x : Exchange} {i : Input} (hx : x.Bounded) (hfits : x.Fits i) :
    (x.step i).Bounded := by
  rw [Bounded, cfg_step]
  cases i with
  | event i =>
    rcases hwanted : (x.client.setScript i.2).wantedBridge i.1 with _ | b
    · have hsubset : (x.step (.event i)).due ⊆ x.due := by
        intro b hb
        obtain hb | hb := due_event x i b hb
        · exact hb
        · rw [hwanted] at hb
          cases hb
      exact (Finset.card_le_card hsubset).trans hx
    · have hsubset : (x.step (.event i)).due ⊆ insert b x.due := by
        intro d hd
        rw [Finset.mem_insert]
        obtain hd | hd := due_event x i d hd
        · exact Or.inr hd
        · rw [hwanted] at hd
          exact Or.inl (Option.some.inj hd).symm
      exact (Finset.card_le_card hsubset).trans (hfits b hwanted)
  | bridgeEnds bridgeId =>
    have hsubset : (x.step (.bridgeEnds bridgeId)).due ⊆ x.due := by
      intro b hb
      rw [mem_due] at hb ⊢
      exact hb.imp_left Finset.mem_of_mem_erase
    exact (Finset.card_le_card hsubset).trans hx

lemma counts_step {x : Exchange} (i : Input) (hx : x.client.Counts) :
    (x.step i).client.Counts := by
  cases i with
  | event i =>
    have hscript : (x.client.setScript i.2).Counts := hx
    exact hscript.step (AriClient.step_onEvent i.1 (x.client.setScript i.2))
  | bridgeEnds bridgeId => exact hx

lemma cfg_run (x : Exchange) (is : List Input) : (x.run is).client.cfg = x.client.cfg :=
  run_invariant (P := fun y : Exchange => y.client.cfg = x.client.cfg)
    (fun y i hy => (cfg_step y i).trans hy) rfl is

/-- In every run the client counts the bridges that it has entries of; and if every caller fits
when it is admitted, there are never more bridges than the cap allows. -/
theorem admission_control (cfg : AriClient.Config) (appName : String) (is : List Input) :
    let x := (init cfg appName).run is
    x.client.activeBridges = x.client.bridges.keys.length ∧
      (Along step Fits (init cfg appName) is → x.live.card ≤ cfg.maxConcurrentCalls.toNat) := by
  intro x
  constructor
  · have hcounts : (init cfg appName).client.Counts := rfl
    exact run_invariant (P := fun y : Exchange => y.client.Counts)
      (fun y i hy => counts_step i hy) hcounts is
  · intro hfits
    have hstart : (init cfg appName).Bounded := Nat.zero_le _
    have hbounded : x.Bounded :=
      hfits.invariant (P := Bounded) (fun y i hi hy => hy.step hi) hstart
    have hlive : x.live ⊆ x.due := fun b hb => mem_due.mpr (Or.inl hb)
    have hcfg : x.client.cfg = cfg := cfg_run _ is
    rw [Bounded, hcfg] at hbounded
    exact (Finset.card_le_card hlive).trans hbounded

/-- The start of the caller `c`, which dials a flat with one subscriber. -/
def dials (c : String) : Input :=
  .event (.stasisStart (some { id := .text c }) [.text "B-2"],
    { router := { subscribers := fun _ => some [{ sipUsername := some "a" }] } })

/-- The first leg of the caller `c` answers. -/
def answers (c : String) : Input :=
  .event (.stasisStart (some { id := .text (CallRouter.legId c 0) })
    [.text "outbound", .text c], {})

/-- A cap of one, and one call after the other. -/
theorem admission_control_in_turn :
    let is := [dials "c", answers "c", .bridgeEnds (CallRouter.bridgeId "c"), dials "d",
      answers "d"]
    let x := (init { maxConcurrentCalls := 1 } "pbx").run is
    x.live = {CallRouter.bridgeId "d"} ∧ x.live.card ≤ 1 := by
  refine ⟨by decide +kernel, ?_⟩
  exact (admission_control { maxConcurrentCalls := 1 } "pbx" _).2 (by decide +kernel)

/-- A cap of one, and two callers that ring before either is answered. The client hears of the
first bridge at once, and there are two bridges all the same. -/
theorem two_bridges_under_cap_one :
    let x := (init { maxConcurrentCalls := 1 } "pbx").run [dials "c", dials "d", answers "c",
      .event (.bridgeCreated (.text (CallRouter.bridgeId "c")) (.text "mixing"), {}),
      answers "d"]
    ¬ x.live.card ≤ 1 := by
  decide +kernel

end Exchange
