import OnPremPbx.Calls.Router

/-!
# What the router does

Every entry point of the router adds entries to the record and changes the two tables. The lemmas
here say which, so that an invariant of the router is about these changes only.
-/

namespace CallRouter

/-! ### Entries of the record -/

/-- The entry is a leg's originate request that succeeded. -/
def originated (leg : String) : Entry → Bool
  | .request (.originate _ _ _ leg' _) status => leg' = leg ∧ isSuccess status
  | _                                         => false

/-- The entry is a request to hang the channel up. -/
def hungUp (channelId : String) : Entry → Bool
  | .request (.hangup channelId' _) _ => channelId' = channelId
  | _                                 => false

/-- The entry is a report that the channel is gone. -/
def reportedGone (channelId : String) : Entry → Bool
  | .gone channelId' _ => channelId' = channelId
  | _                  => false

/-! ### Requests -/

@[simp] lemma calls_note (e : Entry) (s : CallRouter) : (s.note e).calls = s.calls := rfl
@[simp] lemma legToCaller_note (e : Entry) (s : CallRouter) :
    (s.note e).legToCaller = s.legToCaller := rfl
@[simp] lemma log_note (e : Entry) (s : CallRouter) : (s.note e).log = s.log ++ [e] := rfl

@[simp] lemma calls_demand (r : AriRequest) (s : CallRouter) : (s.demand r).calls = s.calls := rfl
@[simp] lemma legToCaller_demand (r : AriRequest) (s : CallRouter) :
    (s.demand r).legToCaller = s.legToCaller := rfl
@[simp] lemma log_demand (r : AriRequest) (s : CallRouter) :
    (s.demand r).log = s.log ++ [.request r (s.script.statuses.headD 200)] := rfl

/-- `t` has the tables of `s`. -/
structure SameTables (s t : CallRouter) : Prop where
  calls : t.calls = s.calls
  legToCaller : t.legToCaller = s.legToCaller

/-- `t` is `s` after requests and reports that leave the tables alone. -/
structure Asks (s t : CallRouter) (es : List Entry) : Prop extends SameTables s t where
  log : t.log = s.log ++ es

lemma asks_hangup (c reason : String) (s : CallRouter) :
    ∃ status, Asks s (s.hangup c reason) [.request (.hangup c reason) status] :=
  ⟨_, ⟨rfl, rfl⟩, rfl⟩

lemma Asks.trans {s t u : CallRouter} {es es' : List Entry} (h : Asks s t es)
    (h' : Asks t u es') : Asks s u (es ++ es') where
  calls := h'.calls.trans h.calls
  legToCaller := h'.legToCaller.trans h.legToCaller
  log := by rw [h'.log, h.log, List.append_assoc]

/-- `es` are requests to hang up each of the legs, and nothing else. -/
structure HangsUp (legs : List String) (es : List Entry) : Prop where
  each : ∀ e ∈ es, ∃ leg ∈ legs, ∃ reason status, e = .request (.hangup leg reason) status
  all : ∀ leg ∈ legs, ∃ e ∈ es, hungUp leg e = true

lemma HangsUp.append {legs legs' : List String} {es es' : List Entry} (h : HangsUp legs es)
    (h' : HangsUp legs' es') : HangsUp (legs ++ legs') (es ++ es') where
  each e he := by
    obtain he | he := List.mem_append.mp he
    · obtain ⟨leg, hleg, heq⟩ := h.each e he
      exact ⟨leg, List.mem_append_left _ hleg, heq⟩
    · obtain ⟨leg, hleg, heq⟩ := h'.each e he
      exact ⟨leg, List.mem_append_right _ hleg, heq⟩
  all leg hleg := by
    obtain hleg | hleg := List.mem_append.mp hleg
    · obtain ⟨e, he, heq⟩ := h.all leg hleg
      exact ⟨e, List.mem_append_left _ he, heq⟩
    · obtain ⟨e, he, heq⟩ := h'.all leg hleg
      exact ⟨e, List.mem_append_right _ he, heq⟩

lemma asks_hangupAll (legs : List String) (reason : String) (s : CallRouter) :
    ∃ es, Asks s (s.hangupAll legs reason) es ∧ HangsUp legs es := by
  induction legs generalizing s with
  | nil => exact ⟨[], ⟨⟨rfl, rfl⟩, by simp [hangupAll]⟩, ⟨by simp, by simp⟩⟩
  | cons leg legs ih =>
    obtain ⟨status, hfirst⟩ := asks_hangup leg reason s
    obtain ⟨es, hrest, heach, hall⟩ := ih (s.hangup leg reason)
    refine ⟨_, hfirst.trans hrest, ?_, ?_⟩
    · intro e he
      obtain rfl | he := List.mem_cons.mp he
      · exact ⟨leg, List.mem_cons_self, reason, status, rfl⟩
      · obtain ⟨l, hl, h⟩ := heach e he
        exact ⟨l, List.mem_cons_of_mem _ hl, h⟩
    · intro l hl
      obtain rfl | hl := List.mem_cons.mp hl
      · exact ⟨_, List.mem_cons_self, by simp [hungUp]⟩
      · obtain ⟨e, he, h⟩ := hall l hl
        exact ⟨e, List.mem_cons_of_mem _ he, h⟩

/-! ### Leg ids -/

/-- A leg id is not empty. -/
lemma legId_ne_empty (caller : String) (i : ℕ) : legId caller i ≠ "" := by
  intro h
  have := congrArg String.length h
  simp [legId] at this

private lemma hyphen_notMem_toDigits (i : ℕ) : '-' ∉ Nat.toDigits 10 i := by
  intro h
  have hdigit := Nat.isDigit_of_mem_toDigits (by decide) (by decide) h
  revert hdigit
  decide

/-- Texts that agree agree on both sides of their last hyphen. -/
private lemma split_last_hyphen {xs ys us vs : List Char} (hu : '-' ∉ us) (hv : '-' ∉ vs)
    (h : xs ++ '-' :: us = ys ++ '-' :: vs) : xs = ys ∧ us = vs := by
  rw [List.append_eq_append_iff] at h
  obtain ⟨as, rfl, h⟩ | ⟨as, rfl, h⟩ := h
  · rcases as with _ | ⟨a, as⟩
    · simp_all
    · obtain ⟨rfl, rfl⟩ := List.cons.inj h
      simp at hu
  · rcases as with _ | ⟨a, as⟩
    · simp_all
    · obtain ⟨rfl, rfl⟩ := List.cons.inj h
      simp at hv

/-- A leg id tells the caller and the number of the leg: the number is what follows the last
hyphen. -/
lemma legId_inj {c d : String} {i j : ℕ} (h : legId c i = legId d j) : c = d ∧ i = j := by
  have hlist : ∀ (c : String) (i : ℕ), (legId c i).toList =
      (c.toList ++ ['-', 'l', 'e', 'g']) ++ '-' :: Nat.toDigits 10 i := by
    intro c i
    simp only [legId, String.toList_append, toString, Nat.toList_repr]
    simp
  have hsplit := congrArg String.toList h
  rw [hlist, hlist] at hsplit
  obtain ⟨hc, hi⟩ :=
    split_last_hyphen (hyphen_notMem_toDigits i) (hyphen_notMem_toDigits j) hsplit
  refine ⟨String.toList_inj.mp (List.append_cancel_right hc), ?_⟩
  have hvalue := congrArg (fun l => Nat.ofDigitChars 10 l 0) hi
  simpa using hvalue

/-! ### Ringing -/

/-- `t` is `s` after the targets of a caller were rung, with the requests `es` and the legs
`ringing`, which are recorded as legs of the caller. -/
structure Rings (caller : String) (s t : CallRouter) (es : List Entry) (ringing : List String) :
    Prop where
  calls : t.calls = s.calls
  each : ∀ e ∈ es, ∃ endpoint app appArgs i callerId status,
    e = .request (.originate endpoint app appArgs (legId caller i) callerId) status
  mem : ∀ leg, leg ∈ ringing ↔ ∃ e ∈ es, originated leg e = true
  nodup : ringing.Nodup
  lookup : ∀ leg, t.legToCaller.lookup leg =
    if leg ∈ ringing then some caller else s.legToCaller.lookup leg

namespace Rings

variable {caller : String} {s t : CallRouter} {es : List Entry} {ringing : List String}

lemma start {s t : CallRouter} (hcalls : t.calls = s.calls)
    (hlegs : t.legToCaller = s.legToCaller) : Rings caller s t [] [] where
  calls := hcalls
  each := by simp
  mem := by simp
  nodup := List.nodup_nil
  lookup := by simp [hlegs]

/-- One more target is rung. -/
lemma originate (h : Rings caller s t es ringing) (callerId user : String) (i : ℕ) :
    let out := t.originateLeg caller callerId user i
    ∃ e, out.1.log = t.log ++ [e] ∧ Rings caller s
      (if isSuccess out.2 then out.1.recordLeg (legId caller i) caller else out.1) (es ++ [e])
      (if isSuccess out.2 then ringing.insert (legId caller i) else ringing) := by
  intro out
  set e : Entry := .request (.originate ("PJSIP/" ++ user) t.appName
    (kOutboundTag ++ "," ++ caller) (legId caller i) callerId) out.2 with he
  have heach : ∀ e' ∈ es ++ [e], ∃ endpoint app appArgs i callerId status,
      e' = .request (.originate endpoint app appArgs (legId caller i) callerId) status := by
    intro e' he'
    obtain he' | he' := List.mem_append.mp he'
    · exact h.each e' he'
    · exact ⟨_, _, _, i, _, _, List.mem_singleton.mp he'⟩
  have hnew : ∀ leg, originated leg e = true ↔ legId caller i = leg ∧ isSuccess out.2 = true := by
    intro leg
    simp [he, originated]
  refine ⟨e, rfl, ?_⟩
  split_ifs with hok
  · refine ⟨h.calls, heach, ?_, h.nodup.insert, ?_⟩
    · intro leg
      rw [List.mem_insert_iff, h.mem]
      simp only [List.mem_append, List.mem_singleton, or_and_right, exists_or, exists_eq_left,
        hnew, hok, and_true]
      rw [or_comm, eq_comm]
    · intro leg
      simp only [recordLeg, List.mem_insert_iff]
      by_cases hleg : leg = legId caller i
      · rw [if_pos (Or.inl hleg), hleg, AList.lookup_insert]
      · rw [AList.lookup_insert_ne hleg]
        have hlookup : out.1.legToCaller = t.legToCaller := rfl
        rw [hlookup, h.lookup]
        simp [hleg]
  · refine ⟨h.calls, heach, ?_, h.nodup, h.lookup⟩
    intro leg
    rw [h.mem]
    simp [or_and_right, exists_or, hnew, hok]

end Rings

lemma rings_ringTargets {caller : String} {s t : CallRouter} {es : List Entry}
    {ringing : List String} (h : Rings caller s t es ringing) (callerId : String) (i : ℕ)
    (targets : List String) :
    let out := t.ringTargets caller callerId i targets ringing
    ∃ es', out.1.log = t.log ++ es' ∧ Rings caller s out.1 (es ++ es') out.2 := by
  induction targets generalizing i t es ringing with
  | nil => exact ⟨[], by simp [ringTargets], by simpa [ringTargets] using h⟩
  | cons user rest ih =>
    obtain ⟨e, hlog, hnext⟩ := h.originate callerId user i
    have hrest := ih hnext (i + 1)
    simp only [ringTargets]
    split_ifs at hrest ⊢ with hok
    · obtain ⟨es', hlog', hes'⟩ := hrest
      refine ⟨e :: es', ?_, ?_⟩
      · rw [hlog', recordLeg, hlog, List.append_assoc, List.singleton_append]
      · rwa [← List.append_cons] at hes'
    · obtain ⟨es', hlog', hes'⟩ := hrest
      refine ⟨e :: es', ?_, ?_⟩
      · rw [hlog', hlog, List.append_assoc, List.singleton_append]
      · rwa [← List.append_cons] at hes'

/-! ### Steps -/

/-- What handling an event can do, with the entries it adds to the record. -/
inductive Step (s : CallRouter) : Event → CallRouter → List Entry → Prop
  /-- the caller has a call -/
  | known {caller callerId dialedExt : String} {t : CallRouter} (hmem : caller ∈ s.calls)
      (ht : SameTables s t) :
      Step s (.callerStart caller callerId dialedExt) t [.callerStart caller]
  /-- there is nothing to ring, or every originate failed -/
  | noRoute {caller callerId dialedExt reason : String} {t : CallRouter} {es : List Entry}
      {status : ℤ} (hmem : caller ∉ s.calls) (ht : Rings caller s t es []) :
      Step s (.callerStart caller callerId dialedExt) t
        (.callerStart caller :: (es ++ [.request (.hangup caller reason) status]))
  | rings {caller callerId dialedExt : String} {t u : CallRouter} {es : List Entry}
      {ringing : List String} (hmem : caller ∉ s.calls) (hu : Rings caller s u es ringing)
      (hne : ringing ≠ [])
      (hcalls : t.calls = s.calls.insert caller { dialedExt := dialedExt, ringingLegs := ringing })
      (hlegs : t.legToCaller = u.legToCaller) :
      Step s (.callerStart caller callerId dialedExt) t
        (.callerStart caller :: (es ++ [.began caller]))
  /-- the caller has no call any more -/
  | tooLate {leg caller reason : String} {t : CallRouter} {status : ℤ}
      (hcall : s.calls.lookup caller = none) (ht : SameTables s t) :
      Step s (.legStart leg caller) t [.legStart leg caller, .request (.hangup leg reason) status]
  | winner {leg caller : String} {t : CallRouter} {call : PendingCall}
      (hcall : s.calls.lookup caller = some call) (hconn : call.connectedLeg ≠ "")
      (hleg : call.connectedLeg = leg) (ht : SameTables s t) :
      Step s (.legStart leg caller) t [.legStart leg caller]
  | loser {leg caller reason : String} {t : CallRouter} {call : PendingCall} {status : ℤ}
      (hcall : s.calls.lookup caller = some call) (hconn : call.connectedLeg ≠ "")
      (hleg : call.connectedLeg ≠ leg)
      (hcalls : t.calls =
        s.calls.insert caller { call with ringingLegs := call.ringingLegs.erase leg })
      (hlegs : t.legToCaller = s.legToCaller) :
      Step s (.legStart leg caller) t [.legStart leg caller, .request (.hangup leg reason) status]
  /-- the first answer -/
  | connects {leg caller : String} {t : CallRouter} {call : PendingCall} {es : List Entry}
      {a b c d : ℤ} (hcall : s.calls.lookup caller = some call) (hconn : call.connectedLeg = "")
      (hes : HangsUp (call.ringingLegs.erase leg) es)
      (hcalls : t.calls =
        s.calls.insert caller { call with connectedLeg := leg, ringingLegs := [] })
      (hlegs : t.legToCaller = s.legToCaller) :
      Step s (.legStart leg caller) t (.legStart leg caller :: .request (.answer caller) a ::
        .request (.createBridge (bridgeId caller) "mixing") b ::
        .request (.addChannelToBridge (bridgeId caller) caller) c ::
        .request (.addChannelToBridge (bridgeId caller) leg) d :: es)
  | callerGone {caller : String} {t : CallRouter} {call : PendingCall} {es : List Entry}
      (hcall : s.calls.lookup caller = some call)
      (hes : HangsUp (call.ringingLegs ++ if call.connectedLeg = "" then [] else
        [call.connectedLeg]) es)
      (hcalls : t.calls = s.calls.erase caller) (hlegs : t.legToCaller = s.legToCaller) :
      Step s (.channelGone caller) t (.gone caller true :: es)
  | unknownGone {channelId : String} {t : CallRouter} (hcall : s.calls.lookup channelId = none)
      (hleg : s.legToCaller.lookup channelId = none) (ht : SameTables s t) :
      Step s (.channelGone channelId) t [.gone channelId false]
  /-- a leg whose caller has no call any more -/
  | strayGone {leg caller : String} {t : CallRouter} (hgone : s.calls.lookup leg = none)
      (hleg : s.legToCaller.lookup leg = some caller) (hcall : s.calls.lookup caller = none)
      (hcalls : t.calls = s.calls) (hlegs : t.legToCaller = s.legToCaller.erase leg) :
      Step s (.channelGone leg) t [.gone leg false]
  | connectedGone {leg caller reason : String} {t : CallRouter} {call : PendingCall} {status : ℤ}
      (hgone : s.calls.lookup leg = none) (hleg : s.legToCaller.lookup leg = some caller)
      (hcall : s.calls.lookup caller = some call) (hconn : leg = call.connectedLeg)
      (hcalls : t.calls = s.calls.erase caller) (hlegs : t.legToCaller = s.legToCaller.erase leg) :
      Step s (.channelGone leg) t [.gone leg false, .request (.hangup caller reason) status]
  /-- a leg that was not the last one -/
  | ringingGone {leg caller : String} {t : CallRouter} {call : PendingCall}
      (hgone : s.calls.lookup leg = none) (hleg : s.legToCaller.lookup leg = some caller)
      (hcall : s.calls.lookup caller = some call) (hconn : leg ≠ call.connectedLeg)
      (hmore : call.connectedLeg = "" → call.ringingLegs.erase leg ≠ [])
      (hcalls : t.calls =
        s.calls.insert caller { call with ringingLegs := call.ringingLegs.erase leg })
      (hlegs : t.legToCaller = s.legToCaller.erase leg) :
      Step s (.channelGone leg) t [.gone leg false]
  | lastGone {leg caller reason : String} {t : CallRouter} {call : PendingCall} {status : ℤ}
      (hgone : s.calls.lookup leg = none) (hleg : s.legToCaller.lookup leg = some caller)
      (hcall : s.calls.lookup caller = some call) (hconn : call.connectedLeg = "")
      (hlast : call.ringingLegs.erase leg = [])
      (hcalls : t.calls = s.calls.erase caller) (hlegs : t.legToCaller = s.legToCaller.erase leg) :
      Step s (.channelGone leg) t [.gone leg false, .request (.hangup caller reason) status]

/-- The requests of `callerGone`. -/
def hangupLegs (call : PendingCall) (s : CallRouter) : CallRouter :=
  (s.hangupAll call.ringingLegs "normal").hangupAll
    (if call.connectedLeg = "" then [] else [call.connectedLeg]) "normal"

lemma callerGone_eq (caller : String) (call : PendingCall) (s : CallRouter) :
    s.callerGone caller call = (s.hangupLegs call).endCall caller := by
  by_cases h : call.connectedLeg = "" <;> simp [callerGone, hangupLegs, h, hangupAll]

lemma asks_hangupLegs (call : PendingCall) (s : CallRouter) :
    ∃ es, Asks s (s.hangupLegs call) es ∧ HangsUp (call.ringingLegs ++
      if call.connectedLeg = "" then [] else [call.connectedLeg]) es := by
  obtain ⟨es, hes, hhangs⟩ := asks_hangupAll call.ringingLegs "normal" s
  obtain ⟨es', hes', hhangs'⟩ := asks_hangupAll
    (if call.connectedLeg = "" then [] else [call.connectedLeg]) "normal"
    (s.hangupAll call.ringingLegs "normal")
  exact ⟨es ++ es', hes.trans hes', hhangs.append hhangs'⟩

lemma step_onCallerStart (caller callerId dialedExt : String) (s : CallRouter) :
    ∃ es, (s.onCallerStart caller callerId dialedExt).log = s.log ++ es ∧
      Step s (.callerStart caller callerId dialedExt)
        (s.onCallerStart caller callerId dialedExt) es := by
  set u := s.note (.callerStart caller) with hu
  have hstart : Rings caller s u [] [] := Rings.start rfl rfl
  obtain ⟨es, hlog, hes⟩ := rings_ringTargets hstart callerId 0 (u.resolveTargets dialedExt)
  simp only [onCallerStart, ← hu]
  split_ifs with hmem htargets hringing
  · exact ⟨_, rfl, .known hmem ⟨rfl, rfl⟩⟩
  · have hnone : Rings caller s (u.hangup caller "congestion") [] [] := Rings.start rfl rfl
    exact ⟨_, List.append_assoc _ _ _, .noRoute hmem hnone⟩
  · rw [hringing] at hes
    set v := (u.ringTargets caller callerId 0 (u.resolveTargets dialedExt) []).1
    have hnone : Rings caller s (v.hangup caller "congestion") es [] :=
      ⟨hes.calls, hes.each, hes.mem, hes.nodup, hes.lookup⟩
    have hlog' : (v.hangup caller "congestion").log = s.log ++ (.callerStart caller ::
        (es ++ [.request (.hangup caller "congestion") (v.script.statuses.headD 200)])) := by
      rw [hangup, log_demand, hlog, hu, log_note, List.append_assoc, List.append_assoc]
      rfl
    exact ⟨_, hlog', .noRoute hmem hnone⟩
  · refine ⟨_, ?_, .rings hmem hes hringing ?_ rfl⟩
    · rw [beginCall, setCall, log_note, hlog, hu, log_note, List.append_assoc, List.append_assoc]
      rfl
    · rw [beginCall, setCall, calls_note, hes.calls]

lemma log_connect (caller leg : String) (s : CallRouter) :
    ∃ a b c d, (s.connect caller leg).log = s.log ++ [.request (.answer caller) a,
      .request (.createBridge (bridgeId caller) "mixing") b,
      .request (.addChannelToBridge (bridgeId caller) caller) c,
      .request (.addChannelToBridge (bridgeId caller) leg) d] := by
  set t := s.demand (.answer caller)
  set u := t.demand (.createBridge (bridgeId caller) "mixing")
  set v := u.demand (.addChannelToBridge (bridgeId caller) caller)
  refine ⟨s.script.statuses.headD 200, t.script.statuses.headD 200,
    u.script.statuses.headD 200, v.script.statuses.headD 200, ?_⟩
  simp only [connect, t, u, v, log_demand, List.append_assoc, List.cons_append, List.nil_append]

/-- Making the requests of `connect` leaves the tables alone. -/
lemma sameTables_connect (caller leg : String) (s : CallRouter) :
    SameTables s (s.connect caller leg) where
  calls := by simp only [connect, calls_demand]
  legToCaller := by simp only [connect, legToCaller_demand]

lemma step_onLegStart (leg caller : String) (s : CallRouter) :
    ∃ es, (s.onLegStart leg caller).log = s.log ++ es ∧
      Step s (.legStart leg caller) (s.onLegStart leg caller) es := by
  set u := s.note (.legStart leg caller) with hu
  simp only [onLegStart, ← hu]
  rcases hcall : u.calls.lookup caller with _ | call
  · exact ⟨_, List.append_assoc _ _ _, .tooLate hcall ⟨rfl, rfl⟩⟩
  · simp only
    split_ifs with hconn hleg
    · exact ⟨_, rfl, .winner hcall hconn hleg ⟨rfl, rfl⟩⟩
    · exact ⟨_, List.append_assoc _ _ _, .loser hcall hconn hleg rfl rfl⟩
    · obtain ⟨es, hes, hhangs⟩ :=
        asks_hangupAll (call.ringingLegs.erase leg) "answered" (u.connect caller leg)
      obtain ⟨a, b, c, d, hconnect⟩ := log_connect caller leg u
      have htables := sameTables_connect caller leg u
      refine ⟨_, ?_, .connects (a := a) (b := b) (c := c) (d := d) hcall (not_not.mp hconn) hhangs
        ?_ ?_⟩
      · rw [setCall, hes.log, hconnect, hu, log_note, List.append_assoc, List.append_assoc]
        rfl
      · rw [setCall, hes.calls, htables.calls, hu, calls_note]
      · rw [setCall, hes.legToCaller, htables.legToCaller, hu, legToCaller_note]

private lemma erase_insert_self {β : String → Type} (k : String) (v : β k) (l : AList β) :
    (l.insert k v).erase k = l.erase k :=
  AList.ext (List.kerase_cons_eq rfl)

lemma step_onChannelGone (channelId : String) (s : CallRouter) :
    ∃ es, (s.onChannelGone channelId).log = s.log ++ es ∧
      Step s (.channelGone channelId) (s.onChannelGone channelId) es := by
  set u := s.note (.gone channelId (decide (channelId ∈ s.calls))) with hu
  simp only [onChannelGone, ← hu]
  rcases hcall : u.calls.lookup channelId with _ | call
  · have hgone : decide (channelId ∈ s.calls) = false :=
      decide_eq_false (AList.lookup_eq_none.mp hcall)
    have hlog : u.log = s.log ++ [.gone channelId false] := by rw [hu, log_note, hgone]
    rcases hleg : u.legToCaller.lookup channelId with _ | caller
    · exact ⟨_, hlog, .unknownGone hcall hleg ⟨rfl, rfl⟩⟩
    · simp only
      rcases hcaller : (u.forgetLeg channelId).calls.lookup caller with _ | call
      · exact ⟨_, hlog, .strayGone hcall hleg hcaller rfl rfl⟩
      · have hlog' : ∀ e, u.log ++ [e] = s.log ++ [.gone channelId false, e] := by
          intro e
          rw [hlog, List.append_assoc]
          rfl
        simp only [legGone]
        split_ifs with hconn hlast
        · exact ⟨_, hlog' _, .connectedGone hcall hleg hcaller hconn rfl rfl⟩
        · refine ⟨_, hlog' _, .lastGone hcall hleg hcaller hlast.1 hlast.2 ?_ rfl⟩
          exact erase_insert_self _ _ _
        · exact ⟨_, hlog, .ringingGone hcall hleg hcaller hconn (fun h h' => hlast ⟨h, h'⟩)
            rfl rfl⟩
  · have hgone : decide (channelId ∈ s.calls) = true := by
      refine decide_eq_true (AList.lookup_isSome.mp ?_)
      rw [show s.calls.lookup channelId = some call from hcall]
      rfl
    have hlog : u.log = s.log ++ [.gone channelId true] := by rw [hu, log_note, hgone]
    obtain ⟨es, hes, hhangs⟩ := asks_hangupLegs call u
    simp only [callerGone_eq]
    refine ⟨_, ?_, .callerGone hcall hhangs ?_ hes.legToCaller⟩
    · rw [endCall, hes.log, hlog, List.append_assoc]
      rfl
    · rw [endCall, hes.calls, hu, calls_note]

lemma step_handle (e : Event) (s : CallRouter) :
    ∃ es, (s.handle e).log = s.log ++ es ∧ Step s e (s.handle e) es := by
  cases e with
  | callerStart caller callerId dialedExt => exact step_onCallerStart caller callerId dialedExt s
  | legStart leg caller => exact step_onLegStart leg caller s
  | channelGone channelId => exact step_onChannelGone channelId s

end CallRouter
