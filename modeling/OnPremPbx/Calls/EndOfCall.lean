import OnPremPbx.Calls.Channels

/-!
# The end of a call

A leg is accepted for the caller that its answer names, but when it is gone its call is found
through `m_leg_to_caller`, which has the legs whose originate was reported as a success. A leg that
came up although its originate was reported as a failure ends nothing.
-/

open Transition

namespace CallRouter

/-! ### The legs that are known -/

/-- The entry is a report that the leg is gone, as a channel that is not a caller. -/
def goneLeg (leg : String) : Entry → Bool
  | .gone leg' false => leg' = leg
  | _                => false

/-- The originate of the leg was reported as a success, and the leg not as gone since. -/
def Known (leg : String) (s : CallRouter) : Prop :=
  ∃ e ∈ since (goneLeg leg) s.log, originated leg e = true

instance (leg : String) (s : CallRouter) : Decidable (Known leg s) :=
  inferInstanceAs (Decidable (∃ e ∈ since (goneLeg leg) s.log, originated leg e = true))

/-- `m_leg_to_caller` has the legs that are known. -/
structure Tracks (s : CallRouter) : Prop extends Sound s where
  known : ∀ leg, leg ∈ s.legToCaller ↔ Known leg s

namespace Known

variable {s t : CallRouter} {leg : String} {es : List Entry}

/-- Entries that do not report the leg as gone. -/
lemma append_iff (hlog : t.log = s.log ++ es) (hes : ∀ e ∈ es, goneLeg leg e = false) :
    Known leg t ↔ Known leg s ∨ ∃ e ∈ es, originated leg e = true := by
  simp only [Known, hlog, since_append_of_neg hes, List.mem_append, or_and_right, exists_or]

/-- Entries that have nothing to do with the leg. -/
lemma quiet_iff (hlog : t.log = s.log ++ es) (hgone : ∀ e ∈ es, goneLeg leg e = false)
    (horig : ∀ e ∈ es, originated leg e = false) : Known leg t ↔ Known leg s := by
  rw [append_iff hlog hgone, or_iff_left]
  rintro ⟨e, he, h⟩
  rw [horig e he] at h
  cases h

/-- The leg is reported gone. -/
lemma not_of_gone (hlog : t.log = s.log ++ es) (hgone : .gone leg false ∈ es)
    (horig : ∀ e ∈ es, originated leg e = false) : ¬ Known leg t := by
  rintro ⟨e, he, h⟩
  rw [hlog] at he
  obtain he | ⟨-, hnone⟩ := mem_since_append he
  · rw [horig e (mem_of_mem_since he)] at h
    cases h
  · have := hnone _ hgone
    simp [goneLeg] at this

end Known

/-- Hanging up reports no leg as gone. -/
lemma HangsUp.not_goneLeg {legs : List String} {es : List Entry} (h : HangsUp legs es)
    (leg : String) : ∀ e ∈ es, goneLeg leg e = false := by
  intro e he
  obtain ⟨_, _, _, _, rfl⟩ := h.each e he
  rfl

/-- Ringing targets makes the legs known that ring. -/
lemma Rings.known_iff {caller leg : String} {s u t : CallRouter} {es : List Entry}
    {ringing : List String} {e : Entry} (h : Rings caller s u es ringing)
    (hgone : goneLeg leg e = false) (horig : originated leg e = false)
    (hlog : t.log = s.log ++ (.callerStart caller :: (es ++ [e]))) :
    Known leg t ↔ Known leg s ∨ leg ∈ ringing := by
  have hstart : originated leg (.callerStart caller) = false := rfl
  rw [Known.append_iff hlog, h.mem]
  · simp [or_and_right, exists_or, horig, hstart]
  · intro e' he'
    simp only [List.mem_cons, List.mem_append, List.not_mem_nil, or_false] at he'
    obtain rfl | he' | rfl := he'
    · rfl
    · obtain ⟨_, _, _, _, _, _, rfl⟩ := h.each e' he'
      rfl
    · exact hgone

lemma Rings.mem_legToCaller {caller leg : String} {s t : CallRouter} {es : List Entry}
    {ringing : List String} (h : Rings caller s t es ringing) :
    leg ∈ t.legToCaller ↔ leg ∈ s.legToCaller ∨ leg ∈ ringing := by
  rw [← AList.lookup_isSome, ← AList.lookup_isSome, h.lookup]
  split_ifs with hmem <;> simp [hmem]

namespace Tracks

variable {s t : CallRouter} {e : Event} {es : List Entry}

/-- A step that has nothing to do with legs. -/
lemma of_quiet (hs : s.Tracks) (ht : t.Sound) (hlegs : t.legToCaller = s.legToCaller)
    (hlog : t.log = s.log ++ es) (hgone : ∀ leg, ∀ e ∈ es, goneLeg leg e = false)
    (horig : ∀ leg, ∀ e ∈ es, originated leg e = false) : t.Tracks := by
  refine ⟨ht, ?_⟩
  intro leg
  rw [hlegs, hs.known, Known.quiet_iff hlog (hgone leg) (horig leg)]

/-- A leg is reported gone, and forgotten. -/
lemma of_gone (hs : s.Tracks) (ht : t.Sound) {gone : String} {rest : List Entry}
    (hlegs : t.legToCaller = s.legToCaller.erase gone)
    (hlog : t.log = s.log ++ (.gone gone false :: rest))
    (hgone : ∀ leg, ∀ e ∈ rest, goneLeg leg e = false)
    (horig : ∀ leg, ∀ e ∈ rest, originated leg e = false) : t.Tracks := by
  refine ⟨ht, ?_⟩
  intro leg
  have horig' : ∀ e ∈ .gone gone false :: rest, originated leg e = false := by
    simpa [originated] using horig leg
  rw [hlegs, AList.mem_erase, hs.known]
  by_cases hleg : leg = gone
  · subst hleg
    simpa using Known.not_of_gone hlog List.mem_cons_self horig'
  · have hgone' : ∀ e ∈ .gone gone false :: rest, goneLeg leg e = false := by
      simpa [goneLeg, Ne.symm hleg] using hgone leg
    rw [Known.quiet_iff hlog hgone' horig']
    exact and_iff_right hleg

theorem step (hs : s.Tracks) (hlog : t.log = s.log ++ es) (h : Step s e t es) : t.Tracks := by
  have ht : t.Sound := hs.toSound.step h
  cases h with
  | known _ hsame =>
    exact hs.of_quiet ht hsame.legToCaller hlog (by simp [goneLeg]) (by simp [originated])
  | tooLate _ hsame =>
    exact hs.of_quiet ht hsame.legToCaller hlog (by simp [goneLeg]) (by simp [originated])
  | winner _ _ _ hsame =>
    exact hs.of_quiet ht hsame.legToCaller hlog (by simp [goneLeg]) (by simp [originated])
  | loser _ _ _ _ hlegs =>
    exact hs.of_quiet ht hlegs hlog (by simp [goneLeg]) (by simp [originated])
  | noRoute _ hrings =>
    refine ⟨ht, ?_⟩
    intro leg
    rw [hrings.known_iff rfl rfl hlog, hrings.mem_legToCaller, hs.known]
  | rings _ hrings _ _ hlegs =>
    refine ⟨ht, ?_⟩
    intro leg
    rw [hrings.known_iff rfl rfl hlog, hlegs, hrings.mem_legToCaller, hs.known]
  | connects _ _ hhangs _ hlegs =>
    apply hs.of_quiet ht hlegs hlog
    · intro leg
      simpa [goneLeg] using hhangs.not_goneLeg leg
    · intro leg
      simpa [originated] using hhangs.not_originated leg
  | callerGone _ hhangs _ hlegs =>
    apply hs.of_quiet ht hlegs hlog
    · intro leg
      simpa [goneLeg] using hhangs.not_goneLeg leg
    · intro leg
      simpa [originated] using hhangs.not_originated leg
  | unknownGone _ hnone hsame =>
    apply hs.of_gone ht _ hlog (by simp) (by simp)
    rw [hsame.legToCaller]
    exact (AList.ext (List.kerase_of_notMem_keys (AList.lookup_eq_none.mp hnone))).symm
  | strayGone _ _ _ _ hlegs => exact hs.of_gone ht hlegs hlog (by simp) (by simp)
  | connectedGone _ _ _ _ _ hlegs =>
    exact hs.of_gone ht hlegs hlog (by simp [goneLeg]) (by simp [originated])
  | ringingGone _ _ _ _ _ _ hlegs => exact hs.of_gone ht hlegs hlog (by simp) (by simp)
  | lastGone _ _ _ _ _ _ hlegs =>
    exact hs.of_gone ht hlegs hlog (by simp [goneLeg]) (by simp [originated])

/-- The caller of a leg is the one its id names. -/
lemma lookup_iff (hs : s.Tracks) (leg caller : String) :
    s.legToCaller.lookup leg = some caller ↔ (∃ i, leg = legId caller i) ∧ Known leg s := by
  rw [← hs.known]
  constructor
  · intro h
    exact ⟨hs.legs leg caller h, AList.lookup_isSome.mp (by rw [h]; rfl)⟩
  · rintro ⟨⟨i, rfl⟩, hmem⟩
    obtain ⟨d, hd⟩ := Option.isSome_iff_exists.mp (AList.lookup_isSome.mpr hmem)
    obtain ⟨j, hj⟩ := hs.legs _ d hd
    rw [hd, (legId_inj hj).1]

end Tracks

lemma tracks_init (societyId appName : String) : (init societyId appName).Tracks :=
  ⟨sound_init societyId appName, by simp [init, Known]⟩

lemma tracks_run (societyId appName : String) (is : List Input) :
    ((init societyId appName).run is).Tracks :=
  run_keeps (P := Tracks) (fun _ _ h => ⟨⟨h.calls, h.legs⟩, h.known⟩)
    (fun _ _ _ _ hs (_ : True) hlog h => hs.step hlog h) (tracks_init societyId appName)
    fun _ _ => trivial

/-! ### Ends of calls -/

/-- Handling the event issues a hangup for the channel. -/
def Releases (s : CallRouter) (i : Input) (channelId : String) : Prop :=
  ∃ e ∈ (s.step i).log.drop s.log.length, hungUp channelId e = true

instance (s : CallRouter) (i : Input) (channelId : String) :
    Decidable (s.Releases i channelId) :=
  inferInstanceAs (Decidable (∃ e ∈ (s.step i).log.drop s.log.length, hungUp channelId e = true))

/-- When the leg is gone, the caller is hung up and its call is over; when the caller is gone, the
leg is hung up. -/
def EndsTogether (caller leg : String) (s : CallRouter) (script : Script) : Prop :=
  (s.Releases (.channelGone leg, script) caller ∧
    caller ∉ (s.step (.channelGone leg, script)).calls) ∧
  s.Releases (.channelGone caller, script) leg

/-- What a step adds to the record. -/
lemma exists_step (s : CallRouter) (i : Input) : ∃ es, (s.step i).log.drop s.log.length = es ∧
    Step (s.setScript i.2) i.1 (s.step i) es := by
  obtain ⟨es, hlog, hstep⟩ := step_handle i.1 (s.setScript i.2)
  refine ⟨es, ?_, hstep⟩
  have hlog' : (s.step i).log = s.log ++ es := hlog
  rw [hlog', List.drop_left]

section Gone

variable {s : CallRouter} {caller leg : String} {call : PendingCall}

/-- The caller is gone. -/
lemma releases_of_callerGone (script : Script) (hcall : s.calls.lookup caller = some call)
    (hleg : call.Has leg) : s.Releases (.channelGone caller, script) leg ∧
      caller ∉ (s.step (.channelGone caller, script)).calls := by
  obtain ⟨es, hes, hstep⟩ := exists_step s (.channelGone caller, script)
  have hsome : (s.setScript script).calls.lookup caller ≠ none := by
    rw [show (s.setScript script).calls = s.calls from rfl, hcall]
    exact Option.some_ne_none call
  rw [Releases, hes]
  cases hstep with
  | callerGone hcall' hhangs hcalls _ =>
    obtain rfl := Option.some.inj (hcall.symm.trans hcall')
    obtain ⟨e, he, hup⟩ := hhangs.all leg (NoLeak.mem_legs hleg)
    exact ⟨⟨e, List.mem_cons_of_mem _ he, hup⟩, by rw [hcalls]; simp⟩
  | unknownGone hnone => exact absurd hnone hsome
  | strayGone hnone => exact absurd hnone hsome
  | connectedGone hnone => exact absurd hnone hsome
  | ringingGone hnone => exact absurd hnone hsome
  | lastGone hnone => exact absurd hnone hsome

/-- The connected leg is gone, and known as a leg of the caller. -/
lemma releases_of_legGone (script : Script) (hcall : s.calls.lookup caller = some call)
    (hconn : call.connectedLeg = leg) (hgone : leg ∉ s.calls)
    (hleg : s.legToCaller.lookup leg = some caller) :
    s.Releases (.channelGone leg, script) caller ∧
      caller ∉ (s.step (.channelGone leg, script)).calls := by
  obtain ⟨es, hes, hstep⟩ := exists_step s (.channelGone leg, script)
  have hnone : s.calls.lookup leg = none := AList.lookup_eq_none.mpr hgone
  have hsame : ∀ d, (s.setScript script).legToCaller.lookup leg = some d → d = caller :=
    fun d hd => Option.some.inj (hd.symm.trans hleg)
  rw [Releases, hes]
  cases hstep with
  | callerGone hcall' => cases hnone.symm.trans hcall'
  | unknownGone _ hnone' => cases hleg.symm.trans hnone'
  | strayGone _ hleg' hcall' =>
    obtain rfl := hsame _ hleg'
    cases hcall.symm.trans hcall'
  | connectedGone _ hleg' _ _ hcalls _ =>
    obtain rfl := hsame _ hleg'
    exact ⟨⟨_, List.mem_cons_of_mem _ List.mem_cons_self, by simp [hungUp]⟩, by rw [hcalls]; simp⟩
  | ringingGone _ hleg' hcall' hne =>
    obtain rfl := hsame _ hleg'
    obtain rfl := Option.some.inj (hcall.symm.trans hcall')
    exact absurd hconn.symm hne
  | lastGone _ hleg' _ _ _ hcalls _ =>
    obtain rfl := hsame _ hleg'
    exact ⟨⟨_, List.mem_cons_of_mem _ List.mem_cons_self, by simp [hungUp]⟩, by rw [hcalls]; simp⟩

/-- A report that a channel is gone ends the call of the channel itself, or of the caller it is
known as a leg of. -/
lemma eq_of_ended {script : Script} (hmem : caller ∈ s.calls)
    (hend : caller ∉ (s.step (.channelGone leg, script)).calls) :
    leg = caller ∨ leg ∉ s.calls ∧ s.legToCaller.lookup leg = some caller := by
  obtain ⟨es, -, hstep⟩ := exists_step s (.channelGone leg, script)
  have hsame : (s.setScript script).calls = s.calls := rfl
  have hstays : (s.step (.channelGone leg, script)).calls ≠ s.calls := by
    intro h
    exact hend (h ▸ hmem)
  have herase : ∀ d, (s.step (.channelGone leg, script)).calls = s.calls.erase d → d = caller := by
    intro d hd
    by_contra hne
    exact hend (by rw [hd, AList.mem_erase]; exact ⟨Ne.symm hne, hmem⟩)
  cases hstep with
  | callerGone _ _ hcalls _ => exact Or.inl (herase _ hcalls)
  | unknownGone _ _ ht => exact absurd ht.calls hstays
  | strayGone _ _ _ hcalls _ => exact absurd hcalls hstays
  | connectedGone hgone hleg _ _ hcalls _ =>
    rw [← herase _ hcalls]
    exact Or.inr ⟨AList.lookup_eq_none.mp hgone, hleg⟩
  | lastGone hgone hleg _ _ _ hcalls _ =>
    rw [← herase _ hcalls]
    exact Or.inr ⟨AList.lookup_eq_none.mp hgone, hleg⟩
  | ringingGone _ _ _ _ _ hcalls _ =>
    rw [hcalls, AList.mem_insert] at hend
    exact absurd (Or.inr hmem) hend

end Gone

/-- In every run: a call and its connected leg end together exactly when the leg has no call of its
own and is known, as a leg of the caller; or is the caller itself. -/
theorem end_of_call (societyId appName : String) (is : List Input) (caller : String)
    (call : PendingCall) (script : Script)
    (hcall : ((init societyId appName).run is).calls.lookup caller = some call)
    (hconn : call.connectedLeg ≠ "") :
    let s := (init societyId appName).run is
    EndsTogether caller call.connectedLeg s script ↔
      call.connectedLeg = caller ∨ call.connectedLeg ∉ s.calls ∧
        (∃ i, call.connectedLeg = legId caller i) ∧ Known call.connectedLeg s := by
  intro s
  have hs : s.Tracks := tracks_run societyId appName is
  have hmem : caller ∈ s.calls := AList.lookup_isSome.mp (by rw [hcall]; rfl)
  have hhas : call.Has call.connectedLeg := Or.inr ⟨hconn, rfl⟩
  have hcaller := releases_of_callerGone script hcall hhas
  rw [← hs.lookup_iff]
  constructor
  · rintro ⟨⟨-, hend⟩, -⟩
    exact eq_of_ended hmem hend
  · rintro (hself | ⟨hgone, hleg⟩)
    · refine ⟨?_, hcaller.1⟩
      rw [hself] at hcaller ⊢
      exact hcaller
    · exact ⟨releases_of_legGone script hcall rfl hgone hleg, hcaller.1⟩

/-- Two legs ring, and the second answers and is gone. -/
theorem end_of_call_answered :
    let s := (init "soc" "pbx").run [(.callerStart "c" "A-1" "B-2", twoSubscribers),
      (.legStart (legId "c" 1) "c", {})]
    s.calls.lookup "c" = some ⟨"B-2", [], legId "c" 1⟩ ∧ EndsTogether "c" (legId "c" 1) s {} := by
  intro s
  have hcall : s.calls.lookup "c" = some ⟨"B-2", [], legId "c" 1⟩ := by decide +kernel
  refine ⟨hcall, (end_of_call "soc" "pbx" _ "c" _ {} hcall (legId_ne_empty _ _)).mpr ?_⟩
  exact Or.inr ⟨by decide +kernel, ⟨1, rfl⟩, by decide +kernel⟩

/-- The response to the first originate is lost, which `do_request` reports as the status 0, but
its channel comes up and answers. When it is gone, the caller is not hung up. -/
theorem leg_of_lost_response :
    let s := (init "soc" "pbx").run
      [(.callerStart "c" "A-1" "B-2", { twoSubscribers with statuses := [0] }),
        (.legStart (legId "c" 0) "c", {})]
    s.calls.lookup "c" = some ⟨"B-2", [], legId "c" 0⟩ ∧
      ¬ s.Releases (.channelGone (legId "c" 0), {}) "c" ∧
      "c" ∈ (s.step (.channelGone (legId "c" 0), {})).calls := by
  decide +kernel

end CallRouter
