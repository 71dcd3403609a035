import OnPremPbx.Calls.ForkedRing

/-!
# No channel is forgotten

A leg that was originated, and a caller that was handed to the router, is in the table of calls, or
a hangup was issued for it, or it was reported gone. Calls leave the table on four branches, and
each of them has dealt with the channels of the call by then.
-/

open Transition

namespace CallRouter

/-- The leg rings in the call, or is its connected leg. -/
def PendingCall.Has (call : PendingCall) (leg : String) : Prop :=
  leg ∈ call.ringingLegs ∨ call.connectedLeg ≠ "" ∧ call.connectedLeg = leg

/-- The leg is one of a call in the table. -/
def Held (leg : String) (s : CallRouter) : Prop :=
  ∃ caller call, s.calls.lookup caller = some call ∧ call.Has leg

/-- The entry hangs the channel up or reports it gone. -/
def releases (channelId : String) (e : Entry) : Bool :=
  hungUp channelId e || reportedGone channelId e

/-- The originate of the leg succeeded, and it was neither hung up nor reported gone since. -/
def LegOut (leg : String) (s : CallRouter) : Prop :=
  ∃ e ∈ since (releases leg) s.log, originated leg e = true

instance (leg : String) (s : CallRouter) : Decidable (LegOut leg s) :=
  inferInstanceAs (Decidable (∃ e ∈ since (releases leg) s.log, originated leg e = true))

/-- The caller was handed to `on_caller_start`, and neither hung up nor reported gone since. -/
def CallerOut (caller : String) (s : CallRouter) : Prop :=
  Entry.callerStart caller ∈ since (releases caller) s.log

structure NoLeak (s : CallRouter) : Prop extends Sound s where
  leg_held : ∀ leg, LegOut leg s → Held leg s
  caller_held : ∀ caller, CallerOut caller s → caller ∈ s.calls

/-! ### Legs of the table -/

section Held

variable {s t : CallRouter} {c leg : String}

lemma Held.of_calls (h : Held leg s) (hcalls : t.calls = s.calls) : Held leg t := by
  obtain ⟨d, call, hd, hhas⟩ := h
  exact ⟨d, call, by rw [hcalls, hd], hhas⟩

/-- The call of `c` is set, and has the leg if it had it. -/
lemma Held.of_insert (h : Held leg s) {call' : PendingCall}
    (hcalls : t.calls = s.calls.insert c call')
    (hkeep : ∀ call, s.calls.lookup c = some call → call.Has leg → call'.Has leg) :
    Held leg t := by
  obtain ⟨d, call, hd, hhas⟩ := h
  by_cases hdc : d = c
  · subst hdc
    exact ⟨d, call', by rw [hcalls, AList.lookup_insert], hkeep call hd hhas⟩
  · exact ⟨d, call, by rw [hcalls, AList.lookup_insert_ne hdc, hd], hhas⟩

/-- The call of `c` is over, and did not have the leg. -/
lemma Held.of_erase (h : Held leg s) (hcalls : t.calls = s.calls.erase c)
    (hnot : ∀ call, s.calls.lookup c = some call → ¬ call.Has leg) : Held leg t := by
  obtain ⟨d, call, hd, hhas⟩ := h
  by_cases hdc : d = c
  · subst hdc
    exact absurd hhas (hnot call hd)
  · exact ⟨d, call, by rw [hcalls, AList.lookup_erase_ne hdc, hd], hhas⟩

end Held

lemma HangsUp.releases {legs : List String} {es : List Entry} (h : HangsUp legs es)
    {leg : String} (hleg : leg ∈ legs) : ∃ e ∈ es, releases leg e = true := by
  obtain ⟨e, he, hup⟩ := h.all leg hleg
  exact ⟨e, he, by rw [CallRouter.releases, hup, Bool.true_or]⟩

/-- Hanging up originates nothing. -/
lemma HangsUp.not_originated {legs : List String} {es : List Entry} (h : HangsUp legs es)
    (leg : String) : ∀ e ∈ es, originated leg e = false := by
  intro e he
  obtain ⟨_, _, _, _, rfl⟩ := h.each e he
  rfl

/-- Hanging up starts no caller. -/
lemma HangsUp.not_callerStart {legs : List String} {es : List Entry} (h : HangsUp legs es)
    (caller : String) : Entry.callerStart caller ∉ es := by
  intro hmem
  obtain ⟨_, _, _, _, heq⟩ := h.each _ hmem
  cases heq

/-- The one caller that starts while its targets are rung is the caller itself. -/
lemma Rings.eq_of_callerStart {c caller : String} {s t : CallRouter} {es : List Entry}
    {ringing : List String} {e : Entry} (h : Rings c s t es ringing)
    (he : e ≠ .callerStart caller)
    (hmem : .callerStart caller ∈ .callerStart c :: (es ++ [e])) : caller = c := by
  simp only [List.mem_cons, List.mem_append, List.not_mem_nil, or_false] at hmem
  obtain heq | hes | heq := hmem
  · exact Entry.callerStart.inj heq
  · obtain ⟨_, _, _, _, _, _, heq⟩ := h.each _ hes
    cases heq
  · exact absurd heq.symm he

namespace NoLeak

variable {s t : CallRouter} {e : Event} {es : List Entry}

/-- Legs that a step originates are held, and legs that it does not release stay held. -/
lemma legs_of (hs : s.NoLeak) (hlog : t.log = s.log ++ es)
    (hnew : ∀ leg, ∀ e ∈ es, originated leg e = true → Held leg t)
    (hold : ∀ leg, (∀ e ∈ es, releases leg e = false) → Held leg s → Held leg t) :
    ∀ leg, LegOut leg t → Held leg t := by
  rintro leg ⟨e, he, horig⟩
  rw [hlog] at he
  obtain he | ⟨he, hes⟩ := mem_since_append he
  · exact hnew leg e (mem_of_mem_since he) horig
  · exact hold leg hes (hs.leg_held leg ⟨e, he, horig⟩)

/-- A step that originates no leg. -/
lemma legs_of_none (hs : s.NoLeak) (hlog : t.log = s.log ++ es)
    (hnone : ∀ leg, ∀ e ∈ es, originated leg e = false)
    (hold : ∀ leg, (∀ e ∈ es, releases leg e = false) → Held leg s → Held leg t) :
    ∀ leg, LegOut leg t → Held leg t := by
  apply hs.legs_of hlog _ hold
  intro leg e he horig
  rw [hnone leg e he] at horig
  cases horig

/-- It leaves the table as it is. -/
lemma legs_of_calls (hs : s.NoLeak) (hlog : t.log = s.log ++ es)
    (hnone : ∀ leg, ∀ e ∈ es, originated leg e = false) (hcalls : t.calls = s.calls) :
    ∀ leg, LegOut leg t → Held leg t := by
  apply hs.legs_of_none hlog hnone
  intro leg _ h
  exact h.of_calls hcalls

/-- It changes a call, and releases the legs that the call does not keep. -/
lemma legs_of_insert (hs : s.NoLeak) (hlog : t.log = s.log ++ es)
    (hnone : ∀ leg, ∀ e ∈ es, originated leg e = false) {caller : String}
    {call call' : PendingCall} (hcall : s.calls.lookup caller = some call)
    (hcalls : t.calls = s.calls.insert caller call')
    (hkeep : ∀ leg, (∀ e ∈ es, releases leg e = false) → call.Has leg → call'.Has leg) :
    ∀ leg, LegOut leg t → Held leg t := by
  apply hs.legs_of_none hlog hnone
  intro leg hes h
  apply h.of_insert hcalls
  intro d hd hhas
  obtain rfl := Option.some.inj (hcall.symm.trans hd)
  exact hkeep leg hes hhas

/-- It ends a call, and releases the legs of it. -/
lemma legs_of_erase (hs : s.NoLeak) (hlog : t.log = s.log ++ es)
    (hnone : ∀ leg, ∀ e ∈ es, originated leg e = false) {caller : String}
    {call : PendingCall} (hcall : s.calls.lookup caller = some call)
    (hcalls : t.calls = s.calls.erase caller)
    (hnot : ∀ leg, (∀ e ∈ es, releases leg e = false) → ¬ call.Has leg) :
    ∀ leg, LegOut leg t → Held leg t := by
  apply hs.legs_of_none hlog hnone
  intro leg hes h
  apply h.of_erase hcalls
  intro d hd
  obtain rfl := Option.some.inj (hcall.symm.trans hd)
  exact hnot leg hes

/-- A caller that a step starts is in the table or released, and those it does not release stay. -/
lemma callers_of (hs : s.NoLeak) (hlog : t.log = s.log ++ es)
    (hnew : ∀ caller, .callerStart caller ∈ since (releases caller) es → caller ∈ t.calls)
    (hold : ∀ caller, (∀ e ∈ es, releases caller e = false) → caller ∈ s.calls →
      caller ∈ t.calls) :
    ∀ caller, CallerOut caller t → caller ∈ t.calls := by
  intro caller h
  rw [CallerOut, hlog] at h
  obtain h | ⟨h, hes⟩ := mem_since_append h
  · exact hnew caller h
  · exact hold caller hes (hs.caller_held caller h)

/-- A step that starts no caller. -/
lemma callers_of_none (hs : s.NoLeak) (hlog : t.log = s.log ++ es)
    (hnone : ∀ caller, Entry.callerStart caller ∉ es)
    (hold : ∀ caller, (∀ e ∈ es, releases caller e = false) → caller ∈ s.calls →
      caller ∈ t.calls) :
    ∀ caller, CallerOut caller t → caller ∈ t.calls := by
  apply hs.callers_of hlog _ hold
  intro caller h
  exact absurd (mem_of_mem_since h) (hnone caller)

/-- It leaves the table as it is. -/
lemma callers_of_calls (hs : s.NoLeak) (hlog : t.log = s.log ++ es)
    (hnone : ∀ caller, Entry.callerStart caller ∉ es) (hcalls : t.calls = s.calls) :
    ∀ caller, CallerOut caller t → caller ∈ t.calls := by
  apply hs.callers_of_none hlog hnone
  intro caller _ h
  rwa [hcalls]

/-- It changes a call. -/
lemma callers_of_insert (hs : s.NoLeak) (hlog : t.log = s.log ++ es)
    (hnone : ∀ caller, Entry.callerStart caller ∉ es) {c : String} {call : PendingCall}
    (hcalls : t.calls = s.calls.insert c call) :
    ∀ caller, CallerOut caller t → caller ∈ t.calls := by
  apply hs.callers_of_none hlog hnone
  intro caller _ h
  rw [hcalls, AList.mem_insert]
  exact Or.inr h

/-- It ends a call, and releases the caller. -/
lemma callers_of_erase (hs : s.NoLeak) (hlog : t.log = s.log ++ es)
    (hnone : ∀ caller, Entry.callerStart caller ∉ es) {c : String}
    (hcalls : t.calls = s.calls.erase c)
    (hne : ∀ caller, (∀ e ∈ es, releases caller e = false) → caller ≠ c) :
    ∀ caller, CallerOut caller t → caller ∈ t.calls := by
  apply hs.callers_of_none hlog hnone
  intro caller hes h
  rw [hcalls, AList.mem_erase]
  exact ⟨hne caller hes, h⟩

/-- A leg that is not the one gone rings on in the call. -/
lemma has_erase {call : PendingCall} {leg gone : String} (hne : leg ≠ gone)
    (h : call.Has leg) :
    PendingCall.Has { call with ringingLegs := call.ringingLegs.erase gone } leg :=
  h.imp_left (List.mem_erase_of_ne hne).mpr

/-- The legs of a call without connected leg that rings at one leg at most. -/
lemma has_last {call : PendingCall} {leg gone : String} (hconn : call.connectedLeg = "")
    (hlast : call.ringingLegs.erase gone = []) (h : call.Has leg) : leg = gone := by
  by_contra hne
  obtain hmem | ⟨hne', -⟩ := h
  · have := (List.mem_erase_of_ne hne).mpr hmem
    rw [hlast] at this
    cases this
  · exact hne' hconn

/-- The legs that are hung up when the caller is gone are all the legs of the call. -/
lemma mem_legs {call : PendingCall} {leg : String} (h : call.Has leg) :
    leg ∈ call.ringingLegs ++ if call.connectedLeg = "" then [] else [call.connectedLeg] := by
  obtain hmem | ⟨hne, rfl⟩ := h
  · exact List.mem_append_left _ hmem
  · rw [if_neg hne]
    exact List.mem_append_right _ List.mem_cons_self

/-- The legs of a connected call. -/
lemma has_connected {call : PendingCall} {m : AList fun _ : String => String}
    {caller leg : String} (hok : CallOk m caller call) (hconn : call.connectedLeg ≠ "")
    (h : call.Has leg) : leg = call.connectedLeg := by
  obtain hmem | ⟨-, heq⟩ := h
  · rw [hok.alone hconn] at hmem
    cases hmem
  · exact heq.symm

/-- A report that the channel is gone releases it. -/
lemma ne_of_gone {leg gone : String} {hadCall : Bool}
    (hes : ∀ e ∈ es, releases leg e = false) (hmem : .gone gone hadCall ∈ es) : leg ≠ gone := by
  rintro rfl
  have := hes _ hmem
  simp [releases, reportedGone] at this

/-- A request to hang the channel up releases it. -/
lemma ne_of_hangup {leg c reason : String} {status : ℤ}
    (hes : ∀ e ∈ es, releases leg e = false) (hmem : .request (.hangup c reason) status ∈ es) :
    leg ≠ c := by
  rintro rfl
  have := hes _ hmem
  simp [releases, hungUp] at this

lemma legs_step (hs : s.NoLeak) (hlog : t.log = s.log ++ es) (h : Step s e t es) :
    ∀ leg, LegOut leg t → Held leg t := by
  cases h with
  | known _ ht => exact hs.legs_of_calls hlog (by simp [originated]) ht.calls
  | tooLate _ ht => exact hs.legs_of_calls hlog (by simp [originated]) ht.calls
  | winner _ _ _ ht => exact hs.legs_of_calls hlog (by simp [originated]) ht.calls
  | unknownGone _ _ ht => exact hs.legs_of_calls hlog (by simp [originated]) ht.calls
  | strayGone _ _ _ hcalls _ => exact hs.legs_of_calls hlog (by simp [originated]) hcalls
  | noRoute _ hrings =>
    apply hs.legs_of_calls hlog _ hrings.calls
    intro leg e he
    simp only [List.mem_cons, List.mem_append, List.not_mem_nil, or_false] at he
    obtain rfl | he | rfl := he
    · rfl
    · -- a leg whose originate succeeded would be ringing
      exact Bool.eq_false_iff.mpr fun h => List.not_mem_nil ((hrings.mem leg).mpr ⟨e, he, h⟩)
    · rfl
  | @rings caller _ dialedExt _ u es ringing hmem hrings _ hcalls _ =>
    apply hs.legs_of hlog
    · intro leg e he horig
      simp only [List.mem_cons, List.mem_append, List.not_mem_nil, or_false] at he
      obtain rfl | he | rfl := he
      · cases horig
      · refine ⟨caller, ⟨dialedExt, ringing, ""⟩, by rw [hcalls, AList.lookup_insert], ?_⟩
        exact Or.inl ((hrings.mem leg).mpr ⟨e, he, horig⟩)
      · cases horig
    · intro leg _ h
      apply h.of_insert hcalls
      intro call hcall
      exact absurd rfl (ne_of_lookup hmem hcall)
  | loser hcall _ _ hcalls _ =>
    apply hs.legs_of_insert hlog (by simp [originated]) hcall hcalls
    intro leg hes hhas
    exact has_erase (ne_of_hangup hes (List.mem_cons_of_mem _ List.mem_cons_self)) hhas
  | @connects gone _ _ _ _ _ _ _ _ hcall hconn hhangs hcalls _ =>
    apply hs.legs_of_insert hlog _ hcall hcalls
    · intro leg hes hhas
      obtain hmem | ⟨hne, -⟩ := hhas
      · by_cases hgone : leg = gone
        · obtain ⟨i, rfl⟩ := hs.legs _ _ ((hs.calls _ _ hcall).mapped leg hmem)
          exact Or.inr ⟨hgone ▸ legId_ne_empty _ i, hgone.symm⟩
        · -- a leg that did not answer is hung up
          obtain ⟨e, he, hrel⟩ := hhangs.releases ((List.mem_erase_of_ne hgone).mpr hmem)
          rw [hes e (by simp [he])] at hrel
          cases hrel
      · exact absurd hconn hne
    · intro leg
      simpa [originated] using hhangs.not_originated leg
  | callerGone hcall hhangs hcalls _ =>
    apply hs.legs_of_erase hlog _ hcall hcalls
    · intro leg hes hhas
      obtain ⟨e, he, hrel⟩ := hhangs.releases (mem_legs hhas)
      rw [hes e (List.mem_cons_of_mem _ he)] at hrel
      cases hrel
    · intro leg
      simpa [originated] using hhangs.not_originated leg
  | connectedGone _ hleg hcall hconn hcalls _ =>
    apply hs.legs_of_erase hlog (by simp [originated]) hcall hcalls
    intro leg hes hhas
    obtain ⟨i, rfl⟩ := hs.legs _ _ hleg
    have hne : leg ≠ legId _ i := ne_of_gone hes List.mem_cons_self
    apply hne ((has_connected (hs.calls _ _ hcall) _ hhas).trans hconn.symm)
    rw [← hconn]
    exact legId_ne_empty _ i
  | ringingGone _ _ hcall _ _ hcalls _ =>
    apply hs.legs_of_insert hlog (by simp [originated]) hcall hcalls
    intro leg hes hhas
    exact has_erase (ne_of_gone hes List.mem_cons_self) hhas
  | lastGone _ _ hcall hconn hlast hcalls _ =>
    apply hs.legs_of_erase hlog (by simp [originated]) hcall hcalls
    intro leg hes hhas
    exact ne_of_gone hes List.mem_cons_self (has_last hconn hlast hhas)

lemma callers_step (hs : s.NoLeak) (hlog : t.log = s.log ++ es) (h : Step s e t es) :
    ∀ caller, CallerOut caller t → caller ∈ t.calls := by
  cases h with
  | known hmem ht =>
    apply hs.callers_of hlog
    · intro c hc
      obtain rfl : c = _ := by simpa using mem_of_mem_since hc
      rwa [ht.calls]
    · intro c _ h
      rwa [ht.calls]
  | noRoute hmem hrings =>
    apply hs.callers_of hlog
    · intro c hc
      obtain rfl := hrings.eq_of_callerStart (by simp) (mem_of_mem_since hc)
      -- the caller is hung up at the end
      rw [← List.cons_append, since_concat_of_pos (by simp [releases, hungUp])] at hc
      cases hc
    · intro c _ h
      rwa [hrings.calls]
  | rings hmem hrings _ hcalls _ =>
    apply hs.callers_of hlog
    · intro c hc
      obtain rfl := hrings.eq_of_callerStart (by simp) (mem_of_mem_since hc)
      rw [hcalls, AList.mem_insert]
      exact Or.inl rfl
    · intro c _ h
      rw [hcalls, AList.mem_insert]
      exact Or.inr h
  | tooLate _ ht => exact hs.callers_of_calls hlog (by simp) ht.calls
  | winner _ _ _ ht => exact hs.callers_of_calls hlog (by simp) ht.calls
  | unknownGone _ _ ht => exact hs.callers_of_calls hlog (by simp) ht.calls
  | strayGone _ _ _ hcalls _ => exact hs.callers_of_calls hlog (by simp) hcalls
  | loser _ _ _ hcalls _ => exact hs.callers_of_insert hlog (by simp) hcalls
  | ringingGone _ _ _ _ _ hcalls _ => exact hs.callers_of_insert hlog (by simp) hcalls
  | connects _ _ hhangs hcalls _ =>
    apply hs.callers_of_insert hlog _ hcalls
    simpa using hhangs.not_callerStart
  | callerGone _ hhangs hcalls _ =>
    apply hs.callers_of_erase hlog _ hcalls
    · intro c hes
      exact ne_of_gone hes List.mem_cons_self
    · simpa using hhangs.not_callerStart
  | connectedGone _ _ _ _ hcalls _ =>
    apply hs.callers_of_erase hlog (by simp) hcalls
    intro c hes
    exact ne_of_hangup hes (List.mem_cons_of_mem _ List.mem_cons_self)
  | lastGone _ _ _ _ _ hcalls _ =>
    apply hs.callers_of_erase hlog (by simp) hcalls
    intro c hes
    exact ne_of_hangup hes (List.mem_cons_of_mem _ List.mem_cons_self)

theorem step (hs : s.NoLeak) (hlog : t.log = s.log ++ es) (h : Step s e t es) : t.NoLeak :=
  ⟨hs.toSound.step h, hs.legs_step hlog h, hs.callers_step hlog h⟩

end NoLeak

lemma noLeak_init (societyId appName : String) : (init societyId appName).NoLeak :=
  ⟨sound_init societyId appName, by simp [init, LegOut], by simp [init, CallerOut]⟩

/-- In every run, a leg whose originate succeeded is one of a call in the table, or was hung up or
reported gone since; a caller is in the table, or was hung up or reported gone since it started;
and when all calls are over, no channel is left. -/
theorem no_leaked_channel (societyId appName : String) (is : List Input) :
    let s := (init societyId appName).run is
    (∀ leg, LegOut leg s → Held leg s) ∧ (∀ caller, CallerOut caller s → caller ∈ s.calls) ∧
      (s.calls = ∅ → ∀ channelId, ¬ LegOut channelId s ∧ ¬ CallerOut channelId s) := by
  intro s
  have hs : s.NoLeak := run_keeps (P := NoLeak) (fun _ _ h => ⟨⟨h.calls, h.legs⟩, h.2, h.3⟩)
    (fun _ _ _ _ hs (_ : True) hlog h => hs.step hlog h) (noLeak_init societyId appName)
    fun _ _ => trivial
  refine ⟨hs.leg_held, hs.caller_held, ?_⟩
  intro hempty channelId
  constructor
  · intro hleg
    obtain ⟨caller, call, hcall, -⟩ := hs.leg_held channelId hleg
    rw [hempty] at hcall
    cases hcall
  · intro hcaller
    have hmem := hs.caller_held channelId hcaller
    rw [hempty] at hmem
    exact AList.notMem_empty _ hmem

/-- Two legs ring. -/
theorem no_leaked_channel_ringing :
    let s := (init "soc" "pbx").run [(.callerStart "c" "A-1" "B-2", twoSubscribers)]
    LegOut (legId "c" 0) s ∧ Held (legId "c" 0) s := by
  intro s
  have hout : LegOut (legId "c" 0) s := by decide +kernel
  exact ⟨hout, (no_leaked_channel "soc" "pbx" _).1 _ hout⟩

end CallRouter
