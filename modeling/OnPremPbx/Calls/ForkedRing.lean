import OnPremPbx.Calls.RouterSteps

/-!
# First answer wins

However the answers, hangups and destroys of the legs race with each other and with the caller, a
call in the table is ringing at one leg or more, or is connected with one leg and ringing nowhere;
and a ringing leg is known as a leg of the call that holds it.
-/

open Transition

namespace CallRouter

section Table

variable {β : Type} {P : String → β → Prop} {l : AList fun _ : String => β}

/-- What holds of every entry holds after an entry was set. -/
lemma forall_lookup_insert {k : String} {v : β} (hv : P k v)
    (h : ∀ j w, j ≠ k → l.lookup j = some w → P j w) :
    ∀ j w, (l.insert k v).lookup j = some w → P j w := by
  intro j w hj
  by_cases hjk : j = k
  · subst hjk
    rw [AList.lookup_insert] at hj
    exact Option.some.inj hj ▸ hv
  · rw [AList.lookup_insert_ne hjk] at hj
    exact h j w hjk hj

lemma forall_lookup_erase {k : String} (h : ∀ j w, j ≠ k → l.lookup j = some w → P j w) :
    ∀ j w, (l.erase k).lookup j = some w → P j w := by
  intro j w hj
  by_cases hjk : j = k
  · subst hjk
    simp at hj
  · rw [AList.lookup_erase_ne hjk] at hj
    exact h j w hjk hj

/-- An entry that is there is not one that is not. -/
lemma ne_of_lookup {j k : String} {v : β} (hj : j ∉ l) (hk : l.lookup k = some v) : k ≠ j := by
  rintro rfl
  exact hj (AList.lookup_isSome.mp (by rw [hk]; rfl))

end Table

/-! ### The tables agree -/

/-- A call that is connected rings nowhere, and its ringing legs are known as its legs. -/
structure CallOk (legToCaller : AList fun _ : String => String) (caller : String)
    (call : PendingCall) : Prop where
  alone : call.connectedLeg ≠ "" → call.ringingLegs = []
  mapped : ∀ leg ∈ call.ringingLegs, legToCaller.lookup leg = some caller
  nodup : call.ringingLegs.Nodup

structure Sound (s : CallRouter) : Prop where
  calls : ∀ caller call, s.calls.lookup caller = some call → CallOk s.legToCaller caller call
  legs : ∀ leg caller, s.legToCaller.lookup leg = some caller → ∃ i, leg = legId caller i

namespace CallOk

variable {m m' : AList fun _ : String => String} {caller : String} {call : PendingCall}

/-- The map changes at legs of other callers only. -/
lemma change (h : CallOk m caller call)
    (hm : ∀ leg, m.lookup leg = some caller → m'.lookup leg = some caller) :
    CallOk m' caller call :=
  ⟨h.alone, fun leg hleg => hm leg (h.mapped leg hleg), h.nodup⟩

/-- A leg stops ringing. -/
lemma drop (h : CallOk m caller call) (leg : String)
    (hm : ∀ l, l ≠ leg → m.lookup l = some caller → m'.lookup l = some caller) :
    CallOk m' caller { call with ringingLegs := call.ringingLegs.erase leg } where
  alone hconn := by simp [h.alone hconn]
  mapped l hl := by
    obtain ⟨hne, hmem⟩ := h.nodup.mem_erase_iff.mp hl
    exact hm l hne (h.mapped l hmem)
  nodup := h.nodup.erase leg

end CallOk

namespace Sound

variable {s t : CallRouter} {e : Event} {es : List Entry}

lemma of_sameTables (hs : s.Sound) (h : SameTables s t) : t.Sound := by
  constructor
  · rw [h.calls, h.legToCaller]
    exact hs.calls
  · rw [h.legToCaller]
    exact hs.legs

/-- Ringing targets leaves the legs of the calls in the table alone. -/
lemma lookup_rings (hs : s.Sound) {caller d : String} {ringing : List String}
    (h : Rings caller s t es ringing) (hd : d ≠ caller) (leg : String)
    (hleg : s.legToCaller.lookup leg = some d) : t.legToCaller.lookup leg = some d := by
  rw [h.lookup, if_neg]
  · exact hleg
  · intro hmem
    obtain ⟨e, he, horig⟩ := (h.mem leg).mp hmem
    obtain ⟨_, _, _, i, _, _, rfl⟩ := h.each e he
    obtain ⟨j, rfl⟩ := hs.legs leg d hleg
    simp only [originated, decide_eq_true_eq] at horig
    exact hd (legId_inj horig.1).1.symm

lemma legs_rings (hs : s.Sound) {caller : String} {ringing : List String}
    (h : Rings caller s t es ringing) (leg c : String)
    (hleg : t.legToCaller.lookup leg = some c) : ∃ i, leg = legId c i := by
  rw [h.lookup] at hleg
  split_ifs at hleg with hmem
  · obtain ⟨e, he, horig⟩ := (h.mem leg).mp hmem
    obtain ⟨_, _, _, i, _, _, rfl⟩ := h.each e he
    simp only [originated, decide_eq_true_eq] at horig
    exact ⟨i, by rw [← Option.some.inj hleg, horig.1]⟩
  · exact hs.legs leg c hleg

/-- The entry of a leg is erased. -/
lemma legs_erase (hs : s.Sound) (gone : String) (leg c : String)
    (hleg : (s.legToCaller.erase gone).lookup leg = some c) : ∃ i, leg = legId c i :=
  forall_lookup_erase (P := fun leg c => ∃ i, leg = legId c i) (fun l d _ => hs.legs l d) leg c hleg

/-- A call other than that of the erased leg does not know the leg. -/
lemma lookup_erase {gone caller d : String}
    (hgone : s.legToCaller.lookup gone = some caller) (hd : d ≠ caller) (leg : String)
    (hleg : s.legToCaller.lookup leg = some d) :
    (s.legToCaller.erase gone).lookup leg = some d := by
  have hne : leg ≠ gone := by
    rintro rfl
    exact hd (Option.some.inj (hleg.symm.trans hgone))
  rwa [AList.lookup_erase_ne hne]

theorem step (hs : s.Sound) (h : Step s e t es) : t.Sound := by
  cases h with
  | known _ ht => exact hs.of_sameTables ht
  | tooLate _ ht => exact hs.of_sameTables ht
  | winner _ _ _ ht => exact hs.of_sameTables ht
  | unknownGone _ _ ht => exact hs.of_sameTables ht
  | noRoute hmem ht =>
    refine ⟨?_, hs.legs_rings ht⟩
    rw [ht.calls]
    intro d call hd
    exact (hs.calls d call hd).change (hs.lookup_rings ht (ne_of_lookup hmem hd))
  | rings hmem hu hne hcalls hlegs =>
    refine ⟨?_, by rw [hlegs]; exact hs.legs_rings hu⟩
    rw [hcalls, hlegs]
    refine forall_lookup_insert ⟨by simp, ?_, hu.nodup⟩ ?_
    · intro leg hleg
      rw [hu.lookup, if_pos hleg]
    · intro d call hd hcall
      exact (hs.calls d call hcall).change (hs.lookup_rings hu hd)
  | loser hcall hconn hleg hcalls hlegs =>
    refine ⟨?_, by rw [hlegs]; exact hs.legs⟩
    rw [hcalls, hlegs]
    exact forall_lookup_insert ((hs.calls _ _ hcall).drop _ fun _ _ h => h)
      fun d call _ hd => hs.calls d call hd
  | connects hcall hconn hes hcalls hlegs =>
    refine ⟨?_, by rw [hlegs]; exact hs.legs⟩
    rw [hcalls, hlegs]
    exact forall_lookup_insert ⟨fun _ => rfl, by simp, List.nodup_nil⟩
      fun d call _ hd => hs.calls d call hd
  | callerGone hcall hes hcalls hlegs =>
    refine ⟨?_, by rw [hlegs]; exact hs.legs⟩
    rw [hcalls, hlegs]
    apply forall_lookup_erase
    intro d call _ hd
    exact hs.calls d call hd
  | strayGone hgone hleg hcall hcalls hlegs =>
    refine ⟨?_, by rw [hlegs]; exact hs.legs_erase _⟩
    rw [hcalls, hlegs]
    intro d call hd
    have hne := ne_of_lookup (AList.lookup_eq_none.mp hcall) hd
    exact (hs.calls d call hd).change (lookup_erase hleg hne)
  | connectedGone hgone hleg hcall hconn hcalls hlegs =>
    refine ⟨?_, by rw [hlegs]; exact hs.legs_erase _⟩
    rw [hcalls, hlegs]
    apply forall_lookup_erase
    intro d call hd hcall
    exact (hs.calls d call hcall).change (lookup_erase hleg hd)
  | ringingGone hgone hleg hcall hconn hmore hcalls hlegs =>
    refine ⟨?_, by rw [hlegs]; exact hs.legs_erase _⟩
    rw [hcalls, hlegs]
    refine forall_lookup_insert ((hs.calls _ _ hcall).drop _ ?_) ?_
    · intro l hl h
      rwa [AList.lookup_erase_ne hl]
    · intro d call hd hcall
      exact (hs.calls d call hcall).change (lookup_erase hleg hd)
  | lastGone hgone hleg hcall hconn hlast hcalls hlegs =>
    refine ⟨?_, by rw [hlegs]; exact hs.legs_erase _⟩
    rw [hcalls, hlegs]
    apply forall_lookup_erase
    intro d call hd hcall
    exact (hs.calls d call hcall).change (lookup_erase hleg hd)

end Sound

/-- What every step keeps, every run keeps. -/
lemma run_keeps {P : CallRouter → Prop} {Ok : Event → Prop}
    (hscript : ∀ script s, P s → P (s.setScript script))
    (hstep : ∀ s t e es, P s → Ok e → t.log = s.log ++ es → Step s e t es → P t)
    {s : CallRouter} (hs : P s) {is : List Input} (hok : ∀ i ∈ is, Ok i.1) : P (s.run is) := by
  have halong : Along step (fun _ (i : Input) => Ok i.1) s is :=
    .of_forall (fun i hi _ => hok i hi) s
  refine halong.invariant (P := P) ?_ hs
  intro u i hi hu
  obtain ⟨es, hlog, hnext⟩ := step_handle i.1 (u.setScript i.2)
  exact hstep _ _ _ es (hscript i.2 u hu) hi hlog hnext

lemma sound_init (societyId appName : String) : (init societyId appName).Sound :=
  ⟨by simp [init], by simp [init]⟩

lemma sound_run (societyId appName : String) (is : List Input) :
    ((init societyId appName).run is).Sound :=
  run_keeps (P := Sound) (fun _ _ h => ⟨h.calls, h.legs⟩)
    (fun _ _ _ _ hs (_ : True) _ h => hs.step h) (sound_init societyId appName) fun _ _ => trivial

/-! ### One leg is added -/

/-- The entry is the begin of a call of the caller. -/
def isBegan (caller : String) : Entry → Bool
  | .began caller' => caller' = caller
  | _              => false

/-- The leg that the entry adds to the bridge of the caller. -/
def addedLeg (caller : String) : Entry → Option String
  | .request (.addChannelToBridge bridge channelId) _ =>
    if bridge = bridgeId caller ∧ channelId ≠ caller then some channelId else none
  | _                                                 => none

/-- The legs added to the bridge of the caller since its call began. -/
def legsAdded (caller : String) (s : CallRouter) : List String :=
  (since (isBegan caller) s.log).filterMap (addedLeg caller)

lemma bridgeId_inj {c d : String} (h : bridgeId c = bridgeId d) : c = d := by
  have hlist := congrArg String.toList h
  simp only [bridgeId, String.toList_append] at hlist
  exact String.toList_inj.mp (List.append_cancel_right hlist)

lemma legId_ne_self (caller : String) (i : ℕ) : legId caller i ≠ caller := by
  intro h
  have := congrArg String.length h
  simp only [legId, String.length_append] at this
  have hleg : ("-leg-" : String).length = 5 := rfl
  omega

lemma legsAdded_append {s t : CallRouter} {es : List Entry} (caller : String)
    (hlog : t.log = s.log ++ es) (hes : ∀ e ∈ es, isBegan caller e = false) :
    t.legsAdded caller = s.legsAdded caller ++ es.filterMap (addedLeg caller) := by
  rw [legsAdded, hlog, since_append_of_neg hes, List.filterMap_append]
  rfl

/-- The entries add nothing to the bridge of the caller, and do not begin its call. -/
def Idle (caller : String) (es : List Entry) : Prop :=
  ∀ e ∈ es, isBegan caller e = false ∧ addedLeg caller e = none

lemma Idle.legsAdded_eq {s t : CallRouter} {caller : String} {es : List Entry}
    (h : Idle caller es) (hlog : t.log = s.log ++ es) :
    t.legsAdded caller = s.legsAdded caller := by
  rw [legsAdded_append caller hlog fun e he => (h e he).1,
    List.filterMap_eq_nil_iff.mpr fun e he => (h e he).2, List.append_nil]

lemma HangsUp.idle {legs : List String} {es : List Entry} (h : HangsUp legs es)
    (caller : String) : Idle caller es := by
  intro e he
  obtain ⟨_, _, _, _, rfl⟩ := h.each e he
  exact ⟨rfl, rfl⟩

lemma Rings.idle {c : String} {s t : CallRouter} {es : List Entry} {ringing : List String}
    (h : Rings c s t es ringing) (caller : String) : Idle caller es := by
  intro e he
  obtain ⟨_, _, _, _, _, _, rfl⟩ := h.each e he
  exact ⟨rfl, rfl⟩

/-- The leg of a leg start is one of those that are originated for its caller. -/
def OwnLeg : Event → Prop
  | .legStart leg caller => ∃ i, leg = legId caller i
  | _                    => True

/-- A call is connected or rings, and only its connected leg was added to its bridge. -/
structure Settled (s : CallRouter) : Prop extends Sound s where
  busy : ∀ caller call, s.calls.lookup caller = some call →
    call.connectedLeg ≠ "" ∨ call.ringingLegs ≠ []
  added : ∀ caller call, s.calls.lookup caller = some call →
    s.legsAdded caller = if call.connectedLeg = "" then [] else [call.connectedLeg]

namespace Settled

variable {s t : CallRouter} {e : Event} {es : List Entry}

/-- The calls stay as they are, and nothing is added to their bridges. -/
lemma of_idle (hs : s.Settled) (ht : t.Sound) (hcalls : t.calls = s.calls)
    (hadded : ∀ caller, t.legsAdded caller = s.legsAdded caller) : t.Settled := by
  refine ⟨ht, ?_, ?_⟩
  · rw [hcalls]
    exact hs.busy
  · intro caller call hcall
    rw [hcalls] at hcall
    rw [hadded]
    exact hs.added caller call hcall

/-- A call is over, and nothing is added to the bridges of the others. -/
lemma of_erase (hs : s.Settled) (ht : t.Sound) {c : String} (hcalls : t.calls = s.calls.erase c)
    (hadded : ∀ caller, t.legsAdded caller = s.legsAdded caller) : t.Settled := by
  refine ⟨ht, ?_, ?_⟩
  · rw [hcalls]
    apply forall_lookup_erase
    intro d call _
    exact hs.busy d call
  · rw [hcalls]
    apply forall_lookup_erase
    intro d call _ hd
    rw [hadded]
    exact hs.added d call hd

/-- A call changes, and nothing is added to the bridges of the others. -/
lemma of_insert (hs : s.Settled) (ht : t.Sound) {c : String} {call : PendingCall}
    (hcalls : t.calls = s.calls.insert c call)
    (hbusy : call.connectedLeg ≠ "" ∨ call.ringingLegs ≠ [])
    (hself : t.legsAdded c = if call.connectedLeg = "" then [] else [call.connectedLeg])
    (hadded : ∀ caller, caller ≠ c → t.legsAdded caller = s.legsAdded caller) : t.Settled := by
  refine ⟨ht, ?_, ?_⟩
  · rw [hcalls]
    refine forall_lookup_insert hbusy ?_
    intro d call _
    exact hs.busy d call
  · rw [hcalls]
    refine forall_lookup_insert hself ?_
    intro d call hd hcall
    rw [hadded d hd]
    exact hs.added d call hcall

theorem step (hs : s.Settled) (hown : OwnLeg e) (hlog : t.log = s.log ++ es)
    (h : Step s e t es) : t.Settled := by
  have ht : t.Sound := hs.toSound.step h
  have hidle : (∀ caller, Idle caller es) → ∀ caller, t.legsAdded caller = s.legsAdded caller :=
    fun hes caller => (hes caller).legsAdded_eq hlog
  cases h with
  | known _ hsame =>
    exact hs.of_idle ht hsame.calls (hidle fun c => by simp [Idle, isBegan, addedLeg])
  | winner _ _ _ hsame =>
    exact hs.of_idle ht hsame.calls (hidle fun c => by simp [Idle, isBegan, addedLeg])
  | tooLate _ hsame =>
    exact hs.of_idle ht hsame.calls (hidle fun c => by simp [Idle, isBegan, addedLeg])
  | unknownGone _ _ hsame =>
    exact hs.of_idle ht hsame.calls (hidle fun c => by simp [Idle, isBegan, addedLeg])
  | strayGone _ _ _ hcalls _ =>
    exact hs.of_idle ht hcalls (hidle fun c => by simp [Idle, isBegan, addedLeg])
  | noRoute _ hrings =>
    apply hs.of_idle ht hrings.calls
    apply hidle
    intro c e he
    obtain rfl | he := List.mem_cons.mp he
    · exact ⟨rfl, rfl⟩
    · obtain he | he := List.mem_append.mp he
      · exact hrings.idle c e he
      · rw [List.mem_singleton.mp he]
        exact ⟨rfl, rfl⟩
  | callerGone _ hes hcalls _ =>
    apply hs.of_erase ht hcalls
    apply hidle
    intro c e he
    obtain rfl | he := List.mem_cons.mp he
    · exact ⟨rfl, rfl⟩
    · exact hes.idle c e he
  | connectedGone _ _ _ _ hcalls _ =>
    exact hs.of_erase ht hcalls (hidle fun c => by simp [Idle, isBegan, addedLeg])
  | lastGone _ _ _ _ _ hcalls _ =>
    exact hs.of_erase ht hcalls (hidle fun c => by simp [Idle, isBegan, addedLeg])
  | loser hcall hconn _ hcalls _ =>
    have hadded := hidle fun c => by simp [Idle, isBegan, addedLeg]
    have hself := hs.added _ _ hcall
    exact hs.of_insert ht hcalls (Or.inl hconn) ((hadded _).trans hself) fun c _ => hadded c
  | @ringingGone _ _ _ call _ _ hcall _ hmore hcalls _ =>
    have hadded := hidle fun c => by simp [Idle, isBegan, addedLeg]
    have hself := hs.added _ _ hcall
    refine hs.of_insert ht hcalls ?_ ((hadded _).trans hself) fun c _ => hadded c
    by_cases hringing : call.connectedLeg = ""
    · exact Or.inr (hmore hringing)
    · exact Or.inl hringing
  | @rings caller _ _ _ u es ringing hmem hu hne hcalls hlegs =>
    apply hs.of_insert ht hcalls (Or.inr hne)
    · -- the call begins here, with nothing added
      rw [legsAdded, hlog, ← List.cons_append, ← List.append_assoc,
        since_concat_of_pos (by simp [isBegan])]
      rfl
    · intro c hc
      apply Idle.legsAdded_eq _ hlog
      intro e he
      obtain rfl | he := List.mem_cons.mp he
      · exact ⟨rfl, rfl⟩
      · obtain he | he := List.mem_append.mp he
        · exact hu.idle c e he
        · rw [List.mem_singleton.mp he]
          exact ⟨decide_eq_false (Ne.symm hc), rfl⟩
  | @connects leg caller _ call es a b c d hcall hconn hes hcalls hlegs =>
    obtain ⟨i, rfl⟩ := hown
    have hbefore : s.legsAdded caller = [] := by rw [hs.added _ _ hcall, if_pos hconn]
    have hnone : es.filterMap (addedLeg caller) = [] :=
      List.filterMap_eq_nil_iff.mpr fun e he => (hes.idle caller e he).2
    apply hs.of_insert ht hcalls (Or.inl (legId_ne_empty caller i))
    · rw [legsAdded_append caller hlog, hbefore, if_neg (legId_ne_empty caller i)]
      · simp [List.filterMap_cons, addedLeg, hnone, legId_ne_self]
      · simpa [isBegan] using fun e he => (hes.idle caller e he).1
    · intro c hc
      apply Idle.legsAdded_eq _ hlog
      have hbridge : bridgeId caller ≠ bridgeId c := fun h => hc (bridgeId_inj h).symm
      simpa [Idle, isBegan, addedLeg, hbridge] using hes.idle c

end Settled

lemma settled_init (societyId appName : String) : (init societyId appName).Settled :=
  ⟨sound_init societyId appName, by simp [init], by simp [init]⟩

/-- In every run in which legs are reported with the caller they were originated for: the legs
added to the bridge of a call in its life are its connected leg, and none while it is ringing; a
connected call has no ringing legs; every call is connected or ringing; and a ringing leg is known
as a leg of the one call that holds it. -/
theorem forked_ring_safe (societyId appName : String) (is : List Input)
    (hown : ∀ i ∈ is, OwnLeg i.1) :
    let s := (init societyId appName).run is
    ∀ caller call, s.calls.lookup caller = some call →
      s.legsAdded caller = (if call.connectedLeg = "" then [] else [call.connectedLeg]) ∧
      (call.connectedLeg ≠ "" → call.ringingLegs = []) ∧
      (call.connectedLeg ≠ "" ∨ call.ringingLegs ≠ []) ∧
      ∀ leg ∈ call.ringingLegs, s.legToCaller.lookup leg = some caller ∧
        ∀ caller' call', s.calls.lookup caller' = some call' → leg ∈ call'.ringingLegs →
          caller' = caller := by
  intro s caller call hcall
  have hs : s.Settled := run_keeps (P := Settled)
    (fun _ _ h => ⟨⟨h.calls, h.legs⟩, h.busy, h.added⟩)
    (fun _ _ _ _ hs hown hlog h => hs.step hown hlog h) (settled_init societyId appName) hown
  have hok := hs.calls caller call hcall
  refine ⟨hs.added caller call hcall, hok.alone, hs.busy caller call hcall, ?_⟩
  intro leg hleg
  refine ⟨hok.mapped leg hleg, ?_⟩
  intro caller' call' hcall' hleg'
  have hmapped := (hs.calls caller' call' hcall').mapped leg hleg'
  exact Option.some.inj (hmapped.symm.trans (hok.mapped leg hleg))

/-- A flat with the two subscribers `a` and `b`. -/
def twoSubscribers : Script :=
  { subscribers := fun _ => some [{ sipUsername := some "a" }, { sipUsername := some "b" }] }

/-- Two legs ring, the second answers. -/
theorem forked_ring_safe_answered :
    let s := (init "soc" "pbx").run [(.callerStart "c" "A-1" "B-2", twoSubscribers),
      (.legStart (legId "c" 1) "c", {})]
    (∃ call, s.calls.lookup "c" = some call ∧ call.connectedLeg = legId "c" 1) ∧
      s.legsAdded "c" = [legId "c" 1] := by
  intro s
  refine ⟨⟨⟨"B-2", [], legId "c" 1⟩, by decide +kernel, rfl⟩, ?_⟩
  have hown : ∀ i ∈ [((.callerStart "c" "A-1" "B-2" : Event), twoSubscribers),
      (.legStart (legId "c" 1) "c", {})], OwnLeg i.1 := by
    intro i hi
    obtain rfl | rfl : _ ∨ _ := by simpa using hi
    · trivial
    · exact ⟨1, rfl⟩
  exact (forked_ring_safe "soc" "pbx" _ hown "c" ⟨"B-2", [], legId "c" 1⟩ (by decide +kernel)).1

/-- A call that is still ringing: no leg was added to its bridge. -/
theorem ringing_call_without_leg :
    let s := (init "soc" "pbx").run [(.callerStart "c" "A-1" "B-2", twoSubscribers)]
    s.calls.lookup "c" = some ⟨"B-2", [legId "c" 1, legId "c" 0], ""⟩ ∧
      ¬ (s.legsAdded "c").length = 1 := by
  decide +kernel

end CallRouter
