import OnPremPbx.Calls.CallRecords

/-!
# The type of a call

A call is a conference if its caller was in its bridge together with two others at some moment. The
client decides it at the end of the caller, from the channels that have entered the bridge since it
was created: it does not hear of those that leave, and knows nothing of a bridge that is destroyed.
-/

open Transition

namespace AriClient

/-! ### The visitors of a bridge -/

def isCreated (bridgeId : String) : Mark → Bool
  | .bridgeCreated bridgeId' => bridgeId' = bridgeId
  | _                        => false

def isDissolved (bridgeId : String) : Mark → Bool
  | .bridgeDestroyed bridgeId' => bridgeId' = bridgeId
  | _                          => false

/-- The channel that enters the bridge. -/
def visitor (bridgeId : String) : Mark → Option String
  | .entered channelId bridgeId' _ => if bridgeId' = bridgeId then some channelId else none
  | _                              => none

/-- The channels among the marks that enter the bridge. -/
def visitorsIn (bridgeId : String) (marks : List Mark) : Finset String :=
  (marks.filterMap (visitor bridgeId)).toFinset

/-- The channels that have entered the bridge since it was reported created, if it was not reported
destroyed since. -/
def visitors (bridgeId : String) (marks : List Mark) : Finset String :=
  visitorsIn bridgeId (current (isCreated bridgeId) (isDissolved bridgeId) marks)

/-- The context of a bridge has the channels that entered it. -/
structure Lists (bridgeId : String) (marks : List Mark) (bx : BridgeCtx) : Prop where
  nodup : bx.channelIds.Nodup
  visitors : bx.channelIds.toFinset = visitorsIn bridgeId marks

/-- A bridge has a context from its creation to its end, which has its visitors. -/
def Registered (s : AriClient) : Prop :=
  Ledger isCreated isDissolved Lists (fun bridgeId => s.bridges.lookup bridgeId) s.marks

namespace Lists

variable {bridgeId : String} {marks : List Mark} {bx : BridgeCtx}

lemma concat (h : Lists bridgeId marks bx) {m : Mark} (hm : visitor bridgeId m = none) :
    Lists bridgeId (marks ++ [m]) bx := by
  refine ⟨h.nodup, ?_⟩
  rw [h.visitors]
  simp [visitorsIn, hm]

lemma enter (h : Lists bridgeId marks bx) (channelId : String) (now : ℤ) :
    Lists bridgeId (marks ++ [.entered channelId bridgeId now]) (bx.enter channelId) := by
  refine ⟨h.nodup.insert, ?_⟩
  have hbefore := h.visitors
  rw [visitorsIn] at hbefore
  ext c
  have hmem : c ∈ bx.channelIds ↔ c ∈ marks.filterMap (visitor bridgeId) := by
    rw [← List.mem_toFinset, hbefore, List.mem_toFinset]
  rw [BridgeCtx.enter, visitorsIn, List.mem_toFinset, List.mem_toFinset, List.mem_insert_iff,
    List.filterMap_append, List.mem_append, hmem, or_comm]
  simp [visitor]

end Lists

theorem Registered.step {s t : AriClient} (hs : s.Registered) (h : Noted s t) : t.Registered := by
  have hkeep : ∀ m, (∀ b, visitor b m = none) →
      ∀ b marks bx, Lists b marks bx → Lists b (marks ++ [m]) bx :=
    fun m hm b marks bx h => h.concat (hm b)
  cases h with
  | quiet hmarks _ hbridges =>
    rw [Registered, hmarks, hbridges]
    exact hs
  | admitted _ _ _ hmarks _ hbridges =>
    rw [Registered, hmarks, hbridges]
    exact hs.kept (fun _ => rfl) (fun _ => rfl) (hkeep _ fun _ => rfl)
  | entered channelId bridgeId _ hmarks _ hbridges =>
    rw [Registered, hmarks, hbridges]
    refine hs.changed (fun _ => rfl) (fun _ => rfl) (lookup_modify_self _ _ _)
      (fun b hb => lookup_modify_ne _ hb _) (fun marks bx h => h.enter channelId _) ?_
    intro b marks bx hb h
    exact h.concat (by simp [visitor, Ne.symm hb])
  | left _ _ hmarks _ hbridges =>
    rw [Registered, hmarks, hbridges]
    exact hs.kept (fun _ => rfl) (fun _ => rfl) (hkeep _ fun _ => rfl)
  | destroyed _ hmarks _ hbridges =>
    rw [Registered, hmarks, hbridges]
    exact hs.kept (fun _ => rfl) (fun _ => rfl) (hkeep _ fun _ => rfl)
  | bridgeCreated _ _ hmarks _ hbridges =>
    rw [Registered, hmarks, hbridges]
    exact hs.opened (fun _ => rfl) (by simp [isCreated, eq_comm]) (lookup_emplace_self _ _ _)
      (fun b hb => lookup_emplace_ne hb _ _) ⟨List.nodup_nil, rfl⟩ (hkeep _ fun _ => rfl)
  | bridgeDestroyed _ hmarks _ hbridges =>
    rw [Registered, hmarks, hbridges]
    exact hs.closed (by simp [isDissolved, eq_comm]) (fun _ => rfl) (AList.lookup_erase _ _)
      (fun b hb => AList.lookup_erase_ne hb) (hkeep _ fun _ => rfl)

lemma registered_run (cfg : Config) (appName : String) (is : List Input) :
    ((init cfg appName).run is).Registered := by
  have hstart : (init cfg appName).Registered := ledger_nil
  refine run_invariant (P := Registered) ?_ hstart is
  intro s i hs
  have hscript : (s.setScript i.2).Registered := hs
  exact hscript.step (noted_step (step_onEvent i.1 (s.setScript i.2)))

/-- The bridges that channels enter have a name. -/
def Named (s : AriClient) : Prop :=
  ∀ m ∈ s.marks, ∀ channelId x, entry channelId m = some x → x.1 ≠ ""

lemma named_run (cfg : Config) (appName : String) (is : List Input) :
    ((init cfg appName).run is).Named := by
  have hstart : (init cfg appName).Named := by simp [Named, init]
  refine run_invariant (P := Named) ?_ hstart is
  intro s i hs
  have hother : ∀ (t : AriClient) (m : Mark), t.marks = s.marks ++ [m] →
      (∀ c, entry c m = none) → t.Named := by
    intro t m hmarks hm m' hm' c x hx
    rw [hmarks] at hm'
    obtain hm' | hm' := List.mem_append.mp hm'
    · exact hs m' hm' c x hx
    · rw [List.mem_singleton.mp hm', hm c] at hx
      cases hx
  have hnoted : Noted (s.setScript i.2) (s.step i) :=
    noted_step (step_onEvent i.1 (s.setScript i.2))
  cases hnoted with
  | quiet hmarks _ _ =>
    rw [Named, hmarks]
    exact hs
  | admitted _ _ _ hmarks _ _ => exact hother _ _ hmarks fun _ => rfl
  | entered channelId bridgeId hbridge hmarks _ _ =>
    intro m hm c x hx
    rw [hmarks] at hm
    obtain hm | hm := List.mem_append.mp hm
    · exact hs m hm c x hx
    · rw [List.mem_singleton.mp hm] at hx
      simp only [entry] at hx
      split_ifs at hx
      obtain rfl := Option.some.inj hx
      exact hbridge
  | left _ _ hmarks _ _ => exact hother _ _ hmarks fun _ => rfl
  | destroyed _ hmarks _ _ => exact hother _ _ hmarks fun _ => rfl
  | bridgeCreated _ _ hmarks _ _ => exact hother _ _ hmarks fun _ => rfl
  | bridgeDestroyed _ hmarks _ _ => exact hother _ _ hmarks fun _ => rfl

/-! ### Conferences -/

/-- Who is in the bridge after the mark. -/
def occupy (bridgeId : String) (present : Finset String) : Mark → Finset String
  | .entered channelId bridgeId' _ =>
    if bridgeId' = bridgeId then insert channelId present else present.erase channelId
  | .left channelId bridgeId'      =>
    if bridgeId' = bridgeId then present.erase channelId else present
  | .destroyed channelId           => present.erase channelId
  | .bridgeDestroyed bridgeId'     => if bridgeId' = bridgeId then ∅ else present
  | _                              => present

/-- The channels that are in the bridge. -/
def occupants (bridgeId : String) (marks : List Mark) : Finset String :=
  marks.foldl (occupy bridgeId) ∅

/-- The bridge of the channel: the last one it has entered. -/
def lastBridge (channelId : String) (marks : List Mark) : Option String :=
  (entries channelId (life channelId marks)).getLast?.map Prod.fst

/-- At some moment, while the channel was in its bridge, three channels or more were in it. -/
def Crowded (channelId : String) (marks : List Mark) : Prop :=
  ∃ b ∈ lastBridge channelId marks, ∃ before ∈ marks.inits, channelId ∈ occupants b before ∧
    3 ≤ (occupants b before).card ∧
    ∀ m ∈ marks.drop before.length, isDestroyed channelId m = false

instance (channelId : String) (marks : List Mark) : Decidable (Crowded channelId marks) :=
  inferInstanceAs (Decidable (∃ b ∈ lastBridge channelId marks, ∃ before ∈ marks.inits,
    channelId ∈ occupants b before ∧ 3 ≤ (occupants b before).card ∧
      ∀ m ∈ marks.drop before.length, isDestroyed channelId m = false))

/-- The bridge was reported created, and not destroyed since. -/
def Reported (bridgeId : String) (marks : List Mark) : Prop :=
  current (isCreated bridgeId) (isDissolved bridgeId) marks ≠ []

/-- The channel was in a crowded bridge, which was reported destroyed before the channel, or never
reported created. -/
def EndedFirst (channelId : String) (marks : List Mark) : Prop :=
  Crowded channelId marks ∧ ∃ b ∈ lastBridge channelId marks, ¬ Reported b marks

/-- The channel was in a crowded bridge, which fewer than three channels have entered after it was
reported created. -/
def ReportedLate (channelId : String) (marks : List Mark) : Prop :=
  Crowded channelId marks ∧ ∃ b ∈ lastBridge channelId marks, Reported b marks ∧
    (visitors b marks).card < 3

/-- Three channels or more have entered the bridge of the channel, but it was never crowded while
the channel was in it. -/
def CameInTurn (channelId : String) (marks : List Mark) : Prop :=
  ¬ Crowded channelId marks ∧ ∃ b ∈ lastBridge channelId marks, Reported b marks ∧
    3 ≤ (visitors b marks).card

/-- A bridge that is not reported has no visitors. -/
lemma reported_of_visitors {bridgeId : String} {marks : List Mark}
    (h : 3 ≤ (visitors bridgeId marks).card) : Reported bridgeId marks := by
  intro hnil
  simp [visitors, hnil, visitorsIn] at h

/-- The client decides by the visitors of the bridge. -/
lemma callType_eq_conference_iff {s : AriClient} {channelId : String} {cx : ChannelCtx}
    (hs : s.Registered) (hnamed : s.Named) (hcx : Describes channelId (life channelId s.marks) cx) :
    s.callType cx = .conference ↔
      ∃ b ∈ lastBridge channelId s.marks, 3 ≤ (visitors b s.marks).card := by
  have hbridge : cx.bridgeId = (lastBridge channelId s.marks).getD "" := hcx.bridge
  rcases hlast : lastBridge channelId s.marks with _ | b
  · rw [hlast, Option.getD_none] at hbridge
    rw [callType, hbridge]
    rcases s.bridges.lookup "" with _ | bx <;> simp
  · rw [hlast, Option.getD_some] at hbridge
    have hne : b ≠ "" := by
      obtain ⟨x, hx, rfl⟩ := Option.map_eq_some_iff.mp hlast
      obtain ⟨m, hm, hentry⟩ := List.mem_filterMap.mp (List.mem_of_getLast? hx)
      exact hnamed m (mem_of_mem_life hm) channelId x hentry
    rw [callType, hbridge]
    rcases hlookup : s.bridges.lookup b with _ | bx
    · have hnil := hs.of_none hlookup
      simp [visitors, visitorsIn, hnil]
    · obtain ⟨-, hlists⟩ := hs.of_some hlookup
      have hcard : (visitors b s.marks).card = bx.channelIds.length := by
        rw [visitors, ← hlists.visitors, List.toFinset_card_of_nodup hlists.nodup]
      simp [hne, hcard]

def leaves (channelId bridgeId : String) : Input := (.channelLeftBridge channelId bridgeId, {})

def created (bridgeId : String) : Input := (.bridgeCreated (.text bridgeId) (.text "mixing"), {})

def dissolved (bridgeId : String) : Input := (.bridgeDestroyed (.text bridgeId), {})

end AriClient
