import OnPremPbx.Calls.AriSteps

/-!
# Call detail records

A record is assembled from the start of a caller, its entries into bridges and its end, which can
be missing, repeated and out of order. The context that the client keeps for a caller says what
happened since it was admitted, and a document is created from it once.
-/

open Transition

namespace AriClient

/-! ### What an event does to the contexts -/

/-- What handling an event can do to the contexts of channels and bridges, with the mark of it. -/
inductive Noted (s t : AriClient) : Prop
  | quiet (hmarks : t.marks = s.marks) (hchannels : t.channels = s.channels)
      (hbridges : t.bridges = s.bridges)
  | admitted (channelId callerFlat calleeFlat : String)
      (hmarks : t.marks = s.marks ++ [.admitted channelId s.script.now])
      (hchannels : t.channels = if channelId ∈ s.channels then s.channels else
        s.channels.insert channelId
          { callerFlat := callerFlat, calleeFlat := calleeFlat, startedAt := s.script.now })
      (hbridges : t.bridges = s.bridges)
  | entered (channelId bridgeId : String) (hbridge : bridgeId ≠ "")
      (hmarks : t.marks = s.marks ++ [.entered channelId bridgeId s.script.now])
      (hchannels : t.channels =
        modify channelId (ChannelCtx.enter bridgeId s.script.now) s.channels)
      (hbridges : t.bridges = modify bridgeId (BridgeCtx.enter channelId) s.bridges)
  | left (channelId bridgeId : String) (hmarks : t.marks = s.marks ++ [.left channelId bridgeId])
      (hchannels : t.channels = s.channels) (hbridges : t.bridges = s.bridges)
  | destroyed (channelId : String) (hmarks : t.marks = s.marks ++ [.destroyed channelId])
      (hchannels : t.channels = s.channels.erase channelId) (hbridges : t.bridges = s.bridges)
  | bridgeCreated (bridgeId bridgeType : String)
      (hmarks : t.marks = s.marks ++ [.bridgeCreated bridgeId])
      (hchannels : t.channels = s.channels)
      (hbridges : t.bridges = if bridgeId ∈ s.bridges then s.bridges else
        s.bridges.insert bridgeId { bridgeType := bridgeType })
  | bridgeDestroyed (bridgeId : String)
      (hmarks : t.marks = s.marks ++ [.bridgeDestroyed bridgeId])
      (hchannels : t.channels = s.channels) (hbridges : t.bridges = s.bridges.erase bridgeId)

lemma noted_step {s t : AriClient} {e : AriEvent} (h : Step s e t) : Noted s t := by
  cases h with
  | ignored => exact .quiet rfl rfl rfl
  | published => exact .quiet rfl rfl rfl
  | leg => exact .quiet rfl rfl rfl
  | bounced => exact .quiet rfl rfl rfl
  | @admitted ch args channelId name =>
    have hsame := sameClient_admitCaller channelId ch name args s
    rw [enroll_eq] at hsame
    exact .admitted channelId (s.callerFlat ch name) (calleeFlat ch args) hsame.marks
      hsame.channels hsame.bridges
  | bridgeCreated bridgeId type =>
    by_cases hmem : bridgeId ∈ s.bridges
    · rw [show s.handleBridgeCreated (.text bridgeId) type = _ from if_pos hmem]
      exact .bridgeCreated bridgeId "" rfl rfl (if_pos hmem).symm
    · rw [show s.handleBridgeCreated (.text bridgeId) type = _ from if_neg hmem]
      exact .bridgeCreated bridgeId (type.string?.getD "") rfl rfl (if_neg hmem).symm
  | bridgeDestroyed bridgeId =>
    by_cases hmem : bridgeId ∈ s.bridges
    · rw [show s.handleBridgeDestroyed (.text bridgeId) = _ from if_pos hmem]
      exact .bridgeDestroyed bridgeId rfl rfl rfl
    · rw [show s.handleBridgeDestroyed (.text bridgeId) = _ from if_neg hmem]
      exact .bridgeDestroyed bridgeId rfl rfl (erase_of_notMem hmem).symm
  | entered channelId bridgeId _ hbridge => exact .entered channelId bridgeId hbridge rfl rfl rfl
  | left channelId bridgeId => exact .left channelId bridgeId rfl rfl rfl
  | destroyed channelId causeTxt =>
    rw [finishCall_eq]
    exact .destroyed channelId rfl rfl rfl

/-! ### The life of a caller -/

def isAdmitted (channelId : String) : Mark → Bool
  | .admitted channelId' _ => channelId' = channelId
  | _                      => false

def isDestroyed (channelId : String) : Mark → Bool
  | .destroyed channelId' => channelId' = channelId
  | _                     => false

/-- The bridge that the channel enters, and when. -/
def entry (channelId : String) : Mark → Option (String × ℤ)
  | .entered channelId' bridgeId now =>
    if channelId' = channelId then some (bridgeId, now) else none
  | _                                => none

/-- What happened since the channel was admitted, if it was not destroyed since. -/
def life (channelId : String) (marks : List Mark) : List Mark :=
  current (isAdmitted channelId) (isDestroyed channelId) marks

/-- The entries of the channel into bridges. -/
def entries (channelId : String) (marks : List Mark) : List (String × ℤ) :=
  marks.filterMap (entry channelId)

/-- The context says when the channel was admitted, when it first entered a bridge, at a time that
is not zero, and which bridge it entered last. -/
structure Describes (channelId : String) (marks : List Mark) (cx : ChannelCtx) : Prop where
  started : marks.head? = some (.admitted channelId cx.startedAt)
  answered : cx.answeredAt =
    (((entries channelId marks).map Prod.snd).find? (· ≠ 0)).getD 0
  bridge : cx.bridgeId = ((entries channelId marks).getLast?.map Prod.fst).getD ""

/-- A channel has a context while it lives, which describes its life. -/
def Recorded (s : AriClient) : Prop :=
  Ledger isAdmitted isDestroyed Describes (fun channelId => s.channels.lookup channelId) s.marks

namespace Describes

variable {channelId : String} {marks : List Mark} {cx : ChannelCtx}

lemma concat (h : Describes channelId marks cx) {m : Mark} (hm : entry channelId m = none) :
    Describes channelId (marks ++ [m]) cx := by
  have hentries : entries channelId (marks ++ [m]) = entries channelId marks := by
    simp [entries, hm]
  refine ⟨?_, by rw [hentries]; exact h.answered, by rw [hentries]; exact h.bridge⟩
  rw [List.head?_append, h.started]
  rfl

/-- The channel enters a bridge. -/
lemma enter (h : Describes channelId marks cx) (bridgeId : String) (now : ℤ) :
    Describes channelId (marks ++ [.entered channelId bridgeId now]) (cx.enter bridgeId now) := by
  have hentries : entries channelId (marks ++ [.entered channelId bridgeId now]) =
      entries channelId marks ++ [(bridgeId, now)] := by
    simp [entries, entry]
  refine ⟨?_, ?_, ?_⟩
  · rw [List.head?_append, h.started]
    rfl
  · rw [hentries, List.map_append, List.find?_append]
    have hanswered := h.answered
    rcases hfind : ((entries channelId marks).map Prod.snd).find? (· ≠ 0) with _ | first
    · rw [hfind, Option.getD_none] at hanswered
      rw [hfind]
      by_cases hnow : now = 0
      · simp [ChannelCtx.enter, hanswered, hnow]
      · simp [ChannelCtx.enter, hanswered, hnow]
    · have hne : first ≠ 0 := by simpa using List.find?_some hfind
      rw [hfind, Option.getD_some] at hanswered
      rw [hfind]
      simp [ChannelCtx.enter, hanswered, hne]
  · rw [hentries]
    simp [ChannelCtx.enter]

end Describes

/-! ### Contexts follow the marks -/

lemma lookup_modify_self {β : Type} (f : β → β) (k : String) (l : AList fun _ : String => β) :
    (modify k f l).lookup k = (l.lookup k).map f := by
  rw [modify]
  rcases h : l.lookup k with _ | v
  · exact h
  · exact AList.lookup_insert l

lemma lookup_modify_ne {β : Type} (f : β → β) {j k : String} (hj : j ≠ k)
    (l : AList fun _ : String => β) : (modify k f l).lookup j = l.lookup j := by
  rw [modify]
  rcases l.lookup k with _ | v
  · rfl
  · exact AList.lookup_insert_ne hj

lemma lookup_emplace_self {β : Type} (k : String) (v : β) (l : AList fun _ : String => β) :
    (if k ∈ l then l else l.insert k v).lookup k = some ((l.lookup k).getD v) := by
  split_ifs with hmem
  · obtain ⟨w, hw⟩ := Option.isSome_iff_exists.mp (AList.lookup_isSome.mpr hmem)
    rw [hw, Option.getD_some]
  · rw [AList.lookup_insert, AList.lookup_eq_none.mpr hmem, Option.getD_none]

lemma lookup_emplace_ne {β : Type} {j k : String} (hj : j ≠ k) (v : β)
    (l : AList fun _ : String => β) :
    (if k ∈ l then l else l.insert k v).lookup j = l.lookup j := by
  split_ifs
  · rfl
  · exact AList.lookup_insert_ne hj

theorem Recorded.step {s t : AriClient} (hs : s.Recorded) (h : Noted s t) : t.Recorded := by
  -- a mark that is not about the channel keeps its context
  have hkeep : ∀ m, (∀ c, entry c m = none) →
      ∀ c life cx, Describes c life cx → Describes c (life ++ [m]) cx :=
    fun m hm c life cx h => h.concat (hm c)
  cases h with
  | quiet hmarks hchannels _ =>
    rw [Recorded, hmarks, hchannels]
    exact hs
  | admitted channelId callerFlat calleeFlat hmarks hchannels _ =>
    rw [Recorded, hmarks, hchannels]
    exact hs.opened (fun _ => rfl) (by simp [isAdmitted, eq_comm]) (lookup_emplace_self _ _ _)
      (fun c hc => lookup_emplace_ne hc _ _) ⟨rfl, rfl, rfl⟩ (hkeep _ fun _ => rfl)
  | entered channelId bridgeId _ hmarks hchannels _ =>
    rw [Recorded, hmarks, hchannels]
    refine hs.changed (fun _ => rfl) (fun _ => rfl) (lookup_modify_self _ _ _)
      (fun c hc => lookup_modify_ne _ hc _) (fun life cx h => h.enter bridgeId _) ?_
    intro c life cx hc h
    exact h.concat (by simp [entry, Ne.symm hc])
  | left _ _ hmarks hchannels _ =>
    rw [Recorded, hmarks, hchannels]
    exact hs.kept (fun _ => rfl) (fun _ => rfl) (hkeep _ fun _ => rfl)
  | destroyed channelId hmarks hchannels _ =>
    rw [Recorded, hmarks, hchannels]
    exact hs.closed (by simp [isDestroyed, eq_comm]) (fun _ => rfl) (AList.lookup_erase _ _)
      (fun c hc => AList.lookup_erase_ne hc) (hkeep _ fun _ => rfl)
  | bridgeCreated _ _ hmarks hchannels _ =>
    rw [Recorded, hmarks, hchannels]
    exact hs.kept (fun _ => rfl) (fun _ => rfl) (hkeep _ fun _ => rfl)
  | bridgeDestroyed _ hmarks hchannels _ =>
    rw [Recorded, hmarks, hchannels]
    exact hs.kept (fun _ => rfl) (fun _ => rfl) (hkeep _ fun _ => rfl)

lemma recorded_init (cfg : Config) (appName : String) : (init cfg appName).Recorded := ledger_nil

lemma recorded_run (cfg : Config) (appName : String) (is : List Input) :
    ((init cfg appName).run is).Recorded := by
  refine run_invariant (P := Recorded) ?_ (recorded_init cfg appName) is
  intro s i hs
  have hscript : (s.setScript i.2).Recorded := hs
  exact hscript.step (noted_step (step_onEvent i.1 (s.setScript i.2)))

/-! ### Documents -/

/-- The clock is positive, and has not gone back since the last event. -/
def ClockOk (s : AriClient) (i : Input) : Prop := 0 < i.2.now ∧ s.script.now ≤ i.2.now

instance (s : AriClient) (i : Input) : Decidable (ClockOk s i) :=
  inferInstanceAs (Decidable (0 < i.2.now ∧ s.script.now ≤ i.2.now))

/-- When the mark was made, if it says so. -/
def Mark.time : Mark → Option ℤ
  | .admitted _ now  => some now
  | .entered _ _ now => some now
  | _                => none

/-- The marks are not from the future, and not from before the start of the clock. -/
def Timed (s : AriClient) : Prop :=
  ∀ m ∈ s.marks, ∀ now, m.time = some now → 0 < now ∧ now ≤ s.script.now

/-- Only the end of a channel creates a document. -/
lemma cdrs_step {s t : AriClient} {e : AriEvent} (h : Step s e t)
    (he : ∀ channelId causeTxt, channelId ≠ "" →
      e ≠ .channelDestroyed (some (.text channelId)) causeTxt) : t.cdrs = s.cdrs := by
  cases h with
  | ignored => rfl
  | published => rfl
  | leg => rfl
  | bounced => rfl
  | @admitted ch args channelId name =>
    have hsame := sameClient_admitCaller channelId ch name args s
    rw [enroll_eq] at hsame
    exact hsame.cdrs
  | bridgeCreated =>
    simp only [handleBridgeCreated, JsonField.string?]
    split_ifs <;> rfl
  | bridgeDestroyed =>
    simp only [handleBridgeDestroyed, JsonField.string?]
    split_ifs <;> rfl
  | entered => rfl
  | left => rfl
  | destroyed channelId causeTxt hch => exact absurd rfl (he channelId causeTxt hch)

namespace Timed

variable {s t : AriClient}

/-- A mark that says when it was made says the time of the event. -/
lemma of_concat (hs : s.Timed) (hnow : 0 < s.script.now) (hscript : t.script = s.script)
    {m : Mark} (hmarks : t.marks = s.marks ++ [m])
    (hm : ∀ now, m.time = some now → now = s.script.now) : t.Timed := by
  intro m' hm' now hnow'
  rw [hscript]
  rw [hmarks] at hm'
  obtain hm' | hm' := List.mem_append.mp hm'
  · exact hs m' hm' now hnow'
  · rw [List.mem_singleton.mp hm'] at hnow'
    rw [hm now hnow']
    exact ⟨hnow, le_refl _⟩

theorem step (hs : s.Timed) (hnow : 0 < s.script.now) (hscript : t.script = s.script)
    (h : Noted s t) : t.Timed := by
  cases h with
  | quiet hmarks =>
    intro m hm now hnow'
    rw [hscript]
    exact hs m (hmarks ▸ hm) now hnow'
  | admitted _ _ _ hmarks =>
    exact hs.of_concat hnow hscript hmarks fun now h => (Option.some.inj h).symm
  | entered _ _ _ hmarks =>
    exact hs.of_concat hnow hscript hmarks fun now h => (Option.some.inj h).symm
  | left _ _ hmarks => exact hs.of_concat hnow hscript hmarks (by simp [Mark.time])
  | destroyed _ hmarks => exact hs.of_concat hnow hscript hmarks (by simp [Mark.time])
  | bridgeCreated _ _ hmarks => exact hs.of_concat hnow hscript hmarks (by simp [Mark.time])
  | bridgeDestroyed _ hmarks => exact hs.of_concat hnow hscript hmarks (by simp [Mark.time])

/-- Time passes. -/
lemma setScript (hs : s.Timed) {script : Script} (hnow : s.script.now ≤ script.now) :
    (s.setScript script).Timed := by
  intro m hm now htime
  obtain ⟨hpos, hle⟩ := hs m hm now htime
  exact ⟨hpos, hle.trans hnow⟩

end Timed

lemma timed_run {cfg : Config} {appName : String} {is : List Input}
    (hclock : Along AriClient.step ClockOk (init cfg appName) is) :
    ((init cfg appName).run is).Timed := by
  have hstart : (init cfg appName).Timed := by simp [Timed, init]
  refine run_keeps (P := Timed) ?_ hstart hclock
  intro s t i hs hi h
  exact (hs.setScript hi.2).step hi.1 (kept_step h).2 (noted_step h)

lemma mem_of_mem_life {channelId : String} {marks : List Mark} {m : Mark}
    (h : m ∈ life channelId marks) : m ∈ marks :=
  mem_of_mem_since ((List.dropWhile_sublist _).subset h)

/-- The entries of a channel are at positive times that have passed. -/
lemma Timed.entries_pos {s : AriClient} (hs : s.Timed) (channelId : String) :
    ∀ x ∈ entries channelId (life channelId s.marks), 0 < x.2 ∧ x.2 ≤ s.script.now := by
  intro x hx
  obtain ⟨m, hm, hentry⟩ := List.mem_filterMap.mp hx
  cases m with
  | entered c b now =>
    simp only [entry] at hentry
    split_ifs at hentry
    obtain rfl := Option.some.inj hentry
    exact hs _ (mem_of_mem_life hm) now rfl
  | _ => cases hentry

/-- With a positive clock, the time of the answer is that of the first entry. -/
lemma Describes.answeredAt_eq {channelId : String} {marks : List Mark} {cx : ChannelCtx}
    (h : Describes channelId marks cx) (hpos : ∀ x ∈ entries channelId marks, 0 < x.2) :
    cx.answeredAt = ((entries channelId marks).head?.map Prod.snd).getD 0 := by
  rw [h.answered]
  revert hpos
  rcases entries channelId marks with _ | ⟨first, rest⟩ <;> intro hpos
  · rfl
  · have hfirst : first.2 ≠ 0 := (hpos first List.mem_cons_self).ne'
    simp [hfirst]

/-- What the document of a call says about the life of its caller. -/
structure Documents (channelId : String) (marks : List Mark) (now : ℤ) (cdr : Cdr) : Prop where
  callId : cdr.callId = channelId
  started : marks.head? = some (.admitted channelId cdr.startedAt)
  ended : cdr.endedAt = now
  ordered : cdr.startedAt ≤ cdr.endedAt
  answered : cdr.answeredAt = ((entries channelId marks).head?.map Prod.snd).getD 0
  duration : cdr.durationSec =
    if entries channelId marks = [] then 0 else cdr.endedAt - cdr.answeredAt

lemma documents_makeCdr {s : AriClient} {channelId : String} {cx : ChannelCtx}
    (hs : s.Timed) (h : Describes channelId (life channelId s.marks) cx) (causeTxt : JsonField) :
    Documents channelId (life channelId s.marks) s.script.now
      (s.makeCdr channelId cx causeTxt) := by
  have hpos := hs.entries_pos channelId
  have hanswered := h.answeredAt_eq fun x hx => (hpos x hx).1
  have hadmitted := hs _ (mem_of_mem_life (List.mem_of_mem_head? h.started)) cx.startedAt rfl
  refine ⟨rfl, h.started, rfl, hadmitted.2, hanswered, ?_⟩
  simp only [makeCdr]
  rcases hentries : entries channelId (life channelId s.marks) with _ | ⟨first, rest⟩
  · rw [hentries] at hanswered
    simp [hanswered]
  · rw [hentries] at hanswered hpos
    have hfirst := hpos first List.mem_cons_self
    have heq : cx.answeredAt = first.2 := hanswered
    simp [heq, hfirst.1, hfirst.2]

@[simp] lemma marks_handleBridgeCreated (bridgeId : String) (type : JsonField) (s : AriClient) :
    (s.handleBridgeCreated (.text bridgeId) type).marks = s.marks ++ [.bridgeCreated bridgeId] := by
  simp only [handleBridgeCreated, JsonField.string?]
  split_ifs <;> rfl

@[simp] lemma marks_handleBridgeDestroyed (bridgeId : String) (s : AriClient) :
    (s.handleBridgeDestroyed (.text bridgeId)).marks = s.marks ++ [.bridgeDestroyed bridgeId] := by
  simp only [handleBridgeDestroyed, JsonField.string?]
  split_ifs <;> rfl

@[simp] lemma marks_admitCaller (channelId : String) (ch : StasisChannel) (name : String)
    (args : List JsonField) (s : AriClient) :
    (s.admitCaller channelId ch name args).marks =
      s.marks ++ [.admitted channelId s.script.now] := by
  have hsame := sameClient_admitCaller channelId ch name args s
  rw [enroll_eq] at hsame
  exact hsame.marks

/-- A caller is admitted by its start, if it is not a leg and the cap is not reached. -/
lemma admitted_mark_iff (s : AriClient) (e : AriEvent) (channelId : String) :
    (s.onEvent e).marks = s.marks ++ [.admitted channelId s.script.now] ↔
      ∃ ch args name, e = .stasisStart (some ch) args ∧ ch.id = .text channelId ∧
        outboundCaller args = none ∧ s.overAdmissionCap = false ∧ ch.name.value = some name := by
  constructor
  · have hstep := step_onEvent e s
    revert hstep
    generalize s.onEvent e = t
    intro hstep h
    have hsame : s.marks ≠ s.marks ++ [.admitted channelId s.script.now] := by simp
    cases hstep with
    | ignored => exact absurd h hsame
    | published => exact absurd h hsame
    | leg => exact absurd h hsame
    | bounced => exact absurd h hsame
    | @admitted ch args channelId' name hid hout hcap hname =>
      obtain rfl : channelId' = channelId := by simpa using h
      exact ⟨ch, args, name, rfl, hid, hout, hcap, hname⟩
    | bridgeCreated => simp at h
    | bridgeDestroyed => simp at h
    | entered => simp [enterBridge] at h
    | left => simp at h
    | destroyed =>
      rw [finishCall_eq] at h
      simp [withRouter] at h
  · rintro ⟨ch, args, name, rfl, hid, hout, hcap, hname⟩
    simp [onEvent, handleStasisStart, hid, JsonField.string?, hout, hcap, hname]

/-- The end of a channel creates a document if the channel has a context. -/
lemma cdrs_channelDestroyed {channelId : String} (hch : channelId ≠ "") (causeTxt : JsonField)
    (s : AriClient) : (s.onEvent (.channelDestroyed (some (.text channelId)) causeTxt)).cdrs =
      s.cdrs ++ ((s.channels.lookup channelId).toList.map fun cx =>
        s.makeCdr channelId cx causeTxt) := by
  rw [onEvent, handleChannelDestroyed]
  simp only [Option.bind_some, JsonField.value, hch, if_false]
  rw [finishCall_eq]
  rfl

/-- The start of a caller that dials the conference. -/
def joins (channelId : String) (now : ℤ) : Input :=
  (.stasisStart (some { id := .text channelId }) [.text "conf"], { now := now })

def enters (channelId bridgeId : String) (now : ℤ) : Input :=
  (.channelEnteredBridge (some (.text channelId)) (some (.text bridgeId)), { now := now })

def ends (channelId : String) (now : ℤ) : Input :=
  (.channelDestroyed (some (.text channelId)) .absent, { now := now })

end AriClient
