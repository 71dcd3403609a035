import OnPremPbx.Calls.AriClient
import OnPremPbx.Calls.ForkedRing

/-!
# What the client does

An event is ignored, or it does one of nine things. An invariant of the client is about these.
-/

open Transition

namespace AriClient

/-- What handling an event can do. -/
inductive Step (s : AriClient) : AriEvent → AriClient → Prop
  | ignored {e : AriEvent} : Step s e s
  | published {e : AriEvent} (resource : String) (online : Bool) :
      Step s e (s.publish resource online)
  | leg {e : AriEvent} (leg caller : String) : Step s e (s.withRouter (·.onLegStart leg caller))
  | bounced {e : AriEvent} (channelId : String) : Step s e (s.bounce channelId)
  | admitted {ch : StasisChannel} {args : List JsonField} {channelId name : String}
      (hid : ch.id = .text channelId) (hout : outboundCaller args = none)
      (hcap : s.overAdmissionCap = false) (hname : ch.name.value = some name) :
      Step s (.stasisStart (some ch) args) (s.admitCaller channelId ch name args)
  | bridgeCreated (bridgeId : String) (type : JsonField) :
      Step s (.bridgeCreated (.text bridgeId) type)
        (s.handleBridgeCreated (.text bridgeId) type)
  | bridgeDestroyed (bridgeId : String) :
      Step s (.bridgeDestroyed (.text bridgeId)) (s.handleBridgeDestroyed (.text bridgeId))
  | entered (channelId bridgeId : String) (hch : channelId ≠ "") (hbr : bridgeId ≠ "") :
      Step s (.channelEnteredBridge (some (.text channelId)) (some (.text bridgeId)))
        (s.enterBridge channelId bridgeId)
  | left (channelId bridgeId : String) :
      Step s (.channelLeftBridge channelId bridgeId) (s.note (.left channelId bridgeId))
  | destroyed (channelId : String) (causeTxt : JsonField) (hch : channelId ≠ "") :
      Step s (.channelDestroyed (some (.text channelId)) causeTxt)
        (((s.note (.destroyed channelId)).withRouter (·.onChannelGone channelId)).finishCall
          channelId causeTxt)

lemma JsonField.eq_text {f : JsonField} {t : String} (h : f.string? = some t) : f = .text t := by
  cases f with
  | text u => rw [Option.some.inj h]
  | absent => cases h
  | other => cases h

/-- A value that is not empty was there. -/
lemma JsonField.eq_text_of_value {f : JsonField} {t : String} (h : f.value = some t)
    (hne : t ≠ "") : f = .text t := by
  cases f with
  | text u => rw [Option.some.inj h]
  | absent => exact absurd (Option.some.inj h).symm hne
  | other => cases h

lemma step_stasisStart (channel : Option StasisChannel) (args : List JsonField) (s : AriClient) :
    Step s (.stasisStart channel args) (s.handleStasisStart channel args) := by
  rcases channel with _ | ch
  · exact .ignored
  · rcases hid : ch.id.string? with _ | channelId
    · simp only [handleStasisStart, hid]
      exact .ignored
    · simp only [handleStasisStart, hid]
      rcases hout : outboundCaller args with _ | caller
      · simp only
        split_ifs with hcap
        · exact .bounced channelId
        · rcases hname : ch.name.value with _ | name
          · exact .ignored
          · exact .admitted (JsonField.eq_text hid) hout (by simpa using hcap) hname
      · exact .leg channelId caller

lemma step_enteredBridge (channel bridge : Option JsonField) (s : AriClient) :
    Step s (.channelEnteredBridge channel bridge)
      (s.handleChannelEnteredBridge channel bridge) := by
  rcases channel with _ | ch
  · exact .ignored
  rcases bridge with _ | br
  · exact .ignored
  simp only [handleChannelEnteredBridge]
  rcases hch : ch.value with _ | channelId
  · exact .ignored
  rcases hbr : br.value with _ | bridgeId
  · exact .ignored
  simp only
  split_ifs with hempty
  · exact .ignored
  · obtain ⟨hne, hne'⟩ := not_or.mp hempty
    rw [JsonField.eq_text_of_value hch hne, JsonField.eq_text_of_value hbr hne']
    exact .entered channelId bridgeId hne hne'

lemma step_destroyed (channel : Option JsonField) (causeTxt : JsonField) (s : AriClient) :
    Step s (.channelDestroyed channel causeTxt) (s.handleChannelDestroyed channel causeTxt) := by
  rcases channel with _ | ch
  · exact .ignored
  simp only [handleChannelDestroyed, Option.bind_some]
  rcases hch : ch.value with _ | channelId
  · exact .ignored
  simp only
  split_ifs with hempty
  · exact .ignored
  · rw [JsonField.eq_text_of_value hch hempty]
    exact .destroyed channelId causeTxt hempty

lemma step_onEvent (e : AriEvent) (s : AriClient) : Step s e (s.onEvent e) := by
  cases e with
  | stasisStart channel args => exact step_stasisStart channel args s
  | bridgeCreated id type =>
    rcases hid : id.string? with _ | bridgeId
    · simp only [onEvent, handleBridgeCreated, hid]
      exact .ignored
    · rw [JsonField.eq_text hid]
      exact .bridgeCreated bridgeId type
  | bridgeDestroyed id =>
    rcases hid : id.string? with _ | bridgeId
    · simp only [onEvent, handleBridgeDestroyed, hid]
      exact .ignored
    · rw [JsonField.eq_text hid]
      exact .bridgeDestroyed bridgeId
  | channelEnteredBridge channel bridge => exact step_enteredBridge channel bridge s
  | channelLeftBridge channelId bridgeId => exact .left channelId bridgeId
  | channelDestroyed channel causeTxt => exact step_destroyed channel causeTxt s
  | endpointStateChange endpoint =>
    rcases endpoint with _ | ep
    · simp only [onEvent, handleEndpointStateChange, ite_self]
      exact .ignored
    · simp only [onEvent, handleEndpointStateChange]
      split_ifs
      · split
        · exact .published _ _
        · exact .ignored
      · exact .ignored
  | contactStatusChange endpoint status =>
    rcases endpoint with _ | ep
    · simp only [onEvent, handleContactStatusChange, ite_self]
      exact .ignored
    · simp only [onEvent, handleContactStatusChange]
      split_ifs
      · split
        · exact .published _ _
        · exact .ignored
      · exact .ignored
  | other => exact .ignored

/-! ### Frames -/

@[simp] lemma router_note (m : Mark) (s : AriClient) : (s.note m).router = s.router := rfl
@[simp] lemma channels_note (m : Mark) (s : AriClient) : (s.note m).channels = s.channels := rfl
@[simp] lemma bridges_note (m : Mark) (s : AriClient) : (s.note m).bridges = s.bridges := rfl
@[simp] lemma activeBridges_note (m : Mark) (s : AriClient) :
    (s.note m).activeBridges = s.activeBridges := rfl
@[simp] lemma marks_note (m : Mark) (s : AriClient) : (s.note m).marks = s.marks ++ [m] := rfl

@[simp] lemma router_withRouter (f : CallRouter → CallRouter) (s : AriClient) :
    (s.withRouter f).router = f s.router := rfl

@[simp] lemma router_handleBridgeCreated (id type : JsonField) (s : AriClient) :
    (s.handleBridgeCreated id type).router = s.router := by
  rw [handleBridgeCreated]
  rcases id.string? with _ | bridgeId
  · rfl
  · dsimp only
    split_ifs <;> rfl

@[simp] lemma router_handleBridgeDestroyed (id : JsonField) (s : AriClient) :
    (s.handleBridgeDestroyed id).router = s.router := by
  rw [handleBridgeDestroyed]
  rcases id.string? with _ | bridgeId
  · rfl
  · dsimp only
    split_ifs <;> rfl

/-- `t` is `s` but for the router and what it has written. -/
structure SameClient (s t : AriClient) : Prop where
  cfg : t.cfg = s.cfg
  activeBridges : t.activeBridges = s.activeBridges
  channels : t.channels = s.channels
  bridges : t.bridges = s.bridges
  cdrs : t.cdrs = s.cdrs
  published : t.published = s.published
  marks : t.marks = s.marks
  script : t.script = s.script

lemma sameClient_withRouter (f : CallRouter → CallRouter) (s : AriClient) :
    SameClient s (s.withRouter f) := ⟨rfl, rfl, rfl, rfl, rfl, rfl, rfl, rfl⟩

lemma SameClient.trans {s t u : AriClient} (h : SameClient s t) (h' : SameClient t u) :
    SameClient s u where
  cfg := h'.cfg.trans h.cfg
  activeBridges := h'.activeBridges.trans h.activeBridges
  channels := h'.channels.trans h.channels
  bridges := h'.bridges.trans h.bridges
  cdrs := h'.cdrs.trans h.cdrs
  published := h'.published.trans h.published
  marks := h'.marks.trans h.marks
  script := h'.script.trans h.script

lemma sameClient_request (r : AriRequest) (s : AriClient) : SameClient s (s.request r).1 :=
  ⟨rfl, rfl, rfl, rfl, rfl, rfl, rfl, rfl⟩

/-- Joining the conference makes requests. -/
lemma sameClient_handleConferenceJoin (channelId : String) (s : AriClient) :
    SameClient s (s.handleConferenceJoin channelId) := by
  have hcreated := sameClient_request (.createBridge s.confBridge "mixing") s
  simp only [handleConferenceJoin]
  set t := (s.request (.createBridge s.confBridge "mixing")).1
  have hadded := sameClient_request (.addChannelToBridge s.confBridge channelId) t
  set u := (t.request (.addChannelToBridge s.confBridge channelId)).1
  split_ifs
  · exact hcreated.trans hadded
  · exact (hcreated.trans hadded).trans (sameClient_withRouter _ u)
  · exact hcreated.trans (sameClient_withRouter _ t)

/-- The client after a caller was admitted, before it is handed on. -/
def enroll (channelId : String) (ch : StasisChannel) (name : String) (args : List JsonField)
    (s : AriClient) : AriClient :=
  (s.note (.admitted channelId s.script.now)).addChannel channelId
    { callerFlat := s.callerFlat ch name, calleeFlat := calleeFlat ch args
      startedAt := s.script.now }

lemma admitCaller_eq (channelId : String) (ch : StasisChannel) (name : String)
    (args : List JsonField) (s : AriClient) : s.admitCaller channelId ch name args =
      if calleeFlat ch args = kConfExtension then
        (s.enroll channelId ch name args).handleConferenceJoin channelId
      else (s.enroll channelId ch name args).withRouter
        (·.onCallerStart channelId (s.callerFlat ch name) (calleeFlat ch args)) := rfl

lemma sameClient_admitCaller (channelId : String) (ch : StasisChannel) (name : String)
    (args : List JsonField) (s : AriClient) :
    SameClient (s.enroll channelId ch name args) (s.admitCaller channelId ch name args) := by
  rw [admitCaller_eq]
  split_ifs
  · exact sameClient_handleConferenceJoin channelId _
  · exact sameClient_withRouter _ _

lemma enroll_eq (channelId : String) (ch : StasisChannel) (name : String) (args : List JsonField)
    (s : AriClient) : s.enroll channelId ch name args =
      { s.note (.admitted channelId s.script.now) with
        channels := if channelId ∈ s.channels then s.channels else
          s.channels.insert channelId
            { callerFlat := s.callerFlat ch name, calleeFlat := calleeFlat ch args
              startedAt := s.script.now } } := by
  rw [enroll, addChannel, channels_note]
  split_ifs <;> rfl

@[simp] lemma router_enroll (channelId : String) (ch : StasisChannel) (name : String)
    (args : List JsonField) (s : AriClient) :
    (s.enroll channelId ch name args).router = s.router := by rw [enroll_eq]; rfl

/-- An entry that is not there is erased. -/
lemma erase_of_notMem {β : Type} {l : AList fun _ : String => β} {k : String} (h : k ∉ l) :
    l.erase k = l :=
  AList.ext (List.kerase_of_notMem_keys h)

/-- A document is created for a channel with a context, which it loses. -/
lemma finishCall_eq (channelId : String) (causeTxt : JsonField) (s : AriClient) :
    s.finishCall channelId causeTxt =
      { s with
        channels := s.channels.erase channelId
        cdrs := s.cdrs ++ ((s.channels.lookup channelId).toList.map fun cx =>
          s.makeCdr channelId cx causeTxt) } := by
  rw [finishCall]
  rcases h : s.channels.lookup channelId with _ | cx
  · rw [erase_of_notMem (AList.lookup_eq_none.mp h), Option.toList_none, List.map_nil,
      List.append_nil]
  · rfl

/-- The configuration and the script stay. -/
lemma kept_step {s t : AriClient} {e : AriEvent} (h : Step s e t) :
    t.cfg = s.cfg ∧ t.script = s.script := by
  cases h with
  | ignored => exact ⟨rfl, rfl⟩
  | published => exact ⟨rfl, rfl⟩
  | leg => exact ⟨rfl, rfl⟩
  | bounced => exact ⟨rfl, rfl⟩
  | @admitted ch args channelId name =>
    have hsame := sameClient_admitCaller channelId ch name args s
    rw [enroll_eq] at hsame
    exact ⟨hsame.cfg, hsame.script⟩
  | bridgeCreated =>
    simp only [handleBridgeCreated, JsonField.string?]
    split_ifs <;> exact ⟨rfl, rfl⟩
  | bridgeDestroyed =>
    simp only [handleBridgeDestroyed, JsonField.string?]
    split_ifs <;> exact ⟨rfl, rfl⟩
  | entered => exact ⟨rfl, rfl⟩
  | left => exact ⟨rfl, rfl⟩
  | destroyed =>
    rw [finishCall_eq]
    exact ⟨rfl, rfl⟩

/-- What every step that meets a condition keeps, every run of such steps keeps. -/
lemma run_keeps {P : AriClient → Prop} {Q : AriClient → Input → Prop}
    (hstep : ∀ s t i, P s → Q s i → Step (s.setScript i.2) i.1 t → P t) {s : AriClient} (hs : P s)
    {is : List Input} (hok : Along step Q s is) : P (s.run is) :=
  hok.invariant (P := P) (fun u i hi hu => hstep u _ i hu hi (step_onEvent i.1 (u.setScript i.2)))
    hs

end AriClient
