import OnPremPbx.Cloud.Invariant
import OnPremPbx.Tunnel.Receivers
import OnPremPbx.Tunnel.Streams

/-!
# What the cloud end reads

What every entry point of the cloud end does to the sizes of the frames it sends and to the frames
it has heard. Reading valid bytes of an agent, the cloud hears the frames they hold one after the
other, until the agent is lost or a handler throws.
-/

open Framing SipFrame

namespace Cloud

/-! ### Sizes -/

/-- Every frame that was handed to `send_frame` fits. -/
def Small (s : Cloud) : Prop := ∀ x ∈ s.trace.passed, x.1.Fits

/-- Every payload that a handler hands to `bootstrap_society` fits. -/
def Script.Small (script : Script) : Prop :=
  ∀ h ∈ script.handlers, match h with
    | .returns (some p) => p.length ≤ kMaxPayload
    | _                 => True

instance (script : Script) : Decidable script.Small :=
  haveI : DecidablePred fun h : HandlerCall => match h with
      | .returns (some p) => p.length ≤ kMaxPayload
      | _                 => True := fun h => match h with
    | .raises           => inferInstanceAs (Decidable True)
    | .returns none     => inferInstanceAs (Decidable True)
    | .returns (some p) => inferInstanceAs (Decidable (p.length ≤ kMaxPayload))
  List.decidableBAll _ script.handlers

section Small

variable {s : Cloud} (hs : s.Small)

include hs

lemma small_sendFrame {op : Op} {i : UInt32} {p : Bytes} (hp : p.length ≤ kMaxPayload) :
    (s.sendFrame op i p).Small := by
  obtain ⟨kept, hpassed⟩ := passed_sendFrame op i p s
  intro x hx
  rw [hpassed] at hx
  obtain hx | hx := List.mem_append.mp hx
  · exact hs x hx
  · rw [List.mem_singleton.mp hx]
    exact hp

lemma small_tunnelSend {op : Op} {i : UInt32} {p : Bytes}
    (hp : s.bridge.tunnel.isSome → p.length ≤ kMaxPayload) : (s.tunnelSend op i p).Small := by
  rcases h : s.bridge.tunnel with _ | t
  · rwa [tunnelSend_of_none h]
  · rw [tunnelSend_of_some h]
    exact small_sendFrame hs (hp (by simp [h]))

lemma small_callHandler (hscript : s.script.Small) : s.callHandler.1.Small := by
  have hset : ∀ script, (s.setScript script).Small := fun _ => hs
  rcases h : s.script.handlers with _ | ⟨_ | _ | p, rest⟩
  · simpa only [callHandler, h, List.headD_nil] using hset _
  · simpa only [callHandler, h, List.headD_cons] using hset _
  · simpa only [callHandler, h, List.headD_cons] using hset _
  · have hp : p.length ≤ kMaxPayload := hscript _ (by rw [h]; exact List.mem_cons_self)
    simp only [callHandler, h, List.headD_cons, bootstrapSociety]
    exact small_tunnelSend (hset _) fun _ => hp

lemma small_dispatchFrame (hscript : s.script.Small) (f : Frame) : (s.dispatchFrame f).1.Small := by
  obtain ⟨op, i, p⟩ := f
  cases op with
  | DATA =>
    rcases h : s.bridge.browsers.lookup i with _ | b <;> (simp only [dispatchFrame, h]; exact hs)
  | CLOSE =>
    rcases h : s.bridge.browsers.lookup i with _ | b <;>
      (simp only [dispatchFrame, closeStream, h]; exact hs)
  | PING => exact small_tunnelSend hs fun _ => Nat.zero_le _
  | PONG | ERR | OPEN | SUBSCRIBER_REVOKED | SOCIETY_BOOTSTRAP => exact hs
  | PUSH_NOTIFY | CDR_PUSH | REGISTER_STATE | AGENT_HELLO => exact small_callHandler hs hscript
  | ASTERISK_STATUS => exact small_callHandler (s := s.cacheStatus p) hs hscript

lemma small_dispatch (hscript : s.script.Small) (f : Frame) : (s.dispatch f).1.Small := by
  have hframe := small_dispatchFrame hs hscript f
  rw [dispatch]
  split_ifs
  · exact hframe
  · exact hframe

lemma small_tick : s.tick.Small := by
  rw [tick]
  split_ifs
  · have hping : (s.sendFrame .PING 0 []).Small := small_sendFrame hs (Nat.zero_le _)
    rcases hclock : s.endpoint.clock with _ | now
    · simpa only [maybeHeartbeat, hclock] using hs
    · simp only [maybeHeartbeat, hclock]
      split_ifs
      · exact hs
      · exact hs
      · exact hs
      · exact hping
      · exact hping
  · exact hs

end Small

/-! ### Reading -/

lemma closedInner_attached (l : List ConnId) : ClosedInner fun s => s.trace.attached = l where
  setScript _ _ h := h
  wrote _ _ _ _ h := h
  record _ _ _ h := h
  setOutbound _ _ h := h
  markDisconnected _ h := h
  deregister _ _ h := h
  deliver _ _ _ h := h
  release _ _ _ h := h
  recordData _ _ _ h := h
  cacheStatus _ _ h := h
  hear _ _ _ h := h
  setBuffer _ _ h := h

/-- The transport stays unless the agent is lost, and then there is none. -/
def Holds (s t : Cloud) : Prop :=
  s.trace.losses ≤ t.trace.losses ∧
  (t.trace.losses = s.trace.losses → t.endpoint.transport = s.endpoint.transport) ∧
  (t.trace.losses ≠ s.trace.losses → t.endpoint.transport = none)

lemma Holds.refl (s : Cloud) : Holds s s := ⟨le_rfl, fun _ => rfl, fun h => absurd rfl h⟩

lemma closedInner_holds (s : Cloud) : ClosedInner (Holds s) where
  setScript _ _ h := h
  wrote _ _ _ _ h := h
  record _ _ _ h := h
  setOutbound _ _ h := h
  markDisconnected _ h :=
    ⟨Nat.le_succ_of_le h.1, fun heq => absurd heq (Nat.lt_succ_of_le h.1).ne', fun _ => rfl⟩
  deregister _ _ h := h
  deliver _ _ _ h := h
  release _ _ _ h := h
  recordData _ _ _ h := h
  cacheStatus _ _ h := h
  hear _ _ _ h := h
  setBuffer _ _ h := h

lemma closedFrame_heard (l : List (ConnId × Frame)) :
    ClosedFrame fun s => s.trace.heard = l where
  setScript _ _ h := h
  wrote _ _ _ _ h := h
  record _ _ _ h := h
  setOutbound _ _ h := h
  markDisconnected _ h := h
  deregister _ _ h := h
  deliver _ _ _ h := h
  release _ _ _ h := h
  recordData _ _ _ h := h
  cacheStatus _ _ h := h

lemma heard_dispatch (f : Frame) (s : Cloud) :
    (s.dispatch f).1.trace.heard = s.trace.heard ++
      if (s.dispatch f).2 then s.endpoint.transport.toList.map fun c => (c, f) else [] := by
  have hframe := (closedFrame_heard s.trace.heard).dispatchFrame f s rfl
  rw [dispatch]
  split_ifs with h
  · simp [hear, hframe]
  · simp [hframe]

/-- What the receive loop keeps while it works through the frames `fs` from `c`, after it started
in `s`. -/
structure Reading (s : Cloud) (c : ConnId) (all fs : List Frame) (t : Cloud) : Prop where
  small : t.Small
  script : t.script.Small
  attached : t.trace.attached = s.trace.attached
  holds : Holds s t
  heard : ofKey c t.trace.heard ++ fs = ofKey c s.trace.heard ++ all
  heard_ne : ∀ d, d ≠ c → ofKey d t.trace.heard = ofKey d s.trace.heard

lemma Reading.setBuffer {s t : Cloud} {c : ConnId} {all fs : List Frame}
    (ht : Reading s c all fs t) (b : Bytes) : Reading s c all fs (t.setBuffer b) :=
  ⟨ht.small, ht.script, ht.attached, ht.holds, ht.heard, ht.heard_ne⟩

lemma Reading.dispatch {s t : Cloud} {c : ConnId} {all fs : List Frame} {f : Frame}
    (hs : s.endpoint.transport = some c) (ht : Reading s c all (f :: fs) t)
    (hep : t.trace.losses = s.trace.losses) :
    Reading s c all (if (t.dispatch f).2 then fs else f :: fs) (t.dispatch f).1 := by
  have hheard := heard_dispatch f t
  rw [(ht.holds.2.1 hep).trans hs] at hheard
  refine
    { small := small_dispatch ht.small ht.script f
      script := fun h hh => ht.script h ((handlers_dispatch_suffix f t).mem hh)
      attached := (closedInner_attached s.trace.attached).dispatch f t ht.attached
      holds := (closedInner_holds s).dispatch f t ht.holds
      heard := ?_
      heard_ne := fun d hd => ?_ }
  · rw [hheard, ofKey_append, ← ht.heard]
    split_ifs
    · simp
    · simp
  · rw [hheard, ofKey_append, ← ht.heard_ne d hd]
    split_ifs
    · simp [ofKey_of_ne (Ne.symm hd)]
    · simp

/-- The state in which the receive loop starts on new bytes. -/
def fed (bytes : Bytes) (s : Cloud) : Cloud := s.clearPings.setBuffer (s.bridge.recvBuffer ++ bytes)

lemma Reading.start {s : Cloud} {c : ConnId} {all : List Frame} (hs : s.Small)
    (hscript : s.script.Small) (bytes : Bytes) : Reading s c all all (s.fed bytes) where
  small := hs
  script := hscript
  attached := rfl
  holds := Holds.refl s
  heard := rfl
  heard_ne _ _ := rfl

/-- Valid bytes do not cost the connection. -/
lemma onBytesReceived_eq {s : Cloud} {bytes : Bytes}
    (hvalid : (codec.drain (s.bridge.recvBuffer ++ bytes)).valid = true) :
    s.onBytesReceived bytes = (receiver.receive (s.fed bytes)).state := by
  have hexit : (receiver.receive (s.fed bytes)).exit ≠ .returned false :=
    receiver.exit_receive_of_valid hvalid
  rw [onBytesReceived, if_neg (show (s.clearPings.onTunnelBytes bytes).exit ≠ _ from hexit)]
  rfl

/-- What the cloud has heard after reading bytes that the agent at `c` wrote. -/
lemma reads {s : Cloud} {c : ConnId} (bytes : Bytes) (hs : s.Small) (hscript : s.script.Small)
    (hconn : s.endpoint.transport = some c)
    (hvalid : (codec.drain (s.bridge.recvBuffer ++ bytes)).valid = true) :
    ∃ done rest, (codec.drain (s.bridge.recvBuffer ++ bytes)).frames = done ++ rest ∧
      Reading s c (done ++ rest) rest (s.onBytesReceived bytes) ∧
      ((s.onBytesReceived bytes).trace.losses = s.trace.losses →
        codec.encodeAll done ++ (s.onBytesReceived bytes).bridge.recvBuffer =
          s.bridge.recvBuffer ++ bytes) := by
  set all := (codec.drain (s.bridge.recvBuffer ++ bytes)).frames with hall
  obtain ⟨done, rest, hframes, hreading, henc⟩ := receiver.receive_invariant
    (Q := fun fs t => Reading s c all fs t) (e := s.trace.losses)
    (fun fs b t ht => ht.setBuffer b)
    (fun f fs t hep hd ht => by
      have hnext := ht.dispatch hconn hep
      rwa [if_pos (show (t.dispatch f).2 = true from hd)] at hnext)
    (fun f fs t hep hd ht => by
      have hnext := ht.dispatch hconn hep
      rwa [show (t.dispatch f).2 = false from hd, if_neg Bool.false_ne_true] at hnext)
    (s.fed bytes) rfl (Reading.start hs hscript bytes)
  rw [onBytesReceived_eq hvalid]
  exact ⟨done, rest, hframes, hframes ▸ hreading, fun hep => henc hep hvalid⟩

/-! ### The other events -/

/-- Nothing was read, and no agent attached. -/
def Calm (s t : Cloud) : Prop :=
  t.trace.heard = s.trace.heard ∧ t.trace.attached = s.trace.attached ∧
  ∀ c, t.endpoint.transport = some c →
    s.endpoint.transport = some c ∧ t.bridge.recvBuffer = s.bridge.recvBuffer

lemma Calm.refl (s : Cloud) : Calm s s := ⟨rfl, rfl, fun _ h => ⟨h, rfl⟩⟩

lemma closedSend_calm (s : Cloud) : ClosedSend (Calm s) where
  setScript _ _ h := h
  wrote _ _ _ _ h := h
  record _ _ _ h := h
  setOutbound _ _ h := h
  markDisconnected _ h :=
    ⟨h.1, h.2.1, fun c hc => by simp [markDisconnected, onTunnelDisconnect] at hc⟩

lemma calm_browserData (b : BrowserSink) (bytes : Bytes) (s : Cloud) :
    Calm s (s.handle (.browserData b bytes)) := by
  rcases h : s.trace.issued[b]? with _ | i
  · simp only [handle, h]
    exact .refl s
  · simp only [handle, h, onBrowserData]
    split_ifs
    · exact (closedSend_calm s).tunnelSend _ _ _ (s.recordData b bytes) (.refl s)
    · exact .refl s

lemma calm_browserClose (b : BrowserSink) (reason : Bytes) (s : Cloud) :
    Calm s (s.handle (.browserClose b reason)) := by
  rcases h : s.trace.issued[b]? with _ | i
  · simp only [handle, h]
    exact .refl s
  · simp only [handle, h, onBrowserClose]
    split_ifs
    · exact (closedSend_calm s).tunnelSend _ _ _ (s.deregister i) (.refl s)
    · exact .refl s

lemma calm_tick (s : Cloud) : Calm s s.tick :=
  (closedSend_calm s).tick (fun _ _ h => h) s (.refl s)

lemma calm_onAgentDisconnected (s : Cloud) : Calm s s.onAgentDisconnected :=
  (closedSend_calm s).onAgentDisconnected s (.refl s)

/-- An agent that attaches starts with an empty buffer. -/
lemma onAgentConnected_fresh (c : ConnId) (s : Cloud) :
    (s.onAgentConnected c).trace.heard = s.trace.heard ∧
    (s.onAgentConnected c).trace.attached = s.trace.attached ++ [c] ∧
    ∀ d, (s.onAgentConnected c).endpoint.transport = some d →
      d = c ∧ (s.onAgentConnected c).bridge.recvBuffer = [] := by
  obtain ⟨hheard, hattached, -⟩ := calm_onAgentDisconnected s
  have hcases := onAgentConnected_cases c s
  generalize s.onAgentDisconnected = t at hheard hattached hcases
  obtain h | ⟨sent, f, rest, n, -, -, h⟩ := hcases
  · rw [h]
    refine ⟨hheard, by rw [← hattached]; rfl, fun d hd => ⟨(Option.some.inj hd).symm, rfl⟩⟩
  · rw [h]
    refine ⟨hheard, by rw [← hattached]; rfl, ?_⟩
    intro d hd
    simp [markDisconnected, onTunnelDisconnect] at hd

def Event.isUpgrade : Event → Bool
  | .browserUpgrade _ => true
  | _                 => false

lemma passed_onAgentConnected (c : ConnId) (s : Cloud) :
    (s.onAgentConnected c).trace.passed = s.trace.passed := by
  have hpassed : s.onAgentDisconnected.trace.passed = s.trace.passed := by
    rw [onAgentDisconnected]
    split_ifs <;> rfl
  have hcases := onAgentConnected_cases c s
  generalize s.onAgentDisconnected = t at hpassed hcases
  obtain h | ⟨sent, f, rest, n, -, -, h⟩ := hcases
  · rw [h]
    exact hpassed
  · rw [h]
    exact hpassed

/-- The number of ids issued grows with an upgrade only. -/
lemma length_issued_handle (e : Event) (s : Cloud) :
    (s.handle e).trace.issued.length ≤ s.trace.issued.length + e.isUpgrade.toNat := by
  have hinner : ClosedInner fun t => t.trace.issued = s.trace.issued :=
    { setScript := fun _ _ h => h
      wrote := fun _ _ _ _ h => h
      record := fun _ _ _ h => h
      setOutbound := fun _ _ h => h
      markDisconnected := fun _ h => h
      deregister := fun _ _ h => h
      deliver := fun _ _ _ h => h
      release := fun _ _ _ h => h
      recordData := fun _ _ _ h => h
      cacheStatus := fun _ _ h => h
      hear := fun _ _ _ h => h
      setBuffer := fun _ _ h => h }
  have hsame : ∀ {t : Cloud}, t.trace.issued = s.trace.issued →
      t.trace.issued.length ≤ s.trace.issued.length + e.isUpgrade.toNat :=
    fun h => h ▸ Nat.le_add_right _ _
  cases e with
  | browserUpgrade openMeta =>
    have hclosed : ClosedSend fun t => t.trace.issued = s.register.trace.issued :=
      { setScript := fun _ _ h => h
        wrote := fun _ _ _ _ h => h
        record := fun _ _ _ h => h
        setOutbound := fun _ _ h => h
        markDisconnected := fun _ h => h }
    have hissued : (s.onBrowserUpgrade openMeta).1.trace.issued = s.register.trace.issued :=
      hclosed.tunnelSend _ _ _ s.register rfl
    simp only [handle, hissued]
    simp [register, Event.isUpgrade]
  | browserData b bytes => exact hsame (hinner.handle_browser rfl (Or.inl ⟨b, bytes, rfl⟩))
  | browserClose b reason => exact hsame (hinner.handle_browser rfl (Or.inr ⟨b, reason, rfl⟩))
  | revoke payload => exact hsame (hinner.tunnelSend _ _ _ s rfl)
  | sendFrame f => exact hsame (hinner.sendFrame _ _ _ s rfl)
  | tick => exact hsame (hinner.tick (fun _ _ h => h) s rfl)
  | agentConnected c =>
    simp only [handle]
    split_ifs
    · exact Nat.le_add_right _ _
    · have hinst := hinner.onAgentDisconnected s rfl
      exact hsame (hinner.flushOutbound (s.onAgentDisconnected.install c) hinst)
  | bytesReceived bytes =>
    have hfed := hinner.onTunnelBytes bytes s.clearPings rfl
    simp only [handle, onBytesReceived]
    split_ifs
    · exact hsame hfed
    · exact hsame hfed
  | agentDisconnected => exact hsame (hinner.onAgentDisconnected s rfl)
  | advance seconds => exact hsame (t := s.advance seconds) rfl

end Cloud
