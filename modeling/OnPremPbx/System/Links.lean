import OnPremPbx.System.Basic

/-!
# The two ends are linked

Every connection is a `Link` in both directions: what one end has heard are the first of the
frames that the other end wrote to it, and the rest of what it has read is the beginning of the
next one.
-/

open Framing SipFrame

/-- The part of the invariant that is about the cloud alone. -/
structure Cloud.Ok (s : Cloud) : Prop where
  wf : s.outbound.Wf
  small : s.Small
  heard_used : ∀ c f, (c, f) ∈ s.trace.heard → c ∈ s.trace.attached

/-- The part of the invariant that is about one agent alone. -/
structure Agent.Ok (s : Agent) : Prop where
  wf : s.outbound.Wf
  small : s.Small
  heard_used : ∀ c f, (c, f) ∈ s.trace.heard → c ∈ s.trace.dialed
  held : ∀ c, s.connector.transport = some c → c ∈ s.trace.dialed

lemma Cloud.Ok.setScript {s : Cloud} (hs : s.Ok) (script : Cloud.Script) :
    (s.setScript script).Ok :=
  ⟨hs.wf, hs.small, hs.heard_used⟩

lemma Agent.Ok.setScript {s : Agent} (hs : s.Ok) (script : Agent.Script) :
    (s.setScript script).Ok :=
  ⟨hs.wf, hs.small, hs.heard_used, hs.held⟩

/-- What was read from `c` was read from a connection of the cloud. -/
lemma Cloud.Ok.read {s t : Cloud} {c : ConnId} {all fs : List Frame} (hs : s.Ok)
    (hc : c ∈ s.trace.attached) (hsteps : s.outbound.Steps t.outbound)
    (ht : Cloud.Reading s c all fs t) : t.Ok := by
  refine ⟨hs.wf.steps hsteps, ht.small, ?_⟩
  intro d f hf
  rw [ht.attached]
  by_cases hd : d = c
  · exact hd ▸ hc
  · rw [← mem_ofKey, ht.heard_ne d hd, mem_ofKey] at hf
    exact hs.heard_used d f hf

/-- What was read from `c` was read from a connection of the agent. -/
lemma Agent.Ok.read {s t : Agent} {c : ConnId} {all fs : List Frame} (hs : s.Ok)
    (hc : c ∈ s.trace.dialed) (hsteps : s.outbound.Steps t.outbound)
    (ht : Agent.Reading s c all fs t) : t.Ok := by
  refine ⟨hs.wf.steps hsteps, ht.small, ?_, ?_⟩
  · intro d f hf
    rw [ht.dialed]
    by_cases hd : d = c
    · exact hd ▸ hc
    · rw [← mem_ofKey, ht.heard_ne d hd, mem_ofKey] at hf
      exact hs.heard_used d f hf
  · intro d hd
    obtain rfl := Option.some.inj (ht.transport.symm.trans hd)
    exact ht.dialed ▸ hc

lemma Cloud.Ok.fits {s : Cloud} (hs : s.Ok) : ∀ w ∈ s.outbound.writes, codec.Fits w.frame := by
  intro w hw
  obtain ⟨x, hx, heq⟩ := List.mem_map.mp (hs.wf.write_mem_passed w hw)
  exact heq ▸ hs.small x hx

lemma Agent.Ok.fits {s : Agent} (hs : s.Ok) : ∀ w ∈ s.outbound.writes, codec.Fits w.frame := by
  intro w hw
  obtain ⟨x, hx, heq⟩ := List.mem_map.mp (hs.wf.write_mem_passed w hw)
  exact heq ▸ hs.small x hx

namespace System

/-- The joint invariant. -/
structure Linked (s : System) : Prop where
  cloud : s.cloud.Ok
  agent : ∀ a, (s.agents a).Ok
  /-- a connection has one owner, and the cloud attaches only connections that were dialed -/
  dialed : ∀ a, ∀ c ∈ (s.agents a).trace.dialed, s.dialed[c]? = some a
  attached : ∀ c ∈ s.cloud.trace.attached, c < s.dialed.length
  /-- what was heard was sent -/
  heard_down : ∀ a c, ofKey c (s.agents a).trace.heard <+: s.cloud.outbound.on c
  heard_up : ∀ c, ofKey c s.cloud.trace.heard <+: (s.agents (s.owner c)).outbound.on c
  link_down : ∀ a c, (s.agents a).connector.transport = some c →
    Link codec s.cloud.outbound c (s.readDown c) (ofKey c (s.agents a).trace.heard)
      (s.agents a).demux.recvBuffer
  link_up : ∀ c, s.cloud.endpoint.transport = some c →
    Link codec (s.agents (s.owner c)).outbound c (s.readUp c) (ofKey c s.cloud.trace.heard)
      s.cloud.bridge.recvBuffer
  unread_down : ∀ c, s.dialed.length ≤ c → s.readDown c = 0
  unread_up : ∀ c, c ∉ s.cloud.trace.attached → s.readUp c = 0

namespace Linked

variable {s : System}

lemma owner_eq (hs : s.Linked) {a : ℕ} {c : ConnId} (h : c ∈ (s.agents a).trace.dialed) :
    s.owner c = a := by
  rw [owner, List.getD_eq_getElem?_getD, hs.dialed a c h]
  rfl

/-- Nothing was heard on a connection that was not attached. -/
lemma heard_up_nil (hs : s.Linked) {c : ConnId} (hc : c ∉ s.cloud.trace.attached) :
    ofKey c s.cloud.trace.heard = [] :=
  ofKey_eq_nil fun f hf => hc (hs.cloud.heard_used c f hf)

lemma heard_down_nil (hs : s.Linked) {a : ℕ} {c : ConnId} (hc : c ∉ (s.agents a).trace.dialed) :
    ofKey c (s.agents a).trace.heard = [] :=
  ofKey_eq_nil fun f hf => hc ((hs.agent a).heard_used c f hf)

/-! ### The cloud moves -/

/-- The cloud does something other than read. -/
lemma cloud_calm (hs : s.Linked) {t : Cloud} (ht : t.Ok)
    (hsteps : s.cloud.outbound.Steps t.outbound)
    (hcalm : s.cloud.Calm t) : Linked { s with cloud := t } := by
  obtain ⟨hheard, hattached, htransport⟩ := hcalm
  refine
    { cloud := ht
      agent := hs.agent
      dialed := hs.dialed
      attached := fun c hc => hs.attached c (hattached ▸ hc)
      heard_down := fun a c => (hs.heard_down a c).trans (Outbound.on_prefix hsteps c)
      heard_up := fun c => ?_
      link_down := fun a c hc => (hs.link_down a c hc).steps hsteps
      link_up := fun c hc => ?_
      unread_down := hs.unread_down
      unread_up := fun c hc => hs.unread_up c (hattached ▸ hc) }
  · simp only [hheard]
    exact hs.heard_up c
  · obtain ⟨hc', hbuffer⟩ := htransport c hc
    simp only [hheard, hbuffer]
    exact hs.link_up c hc'

/-- The cloud attaches a connection. -/
lemma cloud_attach (hs : s.Linked) {t : Cloud} (ht : t.Ok) {c : ConnId} (hc : c < s.dialed.length)
    (hnew : c ∉ s.cloud.trace.attached) (hsteps : s.cloud.outbound.Steps t.outbound)
    (hheard : t.trace.heard = s.cloud.trace.heard)
    (hattached : t.trace.attached = s.cloud.trace.attached ++ [c])
    (htransport : ∀ d, t.endpoint.transport = some d → d = c ∧ t.bridge.recvBuffer = []) :
    Linked { s with cloud := t } := by
  refine
    { cloud := ht
      agent := hs.agent
      dialed := hs.dialed
      attached := fun d hd => ?_
      heard_down := fun a d => (hs.heard_down a d).trans (Outbound.on_prefix hsteps d)
      heard_up := fun d => ?_
      link_down := fun a d hd => (hs.link_down a d hd).steps hsteps
      link_up := fun d hd => ?_
      unread_down := hs.unread_down
      unread_up := fun d hd => hs.unread_up d fun hmem => hd ?_ }
  · simp only [hattached] at hd
    obtain hd | hd := List.mem_append.mp hd
    · exact hs.attached d hd
    · rwa [List.mem_singleton.mp hd]
  · simp only [hheard]
    exact hs.heard_up d
  · obtain ⟨rfl, hbuffer⟩ := htransport d hd
    simp only [hheard, hbuffer, hs.heard_up_nil hnew, hs.unread_up d hnew]
    exact Link.init _ _ _
  · simp only [hattached]
    exact List.mem_append_left _ hmem

/-- The cloud reads. -/
lemma cloud_read (hs : s.Linked) {c : ConnId} (hconn : s.cloud.endpoint.transport = some c) (n : ℕ)
    {script : Cloud.Script} (hscript : script.Small) :
    Linked { s.onCloud (.bytesReceived (s.upward c n), script) with
      readUp := Function.update s.readUp c (s.readUp c + (s.upward c n).length) } := by
  set t := s.cloud.setScript script
  have hlink := hs.link_up c hconn
  obtain ⟨hvalid, hframes⟩ := hlink.drain_unread (hs.agent (s.owner c)).wf
    (hs.agent (s.owner c)).fits n
  obtain ⟨done, rest, hall, hreading, henc⟩ := Cloud.reads (s := t) (c := c)
    (s.upward c n) hs.cloud.small hscript hconn hvalid
  have hsteps : s.cloud.outbound.Steps (t.onBytesReceived (s.upward c n)).outbound :=
    Cloud.steps_onBytesReceived (s.upward c n) t
  have hheard : ofKey c (t.onBytesReceived (s.upward c n)).trace.heard =
      ofKey c s.cloud.trace.heard ++ done := by
    have := hreading.heard
    rw [← List.append_assoc] at this
    exact List.append_cancel_right this
  have hprefix : ofKey c s.cloud.trace.heard ++ done <+:
      (s.agents (s.owner c)).outbound.on c := by
    have hsub : ofKey c s.cloud.trace.heard ++ (done ++ rest) <+:
        (s.agents (s.owner c)).outbound.on c := hall ▸ hframes
    rw [← List.append_assoc] at hsub
    exact (List.prefix_append _ _).trans hsub
  have hattached : (t.onBytesReceived (s.upward c n)).trace.attached = s.cloud.trace.attached :=
    hreading.attached
  have hc : c ∈ s.cloud.trace.attached := hs.cloud.wf.conn_mem_used c hconn
  refine
    { cloud := (hs.cloud.setScript script).read hc hsteps hreading
      agent := hs.agent
      dialed := hs.dialed
      attached := fun d hd => hs.attached d (hattached ▸ hd)
      heard_down := fun a d => (hs.heard_down a d).trans (Outbound.on_prefix hsteps d)
      heard_up := fun d => ?_
      link_down := fun a d hd => (hs.link_down a d hd).steps hsteps
      link_up := fun d hd => ?_
      unread_down := hs.unread_down
      unread_up := fun d hd => ?_ }
  · by_cases hd : d = c
    · subst hd
      exact hheard ▸ hprefix
    · exact (hreading.heard_ne d hd).symm ▸ hs.heard_up d
  · have hep : (t.onBytesReceived (s.upward c n)).trace.losses = t.trace.losses := by
      by_contra hlost
      exact absurd ((hreading.holds.2.2 hlost).symm.trans hd) (by simp)
    obtain rfl : c = d :=
      Option.some.inj (hconn.symm.trans ((hreading.holds.2.1 hep).symm.trans hd))
    have hread := hlink.read_on hprefix (henc hep)
    rw [← hheard] at hread
    simp only [Function.update_self]
    exact hread
  · have hdc : d ≠ c := by
      rintro rfl
      exact hd (hattached ▸ hc)
    simp only [Function.update_of_ne hdc]
    exact hs.unread_up d (hattached ▸ hd)

/-! ### An agent moves -/

/-- A new connection is dialed. -/
lemma dial (hs : s.Linked) (a : ℕ) : Linked { s with dialed := s.dialed ++ [a] } := by
  have howner : ∀ c, c < s.dialed.length →
      owner { s with dialed := s.dialed ++ [a] } c = s.owner c := by
    intro c hc
    simp [owner, List.getD_eq_getElem?_getD, List.getElem?_append_left hc]
  refine
    { cloud := hs.cloud
      agent := hs.agent
      dialed := fun b c hc => ?_
      attached := fun c hc => ?_
      heard_down := hs.heard_down
      heard_up := fun c => ?_
      link_down := hs.link_down
      link_up := fun c hc => ?_
      unread_down := fun c hc => hs.unread_down c ?_
      unread_up := hs.unread_up }
  · have hold := hs.dialed b c hc
    rwa [List.getElem?_append_left (List.getElem?_eq_some_iff.mp hold).1]
  · simpa using Nat.lt_succ_of_lt (hs.attached c hc)
  · by_cases hc : c ∈ s.cloud.trace.attached
    · rw [howner c (hs.attached c hc)]
      exact hs.heard_up c
    · rw [hs.heard_up_nil hc]
      exact List.nil_prefix
  · rw [howner c (hs.attached c (hs.cloud.wf.conn_mem_used c hc))]
    exact hs.link_up c hc
  · simp only [List.length_append, List.length_singleton] at hc
    omega

/-- What an agent sends does not disturb what the cloud reads. -/
lemma up_of_steps (hs : s.Linked) {a : ℕ} {t : Agent}
    (hsteps : (s.agents a).outbound.Steps t.outbound) :
    (∀ c, ofKey c s.cloud.trace.heard <+:
      (Function.update s.agents a t (s.owner c)).outbound.on c) ∧
    ∀ c, s.cloud.endpoint.transport = some c →
      Link codec (Function.update s.agents a t (s.owner c)).outbound c (s.readUp c)
        (ofKey c s.cloud.trace.heard) s.cloud.bridge.recvBuffer := by
  constructor
  · intro c
    by_cases ha : s.owner c = a
    · rw [ha, Function.update_self]
      exact (ha ▸ hs.heard_up c).trans (Outbound.on_prefix hsteps c)
    · rw [Function.update_of_ne ha]
      exact hs.heard_up c
  · intro c hc
    by_cases ha : s.owner c = a
    · rw [ha, Function.update_self]
      exact (ha ▸ hs.link_up c hc).steps hsteps
    · rw [Function.update_of_ne ha]
      exact hs.link_up c hc

/-- An agent does something other than read. Its connection is the one before, or a new one that
it starts with an empty buffer. -/
lemma agent_calm (hs : s.Linked) {a : ℕ} {t : Agent} (ht : t.Ok)
    (hsteps : (s.agents a).outbound.Steps t.outbound)
    (hheard : t.trace.heard = (s.agents a).trace.heard)
    (hdialed : ∀ c ∈ t.trace.dialed, s.dialed[c]? = some a)
    (htransport : ∀ c, t.connector.transport = some c →
      (s.agents a).connector.transport = some c ∧
        t.demux.recvBuffer = (s.agents a).demux.recvBuffer ∨
      c ∉ (s.agents a).trace.dialed ∧ s.readDown c = 0 ∧ t.demux.recvBuffer = []) :
    Linked { s with agents := Function.update s.agents a t } := by
  obtain ⟨hup, hlink⟩ := hs.up_of_steps hsteps
  have hcases : ∀ {P : Agent → Prop}, P t → (∀ b, b ≠ a → P (s.agents b)) →
      ∀ b, P (Function.update s.agents a t b) := by
    intro P hP hother b
    by_cases hb : b = a
    · subst hb
      rwa [Function.update_self]
    · rw [Function.update_of_ne hb]
      exact hother b hb
  refine
    { cloud := hs.cloud
      agent := hcases ht fun b _ => hs.agent b
      dialed := fun b c hc => ?_
      attached := hs.attached
      heard_down := fun b c => ?_
      heard_up := hup
      link_down := fun b c hc => ?_
      link_up := hlink
      unread_down := hs.unread_down
      unread_up := hs.unread_up }
  · by_cases hb : b = a
    · subst hb
      exact hdialed c (by simpa only [Function.update_self] using hc)
    · exact hs.dialed b c (by simpa only [Function.update_of_ne hb] using hc)
  · by_cases hb : b = a
    · subst hb
      simp only [Function.update_self, hheard]
      exact hs.heard_down b c
    · simp only [Function.update_of_ne hb]
      exact hs.heard_down b c
  · by_cases hb : b = a
    · subst hb
      simp only [Function.update_self] at hc ⊢
      rw [hheard]
      obtain ⟨hold, hbuffer⟩ | ⟨hnew, hread, hbuffer⟩ := htransport c hc
      · rw [hbuffer]
        exact hs.link_down b c hold
      · rw [hbuffer, hread, hs.heard_down_nil hnew]
        exact Link.init _ _ _
    · simp only [Function.update_of_ne hb] at hc ⊢
      exact hs.link_down b c hc

/-- An agent reads. -/
lemma agent_read (hs : s.Linked) {a : ℕ} {c : ConnId}
    (htransport : (s.agents a).connector.transport = some c) (n : ℕ) (script : Agent.Script) :
    Linked { s.onAgent a (.bytesReceived (s.downward c n), script) with
      readDown := Function.update s.readDown c (s.readDown c + (s.downward c n).length) } := by
  set t := (s.agents a).setScript script
  have hagent := hs.agent a
  have hc : c ∈ (s.agents a).trace.dialed := hagent.held c htransport
  have hlink := hs.link_down a c htransport
  obtain ⟨hvalid, hframes⟩ := hlink.drain_unread hs.cloud.wf hs.cloud.fits n
  obtain ⟨done, rest, hall, hreading, henc⟩ := Agent.reads (s := t) (c := c)
    (s.downward c n) hagent.small htransport hvalid
  have hsteps : (s.agents a).outbound.Steps (t.onBytesReceived (s.downward c n)).outbound :=
    Agent.steps_onBytesReceived (s.downward c n) t
  obtain ⟨hup, hlinkup⟩ := hs.up_of_steps hsteps
  have hheard : ofKey c (t.onBytesReceived (s.downward c n)).trace.heard =
      ofKey c (s.agents a).trace.heard ++ done := by
    have := hreading.heard
    rw [← List.append_assoc] at this
    exact List.append_cancel_right this
  have hprefix : ofKey c (s.agents a).trace.heard ++ done <+: s.cloud.outbound.on c := by
    have hsub : ofKey c (s.agents a).trace.heard ++ (done ++ rest) <+: s.cloud.outbound.on c :=
      hall ▸ hframes
    rw [← List.append_assoc] at hsub
    exact (List.prefix_append _ _).trans hsub
  have hok : (t.onBytesReceived (s.downward c n)).Ok :=
    (hagent.setScript script).read hc hsteps hreading
  have howner : ∀ b, b ≠ a → c ∉ (s.agents b).trace.dialed := by
    intro b hb hmem
    exact hb ((hs.owner_eq hmem).symm.trans (hs.owner_eq hc))
  refine
    { cloud := hs.cloud
      agent := fun b => ?_
      dialed := fun b d hd => ?_
      attached := hs.attached
      heard_down := fun b d => ?_
      heard_up := hup
      link_down := fun b d hd => ?_
      link_up := hlinkup
      unread_down := fun d hd => ?_
      unread_up := hs.unread_up }
  · by_cases hb : b = a
    · subst hb
      simp only [onAgent, Function.update_self]
      exact hok
    · simp only [onAgent, Function.update_of_ne hb]
      exact hs.agent b
  · by_cases hb : b = a
    · subst hb
      simp only [onAgent, Function.update_self] at hd
      exact hs.dialed b d (hreading.dialed ▸ hd)
    · simp only [onAgent, Function.update_of_ne hb] at hd
      exact hs.dialed b d hd
  · by_cases hb : b = a
    · subst hb
      simp only [onAgent, Function.update_self]
      by_cases hd : d = c
      · subst hd
        exact hheard ▸ hprefix
      · exact (hreading.heard_ne d hd).symm ▸ hs.heard_down b d
    · simp only [onAgent, Function.update_of_ne hb]
      exact hs.heard_down b d
  · by_cases hb : b = a
    · subst hb
      simp only [onAgent, Function.update_self] at hd ⊢
      obtain rfl : c = d := Option.some.inj (hreading.transport.symm.trans hd)
      have hread := hlink.read_on hprefix henc
      rw [← hheard] at hread
      simp only [Function.update_self]
      exact hread
    · simp only [onAgent, Function.update_of_ne hb] at hd ⊢
      have hdc : d ≠ c := by
        rintro rfl
        exact howner b hb ((hs.agent b).held d hd)
      simp only [Function.update_of_ne hdc]
      exact hs.link_down b d hd
  · have hlt := (List.getElem?_eq_some_iff.mp (hs.dialed a c hc)).1
    have hdc : d ≠ c := by
      rintro rfl
      exact absurd hd (not_le.mpr hlt)
    simp only [Function.update_of_ne hdc]
    exact hs.unread_down d hd

/-! ### Every step keeps the links -/

/-- An event at the cloud in which nothing is read and no agent attaches. -/
lemma cloud_event (hs : s.Linked) {e : Cloud.Event} {script : Cloud.Script}
    (hsmall : ((s.cloud.setScript script).handle e).Small)
    (hcalm : (s.cloud.setScript script).Calm ((s.cloud.setScript script).handle e)) :
    (s.onCloud (e, script)).Linked := by
  have hsteps := Cloud.steps_handle e (s.cloud.setScript script)
  have hused : ∀ c f, (c, f) ∈ ((s.cloud.setScript script).handle e).trace.heard →
      c ∈ ((s.cloud.setScript script).handle e).trace.attached := by
    rw [hcalm.1, hcalm.2.1]
    exact hs.cloud.heard_used
  exact hs.cloud_calm ⟨hs.cloud.wf.steps hsteps, hsmall, hused⟩ hsteps hcalm

/-- An event at an agent in which nothing is read and no connection is set up. -/
lemma agent_event (hs : s.Linked) {a : ℕ} {e : Agent.Event} {script : Agent.Script}
    (hsmall : (((s.agents a).setScript script).handle e).Small)
    (hcalm : ((s.agents a).setScript script).Calm (((s.agents a).setScript script).handle e)) :
    (s.onAgent a (e, script)).Linked := by
  obtain ⟨hheard, hdialed, htransport, hbuffer⟩ := hcalm
  have hsteps := Agent.steps_handle e ((s.agents a).setScript script)
  refine hs.agent_calm ⟨(hs.agent a).wf.steps hsteps, hsmall, fun c f hf => ?_, fun c hc => ?_⟩
    hsteps hheard (fun c hc => hs.dialed a c ?_) fun c hc =>
    Or.inl ⟨htransport.symm.trans hc, hbuffer⟩
  · exact hdialed ▸ (hs.agent a).heard_used c f (hheard ▸ hf)
  · exact hdialed ▸ (hs.agent a).held c (htransport.symm.trans hc)
  · exact (congrArg (c ∈ ·) hdialed).mp hc

lemma step_browserData (hs : s.Linked) {b : BrowserSink} {bytes : Bytes} (script : Cloud.Script)
    (hfits : ∀ sid ∈ s.cloud.trace.issued[b]?, s.cloud.bridge.tunnel.isSome →
      sid ∈ s.cloud.bridge.browsers → Fits bytes) :
    (s.onCloud (.browserData b bytes, script)).Linked := by
  set t := s.cloud.setScript script
  have ht : t.Ok := hs.cloud.setScript script
  have hsmall : (t.handle (.browserData b bytes)).Small := by
    rcases h : t.trace.issued[b]? with _ | i
    · simpa only [Cloud.handle, h] using ht.small
    · simp only [Cloud.handle, h, Cloud.onBrowserData]
      split_ifs with hi
      · exact Cloud.small_tunnelSend (s := t.recordData b bytes) ht.small
          fun htunnel => hfits i h htunnel hi
      · exact ht.small
  exact hs.cloud_event hsmall (Cloud.calm_browserData b bytes t)

lemma step_browserClose (hs : s.Linked) {b : BrowserSink} {reason : Bytes} (script : Cloud.Script)
    (hfits : ∀ sid ∈ s.cloud.trace.issued[b]?, s.cloud.bridge.tunnel.isSome →
      sid ∈ s.cloud.bridge.browsers → Fits reason) :
    (s.onCloud (.browserClose b reason, script)).Linked := by
  set t := s.cloud.setScript script
  have ht : t.Ok := hs.cloud.setScript script
  have hsmall : (t.handle (.browserClose b reason)).Small := by
    rcases h : t.trace.issued[b]? with _ | i
    · simpa only [Cloud.handle, h] using ht.small
    · simp only [Cloud.handle, h, Cloud.onBrowserClose]
      split_ifs with hi
      · exact Cloud.small_tunnelSend (s := t.deregister i) ht.small
          fun htunnel => hfits i h htunnel hi
      · exact ht.small
  exact hs.cloud_event hsmall (Cloud.calm_browserClose b reason t)

lemma step_attach (hs : s.Linked) {c : ConnId} (hc : c < s.dialed.length) (script : Cloud.Script) :
    (s.onCloud (.agentConnected c, script)).Linked := by
  set t := s.cloud.setScript script with hset
  have ht : t.Ok := hs.cloud.setScript script
  by_cases hmem : c ∈ t.trace.attached
  · have hsame : t.handle (.agentConnected c) = t := if_pos hmem
    apply hs.cloud_event
    · exact hsame.symm ▸ ht.small
    · rw [← hset, hsame]
      exact .refl t
  · have hattach : t.handle (.agentConnected c) = t.onAgentConnected c := if_neg hmem
    have hsteps := Cloud.steps_onAgentConnected hmem
    obtain ⟨hheard, hattached, htransport⟩ := Cloud.onAgentConnected_fresh c t
    have hok : (t.onAgentConnected c).Ok :=
      { wf := ht.wf.steps hsteps
        small := fun x hx => ht.small x (Cloud.passed_onAgentConnected c t ▸ hx)
        heard_used := fun d f hf => by
          rw [hattached]
          exact List.mem_append_left _ (ht.heard_used d f (hheard ▸ hf)) }
    have hlinked := hs.cloud_attach hok hc hmem hsteps hheard hattached htransport
    rwa [← hattach] at hlinked

/-- A tick of an agent. The connection it dials is entered beforehand. -/
lemma step_tick (hs : s.Linked) {a : ℕ} (conn : Option ConnId) {script : Agent.Script}
    (hconn : ∀ c, conn = some c → s.dialed[c]? = some a ∧ s.readDown c = 0)
    (hfits : ∀ f ∈ script.onConnected, f.Fits) : (s.onAgent a (.tick conn, script)).Linked := by
  set t := (s.agents a).setScript script
  have ht : t.Ok := (hs.agent a).setScript script
  set conn' := conn.filter fun c => c ∉ t.trace.dialed
  have hnew : ∀ c, conn' = some c → c ∉ t.trace.dialed ∧ conn = some c := by
    intro c hc
    obtain ⟨hc', hfresh⟩ := Option.filter_eq_some_iff.mp hc
    exact ⟨by simpa using hfresh, hc'⟩
  obtain ⟨hheard, hdialed, htransport⟩ := Agent.tick_transport conn' t
  have hsteps : t.outbound.Steps (t.tick conn').outbound := Agent.steps_handle (.tick conn) t
  have hok : (t.tick conn').Ok :=
    { wf := ht.wf.steps hsteps
      small := Agent.small_tick ht.small conn' hfits
      heard_used := fun c f hf =>
        (Outbound.used_prefix hsteps).mem (ht.heard_used c f (hheard ▸ hf))
      held := fun c hc => by
        obtain ⟨hold, hd, -⟩ | ⟨-, hd, -⟩ := htransport c hc
        · rw [hd]
          exact ht.held c hold
        · rw [hd]
          exact List.mem_append_right _ (List.mem_singleton_self c) }
  refine hs.agent_calm hok hsteps hheard ?_ ?_
  · intro c hc
    obtain hold | hc' := hdialed c hc
    · exact hs.dialed a c hold
    · exact (hconn c (hnew c hc').2).1
  · intro c hc
    obtain ⟨hold, -, hbuffer⟩ | ⟨hc', -, hbuffer⟩ := htransport c hc
    · exact Or.inl ⟨hold, hbuffer⟩
    · exact Or.inr ⟨(hnew c hc').1, (hconn c (hnew c hc').2).2, hbuffer⟩

lemma step_agentTick (hs : s.Linked) (a : ℕ) (dial : Bool) {notices : List (Notice × Bytes)}
    (script : Agent.Script) (hsized : ∀ x ∈ notices, Fits x.2) :
    (s.agentTick a dial notices script).Linked := by
  have hfits : ∀ f ∈ notices.map fun x => x.1.frame x.2, f.Fits := by
    intro f hf
    obtain ⟨x, hx, rfl⟩ := List.mem_map.mp hf
    exact hsized x hx
  cases dial with
  | false => exact hs.step_tick none (by simp) hfits
  | true =>
    refine (hs.dial a).step_tick (some s.dialed.length) ?_ hfits
    intro c hc
    obtain rfl := Option.some.inj hc
    exact ⟨by simp, hs.unread_down _ le_rfl⟩

lemma step_asteriskData (hs : s.Linked) {a : ℕ} {r : AsteriskStream} {bytes : Bytes}
    (script : Agent.Script) (hfits : ∀ sid ∈ (s.agents a).trace.opened[r]?,
      sid ∈ (s.agents a).demux.streams → Fits bytes) :
    (s.onAgent a (.asteriskData r bytes, script)).Linked := by
  set t := (s.agents a).setScript script
  have ht : t.Ok := (hs.agent a).setScript script
  have hsmall : (t.handle (.asteriskData r bytes)).Small := by
    rcases h : t.trace.opened[r]? with _ | sid
    · simpa only [Agent.handle, h] using ht.small
    · simp only [Agent.handle, h]
      exact Agent.small_onAsteriskData (s := t.recordData r bytes) ht.small (hfits sid h)
  exact hs.agent_event hsmall
    ((Agent.closedFrame_calm t).handle_asterisk (.refl t) (Or.inl ⟨r, bytes, rfl⟩))

lemma step_asteriskEof (hs : s.Linked) {a : ℕ} {r : AsteriskStream} {reason : Bytes}
    (script : Agent.Script) (hfits : ∀ sid ∈ (s.agents a).trace.opened[r]?,
      sid ∈ (s.agents a).demux.streams → Fits reason) :
    (s.onAgent a (.asteriskEof r reason, script)).Linked := by
  set t := (s.agents a).setScript script
  have ht : t.Ok := (hs.agent a).setScript script
  have hsmall : (t.handle (.asteriskEof r reason)).Small := by
    rcases h : t.trace.opened[r]? with _ | sid
    · simpa only [Agent.handle, h] using ht.small
    · simp only [Agent.handle, h]
      exact Agent.small_onAsteriskEof ht.small (hfits sid h)
  exact hs.agent_event hsmall
    ((Agent.closedFrame_calm t).handle_asterisk (.refl t) (Or.inr ⟨r, reason, rfl⟩))

/-- Every step whose payloads fit keeps the links. -/
theorem step (hs : s.Linked) {i : Input} (hsized : s.Sized i) : (s.step i).Linked := by
  obtain ⟨e, cloudScript, agentScript⟩ := i
  have hcloud := hs.cloud.setScript cloudScript
  have hagent := fun a => (hs.agent a).setScript agentScript
  have hcalm := fun a => Agent.closedFrame_calm ((s.agents a).setScript agentScript)
  cases e with
  | browserUpgrade openMeta =>
    set t := s.cloud.setScript cloudScript
    exact hs.cloud_event (Cloud.small_tunnelSend (s := t.register) hs.cloud.small hsized)
      ((Cloud.closedSend_calm t).tunnelSend _ _ _ t.register (.refl t))
  | browserData b bytes => exact hs.step_browserData cloudScript hsized
  | browserClose b reason => exact hs.step_browserClose cloudScript hsized
  | revoke payload =>
    exact hs.cloud_event (Cloud.small_tunnelSend hcloud.small hsized)
      ((Cloud.closedSend_calm _).tunnelSend _ _ _ _ (.refl _))
  | cloudTick => exact hs.cloud_event (Cloud.small_tick hcloud.small) (Cloud.calm_tick _)
  | cloudAdvance seconds => exact hs.cloud_event hcloud.small (.refl _)
  | attach c =>
    simp only [System.step]
    split_ifs with hc
    · exact hs.step_attach hc cloudScript
    · exact hs
  | cloudRead n =>
    simp only [System.step, cloudRead]
    rcases hconn : s.cloud.endpoint.transport with _ | c
    · exact hs
    · exact hs.cloud_read hconn n hsized
  | cloudEof =>
    refine hs.cloud_event ?_ (Cloud.calm_onAgentDisconnected _)
    rw [Cloud.handle, Cloud.onAgentDisconnected]
    split_ifs <;> exact hcloud.small
  | agentTick a dial notices => exact hs.step_agentTick a dial agentScript hsized
  | agentRead a n =>
    simp only [System.step, agentRead]
    rcases htransport : (s.agents a).connector.transport with _ | c
    · exact hs
    · exact hs.agent_read htransport n agentScript
  | transportLost a =>
    refine hs.agent_event ?_ ((hcalm a).onTransportLost _ (.refl _))
    rw [Agent.handle, Agent.onTransportLost]
    split_ifs <;> exact (hagent a).small
  | asteriskData a r bytes => exact hs.step_asteriskData agentScript hsized
  | asteriskEof a r reason => exact hs.step_asteriskEof agentScript hsized
  | notify a notice payload =>
    exact hs.agent_event (Agent.small_sendFrame (hagent a).small hsized)
      ((hcalm a).sendFrame _ _ _ _ (.refl _))
  | wsPing a ok =>
    refine hs.agent_event ?_ ((hcalm a).sendWsPing ok _ (.refl _))
    rw [Agent.handle, Agent.sendWsPing]
    split_ifs <;> exact (hagent a).small
  | agentAdvance a seconds => exact hs.agent_event (hagent a).small (.refl _)

end Linked

/-! ### Runs -/

lemma linked_init (setup : Setup) : (init setup).Linked where
  cloud :=
    { wf := Cloud.wf_init _ _ _
      small := by simp [Cloud.Small, init, Cloud.init]
      heard_used := by simp [init, Cloud.init] }
  agent a :=
    { wf := Agent.wf_init _ _
      small := by simp [Agent.Small, init, Agent.init]
      heard_used := by simp [init, Agent.init]
      held := by simp [init, Agent.init] }
  dialed := by simp [init, Agent.init]
  attached := by simp [init, Cloud.init]
  heard_down _ _ := List.nil_prefix
  heard_up _ := List.nil_prefix
  link_down := by simp [init, Agent.init]
  link_up := by simp [init, Cloud.init]
  unread_down _ _ := rfl
  unread_up _ _ := rfl

/-- The ends are linked in every state of a run whose payloads fit. -/
theorem linked_run {setup : Setup} {is : List Input}
    (hsized : Transition.Along step Sized (init setup) is) : ((init setup).run is).Linked :=
  hsized.invariant (P := Linked) (fun _ _ h hs => hs.step h) (linked_init setup)

end System
