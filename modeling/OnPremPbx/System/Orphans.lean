import OnPremPbx.Cloud.Settled
import OnPremPbx.System.Invariant

/-!
# No orphaned streams

An Asterisk stream that is open at an agent has its browser still registered at the cloud, or a
CLOSE is on its way to the agent, or the tunnel of the agent is going down. The code means this to
hold always (`sip_bridge.hpp`: old stream ids are guaranteed dead), and it does as long
as no OPEN stays queued when its browser is dropped with the tunnel.
-/

open Framing SipFrame

namespace System

/-- A CLOSE of the stream `i` waits at the cloud, or was written to the agent and not yet heard. -/
def Closing (s : System) (a : ℕ) (i : UInt32) : Prop :=
  Closes i s.cloud.endpoint.outbound ∨
  ∃ c ∈ (s.agents a).connector.transport,
    Closes i ((s.cloud.outbound.on c).drop (ofKey c (s.agents a).trace.heard).length)

/-- The agent has asked for a disconnect, or the cloud has closed its connection. -/
def TearingDown (s : System) (a : ℕ) : Prop :=
  (s.agents a).connector.disconnectPending = true ∨
  ∃ c ∈ (s.agents a).connector.transport, c ∈ s.cloud.trace.shut

instance (s : System) (a : ℕ) (i : UInt32) : Decidable (s.Closing a i) :=
  inferInstanceAs (Decidable (_ ∨ _))

instance (s : System) (a : ℕ) : Decidable (s.TearingDown a) :=
  inferInstanceAs (Decidable (_ ∨ _))

def NoOrphans (s : System) : Prop :=
  ∀ a, ∀ i ∈ (s.agents a).demux.streams,
    i ∈ s.cloud.bridge.browsers ∨ s.Closing a i ∨ s.TearingDown a

/-- No OPEN stays queued when its browser is dropped: the OPEN of an upgrade does not fail to be
sent, and a flush that fails leaves with every OPEN its CLOSE. -/
def NoStrayOpen (s : System) (i : Input) : Prop :=
  match i.event with
  | .browserUpgrade _ => s.cloud.endpoint.transport.isSome → i.cloudScript.sends.headD .ok = .ok
  | .attach _         =>
    ∀ f ∈ Cloud.unflushed s.cloud.endpoint.outbound i.cloudScript.sends, f.op = .OPEN →
      Closes f.streamId (Cloud.unflushed s.cloud.endpoint.outbound i.cloudScript.sends)
  | _                 => True

instance (s : System) (i : Input) : Decidable (s.NoStrayOpen i) := by
  letI {p : Frame → Prop} [DecidablePred p] (fs : List Frame) : Decidable (∀ f ∈ fs, p f) :=
    List.decidableBAll p fs
  obtain ⟨e, _, _⟩ := i
  unfold NoStrayOpen
  cases e <;> infer_instance

/-- The joint invariant, with every stream settled. -/
structure Tidy (s : System) : Prop extends Inv s where
  settled : s.cloud.books.Settled
  allShut : s.cloud.AllShut

namespace Tidy

variable {s : System}

/-- Every step that leaves no stray OPEN keeps the streams settled. -/
lemma settled_step (hs : s.Tidy) {i : Input} (hstray : s.NoStrayOpen i) :
    (s.step i).cloud.books.Settled := by
  obtain ⟨e, cloudScript, agentScript⟩ := i
  set t := s.cloud.setScript cloudScript with ht
  have hcap : t.endpoint.cfg.outboundBufferMax = 0 := hs.cloud_cap
  have ho : t.outbound.Wf := hs.cloud.wf
  have hb : t.books.Settled := hs.settled
  cases e with
  | browserUpgrade openMeta => exact Cloud.settled_onBrowserUpgrade hcap ho hb openMeta hstray
  | browserData b bytes =>
    simp only [System.step, onCloud, Cloud.step, Cloud.handle, ← ht]
    rcases h : t.trace.issued[b]? with _ | i
    · exact hb
    · have hrecord : (t.recordData b bytes).books.Settled :=
        fun j => ⟨(hb j).queued, (hb j).written⟩
      simp only [Cloud.onBrowserData]
      split_ifs
      · exact Cloud.settled_tunnelOther (s := t.recordData b bytes) hcap ho hrecord (by simp)
      · exact hrecord
  | browserClose b reason =>
    simp only [System.step, onCloud, Cloud.step, Cloud.handle, ← ht]
    rcases h : t.trace.issued[b]? with _ | i
    · exact hb
    · exact Cloud.settled_onBrowserClose hcap ho hb hs.cloud_orderly i reason
  | revoke payload => exact Cloud.settled_tunnelOther hcap ho hb (by simp)
  | cloudTick => exact Cloud.settled_tick hcap ho hb
  | cloudAdvance seconds => exact hb
  | attach c =>
    simp only [System.step, onCloud, Cloud.step, Cloud.handle, ← ht]
    split_ifs with hc hmem
    · exact hb
    · refine Cloud.settled_onAgentConnected ho hb hmem ?_
      intro i hi
      obtain ⟨f, hf, hop, rfl⟩ := hi
      exact hstray f hf hop
    · exact hs.settled
  | cloudRead n =>
    simp only [System.step, cloudRead]
    rcases hconn : s.cloud.endpoint.transport with _ | c
    · exact hs.settled
    · obtain ⟨hvalid, -⟩ := (hs.link_up c hconn).drain_unread (hs.agent (s.owner c)).wf
        (hs.agent (s.owner c)).fits n
      exact Cloud.settled_onBytesReceived hcap ho hb hconn hvalid
  | cloudEof => exact Cloud.settled_onAgentDisconnected ho hb
  | agentRead a n =>
    simp only [System.step, agentRead]
    rcases (s.agents a).connector.transport with _ | c <;> exact hs.settled
  | agentTick a dial notices => exact hs.settled
  | transportLost a => exact hs.settled
  | asteriskData a r bytes => exact hs.settled
  | asteriskEof a r reason => exact hs.settled
  | notify a notice payload => exact hs.settled
  | wsPing a ok => exact hs.settled
  | agentAdvance a seconds => exact hs.settled

theorem step (hs : s.Tidy) {i : Input} (hsized : s.Sized i)
    (hmax : s.cloud.trace.issued.length + 1 < 2 ^ 32) (hstray : s.NoStrayOpen i) :
    (s.step i).Tidy where
  toInv := hs.toInv.step hsized hmax
  settled := hs.settled_step hstray
  allShut := by
    obtain h | ⟨e, h⟩ := step_cloud s i
    · rw [h]
      exact hs.allShut
    · rw [h]
      exact Cloud.closed_allShut.step s.cloud (e, i.cloudScript) hs.allShut

/-- The OPEN of a stream that is open at an agent was heard from the connection that the agent
holds, so the cloud has that connection too, or has closed it. -/
lemma noOrphans (hs : s.Tidy) : s.NoOrphans := by
  intro a i hi
  have hagent := hs.agent_orderly a
  obtain ⟨c, htransport, hopen⟩ := hagent.opens_of_stream hi
  have hon : Opens i (s.cloud.outbound.on c) := hopen.mono (hs.heard_down a c).subset
  have hc : c ∈ s.cloud.trace.attached := by
    by_contra hnot
    obtain ⟨f, hf, -⟩ := hon
    rw [hs.cloud.wf.on_eq_nil hnot] at hf
    cases hf
  obtain hconn | hshut := hs.allShut c hc
  · obtain hmem | hclose | hclose := (hs.settled i).written c hconn hon
    · exact Or.inl hmem
    · -- the CLOSE was written: the agent has not heard it, for then the stream would be gone
      obtain ⟨more, hmore⟩ := hs.heard_down a c
      have hsplit : Closes i (ofKey c (s.agents a).trace.heard ++ more) := hmore ▸ hclose
      rw [closes_append] at hsplit
      obtain hclose | hclose := hsplit
      · exact absurd hi (hagent.close_heard c i htransport hclose)
      · refine Or.inr (Or.inl (Or.inr ⟨c, htransport, ?_⟩))
        rwa [← hmore, List.drop_left]
    · -- the CLOSE came from the agent, which had closed the stream before
      have howner := hs.owner_eq ((hs.agent a).held c htransport)
      have hposted : Closes i (s.agents a).books.posted := by
        refine hclose.mono ?_
        intro f hf
        have := (hs.heard_up c).subset hf
        rw [howner] at this
        exact ((hs.agent a).wf.on_sublist c).subset this
      exact absurd hi (hagent.close_posted i hposted).1
  · exact Or.inr (Or.inr (Or.inr ⟨c, htransport, hshut⟩))

end Tidy

lemma tidy_init (setup : Setup) : (init setup).Tidy where
  toInv := inv_init setup
  settled i :=
    { queued := fun _ hopen => by
        obtain ⟨f, hf, -⟩ := hopen
        simp [Cloud.books, Cloud.outbound, init, Cloud.init] at hf
      written := fun c hc => by simp [Cloud.books, Cloud.outbound, init, Cloud.init] at hc }
  allShut := by simp [Cloud.AllShut, init, Cloud.init]

/-- In every run whose payloads fit, whose stream ids do not wrap around and that leaves no stray
OPEN, no agent has an orphaned stream. -/
theorem no_orphans (setup : Setup) (is : List Input)
    (hsized : Transition.Along step Sized (init setup) is) (hmax : upgrades is < 2 ^ 32 - 1)
    (hstray : Transition.Along step NoStrayOpen (init setup) is) :
    ((init setup).run is).NoOrphans := by
  have hissued : Transition.Along step (fun s _ => s.cloud.trace.issued.length + 1 < 2 ^ 32)
      (init setup) is := along_issued (by simpa [init, Cloud.init] using hmax)
  have hrun := (hsized.and (hissued.and hstray)).invariant (P := Tidy)
    (fun s i h hs => hs.step h.1 h.2.1 h.2.2) (tidy_init setup)
  exact Tidy.noOrphans hrun

/-- A browser that leaves while its stream is open: the CLOSE is in flight. -/
theorem no_orphans_closing :
    let s := (init {}).run
      [{ event := .agentTick 0 true [] }, { event := .attach 0 }, { event := .browserUpgrade [] },
        { event := .agentRead 0 10 }, { event := .browserClose 0 [] }]
    1 ∈ (s.agents 0).demux.streams ∧ 1 ∉ s.cloud.bridge.browsers ∧ ¬ s.TearingDown 0 ∧
      (1 ∈ s.cloud.bridge.browsers ∨ s.Closing 0 1 ∨ s.TearingDown 0) :=
  ⟨by decide +kernel, by decide +kernel, by decide +kernel,
    no_orphans {} _ (by decide +kernel) (by decide +kernel) (by decide +kernel) 0 1
      (by decide +kernel)⟩

/-- The OPEN of a browser that was closed with `tunnel_lost` reaches the next connection, and opens
a stream there. -/
theorem open_outlives_browser :
    let s := (init {}).run
      [{ event := .agentTick 0 true [] }, { event := .attach 0 },
        { event := .browserUpgrade [], cloudScript := { sends := [.failed 0] } },
        { event := .transportLost 0 }, { event := .agentTick 0 true [] }, { event := .attach 1 },
        { event := .agentRead 0 10 }]
    s.cloud.trace.closed = [(0, Bytes.ofString "tunnel_lost")] ∧ ¬ s.NoOrphans := by
  refine ⟨by decide +kernel, ?_⟩
  intro h
  have horphan := h 0 1 (by decide +kernel)
  revert horphan
  decide +kernel

end System
