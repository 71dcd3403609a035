import OnPremPbx.Agent.Answered
import OnPremPbx.Cloud.Unclosed
import OnPremPbx.System.Invariant

/-!
# Close agreement

An agent that forgets a stream on its own sends one CLOSE for it, so that both ends agree on which
streams are open once every frame in flight has been handled. The comment at the failed write says
to treat it as the end of the stream; the code then forgets the stream and sends nothing, and the
two ends agree only as long as no write fails in silence.
-/

open Framing SipFrame

namespace System

/-- The joint invariant, with every OPEN answered. -/
structure Agreed (s : System) : Prop extends Inv s where
  answered : ∀ a, (s.agents a).books.Answered
  unclosed : s.cloud.books.Unclosed

namespace Inv

variable {s : System}

/-- A CLOSE that the cloud has heard is of a stream that it opened. -/
lemma issued_of_close_heard (hs : s.Inv) {i : UInt32} {c : ConnId}
    (h : Closes i (ofKey c s.cloud.trace.heard)) : i ∈ s.cloud.trace.issued := by
  have hagent := hs.agent_orderly (s.owner c)
  have hposted : Closes i (s.agents (s.owner c)).books.posted :=
    h.mono fun _ hf => ((hs.agent (s.owner c)).wf.on_sublist c).subset ((hs.heard_up c).subset hf)
  obtain ⟨-, d, hopen⟩ := hagent.close_posted i hposted
  have hon : Opens i (s.cloud.outbound.on d) := hopen.mono (hs.heard_down (s.owner c) d).subset
  exact hs.cloud_orderly.issued_of_opens (hs.on_opens_posted hon)

/-- The next id was not closed before. -/
lemma next_not_closed (hs : s.Inv) (hmax : s.cloud.trace.issued.length + 1 < 2 ^ 32) :
    ¬ Closes s.cloud.bridge.nextStreamId s.cloud.books.posted ∧
      ∀ c, ¬ Closes s.cloud.bridge.nextStreamId (ofKey c s.cloud.trace.heard) := by
  have hnew : s.cloud.bridge.nextStreamId ∉ s.cloud.trace.issued :=
    hs.cloud_orderly.next_notMem hmax
  refine ⟨?_, fun c hclose => hnew (hs.issued_of_close_heard hclose)⟩
  rintro ⟨f, hf, hop, heq⟩
  exact hnew (heq ▸ hs.cloud_orderly.stream_issued f hf (Or.inr (Or.inr hop)))

end Inv

namespace Agreed

variable {s : System}

/-! ### The cloud moves -/

lemma unclosed_step (hs : s.Agreed) (i : Input)
    (hmax : s.cloud.trace.issued.length + 1 < 2 ^ 32) : (s.step i).cloud.books.Unclosed := by
  obtain ⟨e, cloudScript, agentScript⟩ := i
  set t := s.cloud.setScript cloudScript with ht
  have hcap : t.endpoint.cfg.outboundBufferMax = 0 := hs.cloud_cap
  have hb : t.books.Unclosed := hs.unclosed
  cases e with
  | browserUpgrade openMeta =>
    obtain ⟨hposted, hheard⟩ := hs.next_not_closed hmax
    exact Cloud.unclosed_onBrowserUpgrade hcap hb openMeta hposted hheard
  | browserData b bytes =>
    simp only [System.step, onCloud, Cloud.step, Cloud.handle, ← ht]
    rcases h : t.trace.issued[b]? with _ | i
    · exact hb
    · exact Cloud.unclosed_onBrowserData (s := t.recordData b bytes) hcap hb i bytes
  | browserClose b reason =>
    simp only [System.step, onCloud, Cloud.step, Cloud.handle, ← ht]
    rcases h : t.trace.issued[b]? with _ | i
    · exact hb
    · exact Cloud.unclosed_onBrowserClose hcap hb i reason
  | revoke payload => exact Cloud.unclosed_tunnelSend hcap hb (by simp)
  | cloudTick => exact Cloud.unclosed_tick hcap hb
  | cloudAdvance seconds => exact hb
  | attach c =>
    simp only [System.step, onCloud, Cloud.step, Cloud.handle, ← ht]
    split_ifs with hc hmem
    · exact hb
    · exact Cloud.unclosed_onAgentConnected hb c
    · exact hs.unclosed
  | cloudRead n =>
    simp only [System.step, cloudRead]
    rcases hconn : s.cloud.endpoint.transport with _ | c
    · exact hs.unclosed
    · obtain ⟨hvalid, -⟩ := (hs.link_up c hconn).drain_unread (hs.agent (s.owner c)).wf
        (hs.agent (s.owner c)).fits n
      exact Cloud.unclosed_onBytesReceived hcap hb hconn hvalid
  | cloudEof => exact Cloud.unclosed_onAgentDisconnected hb
  | agentRead a n =>
    simp only [System.step, agentRead]
    rcases (s.agents a).connector.transport with _ | c <;> exact hs.unclosed
  | agentTick a dial notices => exact hs.unclosed
  | transportLost a => exact hs.unclosed
  | asteriskData a r bytes => exact hs.unclosed
  | asteriskEof a r reason => exact hs.unclosed
  | notify a notice payload => exact hs.unclosed
  | wsPing a ok => exact hs.unclosed
  | agentAdvance a seconds => exact hs.unclosed

/-! ### An agent moves -/

lemma answered_onAgent (hs : s.Agreed) {a : ℕ} {i : Agent.Input}
    (h : ((s.agents a).step i).books.Answered) (b : ℕ) :
    ((s.onAgent a i).agents b).books.Answered := by
  obtain hsame | ⟨rfl, hstep⟩ := agents_onAgent s a i b
  · rw [hsame]
    exact hs.answered b
  · rwa [hstep]

lemma answered_read (hs : s.Agreed) {a : ℕ} {c : ConnId}
    (htransport : (s.agents a).connector.transport = some c) (n : ℕ) {script : Agent.Script}
    (hloud : script.Loud) :
    ((s.agents a).step (.bytesReceived (s.downward c n), script)).books.Answered := by
  obtain ⟨hvalid, hpair, hnew⟩ := hs.reads_orderly htransport n
  exact Agent.answered_onBytesReceived (s := (s.agents a).setScript script) (hs.agent_cap a)
    (hs.agent_orderly a) (hs.agent a).small (hs.agent a).wf ((hs.agent a).held c htransport)
    htransport hvalid hpair hnew hloud (hs.answered a)

lemma answered_step (hs : s.Agreed) {i : Input} (hloud : i.agentScript.Loud) (b : ℕ) :
    ((s.step i).agents b).books.Answered := by
  obtain ⟨e, cloudScript, agentScript⟩ := i
  have hcap : ∀ a, ((s.agents a).setScript agentScript).connector.cfg.outboundBufferMax = 0 :=
    hs.agent_cap
  have hord : ∀ a, ((s.agents a).setScript agentScript).books.Orderly := hs.agent_orderly
  have hb : ∀ a, ((s.agents a).setScript agentScript).books.Answered := hs.answered
  have hrequest : ∀ {t : Agent}, t.books.Answered → t.requestDisconnect.books.Answered :=
    fun _ => Agent.Books.answered_of_none rfl
  cases e with
  | agentTick a dial notices =>
    set script : Agent.Script :=
      { agentScript with onConnected := notices.map fun x => x.1.frame x.2 }
    refine hs.answered_onAgent (i := (.tick (if dial then some s.dialed.length else none), script))
      (Agent.answered_tick (s := (s.agents a).setScript script) (hs.agent_cap a)
        (hs.agent_orderly a) (hs.answered a) fun c hc => ?_) b
    simpa using (Option.filter_eq_some_iff.mp hc).2
  | agentRead a n =>
    simp only [System.step, agentRead]
    rcases htransport : (s.agents a).connector.transport with _ | c
    · exact hs.answered b
    · exact hs.answered_onAgent (hs.answered_read htransport n hloud) b
  | transportLost a =>
    refine hs.answered_onAgent ?_ b
    simp only [Agent.step, Agent.handle, Agent.onTransportLost]
    split_ifs
    · exact hrequest (hb a)
    · exact hb a
  | asteriskData a r bytes =>
    refine hs.answered_onAgent ?_ b
    set t := (s.agents a).setScript agentScript with ht
    simp only [Agent.step, Agent.handle, ← ht]
    rcases h : t.trace.opened[r]? with _ | sid
    · exact hb a
    · exact Agent.answered_asteriskData (hcap a) (hb a) r sid bytes
  | asteriskEof a r reason =>
    refine hs.answered_onAgent ?_ b
    set t := (s.agents a).setScript agentScript with ht
    simp only [Agent.step, Agent.handle, ← ht]
    rcases h : t.trace.opened[r]? with _ | sid
    · exact hb a
    · exact Agent.answered_onAsteriskEof (hcap a) (hord a) (hb a) sid reason
  | notify a notice payload =>
    exact hs.answered_onAgent (i := (.sendFrame (notice.frame payload), agentScript))
      (Agent.answered_post (hcap a) (hb a) _) b
  | wsPing a ok =>
    refine hs.answered_onAgent ?_ b
    simp only [Agent.step, Agent.handle, Agent.sendWsPing]
    split_ifs
    · exact hrequest (hb a)
    · exact hb a
  | agentAdvance a seconds =>
    exact hs.answered_onAgent (i := (.advance seconds, agentScript)) (hb a) b
  | attach c =>
    simp only [System.step]
    split_ifs <;> exact hs.answered b
  | cloudRead n =>
    simp only [System.step, cloudRead]
    rcases s.cloud.endpoint.transport with _ | c <;> exact hs.answered b
  | browserUpgrade openMeta => exact hs.answered b
  | browserData k bytes => exact hs.answered b
  | browserClose k reason => exact hs.answered b
  | revoke payload => exact hs.answered b
  | cloudTick => exact hs.answered b
  | cloudAdvance seconds => exact hs.answered b
  | cloudEof => exact hs.answered b

theorem step (hs : s.Agreed) {i : Input} (hsized : s.Sized i)
    (hmax : s.cloud.trace.issued.length + 1 < 2 ^ 32) (hloud : i.agentScript.Loud) :
    (s.step i).Agreed where
  toInv := hs.toInv.step hsized hmax
  answered := hs.answered_step hloud
  unclosed := hs.unclosed_step i hmax

end Agreed

lemma agreed_init (setup : Setup) : (init setup).Agreed where
  toInv := inv_init setup
  answered _ := Agent.Books.answered_of_none rfl
  unclosed := Cloud.Books.unclosed_of_empty rfl

/-! ### Agreement -/

/-- Both ends hold the connection `c` and have handled every frame written to it. -/
def AllHandled (s : System) (c : ConnId) : Prop :=
  s.cloud.endpoint.transport = some c ∧ (s.agents (s.owner c)).usable = some c ∧
  ofKey c (s.agents (s.owner c)).trace.heard = s.cloud.outbound.on c ∧
  ofKey c s.cloud.trace.heard = (s.agents (s.owner c)).outbound.on c

instance (s : System) (c : ConnId) : Decidable (s.AllHandled c) :=
  inferInstanceAs (Decidable (_ ∧ _ ∧ _ ∧ _))

/-- Once every frame is handled, a registered browser whose OPEN an agent has handled has its
stream open there. -/
lemma Agreed.mem_streams {s : System} (hs : s.Agreed) {c d : ConnId} (hall : s.AllHandled c)
    {a : ℕ} {i : UInt32} (hi : i ∈ s.cloud.bridge.browsers)
    (hopen : Opens i (ofKey d (s.agents a).trace.heard)) : i ∈ (s.agents a).demux.streams := by
  obtain ⟨hcloud, hagent, hdown, hup⟩ := hall
  have hon : Opens i (s.cloud.outbound.on d) := hopen.mono (hs.heard_down a d).subset
  have hplaced := (hs.cloud_orderly.open_placed i hi (hs.on_opens_posted hon)).1 c hcloud
  obtain rfl : c = d := hs.open_conn_unique hplaced hon
  have howner : s.owner c = a := by
    obtain ⟨f, hf, -⟩ := hopen
    exact hs.owner_eq ((hs.agent a).heard_used c f (mem_ofKey.mp hf))
  rw [howner] at hagent hdown hup
  obtain ⟨hposted, hheard⟩ := hs.unclosed i hi
  obtain hmem | hclose | hclose := hs.answered a i c hagent hopen
  · exact hmem
  · refine absurd (hclose.mono ?_) hposted
    intro f hf
    exact (hs.cloud.wf.on_sublist c).subset ((hs.heard_down a c).subset hf)
  · refine absurd ?_ (hheard c)
    exact hup.symm ▸ hclose

/-- As long as no write to a stream fails in silence: in every run of the demux, as many CLOSE
frames are sent for a stream as the demux forgets it; and in every run of the system, once the
frames in flight are handled, a registered browser whose OPEN was handled has its stream open. -/
theorem close_agreement (agent : Agent) (ds : List Agent.DemuxInput) (setup : Setup)
    (is : List Input) :
    ((∀ inp ∈ ds, inp.script.Loud) → ∀ i,
      (agent.demuxRun ds).closesSent i = agent.closesSent i + Agent.timesForgotten i agent ds) ∧
    (Transition.Along step Sized (init setup) is → upgrades is < 2 ^ 32 - 1 →
      (∀ inp ∈ is, inp.agentScript.Loud) →
      let s := (init setup).run is
      ∀ c, s.AllHandled c → ∀ a d i, i ∈ s.cloud.bridge.browsers →
        Opens i (ofKey d (s.agents a).trace.heard) → i ∈ (s.agents a).demux.streams) := by
  refine ⟨fun hloud i => Agent.closesSent_demuxRun i agent hloud, ?_⟩
  intro hsized hmax hloud s c hall a d i hi hopen
  have hissued : Transition.Along step (fun s _ => s.cloud.trace.issued.length + 1 < 2 ^ 32)
      (init setup) is := along_issued (by simpa [init, Cloud.init] using hmax)
  have hloud' : Transition.Along step (fun _ inp => inp.agentScript.Loud) (init setup) is :=
    .of_forall (fun inp hinp _ => hloud inp hinp) _
  have hrun := (hsized.and (hissued.and hloud')).invariant (P := Agreed)
    (fun s i h hs => hs.step h.1 h.2.1 h.2.2) (agreed_init setup)
  exact Agreed.mem_streams hrun hall hi hopen

/-- A stream that reports its end from inside a failing write is reported once, and a stream whose
writes succeed stays open. -/
theorem close_agreement_writes :
    (let is : List Agent.DemuxInput := [{ event := .frame ⟨.OPEN, 1, []⟩ },
        { event := .frame ⟨.DATA, 1, [7]⟩, script := { streamWrites := [.brokenEof] } }]
     Agent.timesForgotten 1 {} is = 1 ∧
      (({} : Agent).demuxRun is).closesSent 1 = 0 + Agent.timesForgotten 1 {} is) ∧
    let s := (init {}).run
      [{ event := .agentTick 0 true [] }, { event := .attach 0 }, { event := .browserUpgrade [] },
        { event := .agentRead 0 10 }, { event := .browserData 0 [7] },
        { event := .agentRead 0 11, agentScript := { streamWrites := [.ok] } }]
    s.AllHandled 0 ∧ 1 ∈ s.cloud.bridge.browsers ∧ 1 ∈ (s.agents 0).demux.streams :=
  ⟨⟨by decide +kernel, (close_agreement {} _ {} []).1 (by decide +kernel) 1⟩,
    by decide +kernel, by decide +kernel,
    (close_agreement {} [] {} _).2 (by decide +kernel) (by decide +kernel) (by decide +kernel) 0
      (by decide +kernel) 0 0 1 (by decide +kernel) (by decide +kernel)⟩

/-- A write that fails in silence: the agent has forgotten the stream, no CLOSE was sent, and with
every frame handled the browser is still registered. -/
theorem browser_without_stream :
    let s := (init {}).run
      [{ event := .agentTick 0 true [] }, { event := .attach 0 }, { event := .browserUpgrade [] },
        { event := .agentRead 0 10 }, { event := .browserData 0 [7] },
        { event := .agentRead 0 11, agentScript := { streamWrites := [.broken] } }]
    s.AllHandled 0 ∧ 1 ∈ s.cloud.bridge.browsers ∧ Opens 1 (ofKey 0 (s.agents 0).trace.heard) ∧
      (s.agents 0).trace.handed = [(0, [7])] ∧ 1 ∉ (s.agents 0).demux.streams ∧
      (s.agents 0).closesSent 1 = 0 := by
  decide +kernel

end System
