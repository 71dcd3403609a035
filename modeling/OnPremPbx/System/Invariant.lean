import OnPremPbx.Agent.Streams
import OnPremPbx.Cloud.Streams
import OnPremPbx.System.Links

/-!
# The joint invariant

The ends are linked, and the books of both are orderly.
-/

open Framing SipFrame

namespace System

/-- The joint invariant. -/
structure Inv (s : System) : Prop extends Linked s where
  cloud_cap : s.cloud.endpoint.cfg.outboundBufferMax = 0
  agent_cap : ∀ a, (s.agents a).connector.cfg.outboundBufferMax = 0
  cloud_orderly : s.cloud.books.Orderly
  agent_orderly : ∀ a, (s.agents a).books.Orderly

namespace Inv

variable {s : System}

/-- The OPEN of a stream is on one connection only. -/
lemma open_conn_unique (hs : s.Inv) {i : UInt32} {c d : ConnId}
    (hc : Opens i (s.cloud.outbound.on c)) (hd : Opens i (s.cloud.outbound.on d)) : c = d := by
  by_contra hne
  obtain ⟨f, hf, hfop, hfi⟩ := hc
  obtain ⟨g, hg, hgop, hgi⟩ := hd
  obtain h | h := hs.cloud.wf.rel_of_on hs.cloud_orderly.open_first hne hf hg
  · exact h hgop (Or.inl hfop) (hfi.trans hgi.symm)
  · exact h hfop (Or.inl hgop) (hgi.trans hfi.symm)

lemma on_opens_posted (hs : s.Inv) {i : UInt32} {c : ConnId}
    (h : Opens i (s.cloud.outbound.on c)) : Opens i s.cloud.books.posted :=
  h.mono fun _ hf => (hs.cloud.wf.on_sublist c).subset hf

/-! ### The books after a step -/

lemma cloud_orderly_read (hs : s.Inv) {c : ConnId} (hconn : s.cloud.endpoint.transport = some c)
    (n : ℕ) {script : Cloud.Script} (hscript : script.Small) :
    (s.cloud.step (.bytesReceived (s.upward c n), script)).books.Orderly := by
  obtain ⟨hvalid, hframes⟩ := (hs.link_up c hconn).drain_unread (hs.agent (s.owner c)).wf
    (hs.agent (s.owner c)).fits n
  refine Cloud.orderly_onBytesReceived (s := s.cloud.setScript script) hs.cloud_cap
    hs.cloud_orderly hs.cloud.small hscript (hs.cloud.wf.conn_mem_used c hconn) hconn hvalid
    fun f hf hop => ?_
  have hon : f ∈ (s.agents (s.owner c)).outbound.on c :=
    hframes.subset (List.mem_append_right _ hf)
  have hposted := ((hs.agent (s.owner c)).wf.on_sublist c).subset hon
  obtain ⟨d, hd⟩ := (hs.agent_orderly (s.owner c)).opens_of_opened
    ((hs.agent_orderly (s.owner c)).data_opened f hposted hop)
  exact hs.on_opens_posted (hd.mono (hs.heard_down (s.owner c) d).subset)

/-- What an agent reads is valid, opens every stream once, and before anything else of it. -/
lemma reads_orderly (hs : s.Inv) {a : ℕ} {c : ConnId}
    (htransport : (s.agents a).connector.transport = some c) (n : ℕ) :
    (codec.drain ((s.agents a).demux.recvBuffer ++ s.downward c n)).valid = true ∧
    (ofKey c (s.agents a).trace.heard ++
      (codec.drain ((s.agents a).demux.recvBuffer ++ s.downward c n)).frames).Pairwise OpenFirst ∧
    ∀ f ∈ (codec.drain ((s.agents a).demux.recvBuffer ++ s.downward c n)).frames, f.op = .OPEN →
      ∀ d, d ≠ c → ¬ Opens f.streamId (ofKey d (s.agents a).trace.heard) := by
  obtain ⟨hvalid, hframes⟩ :=
    (hs.link_down a c htransport).drain_unread hs.cloud.wf hs.cloud.fits n
  refine ⟨hvalid, ?_, ?_⟩
  · exact hs.cloud_orderly.open_first.sublist (hframes.sublist.trans (hs.cloud.wf.on_sublist c))
  · intro f hf hop d hd hopen
    have hon : f ∈ s.cloud.outbound.on c := hframes.subset (List.mem_append_right _ hf)
    exact hd (hs.open_conn_unique (hopen.mono (hs.heard_down a d).subset) ⟨f, hon, hop, rfl⟩)

lemma agent_orderly_read (hs : s.Inv) {a : ℕ} {c : ConnId}
    (htransport : (s.agents a).connector.transport = some c) (n : ℕ) (script : Agent.Script) :
    ((s.agents a).step (.bytesReceived (s.downward c n), script)).books.Orderly := by
  obtain ⟨hvalid, hpair, hnew⟩ := hs.reads_orderly htransport n
  exact Agent.orderly_onBytesReceived (s := (s.agents a).setScript script) (hs.agent_cap a)
    (hs.agent_orderly a) (hs.agent a).small (hs.agent a).wf ((hs.agent a).held c htransport)
    htransport hvalid hpair hnew

/-- The books of the cloud are orderly after every step. -/
lemma cloud_orderly_step (hs : s.Inv) {i : Input} (hsized : s.Sized i)
    (hmax : s.cloud.trace.issued.length + 1 < 2 ^ 32) : (s.step i).cloud.books.Orderly := by
  obtain ⟨e, cloudScript, agentScript⟩ := i
  set t := s.cloud.setScript cloudScript with ht
  have hcap : t.endpoint.cfg.outboundBufferMax = 0 := hs.cloud_cap
  have hb : t.books.Orderly := hs.cloud_orderly
  cases e with
  | browserUpgrade openMeta => exact Cloud.orderly_onBrowserUpgrade hcap hb hmax openMeta
  | browserData b bytes =>
    simp only [System.step, onCloud, Cloud.step, Cloud.handle, ← ht]
    rcases h : t.trace.issued[b]? with _ | i
    · exact hb
    · exact Cloud.orderly_browserData hcap hb (Nat.lt_of_succ_lt hmax) h bytes
  | browserClose b reason =>
    simp only [System.step, onCloud, Cloud.step, Cloud.handle, ← ht]
    rcases h : t.trace.issued[b]? with _ | i
    · exact hb
    · exact Cloud.orderly_onBrowserClose hcap hb i reason
  | revoke payload => exact Cloud.orderly_tunnelControl hcap hb (by simp [Frame.IsStream])
  | cloudTick => exact Cloud.orderly_tick hcap hb
  | cloudAdvance seconds => exact hb
  | attach c =>
    simp only [System.step, onCloud, Cloud.step, Cloud.handle, ← ht]
    split_ifs with hc hmem
    · exact hb
    · exact Cloud.orderly_onAgentConnected hb hmem
    · exact hs.cloud_orderly
  | cloudRead n =>
    simp only [System.step, cloudRead]
    rcases hconn : s.cloud.endpoint.transport with _ | c
    · exact hs.cloud_orderly
    · exact hs.cloud_orderly_read hconn n hsized
  | cloudEof =>
    simp only [System.step, onCloud, Cloud.step, Cloud.handle, Cloud.onAgentDisconnected]
    split_ifs
    · exact hb.lose
    · exact hb
  | agentRead a n =>
    simp only [System.step, agentRead]
    rcases (s.agents a).connector.transport with _ | c <;> exact hs.cloud_orderly
  | agentTick a dial notices => exact hs.cloud_orderly
  | transportLost a => exact hs.cloud_orderly
  | asteriskData a r bytes => exact hs.cloud_orderly
  | asteriskEof a r reason => exact hs.cloud_orderly
  | notify a notice payload => exact hs.cloud_orderly
  | wsPing a ok => exact hs.cloud_orderly
  | agentAdvance a seconds => exact hs.cloud_orderly

/-- An event at the agent `a` leaves the other agents alone. -/
lemma orderly_onAgent (hs : s.Inv) {a : ℕ} {i : Agent.Input}
    (h : ((s.agents a).step i).books.Orderly) (b : ℕ) :
    ((s.onAgent a i).agents b).books.Orderly := by
  by_cases hb : b = a
  · subst hb
    simpa only [onAgent, Function.update_self] using h
  · simpa only [onAgent, Function.update_of_ne hb] using hs.agent_orderly b

/-- The notices that an agent sends when it connects leave its streams alone. -/
lemma plain_notices (notices : List (Notice × Bytes)) :
    Agent.Plain (notices.map fun x => x.1.frame x.2) := by
  intro f hf
  obtain ⟨x, -, rfl⟩ := List.mem_map.mp hf
  have hno := x.1.not_isStream x.2
  exact ⟨fun h => hno (Or.inr (Or.inl h)), fun h => hno (Or.inr (Or.inr h))⟩

/-- The books of every agent are orderly after every step. -/
lemma agent_orderly_step (hs : s.Inv) (i : Input) (b : ℕ) :
    ((s.step i).agents b).books.Orderly := by
  obtain ⟨e, cloudScript, agentScript⟩ := i
  have hcap : ∀ a, ((s.agents a).setScript agentScript).connector.cfg.outboundBufferMax = 0 :=
    hs.agent_cap
  have hb : ∀ a, ((s.agents a).setScript agentScript).books.Orderly := hs.agent_orderly
  cases e with
  | agentTick a dial notices =>
    set script : Agent.Script :=
      { agentScript with onConnected := notices.map fun x => x.1.frame x.2 }
    refine hs.orderly_onAgent (i := (.tick (if dial then some s.dialed.length else none), script))
      (Agent.orderly_tick (s := (s.agents a).setScript script) (hs.agent_cap a)
        (hs.agent_orderly a) (fun c hc => ?_) (plain_notices notices)) b
    simpa using (Option.filter_eq_some_iff.mp hc).2
  | agentRead a n =>
    simp only [System.step, agentRead]
    rcases htransport : (s.agents a).connector.transport with _ | c
    · exact hs.agent_orderly b
    · exact hs.orderly_onAgent (hs.agent_orderly_read htransport n agentScript) b
  | transportLost a =>
    refine hs.orderly_onAgent ?_ b
    simp only [Agent.step, Agent.handle, Agent.onTransportLost]
    split_ifs
    · exact (hb a).request
    · exact hb a
  | asteriskData a r bytes =>
    refine hs.orderly_onAgent ?_ b
    set t := (s.agents a).setScript agentScript with ht
    simp only [Agent.step, Agent.handle, ← ht]
    rcases h : t.trace.opened[r]? with _ | sid
    · exact hb a
    · exact Agent.orderly_asteriskData (hcap a) (hb a) h bytes
  | asteriskEof a r reason =>
    refine hs.orderly_onAgent ?_ b
    set t := (s.agents a).setScript agentScript with ht
    simp only [Agent.step, Agent.handle, ← ht]
    rcases h : t.trace.opened[r]? with _ | sid
    · exact hb a
    · exact Agent.orderly_onAsteriskEof (hcap a) (hb a) sid reason
  | notify a notice payload =>
    have hno := notice.not_isStream payload
    exact hs.orderly_onAgent (i := (.sendFrame (notice.frame payload), agentScript))
      (Agent.orderly_sendControl (hcap a) (hb a) (fun h => hno (Or.inr (Or.inl h)))
        fun h => hno (Or.inr (Or.inr h))) b
  | wsPing a ok =>
    refine hs.orderly_onAgent ?_ b
    simp only [Agent.step, Agent.handle, Agent.sendWsPing]
    split_ifs
    · exact (hb a).request
    · exact hb a
  | agentAdvance a seconds =>
    exact hs.orderly_onAgent (i := (.advance seconds, agentScript)) (hb a) b
  | attach c =>
    simp only [System.step]
    split_ifs <;> exact hs.agent_orderly b
  | cloudRead n =>
    simp only [System.step, cloudRead]
    rcases s.cloud.endpoint.transport with _ | c <;> exact hs.agent_orderly b
  | browserUpgrade openMeta => exact hs.agent_orderly b
  | browserData k bytes => exact hs.agent_orderly b
  | browserClose k reason => exact hs.agent_orderly b
  | revoke payload => exact hs.agent_orderly b
  | cloudTick => exact hs.agent_orderly b
  | cloudAdvance seconds => exact hs.agent_orderly b
  | cloudEof => exact hs.agent_orderly b

/-- Every step keeps the invariant. -/
theorem step (hs : s.Inv) {i : Input} (hsized : s.Sized i)
    (hmax : s.cloud.trace.issued.length + 1 < 2 ^ 32) : (s.step i).Inv where
  toLinked := hs.toLinked.step hsized
  cloud_cap := by
    obtain h | ⟨e, h⟩ := step_cloud s i
    · rw [h]
      exact hs.cloud_cap
    · rw [h]
      exact Cloud.closed_cap.handle e (s.cloud.setScript i.cloudScript) hs.cloud_cap
  agent_cap a := by
    obtain h | ⟨e, script, h⟩ := step_agents s i a
    · rw [h]
      exact hs.agent_cap a
    · rw [h]
      exact Agent.closed_cap.handle e ((s.agents a).setScript script) (hs.agent_cap a)
  cloud_orderly := hs.cloud_orderly_step hsized hmax
  agent_orderly := hs.agent_orderly_step i

end Inv

/-! ### Runs -/

lemma inv_init (setup : Setup) : (init setup).Inv where
  toLinked := linked_init setup
  cloud_cap := rfl
  agent_cap _ := rfl
  cloud_orderly :=
    { issued_eq := rfl
      next_eq := rfl
      lookup := by simp [Cloud.books, init, Cloud.init]
      stream_issued := by simp [Cloud.Books.posted, Cloud.books, Cloud.outbound, init,
        Cloud.init, kept]
      open_first := List.Pairwise.nil
      open_placed := by simp [Cloud.books, init, Cloud.init]
      tunnel_armed := by simp [Cloud.books, init, Cloud.init]
      data_posted := by simp [Cloud.books, init, Cloud.init]
      from_issued := by simp [Cloud.books, init, Cloud.init]
      to_issued := by simp [Cloud.books, init, Cloud.init]
      to_heard := by simp [Cloud.books, init, Cloud.init]
      to_live := by simp [Cloud.books, init, Cloud.init]
      heard_opened := by simp [Cloud.books, init, Cloud.init]
      heard_used := by simp [Cloud.books, init, Cloud.init] }
  agent_orderly a :=
    { lookup := by simp [Agent.books, init, Agent.init]
      opened_nodup := List.nodup_nil
      armed := by simp [Agent.books, init, Agent.init]
      data_opened := by simp [Agent.Books.posted, Agent.books, Agent.outbound, init,
        Agent.init, kept]
      data_posted := by simp [Agent.books, init, Agent.init]
      produced_opened := by simp [Agent.books, init, Agent.init]
      handed_opened := by simp [Agent.books, init, Agent.init]
      opened_on := by simp [Agent.books, init, Agent.init]
      heard_used := by simp [Agent.books, init, Agent.init]
      close_posted := by simp [Agent.Books.posted, Agent.books, Agent.outbound, init,
        Agent.init, kept]
      close_heard := by simp [Agent.books, init, Agent.init] }

/-- The number of upgrades in a run bounds the number of ids issued at every step of it. -/
lemma along_issued {s : System} {is : List Input}
    (h : s.cloud.trace.issued.length + upgrades is < 2 ^ 32 - 1) :
    Transition.Along step (fun s _ => s.cloud.trace.issued.length + 1 < 2 ^ 32) s is := by
  induction is generalizing s with
  | nil => trivial
  | cons i is ih =>
    refine ⟨by omega, ih ?_⟩
    have hstep := length_issued_step s i
    have hcount := upgrades_cons i is
    omega

/-- The invariant holds in every state of a run whose payloads fit and whose stream ids do not
wrap around. -/
theorem inv_run {setup : Setup} {is : List Input}
    (hsized : Transition.Along step Sized (init setup) is) (hmax : upgrades is < 2 ^ 32 - 1) :
    ((init setup).run is).Inv := by
  have hissued : Transition.Along step (fun s _ => s.cloud.trace.issued.length + 1 < 2 ^ 32)
      (init setup) is := along_issued (by simpa [init, Cloud.init] using hmax)
  exact (hsized.and hissued).invariant (P := Inv) (fun s i h hs => hs.step h.1 h.2)
    (inv_init setup)

end System
