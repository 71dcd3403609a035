import OnPremPbx.Cloud.Streams

/-!
# Every OPEN has a browser or a CLOSE

A stream that was announced to the current agent, or waits to be announced to the next one, has
its browser still registered, or a CLOSE behind it: its own, or one that came from the agent. The
two steps that can break this are those that lose the agent and keep an OPEN queued: an upgrade
whose OPEN is not sent, and an attach whose flush stops before an OPEN.
-/

open Framing SipFrame

namespace Cloud

namespace Books

/-- The stream `i` is not announced without a browser. -/
structure SettledFor (b : Books) (i : UInt32) : Prop where
  queued : b.out.conn = none → Opens i b.out.queue → i ∈ b.browsers ∨ Closes i b.out.queue
  written : ∀ c, b.out.conn = some c → Opens i (b.out.on c) →
    i ∈ b.browsers ∨ Closes i (b.out.on c) ∨ Closes i (ofKey c b.heard)

def Settled (b : Books) : Prop := ∀ i, b.SettledFor i

variable {b : Books}

/-- The agent is lost with nothing queued. -/
lemma settled_lose (hq : b.out.queue = []) : b.lose.Settled := by
  refine fun i => ⟨fun _ hopen => ?_, fun c hc => by simp [lose, Outbound.drop] at hc⟩
  obtain ⟨f, hf, -⟩ := hopen
  simp [lose, Outbound.drop, hq] at hf

/-- The agent is lost in the write of a frame other than an OPEN, which is queued. -/
lemma settled_tear_post (hq : b.out.queue = []) (c : ConnId) {f : Frame} (hop : f.op ≠ .OPEN)
    (n : ℕ) : ((b.tear c f n).post f).Settled := by
  refine fun i => ⟨fun _ hopen => ?_, fun d hd => ?_⟩
  · obtain ⟨g, hg, hgop, -⟩ := hopen
    simp only [post, tear, Outbound.post, Outbound.tear, hq, List.nil_append,
      List.mem_singleton] at hg
    exact absurd (hg ▸ hgop) hop
  · simp [post, tear, Outbound.post, Outbound.tear] at hd

/-- An agent that gets the whole queue. -/
lemma Settled.attach (hb : b.Settled) (ho : b.out.Wf) (hconn : b.out.conn = none) {c : ConnId}
    (hc : c ∉ b.out.used) : (b.attach c).Settled := by
  refine fun i => ⟨fun hnone => by simp [Books.attach, Outbound.flush] at hnone,
    fun d hd hopen => ?_⟩
  obtain rfl := Option.some.inj hd
  have hon : (b.attach c).out.on c = b.out.queue := by
    simp [Books.attach, ho.on_eq_nil hc]
  rw [hon] at hopen ⊢
  exact ((hb i).queued hconn hopen).imp_right Or.inl

/-- An agent that is lost while it gets the queue, if the CLOSE of every OPEN left is left too. -/
lemma settled_attachUpTo (hconn : b.out.conn = none) (c : ConnId) (sent : List Frame) {f : Frame}
    {rest : List Frame} (n : ℕ) (hleft : ∀ i, Opens i (f :: rest) → Closes i (f :: rest)) :
    (b.attachUpTo c sent f rest n).Settled := by
  refine fun i => ⟨fun _ hopen => Or.inr (hleft i hopen), ?_⟩
  intro d hd
  simp [attachUpTo, Outbound.flushUpTo, hconn] at hd

namespace SettledFor

variable {i : UInt32}

lemma post (hb : b.SettledFor i) {f : Frame}
    (hf : f.op = .OPEN → f.streamId = i → i ∈ b.browsers) : (b.post f).SettledFor i where
  queued hnone hopen := by
    have hconn : b.out.conn = none := (b.out.conn_post f).symm.trans hnone
    simp only [Books.post, Outbound.queue_post_of_none f hconn, opens_append, closes_append,
      opens_singleton] at hopen ⊢
    obtain hopen | ⟨hop, hi⟩ := hopen
    · exact (hb.queued hconn hopen).imp_right Or.inl
    · exact Or.inl (hf hop hi)
  written c hc hopen := by
    have hconn : b.out.conn = some c := (b.out.conn_post f).symm.trans hc
    simp only [Books.post, Outbound.on_post_of_some f hconn, opens_append, closes_append,
      opens_singleton] at hopen ⊢
    obtain hopen | ⟨hop, hi⟩ := hopen
    · exact (hb.written c hconn hopen).imp_right (Or.imp_left Or.inl)
    · exact Or.inl (hf hop hi)

/-- A stream is settled by its CLOSE. -/
lemma of_close (b : Books) (i : UInt32) (reason : Bytes) :
    (b.post ⟨.CLOSE, i, reason⟩).SettledFor i where
  queued hnone _ := by
    have hconn : b.out.conn = none := (b.out.conn_post _).symm.trans hnone
    exact Or.inr (by simp [Books.post, Outbound.queue_post_of_none _ hconn, closes_append,
      closes_singleton])
  written c hc _ := by
    have hconn : b.out.conn = some c := (b.out.conn_post _).symm.trans hc
    exact Or.inr (Or.inl (by simp [Books.post, Outbound.on_post_of_some _ hconn, closes_append,
      closes_singleton]))

/-- A stream is settled by the CLOSE of the agent. -/
lemma of_close_heard {c : ConnId} (hconn : b.out.conn = some c) (i : UInt32) (reason : Bytes) :
    (b.hear c ⟨.CLOSE, i, reason⟩).SettledFor i where
  queued hnone := absurd (hconn.symm.trans hnone) (by simp)
  written d hd _ := by
    obtain rfl := Option.some.inj (hconn.symm.trans hd)
    refine Or.inr (Or.inr ⟨⟨.CLOSE, i, reason⟩, ?_, rfl, rfl⟩)
    simp [Books.hear, mem_ofKey]

/-- A stream that was never announced is settled. -/
lemma of_not_opens (ho : b.out.Wf) (hi : ¬ Opens i b.posted) : b.SettledFor i where
  queued _ hopen := by
    refine absurd (hopen.mono ?_) hi
    intro f hf
    rw [posted, ← ho.accepted_append_queue]
    exact List.mem_append_right _ hf
  written c _ hopen := absurd (hopen.mono fun f hf => (ho.on_sublist c).subset hf) hi

lemma hear (hb : b.SettledFor i) (c : ConnId) (f : Frame) : (b.hear c f).SettledFor i where
  queued := hb.queued
  written d hd hopen := by
    refine (hb.written d hd hopen).imp_right (Or.imp_right fun h => h.mono fun g hg => ?_)
    rw [mem_ofKey] at hg ⊢
    exact List.mem_append_left _ hg

lemma deregister (hb : b.SettledFor i) {j : UInt32} (hij : i ≠ j) :
    (b.deregister j).SettledFor i where
  queued hnone hopen := (hb.queued hnone hopen).imp_left fun h => AList.mem_erase.mpr ⟨hij, h⟩
  written c hc hopen := (hb.written c hc hopen).imp_left fun h => AList.mem_erase.mpr ⟨hij, h⟩

lemma register (hb : b.SettledFor i) : b.register.SettledFor i := by
  have hsub : i ∈ b.browsers → i ∈ b.register.browsers := by
    intro hi
    simp only [Books.register]
    split_ifs
    · exact hi
    · exact (AList.mem_insert _).mpr (Or.inr hi)
  exact ⟨fun h hi => (hb.queued h hi).imp_left hsub,
    fun c h hi => (hb.written c h hi).imp_left hsub⟩

end SettledFor

end Books

/-! ### What keeps the streams settled -/

section Sends

variable {s : Cloud} (hcap : s.endpoint.cfg.outboundBufferMax = 0) (ho : s.outbound.Wf)

include hcap ho

/-- A frame is handed to the tunnel by a send that does not fail, or it is not an OPEN. -/
lemma settled_sendFrame {op : Op} {i : UInt32} {p : Bytes}
    (hpost : (s.books.post ⟨op, i, p⟩).Settled)
    (hop : s.endpoint.transport.isSome → op = .OPEN → s.script.sends.headD .ok = .ok) :
    (s.sendFrame op i p).books.Settled := by
  obtain h | ⟨c, n, hc, hr, h⟩ := books_sendFrame hcap op i p
  · rwa [h]
  · rw [h]
    refine Books.settled_tear_post (ho.queue_eq_nil c hc) c ?_ n
    intro hopen
    rw [hop (by simp [hc]) hopen] at hr
    cases hr

lemma settled_tunnelSend {op : Op} {i : UInt32} {p : Bytes} (hnone : s.books.tunnel = false →
      s.books.Settled) (hpost : (s.books.post ⟨op, i, p⟩).Settled)
    (hop : s.endpoint.transport.isSome → op = .OPEN → s.script.sends.headD .ok = .ok) :
    (s.tunnelSend op i p).books.Settled := by
  rcases h : s.bridge.tunnel with _ | t
  · rw [tunnelSend_of_none h]
    exact hnone (by simp [books, h])
  · rw [tunnelSend_of_some h]
    exact settled_sendFrame hcap ho hpost hop

variable (hb : s.books.Settled)

include hb

lemma settled_sendOther {op : Op} {i : UInt32} {p : Bytes} (hop : op ≠ .OPEN) :
    (s.sendFrame op i p).books.Settled :=
  settled_sendFrame hcap ho (fun j => (hb j).post fun h => absurd h hop) fun _ h => absurd h hop

lemma settled_tunnelOther {op : Op} {i : UInt32} {p : Bytes} (hop : op ≠ .OPEN) :
    (s.tunnelSend op i p).books.Settled :=
  settled_tunnelSend hcap ho (fun _ => hb) (fun j => (hb j).post fun h => absurd h hop)
    fun _ h => absurd h hop

/-- An upgrade, if its OPEN does not fail to be sent. -/
lemma settled_onBrowserUpgrade (openMeta : Bytes)
    (hsend : s.endpoint.transport.isSome → s.script.sends.headD .ok = .ok) :
    (s.onBrowserUpgrade openMeta).1.books.Settled := by
  have hreg : s.register.books.Settled := fun i => (hb i).register
  have hnext : s.bridge.nextStreamId ∈ s.register.books.browsers := by
    simp only [books, register]
    split_ifs with h
    · exact h
    · exact (AList.mem_insert _).mpr (Or.inl rfl)
  refine settled_tunnelSend (s := s.register) hcap ho (fun _ => hreg)
    (fun j => (hreg j).post fun _ hj => ?_) fun h _ => hsend h
  exact (show s.bridge.nextStreamId = j from hj) ▸ hnext

/-- A browser that leaves settles its stream with a CLOSE, unless it was never announced. -/
lemma settled_onBrowserClose (hord : s.books.Orderly) (i : UInt32) (reason : Bytes) :
    (s.onBrowserClose i reason).books.Settled := by
  rw [onBrowserClose]
  split_ifs with hi
  · refine settled_tunnelSend (s := s.deregister i) hcap ho (fun htunnel j => ?_) (fun j => ?_)
      fun _ h => absurd h (by simp)
    · by_cases hji : j = i
      · subst hji
        refine Books.SettledFor.of_not_opens ho ?_
        intro hopen
        have := hord.tunnel_armed j hi hopen
        exact absurd (htunnel.symm.trans this) Bool.false_ne_true
      · exact (hb j).deregister hji
    · by_cases hji : j = i
      · subst hji
        exact Books.SettledFor.of_close _ _ _
      · exact ((hb j).deregister hji).post fun h => absurd h (by simp)
  · exact hb

lemma settled_callHandler : s.callHandler.1.books.Settled := by
  have hscript : ∀ script, (s.setScript script).books.Settled := fun _ => hb
  rcases h : s.script.handlers.headD (.returns none) with _ | _ | p
  · simpa only [callHandler, h] using hscript _
  · simpa only [callHandler, h] using hscript _
  · simp only [callHandler, h, bootstrapSociety]
    exact settled_tunnelOther
      (s := s.setScript { s.script with handlers := s.script.handlers.tail }) hcap ho (hscript _)
      (by simp)

omit hcap in
lemma settled_onAgentDisconnected : s.onAgentDisconnected.books.Settled := by
  rw [onAgentDisconnected]
  split_ifs with h
  · obtain ⟨c, hc⟩ := Option.isSome_iff_exists.mp h
    exact Books.settled_lose (b := s.books) (ho.queue_eq_nil c hc)
  · exact hb

lemma settled_tick : s.tick.books.Settled := by
  have hping : (s.sendFrame .PING 0 []).books.Settled := settled_sendOther hcap ho hb (by simp)
  rw [tick]
  split_ifs with h
  · rcases hclock : s.endpoint.clock with _ | now
    · simpa only [maybeHeartbeat, hclock] using hb
    · simp only [maybeHeartbeat, hclock]
      split_ifs
      · exact hb
      · exact hb
      · obtain ⟨c, hc⟩ := Option.isSome_iff_exists.mp h
        exact Books.settled_lose (b := s.books) (ho.queue_eq_nil c hc)
      · exact hping
      · exact hping
  · exact hb

omit hcap in
/-- An agent that attaches, if no OPEN outlives a flush that fails. -/
lemma settled_onAgentConnected {c : ConnId} (hc : c ∉ s.trace.attached)
    (hleft : ∀ i, Opens i (unflushed s.endpoint.outbound s.script.sends) →
      Closes i (unflushed s.endpoint.outbound s.script.sends)) :
    (s.onAgentConnected c).books.Settled := by
  have hdrop := settled_onAgentDisconnected ho hb
  have hwf := ho.steps (steps_onAgentDisconnected s)
  have hnone := transport_onAgentDisconnected s
  have hc' : c ∉ s.onAgentDisconnected.trace.attached := by
    rwa [attached_onAgentDisconnected]
  rw [← queue_onAgentDisconnected, ← script_onAgentDisconnected] at hleft
  have hcases := onAgentConnected_cases c s
  generalize s.onAgentDisconnected = t at hdrop hwf hnone hc' hleft hcases
  obtain h | ⟨sent, f, rest, n, -, hrest, h⟩ := hcases
  · rw [h]
    exact hdrop.attach hwf hnone hc'
  · rw [h]
    rw [hrest] at hleft
    have hlost := Books.settled_attachUpTo (b := t.books) hnone c sent n hleft
    simpa [books, Books.attachUpTo, outbound, Outbound.flushUpTo, markDisconnected,
      onTunnelDisconnect, wrote, flushed, install, setTunnel, hnone] using hlost

/-- Dispatching a frame that came from the agent at `c`. -/
lemma settled_dispatch {c : ConnId} (hconn : s.endpoint.transport = some c) (f : Frame) :
    (s.dispatch f).1.books.Settled := by
  have hhear : ∀ {t : Cloud}, t.books.Settled → (t.hear (some c) f).books.Settled :=
    fun ht i => (ht i).hear c f
  have hother : (s.dispatchFrame f).1.books.Settled → (s.dispatch f).1.books.Settled := by
    intro hframe
    rw [dispatch, hconn]
    split_ifs
    · exact hhear hframe
    · exact hframe
  obtain ⟨op, i, p⟩ := f
  cases op with
  | DATA =>
    refine hother ?_
    rcases h : s.bridge.browsers.lookup i with _ | k
    · simpa only [dispatchFrame, h] using hb
    · simp only [dispatchFrame, h]
      exact fun j => ⟨(hb j).queued, (hb j).written⟩
  | CLOSE =>
    rcases h : s.bridge.browsers.lookup i with _ | k
    · refine hother ?_
      simpa only [dispatchFrame, closeStream, h] using hb
    · -- the browser leaves, and the CLOSE that was heard settles its stream
      simp only [dispatch, dispatchFrame, closeStream, h, if_true, hconn]
      intro j
      by_cases hji : j = i
      · subst hji
        exact Books.SettledFor.of_close_heard (b := ((s.release k p).deregister j).books) hconn j p
      · exact ((hb j).deregister hji).hear c _
  | PING => exact hother (settled_tunnelOther hcap ho hb (by simp))
  | PONG | ERR | OPEN | SUBSCRIBER_REVOKED | SOCIETY_BOOTSTRAP => exact hother hb
  | PUSH_NOTIFY | CDR_PUSH | REGISTER_STATE | AGENT_HELLO =>
    exact hother (settled_callHandler hcap ho hb)
  | ASTERISK_STATUS => exact hother (settled_callHandler (s := s.cacheStatus p) hcap ho hb)

end Sends

/-- Reading valid bytes of the agent. -/
lemma settled_onBytesReceived {s : Cloud} {c : ConnId} {bytes : Bytes}
    (hcap : s.endpoint.cfg.outboundBufferMax = 0) (ho : s.outbound.Wf) (hb : s.books.Settled)
    (hconn : s.endpoint.transport = some c)
    (hvalid : (codec.drain (s.bridge.recvBuffer ++ bytes)).valid = true) :
    (s.onBytesReceived bytes).books.Settled := by
  have hdispatch : ∀ f t, t.trace.losses = s.trace.losses →
      Holds s t ∧ t.endpoint.cfg.outboundBufferMax = 0 ∧ t.outbound.Wf ∧ t.books.Settled →
      Holds s (t.dispatch f).1 ∧ (t.dispatch f).1.endpoint.cfg.outboundBufferMax = 0 ∧
        (t.dispatch f).1.outbound.Wf ∧ (t.dispatch f).1.books.Settled := by
    rintro f t hep ⟨hholds, htcap, hto, htb⟩
    exact ⟨(closedInner_holds s).dispatch f t hholds, closed_cap.dispatch f t htcap,
      hto.steps (steps_dispatch f t),
      settled_dispatch htcap hto htb ((hholds.2.1 hep).trans hconn) f⟩
  obtain ⟨-, -, -, ⟨-, -, -, hsettled⟩, -⟩ := receiver.receive_invariant
    (Q := fun _ t => Holds s t ∧ t.endpoint.cfg.outboundBufferMax = 0 ∧ t.outbound.Wf ∧
      t.books.Settled) (e := s.trace.losses)
    (fun _ _ _ ht => ht) (fun f _ t hep _ ht => hdispatch f t hep ht)
    (fun f _ t hep _ ht => hdispatch f t hep ht) (s.fed bytes) rfl ⟨Holds.refl s, hcap, ho, hb⟩
  rwa [onBytesReceived_eq hvalid]

/-! ### Connections that are over -/

/-- A connection that was attached is in use, or the endpoint has closed it. -/
def AllShut (s : Cloud) : Prop :=
  ∀ c ∈ s.trace.attached, s.endpoint.transport = some c ∨ c ∈ s.trace.shut

lemma closed_allShut : Closed AllShut where
  setScript _ _ h := h
  wrote _ _ _ _ h := h
  record _ _ _ h := h
  setOutbound _ _ h := h
  markDisconnected s h c hc := by
    refine Or.inr ?_
    simp only [markDisconnected, onTunnelDisconnect, List.mem_append, Option.mem_toList]
    exact (h c hc).symm
  deregister _ _ h := h
  deliver _ _ _ h := h
  release _ _ _ h := h
  recordData _ _ _ h := h
  cacheStatus _ _ h := h
  hear _ _ _ h := h
  setBuffer _ _ h := h
  register _ h := h
  install c s hnone h d hd := by
    obtain hd | hd := List.mem_append.mp hd
    · refine Or.inr ((h d hd).resolve_left ?_)
      simp [hnone]
    · exact Or.inl (congrArg some (List.mem_singleton.mp hd).symm)
  countPing _ _ h := h
  clearPings _ h := h
  advance _ _ h := h

end Cloud
