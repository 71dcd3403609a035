import OnPremPbx.Cloud.Books
import OnPremPbx.Cloud.Reading

/-!
# The streams of the cloud end

Every entry point of the cloud end keeps the books orderly, as long as the queue is unbounded,
the stream ids do not wrap around, and the agent sends DATA only for streams that were opened.
-/

open Framing SipFrame

namespace Cloud

/-- With an unbounded queue a frame is posted, or posted to a connection that is torn by it. -/
lemma books_sendFrame {s : Cloud} (hcap : s.endpoint.cfg.outboundBufferMax = 0) (op : Op)
    (i : UInt32) (p : Bytes) :
    (s.sendFrame op i p).books = s.books.post ⟨op, i, p⟩ ∨
    ∃ c n, s.endpoint.transport = some c ∧ s.script.sends.headD .ok = .failed n ∧
      (s.sendFrame op i p).books = (s.books.tear c ⟨op, i, p⟩ n).post ⟨op, i, p⟩ := by
  have henqueue : ∀ t : Cloud, t.endpoint.cfg = s.endpoint.cfg → t.endpoint.transport = none →
      (t.enqueue ⟨op, i, p⟩).books = t.books.post ⟨op, i, p⟩ := by
    intro t hcfg hnone
    have hroom : t.hasRoom = true := by simp [hasRoom, hcfg, hcap]
    have hconn : t.books.out.conn = none := hnone
    rw [enqueue, if_pos hroom, Books.post, Outbound.post_of_none _ hconn]
    rfl
  rcases h : s.endpoint.transport with _ | c
  · rw [sendFrame_of_none h]
    exact Or.inl (henqueue s rfl h)
  · have hconn : s.books.out.conn = some c := h
    cases hr : s.script.sends.headD .ok with
    | ok =>
      rw [sendFrame_of_ok h hr]
      refine Or.inl ?_
      rw [Books.post, Outbound.post_of_some _ hconn]
      rfl
    | failed n =>
      rw [sendFrame_of_failed h hr]
      exact Or.inr ⟨c, n, rfl, rfl, henqueue _ rfl rfl⟩

section Sends

variable {s : Cloud} (hcap : s.endpoint.cfg.outboundBufferMax = 0)

include hcap

lemma orderly_sendFrame {op : Op} {i : UInt32} {p : Bytes}
    (hpost : (s.books.post ⟨op, i, p⟩).Orderly)
    (htear : ∀ c n, ((s.books.tear c ⟨op, i, p⟩ n).post ⟨op, i, p⟩).Orderly) :
    (s.sendFrame op i p).books.Orderly := by
  obtain h | ⟨c, n, -, -, h⟩ := books_sendFrame hcap op i p
  · rwa [h]
  · rw [h]
    exact htear c n

lemma orderly_tunnelSend {op : Op} {i : UInt32} {p : Bytes}
    (hnone : s.books.tunnel = false → s.books.Orderly)
    (hpost : s.books.tunnel = true → (s.books.post ⟨op, i, p⟩).Orderly)
    (htear : s.books.tunnel = true →
      ∀ c n, ((s.books.tear c ⟨op, i, p⟩ n).post ⟨op, i, p⟩).Orderly) :
    (s.tunnelSend op i p).books.Orderly := by
  rcases h : s.bridge.tunnel with _ | t
  · rw [tunnelSend_of_none h]
    exact hnone (by simp [books, h])
  · rw [tunnelSend_of_some h]
    exact orderly_sendFrame hcap (hpost (by simp [books, h])) (htear (by simp [books, h]))

variable (hb : s.books.Orderly)

include hb

lemma orderly_sendControl {op : Op} {i : UInt32} {p : Bytes}
    (hop : ¬ (⟨op, i, p⟩ : Frame).IsStream) : (s.sendFrame op i p).books.Orderly :=
  orderly_sendFrame hcap (hb.post_control hop) fun c n => (hb.tear c _ n).post_control hop

lemma orderly_tunnelControl {op : Op} {i : UInt32} {p : Bytes}
    (hop : ¬ (⟨op, i, p⟩ : Frame).IsStream) : (s.tunnelSend op i p).books.Orderly :=
  orderly_tunnelSend hcap (fun _ => hb) (fun _ => hb.post_control hop)
    fun _ c n => (hb.tear c _ n).post_control hop

lemma orderly_onBrowserUpgrade (hmax : s.trace.issued.length + 1 < 2 ^ 32) (openMeta : Bytes) :
    (s.onBrowserUpgrade openMeta).1.books.Orderly := by
  have hreg : s.register.books.Orderly := hb.register hmax
  have hi : s.books.next ∈ s.register.books.issued := List.mem_append_right _ (by simp; rfl)
  have hfrom : ∀ k, s.register.books.issued[k]? = some s.books.next →
      ofKey k s.register.books.fromBrowser = [] := by
    intro k hk
    apply ofKey_eq_nil
    intro x hx
    have hlt := hb.from_issued k x hx
    have hk' : s.books.issued[k]? = some s.books.next :=
      (List.getElem?_append_left hlt).symm.trans hk
    exact hb.next_notMem hmax (List.mem_of_getElem? hk')
  refine orderly_tunnelSend (s := s.register) hcap (fun _ => hreg) (fun htunnel => ?_)
    fun _ c n => ?_
  · exact hreg.post_open openMeta hi (hb.stream_ne_next hmax) (fun _ => htunnel) hfrom
  · exact (hreg.tear c _ n).post_open openMeta hi (hb.stream_ne_next hmax)
      (fun h => absurd h (AList.notMem_empty _)) hfrom

lemma orderly_browserData (hmax : s.trace.issued.length < 2 ^ 32) {k : BrowserSink} {i : UInt32}
    (hk : s.trace.issued[k]? = some i) (bytes : Bytes) :
    ((s.recordData k bytes).onBrowserData i bytes).books.Orderly := by
  have hdrop : (Opens i s.books.posted → i ∉ s.books.browsers) →
      (s.recordData k bytes).books.Orderly := hb.recordData hk bytes
  rw [onBrowserData]
  split_ifs with hmem
  · have hall : Opens i s.books.posted → dataOf i s.books.posted = ofKey k s.books.fromBrowser :=
      fun hopen => (hb.data_posted k i hk hopen).2 hmem
    refine orderly_tunnelSend (s := s.recordData k bytes) hcap (fun htunnel => ?_) (fun _ => ?_)
      fun _ c n => ?_
    · refine hdrop ?_
      intro hopen
      have := hb.tunnel_armed i hmem hopen
      exact absurd (htunnel.symm.trans this) Bool.false_ne_true
    · exact hb.post_data hmax hk bytes hall
    · exact (hb.tear c _ n).post_data hmax hk bytes hall
  · exact hdrop fun _ => hmem

lemma orderly_onBrowserClose (i : UInt32) (reason : Bytes) :
    (s.onBrowserClose i reason).books.Orderly := by
  rw [onBrowserClose]
  split_ifs with hmem
  · have hdereg : (s.deregister i).books.Orderly := hb.deregister i
    have hi : i ∈ s.books.issued := hb.mem_issued hmem
    exact orderly_tunnelSend (s := s.deregister i) hcap (fun _ => hdereg)
      (fun _ => hdereg.post_close hi reason) fun _ c n => (hdereg.tear c _ n).post_close hi reason
  · exact hb

lemma orderly_callHandler : s.callHandler.1.books.Orderly := by
  have hscript : ∀ script, (s.setScript script).books.Orderly := fun _ => hb
  rcases h : s.script.handlers.headD (.returns none) with _ | _ | p
  · simpa only [callHandler, h] using hscript _
  · simpa only [callHandler, h] using hscript _
  · simp only [callHandler, h, bootstrapSociety]
    exact orderly_tunnelControl
      (s := s.setScript { s.script with handlers := s.script.handlers.tail }) hcap (hscript _)
      (by simp [Frame.IsStream])

lemma orderly_maybeHeartbeat : s.maybeHeartbeat.books.Orderly := by
  have hping : (s.sendFrame .PING 0 []).books.Orderly :=
    orderly_sendControl hcap hb (by simp [Frame.IsStream])
  rcases hclock : s.endpoint.clock with _ | now
  · simpa only [maybeHeartbeat, hclock] using hb
  · simp only [maybeHeartbeat, hclock]
    split_ifs
    · exact hb
    · exact hb
    · exact hb.lose
    · exact hping
    · exact hping

lemma orderly_tick : s.tick.books.Orderly := by
  rw [tick]
  split_ifs
  · exact orderly_maybeHeartbeat hcap hb
  · exact hb

end Sends

/-- Dispatching a frame that came from the agent at `c`. -/
lemma orderly_dispatch {s : Cloud} {c : ConnId} {f : Frame}
    (hcap : s.endpoint.cfg.outboundBufferMax = 0) (hb : s.books.Orderly)
    (hconn : s.endpoint.transport = some c) (hc : c ∈ s.trace.attached)
    (hopen : f.op = .DATA → Opens f.streamId s.books.posted) :
    (s.dispatch f).1.books.Orderly := by
  have hc' : c ∈ (s.dispatchFrame f).1.trace.attached := by
    rwa [(closedInner_attached s.trace.attached).dispatchFrame f s rfl]
  have hhear : ∀ {t : Cloud}, f.op ≠ .DATA → t.books.Orderly → c ∈ t.trace.attached →
      (t.hear (some c) f).books.Orderly :=
    fun hop ht hct => Books.Orderly.hear ht hct (fun h => absurd h hop) fun h => absurd h hop
  have hother : f.op ≠ .DATA → (s.dispatchFrame f).1.books.Orderly →
      (s.dispatch f).1.books.Orderly := by
    intro hop hframe
    rw [dispatch, hconn]
    split_ifs
    · exact hhear hop hframe hc'
    · exact hframe
  obtain ⟨op, i, p⟩ := f
  cases op with
  | DATA =>
    rcases h : s.bridge.browsers.lookup i with _ | k
    · simp only [dispatch, dispatchFrame, h, if_true, hconn]
      exact Books.Orderly.hear hb hc hopen fun _ => AList.lookup_eq_none.mp h
    · simp only [dispatch, dispatchFrame, h, if_true, hconn]
      exact hb.deliver hconn hc (hopen rfl) h
  | CLOSE =>
    refine hother (by simp) ?_
    rcases h : s.bridge.browsers.lookup i with _ | k
    · simpa only [dispatchFrame, closeStream, h] using hb
    · simp only [dispatchFrame, closeStream, h]
      exact hb.deregister i
  | PING => exact hother (by simp) (orderly_tunnelControl hcap hb (by simp [Frame.IsStream]))
  | PONG | ERR | OPEN | SUBSCRIBER_REVOKED | SOCIETY_BOOTSTRAP => exact hother (by simp) hb
  | PUSH_NOTIFY | CDR_PUSH | REGISTER_STATE | AGENT_HELLO =>
    exact hother (by simp) (orderly_callHandler hcap hb)
  | ASTERISK_STATUS =>
    exact hother (by simp) (orderly_callHandler (s := s.cacheStatus p) hcap hb)

lemma orderly_onAgentConnected {s : Cloud} (hb : s.books.Orderly) {c : ConnId}
    (hc : c ∉ s.trace.attached) : (s.onAgentConnected c).books.Orderly := by
  have hdrop : s.onAgentDisconnected.books.Orderly := by
    rw [onAgentDisconnected]
    split_ifs
    · exact hb.lose
    · exact hb
  have hnone := transport_onAgentDisconnected s
  have hc' : c ∉ s.onAgentDisconnected.trace.attached := by
    rwa [attached_onAgentDisconnected]
  have hcases := onAgentConnected_cases c s
  generalize s.onAgentDisconnected = t at hdrop hnone hc' hcases
  obtain h | ⟨sent, f, rest, n, hq, -, h⟩ := hcases
  · rw [h]
    exact hdrop.attach hnone hc'
  · rw [h]
    have hlost := hdrop.attachUpTo c sent f rest n
    simpa [books, Books.attachUpTo, outbound, Outbound.flushUpTo, markDisconnected,
      onTunnelDisconnect, wrote, flushed, install, setTunnel, hnone] using hlost

/-! ### Reading -/

lemma closed_cap : Closed fun s => s.endpoint.cfg.outboundBufferMax = 0 where
  setScript _ _ h := h
  wrote _ _ _ _ h := h
  record _ _ _ h := h
  setOutbound _ _ h := h
  markDisconnected _ h := h
  deregister _ _ h := h
  deliver _ _ _ h := h
  release _ _ _ h := h
  recordData _ _ _ h := h
  cacheStatus _ _ h := h
  hear _ _ _ h := h
  setBuffer _ _ h := h
  register _ h := h
  install _ _ _ h := h
  countPing _ _ h := h
  clearPings _ h := h
  advance _ _ h := h

/-- Reading valid bytes keeps the books orderly, if their DATA is of streams that were opened. -/
lemma orderly_onBytesReceived {s : Cloud} {c : ConnId} {bytes : Bytes}
    (hcap : s.endpoint.cfg.outboundBufferMax = 0) (hb : s.books.Orderly) (hs : s.Small)
    (hscript : s.script.Small) (hc : c ∈ s.trace.attached) (hconn : s.endpoint.transport = some c)
    (hvalid : (codec.drain (s.bridge.recvBuffer ++ bytes)).valid = true)
    (hopened : ∀ f ∈ (codec.drain (s.bridge.recvBuffer ++ bytes)).frames, f.op = .DATA →
      Opens f.streamId s.books.posted) :
    (s.onBytesReceived bytes).books.Orderly := by
  set all := (codec.drain (s.bridge.recvBuffer ++ bytes)).frames with hall
  set Q : List Frame → Cloud → Prop := fun fs t => Reading s c all fs t ∧
    t.endpoint.cfg.outboundBufferMax = 0 ∧ t.books.Orderly ∧
    ∀ f ∈ fs, f.op = .DATA → Opens f.streamId t.books.posted with hQ
  have hdispatch : ∀ f fs t, t.trace.losses = s.trace.losses → Q (f :: fs) t →
      Q (if (t.dispatch f).2 then fs else f :: fs) (t.dispatch f).1 := by
    rintro f fs t hep ⟨ht, htcap, htb, htopened⟩
    have htc := ht.attached ▸ hc
    refine ⟨ht.dispatch hconn hep, closed_cap.dispatch f t htcap,
      orderly_dispatch htcap htb ((ht.holds.2.1 hep).trans hconn) htc
        (htopened f List.mem_cons_self), fun g hg hop => ?_⟩
    obtain ⟨more, hmore⟩ := Outbound.passed_prefix (steps_dispatch f t)
    have hmem : g ∈ f :: fs := by
      split_ifs at hg
      · exact List.mem_cons_of_mem _ hg
      · exact hg
    refine (htopened g hmem hop).mono ?_
    intro x hx
    simp only [Books.posted, books, ← hmore, kept_append]
    exact List.mem_append_left _ hx
  obtain ⟨-, -, -, ⟨-, -, horderly, -⟩, -⟩ := receiver.receive_invariant
    (Q := Q) (e := s.trace.losses)
    (fun fs b t ht => ⟨ht.1.setBuffer b, ht.2⟩)
    (fun f fs t hep hd ht => by
      have hnext := hdispatch f fs t hep ht
      rwa [if_pos (show (t.dispatch f).2 = true from hd)] at hnext)
    (fun f fs t hep hd ht => by
      have hnext := hdispatch f fs t hep ht
      rwa [show (t.dispatch f).2 = false from hd, if_neg Bool.false_ne_true] at hnext)
    (s.fed bytes) rfl ⟨Reading.start hs hscript bytes, hcap, hb, hopened⟩
  rwa [onBytesReceived_eq hvalid]

end Cloud
