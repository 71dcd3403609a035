import OnPremPbx.Agent.Books
import OnPremPbx.Agent.Reading

/-!
# The streams of the agent end

Every entry point of the agent end keeps the books orderly, as long as the queue is unbounded,
its own programs do not send stream frames, and every stream is opened by the cloud once, before
anything else of it.
-/

open Framing SipFrame

namespace Agent

/-- With an unbounded queue a frame is posted, or posted to a connection that is torn by it. -/
lemma books_sendFrame {s : Agent} (hcap : s.connector.cfg.outboundBufferMax = 0) (op : Op)
    (i : UInt32) (p : Bytes) :
    (s.sendFrame op i p).books = s.books.post ⟨op, i, p⟩ ∨
    ∃ c n, (s.sendFrame op i p).books = (s.books.tear c ⟨op, i, p⟩ n).post ⟨op, i, p⟩ := by
  have henqueue : ∀ t : Agent, t.connector.cfg = s.connector.cfg → t.usable = none →
      (t.enqueue ⟨op, i, p⟩).books = t.books.post ⟨op, i, p⟩ := by
    intro t hcfg hnone
    have hroom : t.hasRoom = true := by simp [hasRoom, hcfg, hcap]
    have hconn : t.books.out.conn = none := hnone
    rw [enqueue, if_pos hroom, Books.post, Outbound.post_of_none _ hconn]
    rfl
  rcases h : s.usable with _ | c
  · rw [sendFrame_of_none h]
    exact Or.inl (henqueue s rfl h)
  · have hconn : s.books.out.conn = some c := h
    cases hr : s.script.sends.headD .ok with
    | ok =>
      rw [sendFrame_of_ok h hr]
      refine Or.inl ?_
      rw [Books.post, Outbound.post_of_some _ hconn]
      rfl
    | failed n =>
      rw [sendFrame_of_failed h hr]
      exact Or.inr ⟨c, n, henqueue _ rfl rfl⟩

lemma books_tunnelSend {s : Agent} (hcap : s.connector.cfg.outboundBufferMax = 0) (op : Op)
    (i : UInt32) (p : Bytes) :
    (s.tunnelSend op i p).books = s.books ∧ s.books.tunnel = false ∨
    (s.tunnelSend op i p).books = s.books.post ⟨op, i, p⟩ ∨
    ∃ c n, (s.tunnelSend op i p).books = (s.books.tear c ⟨op, i, p⟩ n).post ⟨op, i, p⟩ := by
  rcases h : s.demux.tunnel with _ | t
  · rw [tunnelSend_of_none h]
    exact Or.inl ⟨rfl, by simp [books, h]⟩
  · rw [tunnelSend_of_some h]
    exact Or.inr (books_sendFrame hcap op i p)

section Sends

variable {s : Agent} (hcap : s.connector.cfg.outboundBufferMax = 0) (hb : s.books.Orderly)

include hcap hb

lemma orderly_sendControl {op : Op} {i : UInt32} {p : Bytes} (hdata : op ≠ .DATA)
    (hclose : op ≠ .CLOSE) : (s.sendFrame op i p).books.Orderly := by
  obtain h | ⟨c, n, h⟩ := books_sendFrame hcap op i p
  · rw [h]
    exact hb.post_control hdata hclose
  · rw [h]
    exact (hb.tear c _ n).post_control hdata hclose

lemma orderly_asteriskData {r : AsteriskStream} {i : UInt32} (hr : s.trace.opened[r]? = some i)
    (bytes : Bytes) : ((s.recordData r bytes).onAsteriskData i bytes).books.Orderly := by
  rw [onAsteriskData]
  split_ifs with hi
  · obtain ⟨-, hnone⟩ | h | ⟨c, n, h⟩ :=
      books_tunnelSend (s := s.recordData r bytes) hcap .DATA i bytes
    · exact absurd (hb.tunnel_of_stream hi) (by rw [show s.books.tunnel = false from hnone]; simp)
    · rw [h]
      exact hb.post_data hr hi bytes
    · rw [h]
      exact (hb.tear c _ n).post_data hr hi bytes
  · exact hb.recordData hr hi bytes

lemma orderly_onAsteriskEof (i : UInt32) (reason : Bytes) :
    (s.onAsteriskEof i reason).books.Orderly := by
  rw [onAsteriskEof]
  split_ifs with hi
  · have hforget : (s.forget i).books.Orderly := hb.forget i
    have hgone : i ∉ (s.forget i).books.streams := fun h => (AList.mem_erase.mp h).1 rfl
    obtain ⟨d, -, hopen⟩ := hb.opens_of_stream hi
    obtain ⟨h, -⟩ | h | ⟨c, n, h⟩ := books_tunnelSend (s := s.forget i) hcap .CLOSE i reason
    · rwa [h]
    · rw [h]
      exact hforget.post_close hgone ⟨d, hopen⟩ reason
    · rw [h]
      exact (hforget.tear c _ n).post_close hgone ⟨d, hopen⟩ reason
  · exact hb

lemma orderly_maybeHeartbeat : s.maybeHeartbeat.books.Orderly := by
  have hping : (s.sendFrame .PING 0 []).books.Orderly :=
    orderly_sendControl hcap hb (by simp) (by simp)
  simp only [maybeHeartbeat]
  split_ifs
  · exact hb
  · exact hb
  · exact hb.lose
  · exact hping
  · exact hping

omit hcap in
lemma orderly_drainPending : s.drainPending.books.Orderly := by
  simp only [drainPending]
  split_ifs with hpending htransport
  · exact hb.lose
  · have hnone : s.connector.transport = none := by simpa [clearPending] using htransport
    have hsame : s.clearPending.books = s.books := by
      simp [books, clearPending, outbound, usable, hnone]
    rwa [hsame]
  · exact hb

end Sends

lemma closedInner_cap : ClosedInner fun s => s.connector.cfg.outboundBufferMax = 0 where
  setScript _ _ h := h
  wrote _ _ _ _ h := h
  record _ _ _ h := h
  setOutbound _ _ h := h
  requestDisconnect _ h := h
  forget _ _ h := h
  release _ _ _ h := h
  enter _ _ _ h := h
  hand _ _ _ h := h
  recordData _ _ _ h := h
  hear _ _ _ h := h
  setBuffer _ _ h := h

/-- The frames that the programs of the agent send besides streams. -/
def Plain (fs : List Frame) : Prop := ∀ f ∈ fs, f.op ≠ .DATA ∧ f.op ≠ .CLOSE

lemma orderly_onConnected {s : Agent} (hcap : s.connector.cfg.outboundBufferMax = 0)
    (hb : (s.setTunnel (some .connector)).books.Orderly) (hplain : Plain s.script.onConnected) :
    s.onConnected.books.Orderly := by
  have hfold : ∀ (fs : List Frame) (t : Agent), Plain fs → t.connector.cfg.outboundBufferMax = 0 →
      t.books.Orderly → (fs.foldl post t).books.Orderly := by
    intro fs
    induction fs with
    | nil => exact fun t _ _ ht => ht
    | cons f fs ih =>
      intro t hfs hcap ht
      obtain ⟨hdata, hclose⟩ := hfs f List.mem_cons_self
      exact ih _ (fun g hg => hfs g (List.mem_cons_of_mem _ hg))
        (closedInner_cap.sendFrame _ _ _ _ hcap) (orderly_sendControl hcap ht hdata hclose)
  exact hfold _ _ hplain hcap hb

lemma orderly_attemptConnect {s : Agent} {c : ConnId}
    (hcap : s.connector.cfg.outboundBufferMax = 0) (hb : s.books.Orderly)
    (hnone : s.connector.transport = none) (hpending : s.connector.disconnectPending = false)
    (hc : c ∉ s.trace.dialed) (hplain : Plain s.script.onConnected) :
    (s.attemptConnect (some c)).books.Orderly := by
  have hconn : s.books.out.conn = none := by simp [books, outbound, usable, hnone]
  obtain h | ⟨sent, f, rest, n, hq, h⟩ := attemptConnect_cases c s
  · rw [h]
    refine orderly_onConnected hcap ?_ hplain
    have hattach := hb.attach hnone hc
    simpa [books, Books.attach, outbound, Outbound.flush, usable, flushed, install, setTunnel,
      hpending] using hattach
  · rw [h]
    refine orderly_onConnected hcap ?_ hplain
    have hlost := hb.attachUpTo hconn hc sent f rest n
    simpa [books, Books.attachUpTo, outbound, Outbound.flushUpTo, usable, flushed, install,
      setTunnel, wrote, markDisconnected, onTunnelDisconnect, hpending, hnone] using hlost

@[simp] lemma cap_drainPending (s : Agent) :
    s.drainPending.connector.cfg = s.connector.cfg := by
  simp only [drainPending]
  split_ifs <;> rfl

lemma orderly_tick {s : Agent} {dial : Option ConnId}
    (hcap : s.connector.cfg.outboundBufferMax = 0) (hb : s.books.Orderly)
    (hdial : ∀ c, dial = some c → c ∉ s.trace.dialed) (hplain : Plain s.script.onConnected) :
    (s.tick dial).books.Orderly := by
  have hdrain := orderly_drainPending hb
  have hcap' : s.drainPending.connector.cfg.outboundBufferMax = 0 := by simpa using hcap
  rw [tick]
  rcases ht : s.drainPending.connector.transport with _ | d
  · simp only [Option.isSome_none, Bool.false_eq_true, if_false]
    split_ifs
    · exact hdrain
    · rcases dial with _ | c
      · exact hdrain
      · exact orderly_attemptConnect hcap' hdrain ht (by simp) (by simpa using hdial c rfl)
          (by simpa using hplain)
  · simp only [Option.isSome_some, if_true]
    exact orderly_maybeHeartbeat hcap' hdrain

/-! ### Dispatching -/

lemma enqueue_hear (g : Frame) (conn : Option ConnId) (f : Frame) (s : Agent) :
    (s.hear conn f).enqueue g = (s.enqueue g).hear conn f := by
  have hroom : (s.hear conn f).hasRoom = s.hasRoom := rfl
  rw [enqueue, enqueue, hroom]
  cases s.hasRoom <;> rfl

lemma sendFrame_hear (op : Op) (i : UInt32) (p : Bytes) (conn : Option ConnId) (f : Frame)
    (s : Agent) : (s.hear conn f).sendFrame op i p = (s.sendFrame op i p).hear conn f := by
  rcases h : s.usable with _ | c
  · rw [sendFrame_of_none h, sendFrame_of_none (s := s.hear conn f) h, enqueue_hear]
  · cases hr : s.script.sends.headD .ok with
    | ok =>
      rw [sendFrame_of_ok h hr, sendFrame_of_ok (s := s.hear conn f) h hr]
      rfl
    | failed n =>
      rw [sendFrame_of_failed h hr, sendFrame_of_failed (s := s.hear conn f) h hr, ← enqueue_hear]
      rfl

lemma onAsteriskEof_hear (i : UInt32) (reason : Bytes) (conn : Option ConnId) (f : Frame)
    (s : Agent) :
    (s.hear conn f).onAsteriskEof i reason = (s.onAsteriskEof i reason).hear conn f := by
  have hs : (s.hear conn f).demux.streams = s.demux.streams := rfl
  rw [onAsteriskEof, onAsteriskEof, hs]
  split_ifs
  · rcases h : s.demux.tunnel with _ | t
    · rw [tunnelSend_of_none (s := s.forget i) h,
        tunnelSend_of_none (s := (s.hear conn f).forget i) h]
      rfl
    · rw [tunnelSend_of_some (s := s.forget i) h,
        tunnelSend_of_some (s := (s.hear conn f).forget i) h, ← sendFrame_hear]
      rfl
  · rfl

section Dispatch

variable {s : Agent} {c : ConnId} (hcap : s.connector.cfg.outboundBufferMax = 0)
  (hb : s.books.Orderly) (htransport : s.connector.transport = some c)
  (hc : c ∈ s.trace.dialed)

include hcap hb hc

/-- Hearing a frame that is answered with another. -/
lemma orderly_answer {f : Frame} {op : Op} {i : UInt32} {p : Bytes}
    (hdead : f.op = .DATA ∨ f.op = .CLOSE → f.streamId ∉ s.books.streams)
    (hop : op ≠ .DATA) (hclose : op = .CLOSE →
      i ∉ s.books.streams ∧ ∃ d, Opens i (ofKey d (s.books.hear c f).heard)) :
    ((s.tunnelSend op i p).hear (some c) f).books.Orderly := by
  have hheard : (s.books.hear c f).Orderly := hb.hear hc hdead
  have hpost : ∀ {b : Books}, b.Orderly → b.streams = s.books.streams →
      b.heard = (s.books.hear c f).heard → (b.post ⟨op, i, p⟩).Orderly := by
    intro b hb' hstreams hheard'
    by_cases h : op = .CLOSE
    · subst h
      obtain ⟨hi, hopen⟩ := hclose rfl
      exact hb'.post_close (hstreams ▸ hi) (hheard' ▸ hopen) p
    · exact hb'.post_control hop h
  obtain ⟨h, -⟩ | h | ⟨d, n, h⟩ := books_tunnelSend hcap op i p
  · have hbooks : ((s.tunnelSend op i p).hear (some c) f).books = s.books.hear c f :=
      congrArg (Books.hear c f) h
    rwa [hbooks]
  · have hbooks : ((s.tunnelSend op i p).hear (some c) f).books =
        (s.books.hear c f).post ⟨op, i, p⟩ := congrArg (Books.hear c f) h
    rw [hbooks]
    exact hpost hheard rfl rfl
  · have hbooks : ((s.tunnelSend op i p).hear (some c) f).books =
        ((s.books.hear c f).tear d ⟨op, i, p⟩ n).post ⟨op, i, p⟩ := congrArg (Books.hear c f) h
    rw [hbooks]
    exact hpost (hheard.tear d _ n) rfl rfl

include htransport

/-- The OPEN of a new stream. -/
lemma orderly_openStream (hwf : s.outbound.Wf) {f : Frame} (hop : f.op = .OPEN)
    (hpair : (ofKey c s.trace.heard ++ [f]).Pairwise OpenFirst)
    (hnew : ∀ d, ¬ Opens f.streamId (ofKey d s.trace.heard)) :
    ((s.openStream f.streamId).hear (some c) f).books.Orderly := by
  have hopened : f.streamId ∉ s.books.opened := fun h => by
    obtain ⟨d, hd⟩ := hb.opens_of_opened h
    exact hnew d hd
  have hmem : f.streamId ∉ s.books.streams := fun h => by
    obtain ⟨d, -, hd⟩ := hb.opens_of_stream h
    exact hnew d hd
  have hself : Opens f.streamId [f] := opens_singleton.mpr ⟨hop, rfl⟩
  have hheard : ofKey c (s.books.hear c f).heard = ofKey c s.trace.heard ++ [f] := by
    simp [Books.hear, books]
  have hhear : (s.books.hear c f).Orderly := hb.hear hc (by simp [hop])
  rw [openStream, if_neg (show f.streamId ∉ s.demux.streams from hmem)]
  split_ifs
  · -- the stream is entered after its OPEN, the first of it that was heard
    refine hhear.enter htransport ?_ hopened ?_ ?_ ?_ ?_
    · rw [hheard]
      exact opens_append.mpr (Or.inr hself)
    · rw [hheard, dataOf_append, dataOf_eq_nil_of_opens hpair hself,
        dataOf_singleton (isData_of_op (by simp [hop])), List.append_nil]
    · rw [hheard, closes_append]
      rintro (⟨g, hg, hclose, heq⟩ | hclose)
      · exact (List.pairwise_append.mp hpair).2.2 g hg f (by simp) hop
          (Or.inr (Or.inr hclose)) heq
      · exact absurd ((closes_singleton.mp hclose).1.symm.trans hop) (by simp)
    · intro hclose
      obtain ⟨-, d, hd⟩ := hb.close_posted _ hclose
      exact hnew d hd
    · refine Outbound.First.start hwf hc ?_
      rw [List.filter_eq_nil_iff]
      intro g hg hdata
      simp only [isData, decide_eq_true_eq] at hdata
      exact hopened (hdata.2 ▸ hb.data_opened g hg hdata.1)
  · refine orderly_answer (s := s.setScript { s.script with opens := s.script.opens.tail }) hcap hb
      hc (by simp [hop]) (by simp) fun _ => ⟨hmem, c, ?_⟩
    exact hheard ▸ opens_append.mpr (Or.inr hself)

/-- The DATA of a stream. -/
lemma orderly_writeStream (i : UInt32) (p : Bytes) :
    ((s.writeStream i p).hear (some c) ⟨.DATA, i, p⟩).books.Orderly := by
  rcases h : s.demux.streams.lookup i with _ | r
  · simp only [writeStream, h]
    exact hb.hear hc fun _ => AList.lookup_eq_none.mp h
  · have hhand : ((s.hand r p).hear (some c) ⟨.DATA, i, p⟩).books.Orderly :=
      hb.hand htransport hc h
    have hlookup : (s.hand r p).demux.streams.lookup i = some r := h
    cases hw : s.script.streamWrites.headD .ok with
    | ok => simpa only [writeStream, h, hw] using hhand
    | broken =>
      simp only [writeStream, h, hw, closeStream, hlookup]
      exact hhand.forget i
    | brokenEof =>
      have heof := orderly_onAsteriskEof (s := (s.hand r p).hear (some c) ⟨.DATA, i, p⟩) hcap hhand
        i (Bytes.ofString "asterisk_write_failed")
      simp only [writeStream, h, hw]
      rw [onAsteriskEof_hear] at heof
      rcases hgone : ((s.hand r p).onAsteriskEof i
        (Bytes.ofString "asterisk_write_failed")).demux.streams.lookup i with _ | r'
      · simpa only [closeStream, hgone] using heof
      · simp only [closeStream, hgone]
        exact heof.forget i

/-- Dispatching a frame that came on the connection `c`: an OPEN is for a new stream, and comes
before everything else of the stream. -/
lemma orderly_dispatch (hwf : s.outbound.Wf) {f : Frame}
    (hpair : (ofKey c s.trace.heard ++ [f]).Pairwise OpenFirst)
    (hnew : f.op = .OPEN → ∀ d, ¬ Opens f.streamId (ofKey d s.trace.heard)) :
    (s.dispatch f).1.books.Orderly := by
  have hhear : ∀ {t : Agent}, t.books.Orderly → c ∈ t.trace.dialed → f.op ≠ .DATA →
      f.op ≠ .CLOSE → (t.hear (some c) f).books.Orderly := by
    intro t ht hct hdata hclose
    exact Books.Orderly.hear ht hct fun h => absurd h (by simp [hdata, hclose])
  obtain ⟨op, i, p⟩ := f
  cases op with
  | OPEN =>
    simp only [dispatch, dispatchFrame, if_true, htransport]
    exact orderly_openStream hcap hb htransport hc hwf rfl hpair (hnew rfl)
  | DATA =>
    simp only [dispatch, dispatchFrame, if_true, htransport]
    exact orderly_writeStream hcap hb htransport hc i p
  | CLOSE =>
    simp only [dispatch, dispatchFrame, if_true, htransport]
    rcases h : s.demux.streams.lookup i with _ | r
    · simp only [closeStream, h]
      exact hb.hear hc fun _ => AList.lookup_eq_none.mp h
    · simp only [closeStream, h]
      exact Books.Orderly.hear (hb.forget i) hc fun _ h => (AList.mem_erase.mp h).1 rfl
  | PING =>
    simp only [dispatch, dispatchFrame, if_true, htransport]
    exact orderly_answer hcap hb hc (by simp) (by simp) (by simp)
  | SUBSCRIBER_REVOKED | SOCIETY_BOOTSTRAP =>
    simp only [dispatch, dispatchFrame, callHandler, htransport]
    split_ifs
    · exact hhear (t := s.setScript _) hb hc (by simp) (by simp)
    · exact hb
  | PONG | ERR | PUSH_NOTIFY | CDR_PUSH | REGISTER_STATE | AGENT_HELLO | ASTERISK_STATUS =>
    simp only [dispatch, dispatchFrame, if_true, htransport]
    exact hhear hb hc (by simp) (by simp)

end Dispatch

/-! ### Reading -/

lemma closed_cap : Closed fun s => s.connector.cfg.outboundBufferMax = 0 where
  toClosedInner := closedInner_cap
  markDisconnected _ h := h
  clearPending _ h := h
  install _ _ _ h := h
  setTunnel _ _ h := h
  backOff _ h := h
  countPing _ _ h := h
  clearPings _ h := h
  advance _ _ h := h

/-- What the receive loop keeps while it works through the frames `fs` from `c`, with the books
orderly. -/
structure OrderlyReading (s : Agent) (c : ConnId) (all fs : List Frame) (t : Agent) : Prop
    extends Reading s c all fs t where
  cap : t.connector.cfg.outboundBufferMax = 0
  orderly : t.books.Orderly
  wf : t.outbound.Wf
  rest : ∀ f ∈ fs, f ∈ all

section Reading

variable {s : Agent} {c : ConnId} {all : List Frame} (hc : c ∈ s.trace.dialed)
  (hpair : (ofKey c s.trace.heard ++ all).Pairwise OpenFirst)
  (hnew : ∀ f ∈ all, f.op = .OPEN → ∀ d, d ≠ c → ¬ Opens f.streamId (ofKey d s.trace.heard))

include hc hpair hnew

/-- One iteration of the loop, if every stream is opened once and before anything else of it. -/
lemma OrderlyReading.dispatch {f : Frame} {fs : List Frame} {t : Agent}
    (ht : OrderlyReading s c all (f :: fs) t) :
    OrderlyReading s c all (if (t.dispatch f).2 then fs else f :: fs) (t.dispatch f).1 := by
  have hpair' : (ofKey c t.trace.heard ++ f :: fs).Pairwise OpenFirst := ht.heard ▸ hpair
  have hopen : f.op = .OPEN → ∀ d, ¬ Opens f.streamId (ofKey d t.trace.heard) := by
    intro hop d
    by_cases hd : d = c
    · subst hd
      rintro ⟨g, hg, hgop, heq⟩
      exact (List.pairwise_append.mp hpair').2.2 g hg f List.mem_cons_self hop (Or.inl hgop) heq
    · rw [ht.heard_ne d hd]
      exact hnew f (ht.rest f List.mem_cons_self) hop d hd
  have hpair'' : (ofKey c t.trace.heard ++ [f]).Pairwise OpenFirst := by
    rw [List.append_cons] at hpair'
    exact (List.pairwise_append.mp hpair').1
  refine
    { toReading := ht.toReading.dispatch
      cap := closedInner_cap.dispatch f t ht.cap
      orderly := orderly_dispatch ht.cap ht.orderly ht.transport (ht.dialed ▸ hc) ht.wf hpair''
        hopen
      wf := ht.wf.steps (steps_dispatch f t)
      rest := fun g hg => ht.rest g ?_ }
  split_ifs at hg
  · exact List.mem_cons_of_mem _ hg
  · exact hg

/-- What every dispatch keeps while the books are orderly, reading valid bytes keeps. -/
lemma orderlyReading_onBytesReceived {P : Agent → Prop} {bytes : Bytes}
    (hbuffer : ∀ b t, P t → P (t.setBuffer b))
    (hdispatch : ∀ f fs t, OrderlyReading s c all (f :: fs) t → P t → P (t.dispatch f).1)
    (hcap : s.connector.cfg.outboundBufferMax = 0) (hb : s.books.Orderly) (hs : s.Small)
    (hwf : s.outbound.Wf) (htransport : s.connector.transport = some c)
    (hvalid : (codec.drain (s.demux.recvBuffer ++ bytes)).valid = true)
    (hall : (codec.drain (s.demux.recvBuffer ++ bytes)).frames = all) (hP : P s.clearPings) :
    (s.onBytesReceived bytes).books.Orderly ∧ P (s.onBytesReceived bytes) := by
  subst hall
  set all := (codec.drain (s.demux.recvBuffer ++ bytes)).frames
  set Q : List Frame → Agent → Prop := fun fs t => OrderlyReading s c all fs t ∧ P t
  have hnext : ∀ f fs t, Q (f :: fs) t →
      Q (if (t.dispatch f).2 then fs else f :: fs) (t.dispatch f).1 :=
    fun f fs t ht => ⟨ht.1.dispatch hc hpair hnew, hdispatch f fs t ht.1 ht.2⟩
  have hstart : Q all (s.fed bytes) :=
    ⟨⟨Reading.start hs htransport bytes, hcap, hb, hwf, fun _ h => h⟩, hbuffer _ _ hP⟩
  obtain ⟨_, _, _, ⟨hread, hend⟩, -⟩ := receiver.receive_invariant (Q := Q) (e := s.trace.losses)
    (fun fs b t ht => ⟨{ ht.1 with toReading := ht.1.toReading.setBuffer b }, hbuffer b t ht.2⟩)
    (fun f fs t _ hd ht => by
      have hfs := hnext f fs t ht
      rwa [if_pos (show (t.dispatch f).2 = true from hd)] at hfs)
    (fun f fs t _ hd ht => by
      have hfs := hnext f fs t ht
      rwa [show (t.dispatch f).2 = false from hd, if_neg Bool.false_ne_true] at hfs)
    (s.fed bytes) rfl hstart
  rw [onBytesReceived_eq hvalid]
  exact ⟨hread.orderly, hend⟩

end Reading

/-- Reading valid bytes keeps the books orderly, if every stream is opened once and before
anything else of it. -/
lemma orderly_onBytesReceived {s : Agent} {c : ConnId} {bytes : Bytes}
    (hcap : s.connector.cfg.outboundBufferMax = 0) (hb : s.books.Orderly) (hs : s.Small)
    (hwf : s.outbound.Wf) (hc : c ∈ s.trace.dialed) (htransport : s.connector.transport = some c)
    (hvalid : (codec.drain (s.demux.recvBuffer ++ bytes)).valid = true)
    (hpair : (ofKey c s.trace.heard ++
      (codec.drain (s.demux.recvBuffer ++ bytes)).frames).Pairwise OpenFirst)
    (hnew : ∀ f ∈ (codec.drain (s.demux.recvBuffer ++ bytes)).frames, f.op = .OPEN →
      ∀ d, d ≠ c → ¬ Opens f.streamId (ofKey d s.trace.heard)) :
    (s.onBytesReceived bytes).books.Orderly :=
  (orderlyReading_onBytesReceived (P := fun _ => True) hc hpair hnew (fun _ _ h => h)
    (fun _ _ _ _ h => h) hcap hb hs hwf htransport hvalid rfl trivial).1

end Agent
