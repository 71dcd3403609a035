import OnPremPbx.Agent.CloseFrames
import OnPremPbx.Agent.Streams

/-!
# Every OPEN is answered

A stream whose OPEN was heard from the connection that the agent sends to is open, or one of the
two ends has closed it there. Every entry point keeps this, as long as no write to a stream fails in
silence.
-/

open Framing SipFrame

namespace Agent

namespace Books

/-- The stream `i` is open, or was closed, if its OPEN was heard. -/
def AnsweredFor (b : Books) (i : UInt32) : Prop :=
  ∀ c, b.out.conn = some c → Opens i (ofKey c b.heard) →
    i ∈ b.streams ∨ Closes i (ofKey c b.heard) ∨ Closes i (b.out.on c)

def Answered (b : Books) : Prop := ∀ i, b.AnsweredFor i

variable {b : Books}

/-- Nothing is sent without a connection. -/
lemma answered_of_none (h : b.out.conn = none) : b.Answered :=
  fun _ c hc => absurd (h.symm.trans hc) (by simp)

/-- Nothing was heard yet on a new connection. -/
lemma answered_attach (hb : b.Orderly) {c : ConnId} (hc : c ∉ b.out.used) :
    (b.attach c).Answered := by
  intro i d hd hopen
  obtain rfl := Option.some.inj hd
  obtain ⟨f, hf, -⟩ := hopen
  exact absurd (hb.heard_used c f (mem_ofKey.mp hf)) hc

namespace AnsweredFor

variable {i : UInt32}

lemma of_mem (h : i ∈ b.streams) : b.AnsweredFor i := fun _ _ _ => Or.inl h

/-- A stream is answered by its CLOSE. -/
lemma of_close (b : Books) (i : UInt32) (reason : Bytes) :
    (b.post ⟨.CLOSE, i, reason⟩).AnsweredFor i := by
  intro c hc _
  have hconn : b.out.conn = some c := (b.out.conn_post _).symm.trans hc
  refine Or.inr (Or.inr ?_)
  simp [Books.post, Outbound.on_post_of_some _ hconn, closes_append, closes_singleton]

lemma of_close_heard {c : ConnId} (hconn : ∀ d, b.out.conn = some d → d = c) (i : UInt32)
    (reason : Bytes) : (b.hear c ⟨.CLOSE, i, reason⟩).AnsweredFor i := by
  intro d hd _
  obtain rfl := hconn d hd
  refine Or.inr (Or.inl ⟨⟨.CLOSE, i, reason⟩, ?_, rfl, rfl⟩)
  simp [Books.hear, mem_ofKey]

lemma post (hb : b.AnsweredFor i) (f : Frame) : (b.post f).AnsweredFor i := by
  intro c hc hopen
  have hconn : b.out.conn = some c := (b.out.conn_post f).symm.trans hc
  exact (hb c hconn hopen).imp_right (Or.imp_right fun h => h.mono (b.out.on_subset_post f c))

lemma hear (hb : b.AnsweredFor i) (c : ConnId) {f : Frame}
    (hf : f.op = .OPEN → f.streamId ≠ i) : (b.hear c f).AnsweredFor i := by
  intro d hd hopen
  simp only [Books.hear, ofKey_append, opens_append, closes_append] at hopen ⊢
  obtain hopen | ⟨g, hg, hop, hi⟩ := hopen
  · exact (hb d hd hopen).imp_right (Or.imp_left Or.inl)
  · obtain ⟨rfl, rfl⟩ := Prod.mk.inj (List.mem_singleton.mp (mem_ofKey.mp hg))
    exact absurd hi (hf hop)

lemma forget (hb : b.AnsweredFor i) {j : UInt32} (hij : i ≠ j) : (b.forget j).AnsweredFor i :=
  fun c hc hopen => (hb c hc hopen).imp_left fun h => AList.mem_erase.mpr ⟨hij, h⟩

lemma enter (hb : b.AnsweredFor i) (j : UInt32) : (b.enter j).AnsweredFor i :=
  fun c hc hopen => (hb c hc hopen).imp_left fun h => (AList.mem_insert _).mpr (Or.inr h)

end AnsweredFor

/-- A stream that is forgotten with a CLOSE. -/
lemma Answered.close (hb : b.Answered) (i : UInt32) (reason : Bytes) :
    ((b.forget i).post ⟨.CLOSE, i, reason⟩).Answered := by
  intro j
  by_cases hji : j = i
  · subst hji
    exact .of_close _ _ _
  · exact ((hb j).forget hji).post _

end Books

/-! ### What keeps the streams answered -/

section Sends

variable {s : Agent} (hcap : s.connector.cfg.outboundBufferMax = 0)

include hcap

/-- A frame is posted, or the connection it was written to is given up. -/
lemma answered_sendFrame {op : Op} {i : UInt32} {p : Bytes}
    (hpost : (s.books.post ⟨op, i, p⟩).Answered) : (s.sendFrame op i p).books.Answered := by
  obtain h | ⟨c, n, h⟩ := books_sendFrame hcap op i p
  · rwa [h]
  · rw [h]
    exact Books.answered_of_none (Outbound.conn_post _ _)

lemma answered_tunnelSend {op : Op} {i : UInt32} {p : Bytes}
    (hnone : s.books.tunnel = false → s.books.Answered)
    (hpost : (s.books.post ⟨op, i, p⟩).Answered) : (s.tunnelSend op i p).books.Answered := by
  rcases h : s.demux.tunnel with _ | t
  · rw [tunnelSend_of_none h]
    exact hnone (by simp [books, h])
  · rw [tunnelSend_of_some h]
    exact answered_sendFrame hcap hpost

variable (hord : s.books.Orderly) (hb : s.books.Answered)

include hb

lemma answered_post (f : Frame) : (s.post f).books.Answered :=
  answered_sendFrame hcap fun i => (hb i).post _

lemma answered_asteriskData (r : AsteriskStream) (i : UInt32) (bytes : Bytes) :
    ((s.recordData r bytes).onAsteriskData i bytes).books.Answered := by
  have hrecord : (s.recordData r bytes).books.Answered := hb
  rw [onAsteriskData]
  split_ifs
  · exact answered_tunnelSend (s := s.recordData r bytes) hcap (fun _ => hrecord)
      fun j => (hrecord j).post _
  · exact hrecord

include hord

/-- The end of a stream: without a tunnel there is no connection either. -/
lemma answered_onAsteriskEof (i : UInt32) (reason : Bytes) :
    (s.onAsteriskEof i reason).books.Answered := by
  rw [onAsteriskEof]
  split_ifs with hi
  · refine answered_tunnelSend (s := s.forget i) hcap ?_ (hb.close i reason)
    intro hnone
    have harmed : s.books.tunnel = true := hord.tunnel_of_stream hi
    exact absurd (hnone.symm.trans harmed) Bool.false_ne_true
  · exact hb

omit hcap hord in
lemma answered_drainPending : s.drainPending.books.Answered := by
  simp only [drainPending]
  split_ifs with hpending htransport
  · exact Books.answered_of_none rfl
  · refine Books.answered_of_none ?_
    simpa [books, outbound, usable, clearPending] using htransport
  · exact hb

omit hord in
lemma answered_maybeHeartbeat : s.maybeHeartbeat.books.Answered := by
  have hping : (s.sendFrame .PING 0 []).books.Answered :=
    answered_sendFrame hcap fun i => (hb i).post _
  simp only [maybeHeartbeat]
  split_ifs
  · exact hb
  · exact hb
  · exact Books.answered_of_none rfl
  · exact hping
  · exact hping

end Sends

lemma answered_onConnected {s : Agent} (hcap : s.connector.cfg.outboundBufferMax = 0)
    (hb : (s.setTunnel (some .connector)).books.Answered) : s.onConnected.books.Answered := by
  have hfold : ∀ (fs : List Frame) (t : Agent), t.connector.cfg.outboundBufferMax = 0 →
      t.books.Answered → (fs.foldl post t).books.Answered := by
    intro fs
    induction fs with
    | nil => exact fun t _ ht => ht
    | cons f fs ih =>
      intro t hcap ht
      exact ih _ (closedInner_cap.sendFrame _ _ _ _ hcap) (answered_post hcap ht f)
  exact hfold _ _ hcap hb

lemma answered_attemptConnect {s : Agent} {c : ConnId}
    (hcap : s.connector.cfg.outboundBufferMax = 0) (hord : s.books.Orderly)
    (hpending : s.connector.disconnectPending = false) (hc : c ∉ s.trace.dialed) :
    (s.attemptConnect (some c)).books.Answered := by
  obtain h | ⟨sent, f, rest, n, -, h⟩ := attemptConnect_cases c s
  · rw [h]
    refine answered_onConnected hcap ?_
    have hattach := Books.answered_attach hord hc
    simpa [books, Books.Answered, Books.AnsweredFor, Books.attach, outbound, Outbound.flush, usable,
      flushed, install, setTunnel, hpending] using hattach
  · rw [h]
    refine answered_onConnected hcap (Books.answered_of_none ?_)
    simp [books, outbound, usable, flushed, install, setTunnel, wrote, markDisconnected,
      onTunnelDisconnect]

lemma answered_tick {s : Agent} {dial : Option ConnId}
    (hcap : s.connector.cfg.outboundBufferMax = 0) (hord : s.books.Orderly)
    (hb : s.books.Answered) (hdial : ∀ c, dial = some c → c ∉ s.trace.dialed) :
    (s.tick dial).books.Answered := by
  have hdrain := answered_drainPending hb
  have hcap' : s.drainPending.connector.cfg.outboundBufferMax = 0 := by simpa using hcap
  rw [tick]
  rcases ht : s.drainPending.connector.transport with _ | d
  · simp only [Option.isSome_none, Bool.false_eq_true, if_false]
    split_ifs
    · exact hdrain
    · rcases dial with _ | c
      · exact hdrain
      · exact answered_attemptConnect hcap' (orderly_drainPending hord) (by simp)
          (by simpa using hdial c rfl)
  · simp only [Option.isSome_some, if_true]
    exact answered_maybeHeartbeat hcap' hdrain

/-! ### Dispatching -/

section Dispatch

variable {s : Agent} {c : ConnId} (hcap : s.connector.cfg.outboundBufferMax = 0)
  (hord : s.books.Orderly) (hb : s.books.Answered) (htransport : s.connector.transport = some c)

include htransport

lemma conn_eq_of_transport : ∀ d, s.books.out.conn = some d → d = c := by
  intro d hd
  simp only [books, outbound, usable] at hd
  split_ifs at hd
  exact Option.some.inj (hd.symm.trans htransport)

include hcap hord hb

/-- A frame that is answered with another, by which the stream of an OPEN is answered. -/
lemma answered_answer {f : Frame} {op : Op} {i : UInt32} {p : Bytes}
    (hf : f.op = .OPEN → op = .CLOSE ∧ f.streamId = i) :
    ((s.tunnelSend op i p).hear (some c) f).books.Answered := by
  have harmed : s.books.tunnel = true := hord.armed (by simp [books, htransport])
  have hpost : ((s.books.post ⟨op, i, p⟩).hear c f).Answered := by
    intro j
    by_cases hj : f.op = .OPEN ∧ f.streamId = j
    · obtain ⟨hop, rfl⟩ := hj
      obtain ⟨rfl, rfl⟩ := hf hop
      exact .of_close (s.books.hear c f) _ p
    · exact ((hb j).post _).hear c fun hop h => hj ⟨hop, h⟩
  obtain ⟨-, hnone⟩ | h | ⟨d, n, h⟩ := books_tunnelSend hcap op i p
  · exact absurd (hnone.symm.trans harmed) Bool.false_ne_true
  · have hbooks : ((s.tunnelSend op i p).hear (some c) f).books =
        (s.books.post ⟨op, i, p⟩).hear c f := congrArg (Books.hear c f) h
    rwa [hbooks]
  · have hbooks : ((s.tunnelSend op i p).hear (some c) f).books =
        ((s.books.tear d ⟨op, i, p⟩ n).post ⟨op, i, p⟩).hear c f := congrArg (Books.hear c f) h
    rw [hbooks]
    exact Books.answered_of_none (Outbound.conn_post _ _)

/-- An OPEN is answered by the stream, or by a CLOSE if the factory has none. -/
lemma answered_openStream (f : Frame) :
    ((s.openStream f.streamId).hear (some c) f).books.Answered := by
  rw [openStream]
  split_ifs with hi
  · intro j
    by_cases hj : f.streamId = j
    · exact .of_mem (hj ▸ hi)
    · exact (hb j).hear c fun _ => hj
  · intro j
    by_cases hj : f.streamId = j
    · subst hj
      exact .of_mem ((AList.mem_insert _).mpr (Or.inl rfl))
    · exact ((hb j).enter f.streamId).hear c fun _ => hj
  · exact answered_answer (s := s.setScript { s.script with opens := s.script.opens.tail }) hcap
      hord hb htransport fun _ => ⟨rfl, rfl⟩

/-- The DATA of a stream, if the write to it does not fail in silence. -/
lemma answered_writeStream (hloud : s.script.Loud) (hc : c ∈ s.trace.dialed) (i : UInt32)
    (p : Bytes) : ((s.writeStream i p).hear (some c) ⟨.DATA, i, p⟩).books.Answered := by
  have hhear : ∀ {t : Agent}, t.books.Answered →
      (t.hear (some c) ⟨.DATA, i, p⟩).books.Answered :=
    fun ht j => (ht j).hear c fun h => absurd h (by simp)
  rcases h : s.demux.streams.lookup i with _ | r
  · simp only [writeStream, h]
    exact hhear hb
  · cases hw : s.script.streamWrites.headD .ok with
    | ok =>
      simp only [writeStream, h, hw]
      exact hhear (t := s.hand r p) hb
    | broken => exact absurd hw hloud.headD_ne
    | brokenEof =>
      have hhand : ((s.hand r p).hear (some c) ⟨.DATA, i, p⟩).books.Orderly :=
        hord.hand htransport hc h
      have heof := answered_onAsteriskEof (s := (s.hand r p).hear (some c) ⟨.DATA, i, p⟩) hcap
        hhand (hhear (t := s.hand r p) hb) i (Bytes.ofString "asterisk_write_failed")
      have hgone : ((s.hand r p).onAsteriskEof i
          (Bytes.ofString "asterisk_write_failed")).demux.streams.lookup i = none := by
        rw [streams_onAsteriskEof]
        exact AList.lookup_erase i _
      rw [onAsteriskEof_hear] at heof
      simpa only [writeStream, h, hw, closeStream, hgone] using heof

/-- Dispatching a frame that came on the connection `c`. -/
lemma answered_dispatch (hloud : s.script.Loud) (hc : c ∈ s.trace.dialed) (f : Frame) :
    (s.dispatch f).1.books.Answered := by
  have hhear : ∀ {t : Agent}, t.books.Answered → f.op ≠ .OPEN →
      (t.hear (some c) f).books.Answered := by
    intro t ht hop j
    exact (ht j).hear c fun h => absurd h hop
  obtain ⟨op, i, p⟩ := f
  cases op with
  | OPEN =>
    simp only [dispatch, dispatchFrame, if_true, htransport]
    exact answered_openStream hcap hord hb htransport _
  | DATA =>
    simp only [dispatch, dispatchFrame, if_true, htransport]
    exact answered_writeStream hcap hord hb htransport hloud hc i p
  | CLOSE =>
    simp only [dispatch, dispatchFrame, if_true, htransport]
    rcases h : s.demux.streams.lookup i with _ | r
    · simp only [closeStream, h]
      exact hhear hb (by simp)
    · simp only [closeStream, h]
      intro j
      by_cases hji : j = i
      · subst hji
        exact .of_close_heard (b := ((s.release r p).forget j).books)
          (conn_eq_of_transport htransport) j p
      · exact ((hb j).forget hji).hear c (by simp)
  | PING =>
    simp only [dispatch, dispatchFrame, if_true, htransport]
    exact answered_answer hcap hord hb htransport (by simp)
  | SUBSCRIBER_REVOKED | SOCIETY_BOOTSTRAP =>
    simp only [dispatch, dispatchFrame, callHandler, htransport]
    split_ifs
    · exact hhear (t := s.setScript _) hb (by simp)
    · exact hb
  | PONG | ERR | PUSH_NOTIFY | CDR_PUSH | REGISTER_STATE | AGENT_HELLO | ASTERISK_STATUS =>
    simp only [dispatch, dispatchFrame, if_true, htransport]
    exact hhear hb (by simp)

end Dispatch

/-! ### The script of the streams -/

lemma streamWrites_sendFrame (op : Op) (i : UInt32) (p : Bytes) (s : Agent) :
    (s.sendFrame op i p).script.streamWrites = s.script.streamWrites := by
  have henqueue : ∀ (f : Frame) (t : Agent), (t.enqueue f).script = t.script := by
    intro f t
    rw [enqueue]
    split_ifs <;> rfl
  rcases h : s.usable with _ | c
  · rw [sendFrame_of_none h, henqueue]
  · cases hr : s.script.sends.headD .ok with
    | ok =>
      rw [sendFrame_of_ok h hr]
      rfl
    | failed n =>
      rw [sendFrame_of_failed h hr, henqueue]
      rfl

lemma streamWrites_tunnelSend (op : Op) (i : UInt32) (p : Bytes) (s : Agent) :
    (s.tunnelSend op i p).script.streamWrites = s.script.streamWrites := by
  rcases h : s.demux.tunnel with _ | t
  · rw [tunnelSend_of_none h]
  · rw [tunnelSend_of_some h, streamWrites_sendFrame]

lemma streamWrites_closeStream (i : UInt32) (reason : Bytes) (s : Agent) :
    (s.closeStream i reason).script.streamWrites = s.script.streamWrites := by
  rcases h : s.demux.streams.lookup i with _ | r
  · simp only [closeStream, h]
  · simp only [closeStream, h]
    rfl

/-- A dispatch uses up at most the first result of the streams. -/
lemma streamWrites_dispatchFrame (f : Frame) (s : Agent) :
    (s.dispatchFrame f).1.script.streamWrites <:+ s.script.streamWrites := by
  obtain ⟨op, i, p⟩ := f
  cases op with
  | OPEN =>
    simp only [dispatchFrame, openStream]
    split_ifs
    · exact List.suffix_rfl
    · exact List.suffix_rfl
    · rw [streamWrites_tunnelSend]
      exact List.suffix_rfl
  | DATA =>
    rcases h : s.demux.streams.lookup i with _ | r
    · simp only [dispatchFrame, writeStream, h]
      exact List.suffix_rfl
    · have hhand : (s.hand r p).script.streamWrites <:+ s.script.streamWrites :=
        List.tail_suffix _
      cases hw : s.script.streamWrites.headD .ok with
      | ok => simpa only [dispatchFrame, writeStream, h, hw] using hhand
      | broken =>
        simp only [dispatchFrame, writeStream, h, hw, streamWrites_closeStream]
        exact hhand
      | brokenEof =>
        simp only [dispatchFrame, writeStream, h, hw, streamWrites_closeStream, onAsteriskEof]
        split_ifs
        · rw [streamWrites_tunnelSend]
          exact hhand
        · exact hhand
  | CLOSE =>
    simp only [dispatchFrame, streamWrites_closeStream]
    exact List.suffix_rfl
  | PING =>
    simp only [dispatchFrame, streamWrites_tunnelSend]
    exact List.suffix_rfl
  | SUBSCRIBER_REVOKED | SOCIETY_BOOTSTRAP => exact List.suffix_rfl
  | PONG | ERR | PUSH_NOTIFY | CDR_PUSH | REGISTER_STATE | AGENT_HELLO | ASTERISK_STATUS =>
    exact List.suffix_rfl

lemma loud_dispatch {s : Agent} (h : s.script.Loud) (f : Frame) : (s.dispatch f).1.script.Loud := by
  have hscript : (s.dispatch f).1.script = (s.dispatchFrame f).1.script := by
    rw [dispatch]
    split_ifs <;> rfl
  rw [hscript]
  exact fun hmem => h ((streamWrites_dispatchFrame f s).subset hmem)

/-! ### Reading -/

/-- Reading valid bytes keeps the streams answered, if no write to a stream fails in silence. -/
lemma answered_onBytesReceived {s : Agent} {c : ConnId} {bytes : Bytes}
    (hcap : s.connector.cfg.outboundBufferMax = 0) (hord : s.books.Orderly) (hs : s.Small)
    (hwf : s.outbound.Wf) (hc : c ∈ s.trace.dialed) (htransport : s.connector.transport = some c)
    (hvalid : (codec.drain (s.demux.recvBuffer ++ bytes)).valid = true)
    (hpair : (ofKey c s.trace.heard ++
      (codec.drain (s.demux.recvBuffer ++ bytes)).frames).Pairwise OpenFirst)
    (hnew : ∀ f ∈ (codec.drain (s.demux.recvBuffer ++ bytes)).frames, f.op = .OPEN →
      ∀ d, d ≠ c → ¬ Opens f.streamId (ofKey d s.trace.heard))
    (hloud : s.script.Loud) (hb : s.books.Answered) :
    (s.onBytesReceived bytes).books.Answered := by
  have hkeep := orderlyReading_onBytesReceived (P := fun t => t.script.Loud ∧ t.books.Answered)
    hc hpair hnew (fun _ _ h => h)
    (fun f fs t ht h => ⟨loud_dispatch h.1 f, answered_dispatch ht.cap ht.orderly h.2 ht.transport
      h.1 (ht.dialed ▸ hc) f⟩)
    hcap hord hs hwf htransport hvalid rfl ⟨hloud, hb⟩
  exact hkeep.2.2

end Agent
