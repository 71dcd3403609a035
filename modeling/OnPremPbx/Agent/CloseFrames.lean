import OnPremPbx.Agent.Reading

/-!
# The CLOSE frames of the demux

A stream that the demux forgets on its own is reported to the cloud with one CLOSE. There are four
ways out of `m_streams`: the factory has no stream for an OPEN, a stream ends, a write to it fails,
and the cloud closes it; only the last is to be silent. A failed write goes through `close_stream`,
which sends nothing, so the cloud hears of it only if the stream reported its end from inside the
write.
-/

open Framing SipFrame

namespace Agent

/-- Every write to a stream that fails reports the end of the stream. -/
def Script.Loud (script : Script) : Prop := StreamWrite.broken ∉ script.streamWrites

instance (script : Script) : Decidable script.Loud := inferInstanceAs (Decidable (_ ∉ _))

/-- The CLOSE frames of the stream `i` handed to `send_frame`. -/
def closesSent (i : UInt32) (s : Agent) : ℕ :=
  s.trace.passed.countP fun x => x.1.op = .CLOSE ∧ x.1.streamId = i

/-! ### The entry points of the demux -/

/-- What reaches the demux: a frame that `on_tunnel_bytes` has decoded, an event of a stream, the
loss of the tunnel, and a new one. -/
inductive DemuxEvent where
  | frame (f : Frame)
  | asteriskData (streamId : UInt32) (bytes : Bytes)
  | asteriskEof (streamId : UInt32) (reason : Bytes)
  | tunnelDisconnect
  | setTunnel (tunnel : Option SipFrameDemux.Sink)
  deriving DecidableEq, Repr

def handleDemux (e : DemuxEvent) (s : Agent) : Agent :=
  match e with
  | .frame f               => (s.dispatch f).1
  | .asteriskData i bytes  => s.onAsteriskData i bytes
  | .asteriskEof i reason  => s.onAsteriskEof i reason
  | .tunnelDisconnect      => s.onTunnelDisconnect
  | .setTunnel tunnel      => s.setTunnel tunnel

/-- An event of the demux, with the state in which it finds the connector and what the
surroundings do while it is handled. -/
structure DemuxInput where
  event : DemuxEvent
  connector : CloudConnector := {}
  script : Script := {}

/-- The state in which the event of an input is handled. -/
def meet (i : DemuxInput) (s : Agent) : Agent :=
  { s with connector := i.connector, script := i.script }

def demuxStep (s : Agent) (i : DemuxInput) : Agent := (s.meet i).handleDemux i.event

def demuxRun (s : Agent) (is : List DemuxInput) : Agent := is.foldl demuxStep s

/-- The event leaves the demux without the stream `i`, which it had or was asked to open, and
neither a CLOSE of the cloud nor the loss of the tunnel is the reason. -/
def Forgets (i : UInt32) (e : DemuxEvent) (s : Agent) : Prop :=
  s.demux.tunnel.isSome ∧ i ∉ (s.handleDemux e).demux.streams ∧
  match e with
  | .frame f           =>
    f.op ≠ .CLOSE ∧ (i ∈ s.demux.streams ∨ f.op = .OPEN ∧ f.streamId = i)
  | .asteriskData _ _  => i ∈ s.demux.streams
  | .asteriskEof _ _   => i ∈ s.demux.streams
  | .tunnelDisconnect  => False
  | .setTunnel _       => False

instance (i : UInt32) (e : DemuxEvent) (s : Agent) : Decidable (Forgets i e s) := by
  unfold Forgets
  cases e <;> infer_instance

/-- The event is DATA for the stream `i`, and the write to the stream fails in silence. -/
def SilentFailure (i : UInt32) (e : DemuxEvent) (s : Agent) : Prop :=
  s.demux.tunnel.isSome ∧ i ∈ s.demux.streams ∧ s.script.streamWrites.headD .ok = .broken ∧
    ∃ p, e = .frame ⟨.DATA, i, p⟩

/-- How often the demux forgets the stream `i` in a run. -/
def timesForgotten (i : UInt32) (s : Agent) : List DemuxInput → ℕ
  | []        => 0
  | inp :: is =>
    (if Forgets i inp.event (s.meet inp) then 1 else 0) + timesForgotten i (s.demuxStep inp) is

/-! ### What one event sends -/

@[simp] lemma demux_enqueue (f : Frame) (s : Agent) : (s.enqueue f).demux = s.demux := by
  rw [enqueue]
  split_ifs <;> rfl

@[simp] lemma demux_sendFrame (op : Op) (i : UInt32) (p : Bytes) (s : Agent) :
    (s.sendFrame op i p).demux = s.demux := by
  rcases h : s.usable with _ | c
  · rw [sendFrame_of_none h, demux_enqueue]
  · cases hr : s.script.sends.headD .ok with
    | ok =>
      rw [sendFrame_of_ok h hr]
      rfl
    | failed n =>
      rw [sendFrame_of_failed h hr, demux_enqueue]
      rfl

@[simp] lemma demux_tunnelSend (op : Op) (i : UInt32) (p : Bytes) (s : Agent) :
    (s.tunnelSend op i p).demux = s.demux := by
  rcases h : s.demux.tunnel with _ | t
  · rw [tunnelSend_of_none h]
  · rw [tunnelSend_of_some h, demux_sendFrame]

lemma closesSent_tunnelSend (j : UInt32) (op : Op) (i : UInt32) (p : Bytes) (s : Agent) :
    (s.tunnelSend op i p).closesSent j =
      s.closesSent j + if s.demux.tunnel.isSome ∧ op = .CLOSE ∧ i = j then 1 else 0 := by
  rcases h : s.demux.tunnel with _ | t
  · rw [tunnelSend_of_none h]
    simp
  · obtain ⟨kept, hpassed⟩ := passed_sendFrame op i p s
    rw [tunnelSend_of_some h]
    simp [closesSent, hpassed, List.countP_cons]

lemma streams_onAsteriskEof (i : UInt32) (reason : Bytes) (s : Agent) :
    (s.onAsteriskEof i reason).demux.streams = s.demux.streams.erase i := by
  rw [onAsteriskEof]
  split_ifs with hi
  · simp [forget]
  · exact (AList.ext (List.kerase_of_notMem_keys hi)).symm

/-- The end of a stream is reported once. -/
lemma closesSent_onAsteriskEof (j i : UInt32) (reason : Bytes) (s : Agent) :
    (s.onAsteriskEof i reason).closesSent j =
      s.closesSent j + if s.demux.tunnel.isSome ∧ i ∈ s.demux.streams ∧ i = j then 1 else 0 := by
  rw [onAsteriskEof]
  split_ifs with hi h h
  · rw [closesSent_tunnelSend, if_pos ⟨h.1, rfl, h.2.2⟩]
    rfl
  · rw [closesSent_tunnelSend, if_neg fun h' => h ⟨h'.1, hi, h'.2.2⟩]
    rfl
  · exact absurd h.2.1 hi
  · rfl

lemma closesSent_closeStream (j i : UInt32) (reason : Bytes) (s : Agent) :
    (s.closeStream i reason).closesSent j = s.closesSent j := by
  rcases h : s.demux.streams.lookup i with _ | r
  · simp only [closeStream, h]
  · simp only [closeStream, h]
    rfl

lemma streams_closeStream (i : UInt32) (reason : Bytes) (s : Agent) :
    (s.closeStream i reason).demux.streams = s.demux.streams.erase i := by
  rcases h : s.demux.streams.lookup i with _ | r
  · simp only [closeStream, h]
    exact (AList.ext (List.kerase_of_notMem_keys (AList.lookup_eq_none.mp h))).symm
  · simp only [closeStream, h]
    rfl

/-- A stream that the factory does not open is reported once. -/
lemma closesSent_openStream (j i : UInt32) (s : Agent) :
    (s.openStream i).closesSent j = s.closesSent j +
      if s.demux.tunnel.isSome ∧ j ∉ (s.openStream i).demux.streams ∧
        (j ∈ s.demux.streams ∨ i = j) then 1 else 0 := by
  by_cases hi : i ∈ s.demux.streams
  · have hsame : s.openStream i = s := if_pos hi
    rw [hsame, if_neg]
    · rfl
    · rintro ⟨-, hnot, hj | rfl⟩
      · exact hnot hj
      · exact hnot hi
  by_cases ho : s.script.opens.headD true = true
  · have hopen : s.openStream i = s.enter i := by rw [openStream, if_neg hi, if_pos ho]
    rw [hopen, if_neg]
    · rfl
    · rintro ⟨-, hnot, hj⟩
      exact hnot ((AList.mem_insert _).mpr (hj.symm.imp_left Eq.symm))
  · have hfail : s.openStream i =
        (s.setScript { s.script with opens := s.script.opens.tail }).tunnelSend .CLOSE i
          (Bytes.ofString "asterisk_unreachable") := by
      rw [openStream, if_neg hi, if_neg ho]
    have hstreams : (s.openStream i).demux.streams = s.demux.streams := by
      rw [hfail, demux_tunnelSend]
      rfl
    rw [hstreams, hfail, closesSent_tunnelSend]
    congr 1
    refine if_congr (and_congr_right ?_) rfl rfl
    intro _
    constructor
    · rintro ⟨-, rfl⟩
      exact ⟨hi, Or.inr rfl⟩
    · rintro ⟨hnot, hj⟩
      exact ⟨rfl, hj.resolve_left hnot⟩

section Write

variable {s : Agent} {i : UInt32} {r : AsteriskStream} (hr : s.demux.streams.lookup i = some r)

include hr

lemma mem_streams_of_lookup : i ∈ s.demux.streams :=
  AList.lookup_isSome.mp (Option.isSome_iff_exists.mpr ⟨r, hr⟩)

/-- A write that fails in silence is not reported. -/
lemma writeStream_of_broken (hw : s.script.streamWrites.headD .ok = .broken) (p : Bytes) :
    (s.writeStream i p).demux.streams = s.demux.streams.erase i ∧
      ∀ j, (s.writeStream i p).closesSent j = s.closesSent j := by
  simp only [writeStream, hr, hw]
  exact ⟨streams_closeStream _ _ _, fun j => closesSent_closeStream _ _ _ _⟩

/-- A write that fails with the end of the stream is reported once: `close_stream` finds the
stream gone. -/
lemma writeStream_of_brokenEof (hw : s.script.streamWrites.headD .ok = .brokenEof) (p : Bytes) :
    (s.writeStream i p).demux.streams = s.demux.streams.erase i ∧
      ∀ j, (s.writeStream i p).closesSent j =
        s.closesSent j + if s.demux.tunnel.isSome ∧ i = j then 1 else 0 := by
  have hi := mem_streams_of_lookup hr
  simp only [writeStream, hr, hw]
  constructor
  · rw [streams_closeStream, streams_onAsteriskEof]
    exact AList.ext (List.kerase_of_notMem_keys fun h => (AList.mem_erase.mp h).1 rfl)
  · intro j
    rw [closesSent_closeStream, closesSent_onAsteriskEof]
    simp only [hand, hi, true_and]
    rfl

end Write

/-- A failed write is reported once, unless it fails in silence. -/
lemma closesSent_writeStream_iff (j i : UInt32) (p : Bytes) (s : Agent) :
    (s.writeStream i p).closesSent j = s.closesSent j +
      (if s.demux.tunnel.isSome ∧ j ∉ (s.writeStream i p).demux.streams ∧ j ∈ s.demux.streams
        then 1 else 0) ↔
    ¬ (s.demux.tunnel.isSome ∧ j ∈ s.demux.streams ∧ i = j ∧
      s.script.streamWrites.headD .ok = .broken) := by
  rcases hr : s.demux.streams.lookup i with _ | r
  · have hsame : s.writeStream i p = s := by simp only [writeStream, hr]
    have hi : i ∉ s.demux.streams := AList.lookup_eq_none.mp hr
    rw [hsame, if_neg fun h => h.2.1 h.2.2]
    exact iff_of_true rfl fun h => hi (h.2.2.1 ▸ h.2.1)
  have hi := mem_streams_of_lookup hr
  -- after a failed write the stream `i` alone is gone
  have hgone : (j ∉ s.demux.streams.erase i ∧ j ∈ s.demux.streams) ↔ i = j := by
    rw [AList.mem_erase]
    constructor
    · rintro ⟨hnot, hj⟩
      by_contra hij
      exact hnot ⟨Ne.symm hij, hj⟩
    · rintro rfl
      exact ⟨fun h => h.1 rfl, hi⟩
  cases hw : s.script.streamWrites.headD .ok with
  | ok =>
    have hsame : s.writeStream i p = s.hand r p := by simp only [writeStream, hr, hw]
    rw [hsame, if_neg fun h => h.2.1 h.2.2]
    exact iff_of_true rfl fun h => by cases h.2.2.2
  | broken =>
    obtain ⟨hstreams, hsent⟩ := writeStream_of_broken hr hw p
    simp only [hsent, hstreams, hgone]
    by_cases h : s.demux.tunnel.isSome ∧ i = j
    · rw [if_pos h]
      exact iff_of_false (by omega) fun hnot => hnot ⟨h.1, h.2 ▸ hi, h.2, trivial⟩
    · rw [if_neg h]
      exact iff_of_true rfl fun h' => h ⟨h'.1, h'.2.2.1⟩
  | brokenEof =>
    obtain ⟨hstreams, hsent⟩ := writeStream_of_brokenEof hr hw p
    simp only [hsent, hstreams, hgone]
    exact iff_of_true trivial fun h => by cases h.2.2.2

@[simp] lemma demux_dispatch (f : Frame) (s : Agent) :
    (s.dispatch f).1.demux = (s.dispatchFrame f).1.demux := by
  rw [dispatch]
  split_ifs <;> rfl

lemma closesSent_dispatch (j : UInt32) (f : Frame) (s : Agent) :
    (s.dispatch f).1.closesSent j = (s.dispatchFrame f).1.closesSent j := by
  rw [dispatch]
  split_ifs <;> rfl

/-- Data of Asterisk leaves the streams, and is no CLOSE. -/
lemma onAsteriskData_frame (i k : UInt32) (bytes : Bytes) (s : Agent) :
    (s.onAsteriskData k bytes).demux.streams = s.demux.streams ∧
      (s.onAsteriskData k bytes).closesSent i = s.closesSent i := by
  rw [onAsteriskData]
  split_ifs
  · rw [demux_tunnelSend, closesSent_tunnelSend, if_neg (by simp)]
    exact ⟨rfl, rfl⟩
  · exact ⟨rfl, rfl⟩

/-- An event sends as many CLOSE frames for a stream as it makes the demux forget it, unless it is
a write that fails in silence. -/
theorem closesSent_handleDemux_iff (i : UInt32) (e : DemuxEvent) (s : Agent) :
    (s.handleDemux e).closesSent i = s.closesSent i + (if Forgets i e s then 1 else 0) ↔
      ¬ SilentFailure i e s := by
  have hquiet : ∀ {e}, (∀ f, e ≠ .frame f) → ¬ SilentFailure i e s := by
    rintro e he ⟨-, -, -, p, rfl⟩
    exact he _ rfl
  cases e with
  | frame f =>
    obtain ⟨op, k, p⟩ := f
    have hcalm : op ≠ .DATA → ¬ SilentFailure i (.frame ⟨op, k, p⟩) s := by
      rintro hop ⟨-, -, -, p', heq⟩
      injection heq with hf
      injection hf with hop'
      exact hop hop'
    -- a frame that neither opens nor writes leaves the streams alone, or is a CLOSE
    have hother : op ≠ .OPEN → op ≠ .DATA →
        (s.dispatchFrame ⟨op, k, p⟩).1.closesSent i = s.closesSent i →
        (op = .CLOSE ∨ (s.dispatchFrame ⟨op, k, p⟩).1.demux.streams = s.demux.streams) →
        ((s.handleDemux (.frame ⟨op, k, p⟩)).closesSent i = s.closesSent i +
          (if Forgets i (.frame ⟨op, k, p⟩) s then 1 else 0) ↔
          ¬ SilentFailure i (.frame ⟨op, k, p⟩) s) := by
      intro hopen hdata hsent hstreams
      rw [handleDemux, closesSent_dispatch, hsent, if_neg]
      · exact iff_of_true rfl (hcalm hdata)
      · rintro ⟨-, hnot, hclose, hi | ⟨h, -⟩⟩
        · rw [handleDemux, demux_dispatch, hstreams.resolve_left hclose] at hnot
          exact hnot hi
        · exact hopen h
    cases op with
    | OPEN =>
      refine iff_of_true ?_ (hcalm (by simp))
      simp only [handleDemux, closesSent_dispatch, Forgets, demux_dispatch, dispatchFrame]
      rw [closesSent_openStream]
      simp
    | DATA =>
      have hwrite := closesSent_writeStream_iff i k p s
      simp only [handleDemux, closesSent_dispatch, Forgets, demux_dispatch, dispatchFrame]
      simp only [ne_eq, reduceCtorEq, not_false_eq_true, false_and, or_false, true_and]
      rw [hwrite, not_iff_not, SilentFailure]
      constructor
      · rintro ⟨htunnel, hi, rfl, hw⟩
        exact ⟨htunnel, hi, hw, p, rfl⟩
      · rintro ⟨htunnel, hi, hw, p', heq⟩
        injection heq with hf
        injection hf with _ hk
        exact ⟨htunnel, hi, hk, hw⟩
    | CLOSE =>
      exact hother (by simp) (by simp) (closesSent_closeStream _ _ _ _) (Or.inl rfl)
    | PING =>
      refine hother (by simp) (by simp) ?_ (Or.inr (by simp [dispatchFrame]))
      simp [dispatchFrame, closesSent_tunnelSend]
    | SUBSCRIBER_REVOKED | SOCIETY_BOOTSTRAP =>
      exact hother (by simp) (by simp) rfl (Or.inr rfl)
    | PONG | ERR | PUSH_NOTIFY | CDR_PUSH | REGISTER_STATE | AGENT_HELLO | ASTERISK_STATUS =>
      exact hother (by simp) (by simp) rfl (Or.inr rfl)
  | asteriskData k bytes =>
    refine iff_of_true ?_ (hquiet (by simp))
    obtain ⟨hstreams, hsent⟩ := onAsteriskData_frame i k bytes s
    rw [handleDemux, hsent, if_neg]
    · rfl
    · rintro ⟨-, hnot, hi⟩
      rw [handleDemux, hstreams] at hnot
      exact hnot hi
  | asteriskEof k reason =>
    refine iff_of_true ?_ (hquiet (by simp))
    rw [handleDemux, closesSent_onAsteriskEof]
    congr 1
    refine if_congr (and_congr_right ?_) rfl rfl
    intro _
    rw [handleDemux, streams_onAsteriskEof, AList.mem_erase]
    constructor
    · rintro ⟨hk, rfl⟩
      exact ⟨fun h => h.1 rfl, hk⟩
    · rintro ⟨hnot, hi⟩
      obtain rfl : i = k := by
        by_contra hik
        exact hnot ⟨hik, hi⟩
      exact ⟨hi, rfl⟩
  | tunnelDisconnect => exact iff_of_true (by rw [if_neg fun h => h.2.2]; rfl) (hquiet (by simp))
  | setTunnel tunnel => exact iff_of_true (by rw [if_neg fun h => h.2.2]; rfl) (hquiet (by simp))

/-! ### Runs -/

lemma Script.Loud.headD_ne {script : Script} (h : script.Loud) :
    script.streamWrites.headD .ok ≠ .broken := by
  intro hbroken
  rcases hw : script.streamWrites with _ | ⟨w, ws⟩
  · simp [hw] at hbroken
  · rw [hw, List.headD_cons] at hbroken
    exact h (by simp [hw, hbroken])

/-- In a run in which no write fails in silence, as many CLOSE frames are sent for a stream as the
demux forgets it. -/
theorem closesSent_demuxRun (i : UInt32) (s : Agent) {is : List DemuxInput}
    (hloud : ∀ inp ∈ is, inp.script.Loud) :
    (s.demuxRun is).closesSent i = s.closesSent i + timesForgotten i s is := by
  induction is generalizing s with
  | nil => rfl
  | cons inp is ih =>
    have hstep : (s.demuxStep inp).closesSent i =
        s.closesSent i + (if Forgets i inp.event (s.meet inp) then 1 else 0) :=
      (closesSent_handleDemux_iff i inp.event (s.meet inp)).mpr fun h =>
        (hloud inp List.mem_cons_self).headD_ne h.2.2.1
    have hrest := ih (s.demuxStep inp) fun j hj => hloud j (List.mem_cons_of_mem _ hj)
    rw [timesForgotten, ← Nat.add_assoc, ← hstep]
    exact hrest

end Agent
