import OnPremPbx.Tunnel.Streams
import OnPremPbx.WebSocket.Messages
import OnPremPbx.WebSocket.ReadLoop

/-!
# SIP messages from one WebSocket to the other

The way of a SIP message of a stream: `BrowserStream` reads the WebSocket of the browser and gives
the payload of each data frame to the bridge, which sends it through the tunnel as the payload of a
DATA frame, and `AsteriskStream::write_bytes` writes that payload to Asterisk as a text frame of its
own. The way back goes through `AsteriskStream` and `BrowserStream::send_bytes`.
-/

open Framing WsFrame

/-- The reading side of a `BrowserStream` or an `AsteriskStream`. -/
structure WsStream where
  recvBuf : Bytes := []
  closeNotified : Bool := false
  /-- `m_adapter` of an `AsteriskStream` is not null -/
  adapter : Bool := true
  /-- the reactor calls `handle_input` -/
  registered : Bool := true
  /-- the byte strings given to `on_browser_data`, or to `on_asterisk_data` -/
  handedOn : List Bytes := []
  replies : List Frame := []
  deriving DecidableEq, Repr

namespace WsStream

def notifyCloseOnce (s : WsStream) : WsStream := { s with closeNotified := true }

/-- The `switch` of `drain_frames`. `goesOn` is what is asked after a data frame. -/
def dispatch (goesOn : WsStream → Bool) (frame : Frame) (s : WsStream) : WsStream × Bool :=
  if frame.opcode = 0x2 ∨ frame.opcode = 0x1 ∨ frame.opcode = 0x0 then
    ({ s with handedOn := s.handedOn ++ [frame.payload] }, goesOn s)
  else if frame.opcode = 0x9 then ({ s with replies := s.replies ++ [⟨0xA, frame.payload⟩] }, true)
  else if frame.opcode = 0xA then (s, true)
  else if frame.opcode = 0x8 then
    (notifyCloseOnce { s with replies := s.replies ++ [⟨0x8, []⟩] }, false)
  else (s.notifyCloseOnce, false)

def readLoop (goesOn : WsStream → Bool) (hset : ∀ b s, goesOn { s with recvBuf := b } = goesOn s) :
    ReadLoop WsStream where
  recvBuf := recvBuf
  setRecvBuf b s := { s with recvBuf := b }
  dispatch := dispatch goesOn
  recvBuf_set _ _ := rfl
  set_set _ _ _ := rfl
  set_recvBuf _ := rfl
  dispatch_set f b s := by
    rw [dispatch, dispatch]
    split_ifs <;> simp only [hset, notifyCloseOnce]

/-- `BrowserStream::drain_frames` does not look at anything after a data frame. -/
def browserLoop : ReadLoop WsStream := readLoop (fun _ => true) fun _ _ => rfl

/-- `AsteriskStream::drain_frames` returns when the demux has released the stream. -/
def asteriskLoop : ReadLoop WsStream := readLoop (·.adapter) fun _ _ => rfl

/-- `handle_input`, and `handle_close` where it returns -1. The stream is not read again then, nor
after an exception. -/
def handleInput (l : ReadLoop WsStream) (s : WsStream) (chunk : Bytes) : WsStream :=
  if s.registered = false then s
  else if chunk = [] then { s.notifyCloseOnce with registered := false }
  else
    match l.feed chunk s with
    | (s, .returned true)  => s
    | (s, .returned false) => { s.notifyCloseOnce with registered := false }
    | (s, .raised)         => { s with registered := false }

/-! ### What a stream hands on -/

variable {goesOn : WsStream → Bool}
  (hset : ∀ b s, goesOn { s with recvBuf := b } = goesOn s)

omit hset in
/-- The three kinds of frames. -/
lemma dispatch_cases (f : Frame) (s : WsStream) :
    (f.isData = true ∧
      dispatch goesOn f s = ({ s with handedOn := s.handedOn ++ [f.payload] }, goesOn s)) ∨
    (f.isData = false ∧ f.ends = false ∧ ∃ replies,
      dispatch goesOn f s = ({ s with replies := s.replies ++ replies }, true)) ∨
    (f.ends = true ∧ ∃ replies,
      dispatch goesOn f s =
        (notifyCloseOnce { s with replies := s.replies ++ replies }, false)) := by
  have hnil : { s with replies := s.replies ++ [] } = s := by rw [List.append_nil]
  rw [dispatch]
  split_ifs with hdata hping hpong hclose
  · exact .inl ⟨by simpa [Frame.isData, or_assoc] using hdata, rfl⟩
  · refine .inr (.inl ⟨?_, ?_, [⟨0xA, f.payload⟩], rfl⟩) <;>
      simp [Frame.isData, Frame.ends, hping]
  · refine .inr (.inl ⟨?_, ?_, [], by rw [hnil]⟩) <;> simp [Frame.isData, Frame.ends, hpong]
  · exact .inr (.inr ⟨by simp [Frame.ends, Frame.isData, hclose], [⟨0x8, []⟩], rfl⟩)
  · refine .inr (.inr ⟨?_, [], by rw [hnil]⟩)
    simp only [not_or] at hdata
    simp [Frame.ends, Frame.isData, hping, hpong, hdata]

/-- While the loop goes on after data, it hands on the data frames up to one that ends the
connection. -/
lemma work_handedOn {s : WsStream} (hgoes : ∀ s : WsStream, s.adapter = true → goesOn s = true)
    (hadapter : s.adapter = true) (fs : List Frame) :
    ((readLoop goesOn hset).work fs s).1.handedOn = s.handedOn ++ dataPayloads fs ∧
      ((readLoop goesOn hset).work fs s).1.registered = s.registered ∧
      ((readLoop goesOn hset).work fs s).2 = !fs.any Frame.ends := by
  induction fs generalizing s with
  | nil => simp [ReadLoop.work]
  | cons f fs ih =>
    have hwork : (readLoop goesOn hset).work (f :: fs) s =
        if (dispatch goesOn f s).2 then (readLoop goesOn hset).work fs (dispatch goesOn f s).1
        else dispatch goesOn f s := rfl
    rw [hwork, List.any_cons]
    rcases dispatch_cases f s with ⟨hdata, hd⟩ | ⟨hdata, hends, replies, hd⟩ | ⟨hends, replies, hd⟩
    · have ih := ih (s := { s with handedOn := s.handedOn ++ [f.payload] }) hadapter
      rw [hd, if_pos (hgoes s hadapter), dataPayloads_data hdata, Frame.ends_of_isData hdata,
        Bool.false_or]
      refine ⟨ih.1.trans ?_, ih.2⟩
      rw [List.append_assoc]
      rfl
    · rw [hd, if_pos rfl, dataPayloads_control hdata hends, hends, Bool.false_or]
      exact ih hadapter
    · rw [hd, if_neg Bool.false_ne_true, dataPayloads_ends hends, hends, List.append_nil]
      exact ⟨rfl, rfl, rfl⟩

/-- `s` has read `p`: it can read on, or it is not read again. -/
structure HasRead (l : ReadLoop WsStream) (p : Bytes) (s : WsStream) : Prop where
  handedOn : s.handedOn = (l.work (decoder.drain p).frames {}).1.handedOn
  goesOn : s.registered = true → l.Reads {} p s
  stopped : s.registered = false → l.exit p {} ≠ .returned true

lemma HasRead.handleInput {p : Bytes} {s : WsStream} (h : HasRead (readLoop goesOn hset) p s)
    (hgoes : ∀ s : WsStream, s.adapter = true → goesOn s = true) {chunk : Bytes}
    (hchunk : chunk ≠ []) :
    HasRead (readLoop goesOn hset) (p ++ chunk) (handleInput (readLoop goesOn hset) s chunk) := by
  rw [WsStream.handleInput, if_neg hchunk]
  split_ifs with hstopped
  · have hsame := (readLoop goesOn hset).work_drain_append (h.stopped hstopped) chunk
    exact ⟨by rw [hsame.1]; exact h.handedOn, by simp [hstopped], fun _ => hsame.2⟩
  · obtain ⟨b, hfeed, hreads⟩ := (h.goesOn (by simpa using hstopped)).feed chunk
    have hregistered := (work_handedOn hset hgoes (s := {}) rfl
      (decoder.drain (p ++ chunk)).frames).2.1
    cases hexit : (readLoop goesOn hset).exit (p ++ chunk) {} with
    | raised =>
      rw [hfeed, hexit]
      exact ⟨rfl, nofun, fun _ => by rw [hexit]; nofun⟩
    | returned ok =>
      cases ok with
      | true =>
        have hreads := hreads hexit
        rw [hfeed, hexit] at hreads ⊢
        refine ⟨rfl, fun _ => hreads, fun hnot => ?_⟩
        cases hregistered.symm.trans hnot
      | false =>
        rw [hfeed, hexit]
        exact ⟨rfl, nofun, fun _ => by rw [hexit]; nofun⟩

/-- However the bytes were cut, what was handed on are the payloads of the data frames. -/
theorem handedOn_foldl (hgoes : ∀ s : WsStream, s.adapter = true → goesOn s = true)
    {chunks : List Bytes} (hchunks : ∀ c ∈ chunks, c ≠ []) :
    (chunks.foldl (handleInput (readLoop goesOn hset)) {}).handedOn =
      dataPayloads (decoder.drain chunks.flatten).frames := by
  have hall : ∀ p s, HasRead (readLoop goesOn hset) p s →
      HasRead (readLoop goesOn hset) (p ++ chunks.flatten)
        (chunks.foldl (handleInput (readLoop goesOn hset)) s) := by
    induction chunks with
    | nil => intro p s h; simpa using h
    | cons chunk chunks ih =>
      intro p s h
      have hstep := h.handleInput hset hgoes (hchunks chunk List.mem_cons_self)
      rw [List.flatten_cons, ← List.append_assoc]
      exact ih (fun c hc => hchunks c (List.mem_cons_of_mem _ hc)) _ _ hstep
  have hnil := decoder.drain_needMore decoder.decode_nil
  have hread := hall [] {} ⟨by rw [hnil]; rfl, fun _ => ⟨by rw [hnil]; rfl, by
    rw [ReadLoop.exit, hnil]; rfl⟩, nofun⟩
  rw [hread.handedOn, (work_handedOn hset hgoes rfl _).1]
  rfl

end WsStream

/-! ### From end to end -/

namespace Relay

/-- The byte strings of the stream `i` that leave the tunnel when `payloads` are sent. -/
def throughTunnel (i : UInt32) (payloads : List Bytes) : List Bytes :=
  SipFrame.dataOf i
    (SipFrame.codec.drain (SipFrame.codec.encodeAll (payloads.map (⟨.DATA, i, ·⟩)))).frames

/-- `AsteriskStream::write_bytes`: a masked text frame. -/
def writeBytes (bytes : Bytes) (key : UInt32) : Bytes := encode bytes 0x1 (some key)

/-- `BrowserStream::send_bytes`: a text frame. -/
def sendBytes (bytes : Bytes) : Bytes := encode bytes 0x1 none

/-- What is written to Asterisk when the browser's bytes come in these chunks. `keys` are the random
masks. -/
def toAsterisk (i : UInt32) (keys : ℕ → UInt32) (chunks : List Bytes) : Bytes :=
  let browser := chunks.foldl (WsStream.handleInput WsStream.browserLoop) {}
  ((throughTunnel i browser.handedOn).mapIdx fun n p => writeBytes p (keys n)).flatten

/-- What is written to the browser when Asterisk's bytes come in these chunks. -/
def toBrowser (i : UInt32) (chunks : List Bytes) : Bytes :=
  let asterisk := chunks.foldl (WsStream.handleInput WsStream.asteriskLoop) {}
  ((throughTunnel i asterisk.handedOn).map sendBytes).flatten

lemma fits_of_mem_drain {b : Bytes} :
    ∀ f ∈ (SipFrame.codec.drain b).frames, SipFrame.Frame.Fits f := by
  induction b using SipFrame.codec.drain_induction with
  | needMore b h => simp [SipFrame.codec.drain_needMore h]
  | invalid b h => simp [SipFrame.codec.drain_invalid h]
  | ok b f n h ih =>
    rw [SipFrame.codec.drain_ok h]
    intro g hg
    rcases List.mem_cons.mp hg with rfl | hg
    · exact (SipFrame.eq_of_decode_ok h).1
    · exact ih g hg

/-- Nothing over the cap leaves the tunnel. -/
lemma length_le_of_mem_throughTunnel {i : UInt32} {payloads : List Bytes} {p : Bytes}
    (h : p ∈ throughTunnel i payloads) : p.length ≤ SipFrame.kMaxPayload := by
  obtain ⟨f, hf, rfl⟩ := List.mem_map.mp h
  exact fits_of_mem_drain f (List.mem_of_mem_filter hf)

lemma throughTunnel_of_fits (i : UInt32) {payloads : List Bytes}
    (h : ∀ p ∈ payloads, p.length ≤ SipFrame.kMaxPayload) :
    throughTunnel i payloads = payloads := by
  have hfits : ∀ f ∈ payloads.map (⟨.DATA, i, ·⟩ : Bytes → SipFrame.Frame),
      SipFrame.codec.Fits f := by
    intro f hf
    obtain ⟨p, hp, rfl⟩ := List.mem_map.mp hf
    exact h p hp
  have hdrain := SipFrame.codec.drain_encodeAll_append hfits []
  rw [List.append_nil, SipFrame.codec.drain_needMore SipFrame.codec.decode_nil, List.append_nil]
    at hdrain
  rw [throughTunnel, hdrain]
  clear h hfits hdrain
  induction payloads with
  | nil => rfl
  | cons p ps ih =>
    rw [List.map_cons, ← List.singleton_append, SipFrame.dataOf_append, SipFrame.dataOf_self, ih]
    rfl

/-- An endpoint reads a byte string that was written as a text frame as a message. -/
lemma messages_encode_append {p : Bytes} (hp : p.length ≤ SipFrame.kMaxPayload)
    (key : Option UInt32) (r : Bytes) : messages (encode p 0x1 key ++ r) = p :: messages r := by
  have hvalid : WireFrame.Valid { opcode := 0x1, key := key, payload := p } :=
    ⟨show (0x1 : UInt8) &&& 0x0F = 0x1 by decide, lt_of_le_of_lt hp (by decide)⟩
  have hdecode := WireFrame.finDecoder_bytes hvalid r
  have hencode : encode p 0x1 key = WireFrame.bytes { opcode := 0x1, key := key, payload := p } :=
    rfl
  have hdata : ((0x1 : UInt8) &&& 0x08 != 0) = false := by decide
  rw [messages, hencode, finDecoder.drain_ok hdecode, List.drop_left]
  simp only [assemble, WireFrame.frame, Frame.isControl, hdata, Bool.false_eq_true, if_false,
    if_true, List.nil_append]
  rfl

lemma messages_writeBytes {payloads : List Bytes}
    (h : ∀ p ∈ payloads, p.length ≤ SipFrame.kMaxPayload) (keys : ℕ → UInt32) :
    messages ((payloads.mapIdx fun n p => writeBytes p (keys n)).flatten) = payloads := by
  induction payloads generalizing keys with
  | nil => rw [List.mapIdx_nil, List.flatten_nil, messages,
      finDecoder.drain_needMore finDecoder.decode_nil]; rfl
  | cons p ps ih =>
    rw [List.mapIdx_cons, List.flatten_cons, writeBytes,
      messages_encode_append (h p List.mem_cons_self),
      ih (fun q hq => h q (List.mem_cons_of_mem p hq)) fun n => keys (n + 1)]

lemma messages_sendBytes {payloads : List Bytes}
    (h : ∀ p ∈ payloads, p.length ≤ SipFrame.kMaxPayload) :
    messages (payloads.map sendBytes).flatten = payloads := by
  induction payloads with
  | nil => rw [List.map_nil, List.flatten_nil, messages,
      finDecoder.drain_needMore finDecoder.decode_nil]; rfl
  | cons p ps ih =>
    rw [List.map_cons, List.flatten_cons, sendBytes,
      messages_encode_append (h p List.mem_cons_self),
      ih fun q hq => h q (List.mem_cons_of_mem p hq)]

/-- A message that is sent in one frame, and small enough for the tunnel. -/
def Carried (m : Message) : Prop :=
  m.continuation = [] ∧ m.first.payload.length ≤ SipFrame.kMaxPayload

instance (m : Message) : Decidable (Carried m) := inferInstanceAs (Decidable (_ ∧ _))

/-- As many pieces as messages: each message is one piece. -/
lemma continuation_of_length_le {ms : List Message}
    (h : (ms.flatMap Message.fragments).length ≤ ms.length) : ∀ m ∈ ms, m.continuation = [] := by
  have hle : ∀ ms : List Message, ms.length ≤ (ms.flatMap Message.fragments).length := by
    intro ms
    induction ms with
    | nil => exact le_rfl
    | cons m ms ih =>
      simp only [List.flatMap_cons, List.length_append, List.length_cons, Message.fragments,
        List.length_map] at ih ⊢
      omega
  induction ms with
  | nil => simp
  | cons m ms ih =>
    have htail := hle ms
    simp only [List.flatMap_cons, List.length_append, List.length_cons, Message.fragments,
      List.length_map] at h htail ih
    intro x hx
    rcases List.mem_cons.mp hx with rfl | hx
    · exact List.length_eq_zero_iff.mp (by omega)
    · exact ih (by omega) x hx

/-- The pieces of the messages come out of the tunnel as the messages exactly if each message is one
piece, and fits. -/
lemma throughTunnel_fragments_iff (i : UInt32) (ms : List Message) :
    throughTunnel i (ms.flatMap Message.fragments) = ms.map Message.payload ↔
      ∀ m ∈ ms, Carried m := by
  constructor
  · intro h
    have hpayload : ∀ m ∈ ms, m.payload.length ≤ SipFrame.kMaxPayload := by
      intro m hm
      exact length_le_of_mem_throughTunnel (by rw [h]; exact List.mem_map_of_mem hm)
    have hpiece : ∀ m ∈ ms, ∀ p ∈ m.fragments, p.length ≤ SipFrame.kMaxPayload := by
      intro m hm p hp
      exact (List.Sublist.length_le (List.sublist_flatten_of_mem hp)).trans (hpayload m hm)
    rw [throughTunnel_of_fits i (fun p hp => by
      obtain ⟨m, hm, hp⟩ := List.mem_flatMap.mp hp
      exact hpiece m hm p hp)] at h
    have hlen := congrArg List.length h
    rw [List.length_map] at hlen
    intro m hm
    exact ⟨continuation_of_length_le hlen.le m hm, hpiece m hm _ List.mem_cons_self⟩
  · intro h
    have hone : ∀ m ∈ ms, m.fragments = [m.payload] := by
      intro m hm
      simp [Message.payload, Message.fragments, (h m hm).1]
    have hpieces : ms.flatMap Message.fragments = ms.map Message.payload := by
      rw [List.map_eq_flatMap]
      exact List.flatMap_congr hone
    rw [hpieces]
    apply throughTunnel_of_fits
    intro p hp
    obtain ⟨m, hm, rfl⟩ := List.mem_map.mp hp
    simpa [Message.payload, Message.fragments, (h m hm).1] using (h m hm).2

lemma messages_toAsterisk_iff {c : Conversation} (hc : c.Valid) {chunks : List Bytes}
    (hchunks : ∀ x ∈ chunks, x ≠ []) (hbytes : chunks.flatten = c.bytes) (i : UInt32)
    (keys : ℕ → UInt32) :
    messages (toAsterisk i keys chunks) = c.messages.map Message.payload ↔
      ∀ m ∈ c.messages, Carried m := by
  have hbrowser : (chunks.foldl (WsStream.handleInput WsStream.browserLoop) {}).handedOn =
      c.messages.flatMap Message.fragments := by
    rw [← c.dataPayloads_bytes hc, ← hbytes]
    exact WsStream.handedOn_foldl (fun _ _ => rfl) (fun _ _ => rfl) hchunks
  rw [toAsterisk, hbrowser, messages_writeBytes fun _ => length_le_of_mem_throughTunnel]
  exact throughTunnel_fragments_iff i c.messages

lemma messages_toBrowser_iff {c : Conversation} (hc : c.Valid) {chunks : List Bytes}
    (hchunks : ∀ x ∈ chunks, x ≠ []) (hbytes : chunks.flatten = c.bytes) (i : UInt32) :
    messages (toBrowser i chunks) = c.messages.map Message.payload ↔
      ∀ m ∈ c.messages, Carried m := by
  have hasterisk : (chunks.foldl (WsStream.handleInput WsStream.asteriskLoop) {}).handedOn =
      c.messages.flatMap Message.fragments := by
    rw [← c.dataPayloads_bytes hc, ← hbytes]
    exact WsStream.handedOn_foldl (fun _ _ => rfl) (fun _ h => h) hchunks
  rw [toBrowser, hasterisk, messages_sendBytes fun _ => length_le_of_mem_throughTunnel]
  exact throughTunnel_fragments_iff i c.messages

/-- The messages arrive one for one in either direction exactly if each of them is sent in one
frame, and fits into the tunnel. -/
theorem messages_kept_iff (c : Conversation) (hc : c.Valid) (chunks : List Bytes)
    (hchunks : ∀ x ∈ chunks, x ≠ []) (hbytes : chunks.flatten = c.bytes) (i : UInt32)
    (keys : ℕ → UInt32) :
    (messages (toAsterisk i keys chunks) = messages c.bytes ↔ ∀ m ∈ c.messages, Carried m) ∧
    (messages (toBrowser i chunks) = messages c.bytes ↔ ∀ m ∈ c.messages, Carried m) := by
  rw [c.messages_bytes hc]
  exact ⟨messages_toAsterisk_iff hc hchunks hbytes i keys,
    messages_toBrowser_iff hc hchunks hbytes i⟩

/-- A text message, a PING and another message, that are cut into three chunks. -/
def twoTexts : Conversation where
  messages := [⟨false, ⟨[], some 7, [0x41]⟩, []⟩, ⟨false, ⟨[⟨true, none, []⟩], none, [0x42]⟩, []⟩]

lemma valid_twoTexts : twoTexts.Valid := ⟨by decide, by simp [twoTexts], by simp [twoTexts]⟩

theorem messages_kept_iff_twoTexts :
    (messages (toAsterisk 1 (fun n => n.toUInt32) [[0x81], [0x81, 0, 0, 0, 7, 0x41, 0x89],
      [0, 0x81, 1, 0x42]]) = messages twoTexts.bytes ↔ ∀ m ∈ twoTexts.messages, Carried m) ∧
    (messages (toBrowser 1 [[0x81], [0x81, 0, 0, 0, 7, 0x41, 0x89], [0, 0x81, 1, 0x42]]) =
      messages twoTexts.bytes ↔ ∀ m ∈ twoTexts.messages, Carried m) :=
  messages_kept_iff twoTexts valid_twoTexts _ (by decide) (by decide) 1 _

/-- A text message in two frames. -/
def split : Conversation where
  messages := [⟨false, ⟨[], none, [0x41]⟩, [⟨[], none, [0x42]⟩]⟩]

/-- It is written as two messages, to either side. -/
theorem split_message_not_kept :
    ¬ ∀ c : Conversation, c.Valid → ∀ chunks : List Bytes, (∀ x ∈ chunks, x ≠ []) →
      chunks.flatten = c.bytes → ∀ (i : UInt32) (keys : ℕ → UInt32),
        messages (toAsterisk i keys chunks) = messages c.bytes ∧
          messages (toBrowser i chunks) = messages c.bytes := by
  intro h
  have hvalid : split.Valid := ⟨by decide, by simp [split], by simp [split]⟩
  have hkept := (h split hvalid [split.bytes] (by decide) (by simp) 1 fun _ => 0).1
  rw [split.messages_bytes hvalid,
    messages_toAsterisk_iff hvalid (by decide) (by simp) 1 fun _ => 0] at hkept
  exact absurd hkept (by decide)

end Relay
