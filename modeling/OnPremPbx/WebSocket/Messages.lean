import OnPremPbx.WebSocket.Frames

/-!
# WebSocket messages

A message of RFC 6455 is one frame with the FIN bit, or a first frame without it and continuation
frames of which the last one has it; control frames may stand between them. `messages` is what an
endpoint that follows the RFC reads from a byte stream, and `Message` is what a peer sends.
-/

open Framing

namespace WsFrame

/-- A frame with its FIN bit. -/
def finDecoder : Decoder UInt8 (Bool × Frame) where
  decode buf :=
    match decoder.decode buf with
    | .needMore => .needMore
    | .invalid  => .invalid
    | .ok f n   => .ok (buf.headD 0 &&& 0x80 != 0, f) n
  decode_nil := rfl
  consumed_pos {b f n} h := by
    cases hd : decoder.decode b with
    | needMore | invalid => rw [hd] at h; cases h
    | ok g m => rw [hd] at h; cases h; exact decoder.consumed_pos hd
  consumed_le {b f n} h := by
    cases hd : decoder.decode b with
    | needMore | invalid => rw [hd] at h; cases h
    | ok g m => rw [hd] at h; cases h; exact decoder.consumed_le hd
  ok_append {b f n} r h := by
    cases hd : decoder.decode b with
    | needMore | invalid => rw [hd] at h; cases h
    | ok g m =>
      rw [hd] at h
      cases h
      match b with
      | []     => cases decoder.decode_nil.symm.trans hd
      | x :: b => rw [decoder.ok_append r hd]; rfl
  invalid_append {b} r h := by
    cases hd : decoder.decode b with
    | needMore | ok => rw [hd] at h; cases h
    | invalid => rw [decoder.invalid_append r hd]

def Frame.isControl (f : Frame) : Bool := f.opcode &&& 0x08 != 0

/-- The messages that frames make up, after the part `acc` of the first of them. -/
def assemble (acc : Bytes) : List (Bool × Frame) → List Bytes
  | []             => []
  | (fin, f) :: fs =>
    if f.isControl then assemble acc fs
    else if fin then (acc ++ f.payload) :: assemble [] fs
    else assemble (acc ++ f.payload) fs

/-- The messages that a byte stream carries. -/
def messages (b : Bytes) : List Bytes := assemble [] (finDecoder.drain b).frames

namespace WireFrame

lemma decoder_bytes {f : WireFrame} (hf : f.Valid) (r : Bytes) :
    decoder.decode (f.bytes ++ r) = .ok f.frame f.bytes.length := by
  rw [decoder_ok (decode_bytes hf r), List.length_append, Nat.add_sub_cancel]

lemma finDecoder_bytes {f : WireFrame} (hf : f.Valid) (r : Bytes) :
    finDecoder.decode (f.bytes ++ r) = .ok (f.fin, f.frame) f.bytes.length := by
  have hop : f.opcode &&& 0x80 = 0 := by
    rw [← hf.opcode, UInt8.and_assoc]
    exact UInt8.and_zero
  have hhead : (f.bytes ++ r).headD 0 &&& 0x80 = if f.fin then 0x80 else 0x00 := by
    rw [bytes, List.cons_append, List.headD_cons, or_and_distrib, hop, UInt8.or_zero]
    cases f.fin <;> rfl
  simp only [finDecoder, decoder_bytes hf r, hhead]
  cases f.fin <;> rfl

/-- A stream of frames is read back, with whatever follows it. -/
lemma drain_bytes_append {fs : List WireFrame} (hfs : ∀ f ∈ fs, f.Valid) (r : Bytes) :
    decoder.drain (fs.flatMap bytes ++ r) =
      ⟨fs.map frame ++ (decoder.drain r).frames, (decoder.drain r).rest,
        (decoder.drain r).valid⟩ := by
  induction fs with
  | nil => rfl
  | cons f fs ih =>
    have hf := decoder_bytes (hfs f List.mem_cons_self) (fs.flatMap bytes ++ r)
    rw [List.flatMap_cons, List.append_assoc, decoder.drain_ok hf, List.drop_left,
      ih fun g hg => hfs g (List.mem_cons_of_mem f hg)]
    rfl

lemma drain_bytes {fs : List WireFrame} (hfs : ∀ f ∈ fs, f.Valid) :
    decoder.drain (fs.flatMap bytes) = ⟨fs.map frame, [], true⟩ := by
  have h := drain_bytes_append hfs []
  rwa [List.append_nil, decoder.drain_needMore decoder.decode_nil, List.append_nil] at h

lemma finDrain_bytes {fs : List WireFrame} (hfs : ∀ f ∈ fs, f.Valid) :
    finDecoder.drain (fs.flatMap bytes) = ⟨fs.map fun f => (f.fin, f.frame), [], true⟩ := by
  induction fs with
  | nil => exact finDecoder.drain_needMore finDecoder.decode_nil
  | cons f fs ih =>
    have hf := finDecoder_bytes (hfs f List.mem_cons_self) (fs.flatMap bytes)
    rw [List.flatMap_cons, finDecoder.drain_ok hf, List.drop_left,
      ih fun g hg => hfs g (List.mem_cons_of_mem f hg)]
    rfl

end WireFrame

/-! ### What a peer sends -/

/-- A PING or PONG frame. -/
structure Control where
  ping : Bool
  key : Option UInt32
  payload : Bytes
  deriving DecidableEq, Repr

def Control.frame (c : Control) : WireFrame :=
  { opcode := if c.ping then 0x9 else 0xA, key := c.key, payload := c.payload }

/-- A frame of a message, after control frames. -/
structure Fragment where
  before : List Control
  key : Option UInt32
  payload : Bytes
  deriving DecidableEq, Repr

def Fragment.frames (fin : Bool) (opcode : UInt8) (f : Fragment) : List WireFrame :=
  f.before.map Control.frame ++
    [{ fin := fin, opcode := opcode, key := f.key, payload := f.payload }]

/-- A text or binary message, in one frame or more. -/
structure Message where
  binary : Bool
  first : Fragment
  continuation : List Fragment
  deriving DecidableEq, Repr

namespace Message

/-- The frames of the message after the first one. -/
def continuationFrames : List Fragment → List WireFrame
  | []      => []
  | f :: fs => f.frames fs.isEmpty 0x0 ++ continuationFrames fs

def frames (m : Message) : List WireFrame :=
  m.first.frames m.continuation.isEmpty (if m.binary then 0x2 else 0x1) ++
    continuationFrames m.continuation

/-- The payloads of the frames of the message. -/
def fragments (m : Message) : List Bytes := (m.first :: m.continuation).map (·.payload)

def payload (m : Message) : Bytes := m.fragments.flatten

/-- Lengths that the frame header can hold. -/
def Valid (m : Message) : Prop :=
  ∀ f ∈ m.first :: m.continuation, f.payload.length < 2 ^ 63 ∧
    ∀ c ∈ f.before, c.payload.length < 2 ^ 63

instance (m : Message) : Decidable m.Valid := inferInstanceAs (Decidable (∀ _ ∈ _, _))

end Message

/-- Messages, and the control frames after them. A CLOSE frame may come last. -/
structure Conversation where
  messages : List Message
  after : List Control := []
  close : Option (Option UInt32 × Bytes) := none
  deriving DecidableEq, Repr

namespace Conversation

def closeFrame (c : Conversation) : List WireFrame :=
  (c.close.map fun x => { opcode := 0x8, key := x.1, payload := x.2 : WireFrame }).toList

def frames (c : Conversation) : List WireFrame :=
  c.messages.flatMap Message.frames ++ c.after.map Control.frame ++ c.closeFrame

def bytes (c : Conversation) : Bytes := c.frames.flatMap WireFrame.bytes

structure Valid (c : Conversation) : Prop where
  messages : ∀ m ∈ c.messages, m.Valid
  after : ∀ x ∈ c.after, x.payload.length < 2 ^ 63
  close : ∀ x ∈ c.close, x.2.length < 2 ^ 63

end Conversation

/-! ### What the frames carry -/

/-- The frame with its FIN bit, as an endpoint reads it. -/
def WireFrame.read (f : WireFrame) : Bool × Frame := (f.fin, f.frame)

lemma Control.opcode_frame (c : Control) : c.frame.opcode = 0x9 ∨ c.frame.opcode = 0xA := by
  rw [Control.frame]
  cases c.ping
  · exact .inr rfl
  · exact .inl rfl

lemma Control.valid_frame {c : Control} (h : c.payload.length < 2 ^ 63) : c.frame.Valid := by
  refine ⟨?_, h⟩
  rcases c.opcode_frame with hop | hop <;> rw [hop] <;> rfl

/-- Control frames stand between the frames of a message without changing it. -/
lemma assemble_controls (acc : Bytes) (cs : List Control) (fs : List (Bool × Frame)) :
    assemble acc ((cs.map Control.frame).map WireFrame.read ++ fs) = assemble acc fs := by
  induction cs with
  | nil => rfl
  | cons c cs ih =>
    have hc : (c.frame.opcode &&& 0x08 != 0) = true := by
      rcases c.opcode_frame with hop | hop <;> rw [hop] <;> decide
    rw [List.map_cons, List.map_cons, List.cons_append, ← ih]
    exact if_pos hc

lemma assemble_fragment (acc : Bytes) {fin : Bool} {opcode : UInt8} (hop : opcode &&& 0x08 = 0)
    (f : Fragment) (fs : List (Bool × Frame)) :
    assemble acc ((f.frames fin opcode).map WireFrame.read ++ fs) =
      if fin then (acc ++ f.payload) :: assemble [] fs else assemble (acc ++ f.payload) fs := by
  rw [Fragment.frames, List.map_append, List.append_assoc, assemble_controls]
  have hdata : (Frame.mk opcode f.payload).isControl = false := by simp [Frame.isControl, hop]
  simp [assemble, WireFrame.read, WireFrame.frame, hdata]

lemma assemble_continuation (acc : Bytes) {cs : List Fragment} (hcs : cs ≠ [])
    (fs : List (Bool × Frame)) :
    assemble acc ((Message.continuationFrames cs).map WireFrame.read ++ fs) =
      (acc ++ (cs.map (·.payload)).flatten) :: assemble [] fs := by
  induction cs generalizing acc with
  | nil => exact absurd rfl hcs
  | cons f cs ih =>
    rw [Message.continuationFrames, List.map_append, List.append_assoc,
      assemble_fragment acc (by rfl)]
    cases cs with
    | nil => simp [Message.continuationFrames]
    | cons g cs =>
      rw [List.isEmpty_cons, if_neg Bool.false_ne_true, ih _ (List.cons_ne_nil g cs)]
      simp

lemma assemble_message (m : Message) (fs : List (Bool × Frame)) :
    assemble [] (m.frames.map WireFrame.read ++ fs) = m.payload :: assemble [] fs := by
  have hop : (if m.binary then (0x2 : UInt8) else 0x1) &&& 0x08 = 0 := by
    cases m.binary <;> rfl
  rw [Message.frames, List.map_append, List.append_assoc, assemble_fragment [] hop]
  cases hcs : m.continuation with
  | nil => simp [Message.continuationFrames, Message.payload, Message.fragments, hcs]
  | cons f cs =>
    rw [List.isEmpty_cons, if_neg Bool.false_ne_true, assemble_continuation _
      (List.cons_ne_nil f cs)]
    simp [Message.payload, Message.fragments, hcs]

lemma assemble_messages (ms : List Message) (fs : List (Bool × Frame)) :
    assemble [] ((ms.flatMap Message.frames).map WireFrame.read ++ fs) =
      ms.map Message.payload ++ assemble [] fs := by
  induction ms with
  | nil => rfl
  | cons m ms ih =>
    rw [List.flatMap_cons, List.map_append, List.append_assoc, assemble_message, ih]
    rfl

lemma dataPayloads_controls (cs : List Control) (fs : List Frame) :
    dataPayloads ((cs.map Control.frame).map WireFrame.frame ++ fs) = dataPayloads fs := by
  induction cs with
  | nil => rfl
  | cons c cs ih =>
    rw [List.map_cons, List.map_cons, List.cons_append, dataPayloads_control, ih]
    all_goals
      rcases c.opcode_frame with hop | hop <;>
        simp [Frame.isData, Frame.ends, WireFrame.frame, hop]

lemma dataPayloads_fragment {fin : Bool} {opcode : UInt8} (f : Fragment)
    (hop : (Frame.mk opcode f.payload).isData = true) (fs : List Frame) :
    dataPayloads ((f.frames fin opcode).map WireFrame.frame ++ fs) =
      f.payload :: dataPayloads fs := by
  rw [Fragment.frames, List.map_append, List.append_assoc, dataPayloads_controls, List.map_cons,
    List.cons_append]
  exact dataPayloads_data hop fs

lemma dataPayloads_continuation (cs : List Fragment) (fs : List Frame) :
    dataPayloads ((Message.continuationFrames cs).map WireFrame.frame ++ fs) =
      cs.map (·.payload) ++ dataPayloads fs := by
  induction cs with
  | nil => rfl
  | cons f cs ih =>
    rw [Message.continuationFrames, List.map_append, List.append_assoc,
      dataPayloads_fragment f rfl, ih]
    rfl

/-- Each frame of a message is a piece of data of its own. -/
lemma dataPayloads_messages (ms : List Message) (fs : List Frame) :
    dataPayloads ((ms.flatMap Message.frames).map WireFrame.frame ++ fs) =
      ms.flatMap Message.fragments ++ dataPayloads fs := by
  induction ms with
  | nil => rfl
  | cons m ms ih =>
    have hop : (Frame.mk (if m.binary then 0x2 else 0x1) m.first.payload).isData = true := by
      cases m.binary <;> rfl
    rw [List.flatMap_cons, Message.frames, List.map_append, List.map_append, List.append_assoc,
      List.append_assoc, dataPayloads_fragment _ hop, dataPayloads_continuation, ih]
    simp [Message.fragments]

lemma Fragment.valid_frames {f : Fragment} {fin : Bool} {opcode : UInt8}
    (hop : opcode &&& 0x0F = opcode) (hlen : f.payload.length < 2 ^ 63)
    (hbefore : ∀ c ∈ f.before, c.payload.length < 2 ^ 63) :
    ∀ w ∈ f.frames fin opcode, w.Valid := by
  intro w hw
  rcases List.mem_append.mp hw with hw | hw
  · obtain ⟨c, hc, rfl⟩ := List.mem_map.mp hw
    exact Control.valid_frame (hbefore c hc)
  · rw [List.mem_singleton] at hw
    subst hw
    exact ⟨hop, hlen⟩

lemma Message.valid_continuationFrames {cs : List Fragment}
    (h : ∀ f ∈ cs, f.payload.length < 2 ^ 63 ∧ ∀ c ∈ f.before, c.payload.length < 2 ^ 63) :
    ∀ w ∈ continuationFrames cs, w.Valid := by
  induction cs with
  | nil => simp [continuationFrames]
  | cons f cs ih =>
    intro w hw
    have hf := h f List.mem_cons_self
    rcases List.mem_append.mp hw with hw | hw
    · exact Fragment.valid_frames rfl hf.1 hf.2 w hw
    · exact ih (fun g hg => h g (List.mem_cons_of_mem f hg)) w hw

lemma Message.Valid.frames {m : Message} (h : m.Valid) : ∀ w ∈ m.frames, w.Valid := by
  intro w hw
  have hfirst := h m.first List.mem_cons_self
  have hop : (if m.binary then (0x2 : UInt8) else 0x1) &&& 0x0F =
      if m.binary then 0x2 else 0x1 := by cases m.binary <;> rfl
  rcases List.mem_append.mp hw with hw | hw
  · exact Fragment.valid_frames hop hfirst.1 hfirst.2 w hw
  · exact valid_continuationFrames (fun f hf => h f (List.mem_cons_of_mem _ hf)) w hw

namespace Conversation

variable {c : Conversation}

lemma Valid.frames (h : c.Valid) : ∀ f ∈ c.frames, f.Valid := by
  intro f hf
  simp only [Conversation.frames, List.mem_append, List.mem_flatMap, List.mem_map, closeFrame,
    Option.mem_toList, Option.map_eq_some_iff] at hf
  rcases hf with (⟨m, hm, hf⟩ | ⟨x, hx, rfl⟩) | ⟨x, hx, rfl⟩
  · exact (h.messages m hm).frames f hf
  · exact Control.valid_frame (h.after x hx)
  · exact ⟨show (0x8 : UInt8) &&& 0x0F = 0x8 by decide, h.close x hx⟩

lemma read_closeFrame (c : Conversation) :
    assemble [] (c.closeFrame.map WireFrame.read) = [] := by
  have hcontrol : ((0x8 : UInt8) &&& 0x08 != 0) = true := by decide
  rw [closeFrame]
  cases c.close with
  | none => rfl
  | some x => exact if_pos hcontrol

lemma dataPayloads_closeFrame (c : Conversation) :
    dataPayloads (c.closeFrame.map WireFrame.frame) = [] := by
  rw [closeFrame]
  cases c.close <;> rfl

/-- An endpoint that follows the RFC reads the messages of the conversation. -/
theorem messages_bytes (h : c.Valid) :
    WsFrame.messages c.bytes = c.messages.map Message.payload := by
  have hread : c.frames.map (fun f => (f.fin, f.frame)) = c.frames.map WireFrame.read := rfl
  rw [WsFrame.messages, bytes, WireFrame.finDrain_bytes h.frames, hread, frames, List.map_append,
    List.map_append, List.append_assoc, assemble_messages, assemble_controls, read_closeFrame,
    List.append_nil]

lemma dataPayloads_bytes (h : c.Valid) :
    dataPayloads (decoder.drain c.bytes).frames = c.messages.flatMap Message.fragments := by
  rw [bytes, WireFrame.drain_bytes h.frames, frames, List.map_append,
    List.map_append, List.append_assoc, dataPayloads_messages, dataPayloads_controls,
    dataPayloads_closeFrame, List.append_nil]

end Conversation

end WsFrame
