import OnPremPbx.Framing.Decoder

/-!
# The tunnel frame format

Wire format of the multiplex tunnel between the cloud and the on-premise agent
(`sip_frame.hpp`, `sip_frame.cpp`): a fixed big-endian header of ten bytes (version, op, stream
id, payload length) and the payload.
-/

/-- A `std::string` or byte buffer of the source. -/
abbrev Bytes := List UInt8

instance : LawfulBEq Bytes := inferInstance

/-- The bytes of an ASCII literal of the source. -/
def Bytes.ofString (s : String) : Bytes := s.toList.map fun c => UInt8.ofNat c.toNat

/-- An established connection between the cloud and an agent. -/
abbrev ConnId := ℕ

namespace SipFrame

open Framing (DecodeResult)

def kVersion : UInt8 := 0x01
def kHeaderSize : ℕ := 10
def kMaxPayload : ℕ := 1 * 1024 * 1024

/-- The op-codes of a frame. -/
inductive Op where
  | OPEN
  | DATA
  | CLOSE
  | PING
  | PONG
  | ERR
  | PUSH_NOTIFY
  | CDR_PUSH
  | SUBSCRIBER_REVOKED
  | REGISTER_STATE
  | AGENT_HELLO
  | SOCIETY_BOOTSTRAP
  | ASTERISK_STATUS
  deriving DecidableEq, Repr

/-- The byte of an op-code. -/
def Op.code : Op → UInt8
  | OPEN               => 0x01
  | DATA               => 0x02
  | CLOSE              => 0x03
  | PING               => 0x04
  | PONG               => 0x05
  | ERR                => 0x06
  | PUSH_NOTIFY        => 0x10
  | CDR_PUSH           => 0x11
  | SUBSCRIBER_REVOKED => 0x12
  | REGISTER_STATE     => 0x13
  | AGENT_HELLO        => 0x14
  | SOCIETY_BOOTSTRAP  => 0x15
  | ASTERISK_STATUS    => 0x16

/-- The whitelist that `decode` keeps beside the enum. -/
def Op.whitelist : List Op :=
  [OPEN, DATA, CLOSE, PING, PONG, ERR, PUSH_NOTIFY, CDR_PUSH, SUBSCRIBER_REVOKED,
    REGISTER_STATE, AGENT_HELLO, SOCIETY_BOOTSTRAP, ASTERISK_STATUS]

/-- The whitelisted op-code of a byte. -/
def Op.ofCode (b : UInt8) : Option Op := whitelist.find? fun op => op.code = b

structure Frame where
  op : Op
  streamId : UInt32
  payload : Bytes
  deriving DecidableEq, Repr

def writeU32Be (v : UInt32) : Bytes :=
  [((v >>> 24) &&& 0xFF).toUInt8, ((v >>> 16) &&& 0xFF).toUInt8, ((v >>> 8) &&& 0xFF).toUInt8,
    (v &&& 0xFF).toUInt8]

def readU32Be (b₀ b₁ b₂ b₃ : UInt8) : UInt32 :=
  (b₀.toUInt32 <<< 24) ||| (b₁.toUInt32 <<< 16) ||| (b₂.toUInt32 <<< 8) ||| b₃.toUInt32

/-- Encode a frame to its wire bytes. The length field is the payload size cast to 32 bits; it
is not checked against `kMaxPayload`. -/
def encode (op : Op) (streamId : UInt32) (payload : Bytes) : Bytes :=
  [kVersion, op.code] ++ writeU32Be streamId ++ writeU32Be (UInt32.ofNat payload.length) ++
    payload

/-- Decode one frame from the front of a buffer. -/
def decode : Bytes → DecodeResult Frame
  | ver :: opRaw :: s₀ :: s₁ :: s₂ :: s₃ :: l₀ :: l₁ :: l₂ :: l₃ :: body =>
    if ver ≠ kVersion then .invalid
    else
      let plen := (readU32Be l₀ l₁ l₂ l₃).toNat
      match Op.ofCode opRaw with
      | none    => .invalid
      | some op =>
        if kMaxPayload < plen then .invalid
        else if body.length < plen then .needMore
        else .ok ⟨op, readU32Be s₀ s₁ s₂ s₃, body.take plen⟩ (kHeaderSize + plen)
  | _ => .needMore

def Frame.encode (f : Frame) : Bytes := SipFrame.encode f.op f.streamId f.payload

/-- The payload is within the cap of the protocol. -/
def Frame.Fits (f : Frame) : Prop := f.payload.length ≤ kMaxPayload

instance (f : Frame) : Decidable f.Fits := inferInstanceAs (Decidable (_ ≤ _))

/-! ### Header fields -/

@[simp] lemma Op.ofCode_code (op : Op) : Op.ofCode op.code = some op := by cases op <;> decide

lemma Op.code_of_ofCode {b : UInt8} {op : Op} (h : Op.ofCode b = some op) : op.code = b := by
  simpa using List.find?_some h

private lemma and_toUInt8 (v : UInt32) : (v &&& 0xFF).toUInt8 = v.toUInt8 := by
  apply UInt8.eq_of_toBitVec_eq
  simp only [UInt32.toBitVec_toUInt8, UInt32.toBitVec_and]
  ext i hi
  interval_cases i <;> simp

lemma writeU32Be_eq (v : UInt32) :
    writeU32Be v = [(v >>> 24).toUInt8, (v >>> 16).toUInt8, (v >>> 8).toUInt8, v.toUInt8] := by
  simp only [writeU32Be, and_toUInt8]

@[simp] lemma length_writeU32Be (v : UInt32) : (writeU32Be v).length = 4 := rfl

@[simp] lemma readU32Be_write (v : UInt32) :
    readU32Be (v >>> 24).toUInt8 (v >>> 16).toUInt8 (v >>> 8).toUInt8 v.toUInt8 = v := by
  apply UInt32.eq_of_toBitVec_eq
  simp [readU32Be, -UInt32.toUInt32_toUInt8]
  ext i hi
  interval_cases i <;> simp

@[simp] lemma writeU32Be_read (b₀ b₁ b₂ b₃ : UInt8) :
    writeU32Be (readU32Be b₀ b₁ b₂ b₃) = [b₀, b₁, b₂, b₃] := by
  simp only [writeU32Be_eq, List.cons.injEq, and_true]
  refine ⟨?_, ?_, ?_, ?_⟩
  all_goals
    apply UInt8.eq_of_toBitVec_eq
    ext i hi
    interval_cases i <;> simp [readU32Be]

/-! ### Encoding and decoding -/

@[simp] lemma length_encode (op : Op) (streamId : UInt32) (payload : Bytes) :
    (encode op streamId payload).length = kHeaderSize + payload.length := by
  simp [encode, kHeaderSize]
  omega

lemma decode_of_length_lt {b : Bytes} (h : b.length < kHeaderSize) : decode b = .needMore := by
  match b with
  | [] | [_] | [_, _] | [_, _, _] | [_, _, _, _] | [_, _, _, _, _] | [_, _, _, _, _, _]
  | [_, _, _, _, _, _, _] | [_, _, _, _, _, _, _, _] | [_, _, _, _, _, _, _, _, _] => rfl
  | _ :: _ :: _ :: _ :: _ :: _ :: _ :: _ :: _ :: _ :: body =>
    simp [kHeaderSize] at h
    omega

/-- Decoding a header with its fields written out and whatever follows it. -/
lemma decode_header (op : Op) (streamId len : UInt32) (body : Bytes) :
    decode ([kVersion, op.code] ++ writeU32Be streamId ++ writeU32Be len ++ body) =
      if kMaxPayload < len.toNat then .invalid
      else if body.length < len.toNat then .needMore
      else .ok ⟨op, streamId, body.take len.toNat⟩ (kHeaderSize + len.toNat) := by
  simp [writeU32Be_eq, decode]

/-- A buffer that decodes to a frame is the encoding of that frame and a tail. -/
lemma eq_of_decode_ok {b : Bytes} {f : Frame} {n : ℕ} (h : decode b = .ok f n) :
    f.Fits ∧ n = kHeaderSize + f.payload.length ∧ ∃ tail, b = f.encode ++ tail := by
  match b with
  | ver :: opRaw :: s₀ :: s₁ :: s₂ :: s₃ :: l₀ :: l₁ :: l₂ :: l₃ :: body =>
    rcases hop : Op.ofCode opRaw with _ | op
    · simp [decode, hop] at h
    · simp only [decode, hop] at h
      split_ifs at h with hver hmax hlen
      cases h
      have hpay : (body.take (readU32Be l₀ l₁ l₂ l₃).toNat).length =
          (readU32Be l₀ l₁ l₂ l₃).toNat := by
        rw [List.length_take]; omega
      refine ⟨by rw [Frame.Fits, hpay]; omega, by rw [hpay],
        body.drop (readU32Be l₀ l₁ l₂ l₃).toNat, ?_⟩
      simp only [Frame.encode, encode, hpay, UInt32.ofNat_toNat, writeU32Be_read,
        Op.code_of_ofCode hop, not_not.mp hver, List.append_assoc, List.take_append_drop]
      rfl
  | [] | [_] | [_, _] | [_, _, _] | [_, _, _, _] | [_, _, _, _, _] | [_, _, _, _, _, _]
  | [_, _, _, _, _, _, _] | [_, _, _, _, _, _, _, _] | [_, _, _, _, _, _, _, _, _] => cases h

lemma Frame.Fits.toNat_length {f : Frame} (hf : f.Fits) :
    (UInt32.ofNat f.payload.length).toNat = f.payload.length := by
  rw [Frame.Fits, kMaxPayload] at hf
  rw [UInt32.toNat_ofNat', Nat.mod_eq_of_lt (by omega)]

lemma decode_encode_append {f : Frame} (hf : f.Fits) (rest : Bytes) :
    decode (f.encode ++ rest) = .ok f (kHeaderSize + f.payload.length) := by
  have hmax : ¬ kMaxPayload < f.payload.length := not_lt.mpr hf
  rw [Frame.encode, encode, List.append_assoc, decode_header, hf.toNat_length, if_neg hmax,
    if_neg (by simp), List.take_left]

/-- The header alone gives an oversized frame away. -/
lemma decode_oversized (op : Op) (streamId : UInt32) {p : Bytes} (hmax : kMaxPayload < p.length)
    (hlen : p.length < 2 ^ 32) : decode ((encode op streamId p).take kHeaderSize) = .invalid := by
  have hnat : (UInt32.ofNat p.length).toNat = p.length := by
    rw [UInt32.toNat_ofNat', Nat.mod_eq_of_lt hlen]
  rw [encode, List.take_left' (by simp [kHeaderSize]), ← List.append_nil (_ ++ _), decode_header,
    hnat, if_pos hmax]

lemma decode_strict_prefix {f : Frame} (hf : f.Fits) {p : Bytes} (hp : p <+: f.encode)
    (hne : p ≠ f.encode) : decode p = .needMore := by
  by_cases hlen : p.length < kHeaderSize
  · exact decode_of_length_lt hlen
  · -- the header is complete and only the payload is cut
    obtain ⟨body, rfl⟩ : [kVersion, f.op.code] ++ writeU32Be f.streamId ++
        writeU32Be (UInt32.ofNat f.payload.length) <+: p :=
      List.prefix_of_prefix_length_le (List.prefix_append _ _) hp
        (by simpa [kHeaderSize] using hlen)
    rw [Frame.encode, encode, List.prefix_append_right_inj] at hp
    have hlt : body.length < f.payload.length := by
      refine lt_of_le_of_ne hp.length_le fun heq => hne ?_
      rw [hp.eq_of_length heq, Frame.encode, encode]
    rw [decode_header, hf.toNat_length, if_neg (not_lt.mpr hf), if_pos hlt]

lemma decode_invalid_append {b : Bytes} (r : Bytes) (h : decode b = .invalid) :
    decode (b ++ r) = .invalid := by
  match b with
  | ver :: opRaw :: s₀ :: s₁ :: s₂ :: s₃ :: l₀ :: l₁ :: l₂ :: l₃ :: body =>
    rcases hop : Op.ofCode opRaw with _ | op
    · simp [decode, hop]
    · simp only [decode, hop, List.cons_append] at h ⊢
      split_ifs at h ⊢ <;> rfl
  | [] | [_] | [_, _] | [_, _, _] | [_, _, _, _] | [_, _, _, _, _] | [_, _, _, _, _, _]
  | [_, _, _, _, _, _, _] | [_, _, _, _, _, _, _, _] | [_, _, _, _, _, _, _, _, _] => cases h

/-- The frame format as a codec. -/
def codec : Framing.Codec UInt8 Frame where
  decode := decode
  encode := Frame.encode
  Fits := Frame.Fits
  decode_nil := rfl
  consumed_pos h := by
    rw [(eq_of_decode_ok h).2.1, kHeaderSize]
    omega
  consumed_le h := by
    obtain ⟨-, rfl, tail, rfl⟩ := eq_of_decode_ok h
    simp [Frame.encode]
  ok_append r h := by
    obtain ⟨hf, rfl, tail, rfl⟩ := eq_of_decode_ok h
    rw [List.append_assoc, decode_encode_append hf]
  invalid_append r h := decode_invalid_append r h
  decode_encode r hf := by rw [decode_encode_append hf, Frame.encode, length_encode]
  decode_short hf hp hne := decode_strict_prefix hf hp hne
  encode_decoded h := by
    obtain ⟨-, rfl, tail, rfl⟩ := eq_of_decode_ok h
    rw [List.take_left' (by simp [Frame.encode])]

/-- Both ends of the tunnel agree on the frame format: what is encoded is decoded, whatever
follows it; a frame cut short is waited for; and only encodings are decoded. -/
theorem encode_decode_agree (op : Op) (streamId : UInt32) (p : Bytes)
    (hp : p.length ≤ kMaxPayload) :
    (∀ rest, decode (encode op streamId p ++ rest) = .ok ⟨op, streamId, p⟩ (10 + p.length)) ∧
    (∀ q, q <+: encode op streamId p → q ≠ encode op streamId p → decode q = .needMore) ∧
    (∀ buf f n, decode buf = .ok f n → encode f.op f.streamId f.payload = buf.take n) := by
  have hf : Frame.Fits ⟨op, streamId, p⟩ := hp
  refine ⟨fun rest => decode_encode_append hf rest, fun q hq hne => decode_strict_prefix hf hq hne,
    fun buf f n h => ?_⟩
  exact codec.encode_decoded h

/-- A DATA frame of one byte, followed by another byte. -/
theorem encode_decode_agree_data : decode (encode .DATA 7 [0x41] ++ [0xFF]) =
    .ok ⟨.DATA, 7, [0x41]⟩ 11 :=
  (encode_decode_agree .DATA 7 [0x41] (by decide)).1 [0xFF]

end SipFrame
