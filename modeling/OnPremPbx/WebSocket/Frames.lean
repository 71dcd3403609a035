import OnPremPbx.WebSocket.WsFrame
import OnPremPbx.Framing.Decoder

/-!
# Streams of WebSocket frames

`WsFrame.decode` as a `Framing.Decoder`: more input changes neither a frame that was taken nor an
exception. So what a byte stream holds does not depend on how it was cut.
-/

open Framing

namespace WsFrame

lemma lengthField_append {b₁ : UInt8} {buf : Bytes} {p : ℕ × ℕ} (r : Bytes)
    (h : lengthField b₁ buf = some p) : lengthField b₁ (buf ++ r) = some p := by
  simp only [lengthField, List.length_append] at h ⊢
  split_ifs at h ⊢ <;> first
    | omega
    | exact h
    | rwa [List.drop_append_of_le_length (by omega),
        List.take_append_of_le_length (by simp; omega)]

/-- More input does not change a frame that was taken. -/
lemma decode_append_ok {buf rest : Bytes} {f : Frame} (r : Bytes) (h : decode buf = .ok f rest) :
    decode (buf ++ r) = .ok f (rest ++ r) := by
  match buf with
  | b₀ :: b₁ :: tail =>
    rcases hlen : lengthField b₁ (b₀ :: b₁ :: tail) with _ | ⟨plen, headerSize⟩
    · simp [decode, hlen] at h
    · have hlen' := lengthField_append r hlen
      simp only [decode, hlen] at h
      simp only [List.cons_append] at hlen'
      simp only [List.cons_append, decode, hlen']
      generalize hsize : (if (b₁ &&& 0x80 ≠ 0) then 4 else 0) = maskSize at h ⊢
      generalize htotal : (headerSize + maskSize + plen) % 2 ^ 64 = total at h ⊢
      by_cases hmore : (b₀ :: b₁ :: tail).length < total
      · rw [if_pos hmore] at h; cases h
      by_cases hwrap : total < headerSize + maskSize
      · rw [if_neg hmore, if_pos hwrap] at h; cases h
      rw [if_neg hmore, if_neg hwrap] at h
      have hle : total ≤ (b₀ :: b₁ :: tail).length := by omega
      rw [if_neg (by simp only [List.length_cons, List.length_append] at hle ⊢; omega),
        if_neg hwrap]
      rw [← List.cons_append, ← List.cons_append, List.take_append_of_le_length hle,
        List.drop_append_of_le_length hle, List.drop_append_of_le_length (by omega),
        List.take_append_of_le_length (by rw [List.length_drop]; omega)]
      cases h
      rfl
  | [] | [_] => cases h

lemma decode_append_raises {buf : Bytes} (r : Bytes) (h : decode buf = .raises) :
    decode (buf ++ r) = .raises := by
  match buf with
  | b₀ :: b₁ :: tail =>
    rcases hlen : lengthField b₁ (b₀ :: b₁ :: tail) with _ | ⟨plen, headerSize⟩
    · simp [decode, hlen] at h
    · have hlen' := lengthField_append r hlen
      simp only [decode, hlen] at h
      simp only [List.cons_append] at hlen'
      simp only [List.cons_append, decode, hlen']
      generalize hsize : (if (b₁ &&& 0x80 ≠ 0) then 4 else 0) = maskSize at h ⊢
      generalize htotal : (headerSize + maskSize + plen) % 2 ^ 64 = total at h ⊢
      by_cases hmore : (b₀ :: b₁ :: tail).length < total
      · rw [if_pos hmore] at h; cases h
      by_cases hwrap : total < headerSize + maskSize
      · rw [if_neg (by simp only [List.length_cons, List.length_append] at hmore ⊢; omega),
          if_pos hwrap]
      · rw [if_neg hmore, if_neg hwrap] at h; cases h
  | [] | [_] => cases h

lemma decode_suffix {buf rest : Bytes} {f : Frame} (h : decode buf = .ok f rest) :
    rest <:+ buf := by
  match buf with
  | b₀ :: b₁ :: tail =>
    rcases hlen : lengthField b₁ (b₀ :: b₁ :: tail) with _ | ⟨plen, headerSize⟩
    · simp [decode, hlen] at h
    · simp only [decode, hlen] at h
      split_ifs at h <;> cases h <;> exact List.drop_suffix _ _
  | [] | [_] => cases h

/-- What `decode` takes off the front of the buffer; an exception is invalid input. -/
def consume (buf : Bytes) : Framing.DecodeResult Frame :=
  match decode buf with
  | .needMore     => .needMore
  | .raises       => .invalid
  | .ok f rest    => .ok f (buf.length - rest.length)

lemma consume_nil : consume [] = .needMore := rfl

lemma consume_eq_ok {b : Bytes} {f : Frame} {n : ℕ} (h : consume b = .ok f n) :
    ∃ rest, decode b = .ok f rest ∧ n = b.length - rest.length := by
  rw [consume] at h
  cases hd : decode b with
  | needMore | raises => rw [hd] at h; cases h
  | ok g rest =>
    rw [hd] at h
    cases h
    exact ⟨rest, rfl, rfl⟩

lemma consume_pos {b : Bytes} {f : Frame} {n : ℕ} (h : consume b = .ok f n) : 0 < n := by
  obtain ⟨rest, hd, rfl⟩ := consume_eq_ok h
  have hlt := length_rest_lt hd
  omega

lemma consume_le {b : Bytes} {f : Frame} {n : ℕ} (h : consume b = .ok f n) : n ≤ b.length := by
  obtain ⟨rest, -, rfl⟩ := consume_eq_ok h
  exact Nat.sub_le _ _

lemma consume_append_ok {b : Bytes} {f : Frame} {n : ℕ} (r : Bytes) (h : consume b = .ok f n) :
    consume (b ++ r) = .ok f n := by
  obtain ⟨rest, hd, rfl⟩ := consume_eq_ok h
  have hlen : (b ++ r).length - (rest ++ r).length = b.length - rest.length := by
    simp only [List.length_append]
    omega
  rw [consume, decode_append_ok r hd, ← hlen]

lemma consume_append_invalid {b : Bytes} (r : Bytes) (h : consume b = .invalid) :
    consume (b ++ r) = .invalid := by
  rw [consume] at h
  cases hd : decode b with
  | needMore | ok => rw [hd] at h; cases h
  | raises => rw [consume, decode_append_raises r hd]

/-- `decode` as a decoder. -/
def decoder : Decoder UInt8 Frame where
  decode := consume
  decode_nil := consume_nil
  consumed_pos := consume_pos
  consumed_le := consume_le
  ok_append := consume_append_ok
  invalid_append := consume_append_invalid

lemma decoder_needMore {buf : Bytes} (h : decode buf = .needMore) :
    decoder.decode buf = .needMore := by
  simp only [decoder, consume, h]

lemma decoder_raises {buf : Bytes} (h : decode buf = .raises) : decoder.decode buf = .invalid := by
  simp only [decoder, consume, h]

lemma decoder_ok {buf rest : Bytes} {f : Frame} (h : decode buf = .ok f rest) :
    decoder.decode buf = .ok f (buf.length - rest.length) := by
  simp only [decoder, consume, h]

lemma drain_needMore {buf : Bytes} (h : decode buf = .needMore) :
    decoder.drain buf = ⟨[], buf, true⟩ := decoder.drain_needMore (decoder_needMore h)

lemma drain_raises {buf : Bytes} (h : decode buf = .raises) :
    decoder.drain buf = ⟨[], [], false⟩ := decoder.drain_invalid (decoder_raises h)

lemma drain_ok {buf rest : Bytes} {f : Frame} (h : decode buf = .ok f rest) :
    decoder.drain buf = ⟨f :: (decoder.drain rest).frames, (decoder.drain rest).rest,
      (decoder.drain rest).valid⟩ := by
  rw [decoder.drain_ok (decoder_ok h), ← List.suffix_iff_eq_drop.mp (decode_suffix h)]

/-! ### Frames that carry data -/

/-- A text, binary or continuation frame. -/
def Frame.isData (f : Frame) : Bool := f.opcode == 0x2 || f.opcode == 0x1 || f.opcode == 0x0

/-- A frame after which the connection is given up: a close frame, or one that is unknown. -/
def Frame.ends (f : Frame) : Bool := !(f.isData || f.opcode == 0x9 || f.opcode == 0xA)

/-- The payloads of the data frames, up to the frame that ends the connection. -/
def dataPayloads (fs : List Frame) : List Bytes :=
  ((fs.takeWhile fun f => !f.ends).filter (·.isData)).map (·.payload)

lemma Frame.ends_of_isData {f : Frame} (h : f.isData = true) : f.ends = false := by
  simp [Frame.ends, h]

@[simp] lemma dataPayloads_nil : dataPayloads [] = [] := rfl

lemma dataPayloads_data {f : Frame} (h : f.isData = true) (fs : List Frame) :
    dataPayloads (f :: fs) = f.payload :: dataPayloads fs := by
  simp [dataPayloads, h, Frame.ends_of_isData h]

lemma dataPayloads_ends {f : Frame} (h : f.ends = true) (fs : List Frame) :
    dataPayloads (f :: fs) = [] := by
  simp [dataPayloads, h]

lemma dataPayloads_control {f : Frame} (hdata : f.isData = false) (h : f.ends = false)
    (fs : List Frame) : dataPayloads (f :: fs) = dataPayloads fs := by
  simp [dataPayloads, hdata, h]

/-- Frames that do not end the connection do not hide what follows. -/
lemma dataPayloads_append {fs : List Frame} (h : ∀ f ∈ fs, f.ends = false) (gs : List Frame) :
    dataPayloads (fs ++ gs) = dataPayloads fs ++ dataPayloads gs := by
  induction fs with
  | nil => rfl
  | cons f fs ih =>
    have hf := h f List.mem_cons_self
    have ih := ih fun g hg => h g (List.mem_cons_of_mem f hg)
    rw [List.cons_append]
    cases hdata : f.isData with
    | true => rw [dataPayloads_data hdata, dataPayloads_data hdata, ih, List.cons_append]
    | false => rw [dataPayloads_control hdata hf, dataPayloads_control hdata hf, ih]

/-! ### Frames on the wire -/

/-- The last `k` bytes of a number, the most significant one first. -/
def beBytes : ℕ → ℕ → Bytes
  | 0, _     => []
  | k + 1, n => UInt8.ofNat (n >>> (8 * k)) :: beBytes k n

@[simp] lemma length_beBytes (k n : ℕ) : (beBytes k n).length = k := by
  induction k with
  | zero => rfl
  | succ k ih => rw [beBytes, List.length_cons, ih]

lemma foldl_beBytes (k n acc : ℕ) :
    (beBytes k n).foldl (fun n x => n * 256 + x.toNat) acc = acc * 256 ^ k + n % 256 ^ k := by
  induction k generalizing acc with
  | zero => simp [beBytes, Nat.mod_one]
  | succ k ih =>
    have hpow : (2 : ℕ) ^ (8 * k) = 256 ^ k := by rw [pow_mul]; rfl
    have hsplit : n % 256 ^ (k + 1) = n % 256 ^ k + 256 ^ k * (n / 256 ^ k % 256) := by
      rw [pow_succ, Nat.mod_mul]
    rw [beBytes, List.foldl_cons, ih, Nat.shiftRight_eq_div_pow, hpow, UInt8.toNat_ofNat', hsplit]
    ring

lemma beNat_beBytes {k n : ℕ} (h : n < 256 ^ k) : beNat (beBytes k n) = n := by
  rw [beNat, foldl_beBytes, zero_mul, zero_add, Nat.mod_eq_of_lt h]

/-- The header of a frame after its first byte: the bit of the mask, and the payload length. -/
def lengthHeader (maskBit : UInt8) (plen : ℕ) : Bytes :=
  if plen < 126 then [maskBit ||| UInt8.ofNat plen]
  else if plen < 65536 then (maskBit ||| 126) :: beBytes 2 plen
  else (maskBit ||| 127) :: beBytes 8 plen

/-- A frame as it is on the wire: with the FIN bit, which `decode` drops, and the mask. -/
structure WireFrame where
  fin : Bool := true
  opcode : UInt8
  key : Option UInt32 := none
  payload : Bytes
  deriving DecidableEq, Repr

namespace WireFrame

/-- A frame of RFC 6455: the opcode has four bits, and the length 63. -/
structure Valid (f : WireFrame) : Prop where
  opcode : f.opcode &&& 0x0F = f.opcode
  length : f.payload.length < 2 ^ 63

def frame (f : WireFrame) : Frame := ⟨f.opcode, f.payload⟩

def bytes (f : WireFrame) : Bytes :=
  ((if f.fin then 0x80 else 0x00) ||| f.opcode) ::
    match f.key with
    | none     => lengthHeader 0x00 f.payload.length ++ f.payload
    | some key =>
      lengthHeader 0x80 f.payload.length ++ SipFrame.writeU32Be key ++
        unmask (SipFrame.writeU32Be key) f.payload

end WireFrame

/-- `encode`. The key is the one given, or the random one; there is none without a mask. -/
def encode (payload : Bytes) (opcode : UInt8) (key : Option UInt32) : Bytes :=
  (0x80 ||| (opcode &&& 0x0F)) ::
    match key with
    | none     => lengthHeader 0x00 payload.length ++ payload
    | some key =>
      lengthHeader 0x80 payload.length ++ SipFrame.writeU32Be key ++
        unmask (SipFrame.writeU32Be key) payload

lemma length_unmask (key payload : Bytes) : (unmask key payload).length = payload.length := by
  simp [unmask]

/-- Masking twice with the same key gives the payload back. -/
lemma unmask_unmask (key payload : Bytes) : unmask key (unmask key payload) = payload := by
  apply List.ext_getElem
  · simp [length_unmask]
  · intro i h₁ h₂
    simp [unmask, UInt8.xor_assoc]

/-- The second byte of a frame has its highest bit for the mask. -/
lemma maskBit_or {maskBit : UInt8} (hmask : maskBit = 0x00 ∨ maskBit = 0x80) {n : ℕ}
    (hn : n < 128) :
    (maskBit ||| UInt8.ofNat n) &&& 0x80 = maskBit ∧
      ((maskBit ||| UInt8.ofNat n) &&& 0x7F).toNat = n := by
  have hall : ∀ n : Fin 128, ∀ m ∈ [(0x00 : UInt8), 0x80],
      (m ||| UInt8.ofNat n) &&& 0x80 = m ∧ ((m ||| UInt8.ofNat n) &&& 0x7F).toNat = n := by
    decide +kernel
  exact hall ⟨n, hn⟩ maskBit (by simpa using hmask)

/-- The header of a frame is read back, with whatever follows it. -/
lemma lengthField_header {maskBit : UInt8} (hmask : maskBit = 0x00 ∨ maskBit = 0x80) {plen : ℕ}
    (hplen : plen < 2 ^ 63) :
    ∃ b₁ tail, lengthHeader maskBit plen = b₁ :: tail ∧ tail.length ≤ 8 ∧ b₁ &&& 0x80 = maskBit ∧
      ∀ (b₀ : UInt8) (r : Bytes),
        lengthField b₁ (b₀ :: b₁ :: (tail ++ r)) = some (plen, 2 + tail.length) := by
  rw [lengthHeader]
  split_ifs with hsmall hmiddle
  · obtain ⟨h80, h7f⟩ := maskBit_or hmask (show plen < 128 by omega)
    refine ⟨_, [], rfl, by simp, h80, fun b₀ r => ?_⟩
    simp only [lengthField, h7f]
    rw [if_neg (by omega), if_neg (by omega)]
    rfl
  · obtain ⟨h80, h7f⟩ := maskBit_or hmask (show 126 < 128 by omega)
    refine ⟨maskBit ||| 126, beBytes 2 plen, rfl, by simp, h80, fun b₀ r => ?_⟩
    have htake : (beBytes 2 plen ++ r).take 2 = beBytes 2 plen :=
      List.take_left' (length_beBytes 2 plen)
    have hlen : ¬ (b₀ :: (maskBit ||| 126) :: (beBytes 2 plen ++ r)).length < 4 := by
      simp
    have h7f' : ((maskBit ||| 126) &&& 0x7F).toNat = 126 := h7f
    rw [lengthField]
    simp only [List.drop_succ_cons, List.drop_zero, htake, beNat_beBytes (show plen < 256 ^ 2 by
      omega), hlen, if_false, length_beBytes]
    rw [if_pos h7f']
  · obtain ⟨h80, h7f⟩ := maskBit_or hmask (show 127 < 128 by omega)
    refine ⟨maskBit ||| 127, beBytes 8 plen, rfl, by simp, h80, fun b₀ r => ?_⟩
    have htake : (beBytes 8 plen ++ r).take 8 = beBytes 8 plen :=
      List.take_left' (length_beBytes 8 plen)
    have hlen : ¬ (b₀ :: (maskBit ||| 127) :: (beBytes 8 plen ++ r)).length < 10 := by
      simp
    rw [lengthField]
    simp only [List.drop_succ_cons, List.drop_zero, htake, beNat_beBytes (show plen < 256 ^ 8 by
      omega), hlen, if_false, length_beBytes]
    have h7f' : ((maskBit ||| 127) &&& 0x7F).toNat = 127 := h7f
    rw [if_neg (by omega), if_pos h7f']

lemma or_and_distrib (a b c : UInt8) : (a ||| b) &&& c = (a &&& c) ||| (b &&& c) := by
  apply UInt8.eq_of_toBitVec_eq
  ext i
  simp only [UInt8.toBitVec_and, UInt8.toBitVec_or, BitVec.getElem_and, BitVec.getElem_or,
    Bool.and_or_distrib_right]

/-- `decode` takes the header, the mask and the payload apart again. -/
lemma decode_parts (b₀ b₁ : UInt8) {tail : Bytes} (key p r : Bytes) (htail : tail.length ≤ 8)
    (hkey : key.length = if b₁ &&& 0x80 ≠ 0 then 4 else 0) (hp : p.length < 2 ^ 63)
    (hfield : lengthField b₁ (b₀ :: b₁ :: (tail ++ (key ++ p ++ r))) =
      some (p.length, 2 + tail.length)) :
    decode (b₀ :: b₁ :: (tail ++ (key ++ p ++ r))) =
      .ok ⟨b₀ &&& 0x0F, if b₁ &&& 0x80 ≠ 0 then unmask key p else p⟩ r := by
  have hsize : key.length ≤ 4 := by rw [hkey]; split_ifs <;> omega
  have htotal : (2 + tail.length + key.length + p.length) % 2 ^ 64 =
      2 + tail.length + key.length + p.length := Nat.mod_eq_of_lt (by omega)
  have hbuf : b₀ :: b₁ :: (tail ++ (key ++ p ++ r)) = (b₀ :: b₁ :: tail ++ key ++ p) ++ r := by simp
  have hlen : (b₀ :: b₁ :: tail ++ key ++ p).length = 2 + tail.length + key.length + p.length := by
    simp only [List.length_append, List.length_cons]
    omega
  have hdrop : (b₀ :: b₁ :: tail ++ key ++ p).drop (2 + tail.length + key.length) = p :=
    List.drop_left' (by simp only [List.length_append, List.length_cons]; omega)
  have hkeys : ((b₀ :: b₁ :: tail ++ key ++ p ++ r).drop (2 + tail.length)).take key.length =
      key := by
    rw [List.append_assoc, List.append_assoc, List.drop_left' (by simp; omega),
      List.take_left]
  simp only [decode, hfield, ← hkey, htotal]
  rw [hbuf, if_neg (by rw [List.length_append, hlen]; omega), if_neg (by omega),
    List.take_left' hlen, List.drop_left' hlen, hdrop, hkeys]

/-- A frame of the wire is read back, without its FIN bit. -/
theorem decode_bytes {f : WireFrame} (hf : f.Valid) (r : Bytes) :
    decode (f.bytes ++ r) = .ok f.frame r := by
  have hop : ((if f.fin then (0x80 : UInt8) else 0x00) ||| f.opcode) &&& 0x0F = f.opcode := by
    have hzero : (if f.fin then (0x80 : UInt8) else 0x00) &&& 0x0F = 0 := by cases f.fin <;> rfl
    rw [or_and_distrib, hzero, UInt8.zero_or, hf.opcode]
  cases hkey : f.key with
  | none =>
    obtain ⟨b₁, tail, hheader, htail, hmask, hfield⟩ := lengthField_header (.inl rfl) hf.length
    have hparts := decode_parts ((if f.fin then 0x80 else 0x00) ||| f.opcode) b₁ [] _ r htail
      (by simp [hmask]) hf.length (hfield _ _)
    simpa only [WireFrame.bytes, WireFrame.frame, hkey, hheader, List.cons_append,
      List.append_assoc, List.nil_append, hmask, hop, ne_eq, not_true_eq_false, if_false]
      using hparts
  | some key =>
    obtain ⟨b₁, tail, hheader, htail, hmask, hfield⟩ := lengthField_header (.inr rfl) hf.length
    have hparts := decode_parts ((if f.fin then 0x80 else 0x00) ||| f.opcode) b₁
      (SipFrame.writeU32Be key) (unmask (SipFrame.writeU32Be key) f.payload) r
      htail (by simp [hmask]) (by rw [length_unmask]; exact hf.length)
      (by rw [length_unmask]; exact hfield _ _)
    have h80 : ¬ (0x80 : UInt8) = 0 := by decide
    simpa only [WireFrame.bytes, WireFrame.frame, hkey, hheader, List.cons_append,
      List.append_assoc, hmask, hop, ne_eq, h80, not_false_eq_true, if_true, unmask_unmask]
      using hparts

end WsFrame
