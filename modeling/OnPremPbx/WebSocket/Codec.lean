import OnPremPbx.WebSocket.Frames

/-!
# The codec of WebSocket frames

What `decode` takes off a buffer is a whole frame, unless the length that the buffer declares makes
the size of the frame wrap around; and what `encode` writes is read back, however it is cut.
-/

open Framing

namespace WsFrame

/-! ### Frames by their parts -/

/-- The bytes of the length field after the second byte declare `n`. -/
def Declares (b₁ : UInt8) (ext : Bytes) (n : ℕ) : Prop :=
  if (b₁ &&& 0x7F).toNat = 126 then ext.length = 2 ∧ n = beNat ext
  else if (b₁ &&& 0x7F).toNat = 127 then ext.length = 8 ∧ n = beNat ext
  else ext = [] ∧ n = (b₁ &&& 0x7F).toNat

def maskSize (b₁ : UInt8) : ℕ := if b₁ &&& 0x80 ≠ 0 then 4 else 0

/-- `p` is a whole frame: two bytes, the rest of the length, the key of a mask, and as much data as
was declared. -/
def Encodes (p : Bytes) (f : Frame) : Prop :=
  ∃ b₀ b₁ ext key data, p = b₀ :: b₁ :: (ext ++ (key ++ data)) ∧ Declares b₁ ext data.length ∧
    key.length = maskSize b₁ ∧
    f = ⟨b₀ &&& 0x0F, if b₁ &&& 0x80 ≠ 0 then unmask key data else data⟩

/-- `decode` waits for more, or it takes a whole frame off the front of the buffer. -/
def Sound (buf : Bytes) : Prop :=
  match decode buf with
  | .needMore  => True
  | .raises    => False
  | .ok f rest => ∃ p, buf = p ++ rest ∧ 2 ≤ p.length ∧ Encodes p f

/-- The buffer declares a length of 64 bits that makes the size of the frame wrap around, and it
has the bytes of the size that is left. -/
def Overflows (buf : Bytes) : Prop :=
  ∃ b₀ b₁ ext tail, buf = b₀ :: b₁ :: (ext ++ tail) ∧ (b₁ &&& 0x7F).toNat = 127 ∧
    ext.length = 8 ∧ 2 ^ 64 ≤ 10 + maskSize b₁ + beNat ext ∧
    10 + maskSize b₁ + beNat ext - 2 ^ 64 ≤ buf.length

/-- A loop over `decode` takes these frames and leaves `rest`. -/
inductive Takes : Bytes → List Frame → Bytes → Prop
  | nil (b : Bytes) : Takes b [] b
  | cons {b b' rest : Bytes} {f : Frame} {fs : List Frame} (hf : decode b = .ok f b')
    (hfs : Takes b' fs rest) : Takes b (f :: fs) rest

lemma maskSize_le (b₁ : UInt8) : maskSize b₁ ≤ 4 := by
  rw [maskSize]
  split_ifs <;> omega

lemma beNat_lt (b : Bytes) : beNat b < 256 ^ b.length := by
  have hfold : ∀ (b : Bytes) (n : ℕ), b.foldl (fun n x => n * 256 + x.toNat) n <
      (n + 1) * 256 ^ b.length := by
    intro b
    induction b with
    | nil => exact fun n => by simp
    | cons x b ih =>
      intro n
      have hx := x.toNat_lt
      rw [List.foldl_cons, List.length_cons, pow_succ]
      calc b.foldl (fun n x => n * 256 + x.toNat) (n * 256 + x.toNat)
          < (n * 256 + x.toNat + 1) * 256 ^ b.length := ih _
        _ ≤ ((n + 1) * 256) * 256 ^ b.length := Nat.mul_le_mul_right _ (by omega)
        _ = (n + 1) * (256 ^ b.length * 256) := by ring
  simpa [beNat] using hfold b 0

/-- The length that a buffer declares, by the bytes that declare it. -/
lemma lengthField_eq_some {b₀ b₁ : UInt8} {tail : Bytes} {plen headerSize : ℕ}
    (h : lengthField b₁ (b₀ :: b₁ :: tail) = some (plen, headerSize)) :
    ∃ ext r, tail = ext ++ r ∧ Declares b₁ ext plen ∧ headerSize = 2 + ext.length := by
  simp only [lengthField, List.drop_succ_cons, List.drop_zero, List.length_cons] at h
  simp only [Declares]
  split_ifs at h ⊢ with hmiddle hshort hlong hshort
  · cases h
    refine ⟨tail.take 2, tail.drop 2, (List.take_append_drop 2 tail).symm, ⟨?_, rfl⟩, ?_⟩ <;>
      rw [List.length_take] <;> omega
  · cases h
    refine ⟨tail.take 8, tail.drop 8, (List.take_append_drop 8 tail).symm, ⟨?_, rfl⟩, ?_⟩ <;>
      rw [List.length_take] <;> omega
  · cases h
    exact ⟨[], tail, rfl, ⟨rfl, rfl⟩, rfl⟩

lemma lengthField_of_declares {b₁ : UInt8} {ext : Bytes} {plen : ℕ} (h : Declares b₁ ext plen)
    (b₀ : UInt8) (r : Bytes) :
    lengthField b₁ (b₀ :: b₁ :: (ext ++ r)) = some (plen, 2 + ext.length) := by
  simp only [Declares] at h
  simp only [lengthField, List.drop_succ_cons, List.drop_zero, List.length_cons,
    List.length_append]
  split_ifs at h ⊢ with hmiddle hshort hlong hshort
  · omega
  · rw [List.take_left' h.1, h.1, h.2]
  · omega
  · rw [List.take_left' h.1, h.1, h.2]
  · rw [h.1, h.2]
    rfl

/-- Only a length of 64 bits makes the size wrap around. -/
lemma declares_lt {b₁ : UInt8} {ext : Bytes} {plen : ℕ} (h : Declares b₁ ext plen) :
    plen < 2 ^ 64 ∧
      (2 ^ 64 ≤ 2 + ext.length + maskSize b₁ + plen →
        (b₁ &&& 0x7F).toNat = 127 ∧ ext.length = 8 ∧ plen = beNat ext) := by
  have hmask := maskSize_le b₁
  have hlt := beNat_lt ext
  have h7f : (b₁ &&& 0x7F).toNat < 256 := (b₁ &&& 0x7F).toNat_lt
  rw [Declares] at h
  split_ifs at h with hmiddle hlong
  · rw [h.1] at hlt
    omega
  · rw [h.1] at hlt
    exact ⟨by omega, fun _ => ⟨hlong, h⟩⟩
  · rw [h.1, List.length_nil]
    omega

lemma ext_length_le {b₁ : UInt8} {ext : Bytes} {plen : ℕ} (h : Declares b₁ ext plen) :
    ext.length ≤ 8 := by
  rw [Declares] at h
  split_ifs at h <;> simp [h.1]

/-- The size of a frame, as it is computed. -/
def totalOf (b₁ : UInt8) (ext : Bytes) (plen : ℕ) : ℕ :=
  (2 + ext.length + maskSize b₁ + plen) % 2 ^ 64

variable {b₀ b₁ : UInt8} {ext : Bytes} {plen : ℕ}

lemma decode_needMore (h : Declares b₁ ext plen) {r : Bytes}
    (hmore : (b₀ :: b₁ :: (ext ++ r)).length < totalOf b₁ ext plen) :
    decode (b₀ :: b₁ :: (ext ++ r)) = .needMore := by
  simp only [decode, lengthField_of_declares h]
  exact if_pos hmore

lemma decode_raises (h : Declares b₁ ext plen) {r : Bytes}
    (hmore : ¬ (b₀ :: b₁ :: (ext ++ r)).length < totalOf b₁ ext plen)
    (hwrap : totalOf b₁ ext plen < 2 + ext.length + maskSize b₁) :
    decode (b₀ :: b₁ :: (ext ++ r)) = .raises := by
  simp only [decode, lengthField_of_declares h]
  exact (if_neg hmore).trans (if_pos hwrap)

/-- A whole frame is taken. -/
lemma decode_whole (h : Declares b₁ ext plen) {key data : Bytes} (rest : Bytes)
    (hkey : key.length = maskSize b₁) (hdata : data.length = plen)
    (hsize : 2 + ext.length + maskSize b₁ + plen < 2 ^ 64) :
    decode (b₀ :: b₁ :: (ext ++ (key ++ data ++ rest))) =
      .ok ⟨b₀ &&& 0x0F, if b₁ &&& 0x80 ≠ 0 then unmask key data else data⟩ rest := by
  have htotal : (2 + ext.length + key.length + data.length) % 2 ^ 64 =
      2 + ext.length + key.length + data.length :=
    Nat.mod_eq_of_lt (by rw [hkey, hdata]; exact hsize)
  have hbuf : b₀ :: b₁ :: (ext ++ (key ++ data ++ rest)) =
      (b₀ :: b₁ :: ext ++ key ++ data) ++ rest := by simp
  have hlen : (b₀ :: b₁ :: ext ++ key ++ data).length =
      2 + ext.length + key.length + data.length := by
    simp only [List.length_append, List.length_cons]
    omega
  have hdrop : (b₀ :: b₁ :: ext ++ key ++ data).drop (2 + ext.length + key.length) = data :=
    List.drop_left' (by simp only [List.length_append, List.length_cons]; omega)
  have hkeys : ((b₀ :: b₁ :: ext ++ key ++ data ++ rest).drop (2 + ext.length)).take key.length =
      key := by
    rw [List.append_assoc, List.append_assoc, List.drop_left' (by simp; omega), List.take_left]
  rw [maskSize] at hkey
  simp only [decode, lengthField_of_declares h, ← hkey, ← hdata, htotal]
  rw [hbuf, if_neg (by rw [List.length_append, hlen]; omega), if_neg (by omega),
    List.take_left' hlen, List.drop_left' hlen, hdrop, hkeys]

/-- The bytes after the length field, where they are enough. -/
lemma split_tail {r : Bytes} (h : maskSize b₁ + plen ≤ r.length) :
    ∃ key data rest, r = key ++ data ++ rest ∧ key.length = maskSize b₁ ∧ data.length = plen := by
  refine ⟨r.take (maskSize b₁), (r.drop (maskSize b₁)).take plen,
    (r.drop (maskSize b₁)).drop plen, ?_, ?_, ?_⟩
  · rw [List.append_assoc, List.take_append_drop, List.take_append_drop]
  · rw [List.length_take]
    omega
  · rw [List.length_take, List.length_drop]
    omega

lemma overflows_iff (h : Declares b₁ ext plen) (r : Bytes) :
    Overflows (b₀ :: b₁ :: (ext ++ r)) ↔
      2 ^ 64 ≤ 2 + ext.length + maskSize b₁ + plen ∧
        ¬ (b₀ :: b₁ :: (ext ++ r)).length < totalOf b₁ ext plen := by
  have hlt := declares_lt h
  have hmask := maskSize_le b₁
  have htotal : 2 ^ 64 ≤ 2 + ext.length + maskSize b₁ + plen →
      totalOf b₁ ext plen = 2 + ext.length + maskSize b₁ + plen - 2 ^ 64 := fun hwrap => by
    have hext := (hlt.2 hwrap).2.1
    rw [totalOf, Nat.mod_eq_sub_mod hwrap, Nat.mod_eq_of_lt (by omega)]
  constructor
  · rintro ⟨c₀, c₁, ext', tail, hbuf, hlong, hext, hwrap, hmore⟩
    rw [List.cons.injEq, List.cons.injEq] at hbuf
    obtain ⟨rfl, rfl, htail⟩ := hbuf
    rw [Declares, if_neg (by omega), if_pos hlong] at h
    obtain ⟨rfl, -⟩ := List.append_inj htail (h.1.trans hext.symm)
    have hplen : 2 + ext.length + maskSize b₁ + plen = 10 + maskSize b₁ + beNat ext := by
      rw [h.1, h.2]
    rw [hplen] at htotal ⊢
    rw [htotal hwrap]
    exact ⟨hwrap, not_lt.mpr hmore⟩
  · rintro ⟨hwrap, hmore⟩
    obtain ⟨hlong, hext, rfl⟩ := hlt.2 hwrap
    rw [htotal hwrap] at hmore
    have hten : 2 + ext.length = 10 := by omega
    rw [hten] at hwrap hmore
    exact ⟨b₀, b₁, ext, r, rfl, hlong, hext, hwrap, not_lt.mp hmore⟩

/-- `decode` of a buffer with a length field. -/
lemma sound_iff_of_declares (h : Declares b₁ ext plen) (r : Bytes) :
    Sound (b₀ :: b₁ :: (ext ++ r)) ↔ ¬ Overflows (b₀ :: b₁ :: (ext ++ r)) := by
  rw [overflows_iff h, Sound]
  have hlen : (b₀ :: b₁ :: (ext ++ r)).length = 2 + ext.length + r.length := by
    simp only [List.length_cons, List.length_append]
    omega
  by_cases hmore : (b₀ :: b₁ :: (ext ++ r)).length < totalOf b₁ ext plen
  · rw [decode_needMore h hmore]
    exact iff_of_true trivial fun hover => hover.2 hmore
  by_cases hwrap : 2 ^ 64 ≤ 2 + ext.length + maskSize b₁ + plen
  · have hlt : totalOf b₁ ext plen < 2 + ext.length + maskSize b₁ := by
      have hplen := (declares_lt h).1
      have hext := ((declares_lt h).2 hwrap).2.1
      have hmask := maskSize_le b₁
      rw [totalOf, Nat.mod_eq_sub_mod hwrap, Nat.mod_eq_of_lt (by omega)]
      omega
    rw [decode_raises h hmore hlt]
    exact iff_of_false id fun hover => hover ⟨hwrap, hmore⟩
  · have hsize : 2 + ext.length + maskSize b₁ + plen < 2 ^ 64 := not_le.mp hwrap
    rw [totalOf, Nat.mod_eq_of_lt hsize, hlen] at hmore
    obtain ⟨key, data, rest, rfl, hkey, hdata⟩ := @split_tail b₁ plen r (by omega)
    rw [decode_whole h rest hkey hdata hsize]
    refine iff_of_true ⟨b₀ :: b₁ :: (ext ++ (key ++ data)), by simp, by simp, ?_⟩
      fun hover => hwrap hover.1
    exact ⟨b₀, b₁, ext, key, data, rfl, hdata ▸ h, hkey, rfl⟩

/-- Without a length field there is nothing to take. -/
lemma decode_of_lengthField {tail : Bytes} (h : lengthField b₁ (b₀ :: b₁ :: tail) = none) :
    decode (b₀ :: b₁ :: tail) = .needMore := by
  simp only [decode, h]

lemma Takes.length_le {b rest : Bytes} {fs : List Frame} (h : Takes b fs rest) :
    2 * fs.length + rest.length ≤ b.length := by
  induction h with
  | nil b => simp
  | cons hf _ ih =>
    have hle := length_rest_le hf
    rw [List.length_cons]
    omega

/-- `decode` is sound on every buffer but those that declare an overflowing length, and every loop
over it comes to an end. -/
theorem decode_sound_iff (buf : Bytes) :
    (Sound buf ↔ ¬ Overflows buf) ∧
      ∀ fs rest, Takes buf fs rest → 2 * fs.length + rest.length ≤ buf.length := by
  refine ⟨?_, fun fs rest h => h.length_le⟩
  match buf with
  | [] => exact iff_of_true trivial (by rintro ⟨_, _, _, _, h, -⟩; cases h)
  | [_] => exact iff_of_true trivial (by rintro ⟨_, _, _, _, h, -⟩; cases h)
  | b₀ :: b₁ :: tail =>
    cases hfield : lengthField b₁ (b₀ :: b₁ :: tail) with
    | none =>
      refine iff_of_true ?_ ?_
      · rw [Sound, decode_of_lengthField hfield]
        trivial
      · rintro ⟨c₀, c₁, ext, r, hbuf, hlong, hext, -⟩
        rw [List.cons.injEq, List.cons.injEq] at hbuf
        obtain ⟨rfl, rfl, rfl⟩ := hbuf
        have hdeclares : Declares b₁ ext (beNat ext) := by
          rw [Declares, if_neg (by omega), if_pos hlong]
          exact ⟨hext, rfl⟩
        rw [lengthField_of_declares hdeclares] at hfield
        cases hfield
    | some size =>
      obtain ⟨ext, r, rfl, hdeclares, -⟩ := lengthField_eq_some hfield
      exact sound_iff_of_declares hdeclares r

/-- The largest length of 64 bits. -/
def overlong : Bytes := [0x82, 0x7F, 0xFF, 0xFF, 0xFF, 0xFF, 0xFF, 0xFF, 0xFF, 0xFF]

/-- The size of its frame wraps around to nine bytes, which are there. -/
theorem overlong_unsound : ¬ Sound overlong := by
  have hraises : decode overlong = .raises := by decide
  rw [Sound, hraises]
  exact id

/-! ### The round trip -/

/-- What `encode` is called with; the key is drawn if there is a mask and none is given. -/
structure Encoding where
  payload : Bytes
  opcode : UInt8 := 0x02
  mask : Bool := false
  maskKey : UInt32 := 0
  random : UInt32 := 0

namespace Encoding

def key (c : Encoding) : Option UInt32 :=
  if c.mask then some (if c.maskKey = 0 then c.random else c.maskKey) else none

def bytes (c : Encoding) : Bytes := encode c.payload c.opcode c.key

/-- The frame that is read back. -/
def frame (c : Encoding) : Frame := ⟨c.opcode % 16, c.payload⟩

end Encoding

lemma and_0F (x : UInt8) : x &&& 0x0F = x % 16 := by
  apply UInt8.toNat_inj.mp
  rw [UInt8.toNat_and, UInt8.toNat_mod]
  exact Nat.and_two_pow_sub_one_eq_mod _ 4

lemma decode_encoding (c : Encoding) (hsize : c.payload.length < 2 ^ 63) (rest : Bytes) :
    decode (c.bytes ++ rest) = .ok c.frame rest := by
  have hvalid : WireFrame.Valid ⟨true, c.opcode &&& 0x0F, c.key, c.payload⟩ :=
    ⟨by rw [UInt8.and_assoc]; rfl, hsize⟩
  rw [Encoding.frame, ← and_0F]
  exact decode_bytes hvalid rest

/-- What is cut off is waited for. -/
lemma decode_prefix {b p : Bytes} {f : Frame} (hb : decode b = .ok f []) (hp : p <+: b)
    (hne : p ≠ b) : decode p = .needMore := by
  obtain ⟨r, rfl⟩ := hp
  cases hdecode : decode p with
  | needMore => rfl
  | raises =>
    rw [decode_append_raises r hdecode] at hb
    cases hb
  | ok g rest =>
    rw [decode_append_ok r hdecode] at hb
    simp only [DecodeResult.ok.injEq, List.append_eq_nil_iff] at hb
    obtain ⟨-, -, rfl⟩ := hb
    exact absurd (List.append_nil p).symm hne

lemma drain_encodings {cs : List Encoding} (hsize : ∀ c ∈ cs, c.payload.length < 2 ^ 63) :
    decoder.drain (cs.flatMap Encoding.bytes) = ⟨cs.map Encoding.frame, [], true⟩ := by
  induction cs with
  | nil => exact decoder.drain_needMore decoder.decode_nil
  | cons c cs ih =>
    obtain ⟨hc, hcs⟩ := List.forall_mem_cons.mp hsize
    rw [List.flatMap_cons, drain_ok (decode_encoding c hc _), ih hcs]
    rfl

/-- What is encoded is read back, with whatever follows it left in the buffer; what is cut off is
waited for; and frames one after the other are read back however their bytes arrive. -/
theorem codec_round_trip (c : Encoding) (rest : Bytes) (hsize : (c.bytes ++ rest).length < 2 ^ 63) :
    decode (c.bytes ++ rest) = .ok c.frame rest ∧
      (∀ p, p <+: c.bytes → p ≠ c.bytes → decode p = .needMore) ∧
      ∀ cs : List Encoding, (cs.flatMap Encoding.bytes).length < 2 ^ 63 →
        ∀ chunks : List Bytes, chunks.flatten = cs.flatMap Encoding.bytes →
          chunks.foldl decoder.read {} = ⟨[], cs.map Encoding.frame⟩ := by
  have hpayload : ∀ c : Encoding, c.payload.length ≤ c.bytes.length := fun c => by
    simp only [Encoding.bytes, encode]
    cases c.key <;> simp only [List.length_cons, List.length_append, length_unmask] <;> omega
  have hc : c.payload.length < 2 ^ 63 := by
    have hle := hpayload c
    rw [List.length_append] at hsize
    omega
  refine ⟨decode_encoding c hc rest, fun p hp hne => ?_, fun cs hcs chunks hchunks => ?_⟩
  · have hwhole := decode_encoding c hc []
    rw [List.append_nil] at hwhole
    exact decode_prefix hwhole hp hne
  · have hlt : ∀ c' ∈ cs, c'.payload.length < 2 ^ 63 := fun c' hc' => by
      have hle := hpayload c'
      have hsub := List.sublist_flatten_of_mem (List.mem_map_of_mem (f := Encoding.bytes) hc')
      rw [← List.flatMap_def] at hsub
      exact lt_of_le_of_lt (hle.trans hsub.length_le) hcs
    have hdrain := drain_encodings hlt
    rw [← hchunks] at hdrain
    have hread := @Decoder.foldl_read _ _ decoder chunks {} decoder.decode_nil
    rw [List.nil_append, hdrain] at hread
    exact hread rfl

/-- A masked text of two bytes, with a key that was drawn, and a byte after it. -/
theorem codec_round_trip_masked :
    let c : Encoding :=
      { payload := [0x68, 0x69], opcode := 0x01, mask := true, random := 0x01020304 }
    c.bytes = [0x81, 0x82, 0x01, 0x02, 0x03, 0x04, 0x69, 0x6B] ∧
      decode (c.bytes ++ [0x00]) = .ok ⟨0x01, [0x68, 0x69]⟩ [0x00] :=
  ⟨by decide, (codec_round_trip _ [0x00] (by decide)).1⟩

end WsFrame
