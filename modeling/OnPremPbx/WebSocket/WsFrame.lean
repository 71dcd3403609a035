import OnPremPbx.Tunnel.SipFrame

/-!
# WebSocket frames

`wsframe::decode` (`wsframe.cpp`) takes one frame off the front of a receive buffer. It computes
the size of the frame in 64 bits; a declared length that makes the sum wrap around leaves it with
a payload that ends before it begins, and the constructor of the payload throws.
-/

namespace WsFrame

structure Frame where
  opcode : UInt8
  payload : Bytes
  deriving DecidableEq, Repr

/-- What `decode` does: it leaves the buffer alone and waits for more, it throws, or it takes a
frame and leaves `rest`. -/
inductive DecodeResult where
  | needMore
  | raises
  | ok (frame : Frame) (rest : Bytes)
  deriving DecidableEq, Repr

/-- A big-endian number. -/
def beNat (b : Bytes) : ℕ := b.foldl (fun n x => n * 256 + x.toNat) 0

/-- The payload length and the size of the header without the mask, once the header is there. -/
def lengthField (b₁ : UInt8) (buf : Bytes) : Option (ℕ × ℕ) :=
  let plen := (b₁ &&& 0x7F).toNat
  if plen = 126 then
    if buf.length < 4 then none else some (beNat ((buf.drop 2).take 2), 4)
  else if plen = 127 then
    if buf.length < 10 then none else some (beNat ((buf.drop 2).take 8), 10)
  else some (plen, 2)

def unmask (key payload : Bytes) : Bytes :=
  payload.zipIdx.map fun x => x.1 ^^^ key.getD (x.2 % 4) 0

def decode (buf : Bytes) : DecodeResult :=
  match buf with
  | b₀ :: b₁ :: _ =>
    match lengthField b₁ buf with
    | none                    => .needMore
    | some (plen, headerSize) =>
      let masked := b₁ &&& 0x80 ≠ 0
      let maskSize := if masked then 4 else 0
      let total := (headerSize + maskSize + plen) % 2 ^ 64
      if buf.length < total then .needMore
      else if total < headerSize + maskSize then .raises
      else
        let payload := (buf.take total).drop (headerSize + maskSize)
        let key := (buf.drop headerSize).take maskSize
        .ok ⟨b₀ &&& 0x0F, if masked then unmask key payload else payload⟩ (buf.drop total)
  | _ => .needMore

lemma two_le_of_lengthField {b₁ : UInt8} {buf : Bytes} {plen headerSize : ℕ}
    (h : lengthField b₁ buf = some (plen, headerSize)) : 2 ≤ headerSize := by
  simp only [lengthField] at h
  split_ifs at h <;> cases h <;> omega

/-- A frame that was taken is gone from the buffer. -/
lemma length_rest_le {buf rest : Bytes} {f : Frame} (h : decode buf = .ok f rest) :
    rest.length + 2 ≤ buf.length := by
  match buf with
  | b₀ :: b₁ :: tail =>
    rcases hlen : lengthField b₁ (b₀ :: b₁ :: tail) with _ | ⟨plen, headerSize⟩
    · simp [decode, hlen] at h
    · have htwo := two_le_of_lengthField hlen
      simp only [decode, hlen] at h
      split_ifs at h with hmore hwrap hmore hwrap
      all_goals
        cases h
        simp only [List.length_drop, List.length_cons] at *
        omega
  | [] | [_] => cases h

lemma length_rest_lt {buf rest : Bytes} {f : Frame} (h : decode buf = .ok f rest) :
    rest.length < buf.length := by
  have hle := length_rest_le h
  omega

end WsFrame
