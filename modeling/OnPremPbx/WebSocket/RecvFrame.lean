import OnPremPbx.WebSocket.Codec

/-!
# The blocking reader

`WsDbServer::ws_recv_frame` (`wsdbproxy.cpp`) walks through the header of a frame by itself, so as
to read from the socket what the frame needs and no more, and has `decode` take the frame apart.
Memory does not run out.
-/

open WsFrame

namespace WsDbServer

/-- Why there is no frame: the answer is `false`, or `decode` throws. -/
inductive RecvFailure where
  | closed
  | raises
  deriving DecidableEq, Repr

/-- The bytes that were read, and those that are still in the socket. -/
structure Recv where
  buf : Bytes := []
  socket : Bytes
  deriving DecidableEq

/-- `read_n`: all the bytes, or none. -/
def readN (n : ℕ) (r : Recv) : Except RecvFailure Recv :=
  if r.socket.length < n then .error .closed
  else .ok ⟨r.buf ++ r.socket.take n, r.socket.drop n⟩

/-- The length that the header declares. -/
def neededLength (plen : ℕ) (buf : Bytes) : ℕ :=
  if plen = 126 then beNat ((buf.drop 2).take 2)
  else if plen = 127 then beNat ((buf.drop 2).take 8)
  else plen

/-- The last `decode`, where all of the frame has been read. -/
def recvLast (r : Recv) : Except RecvFailure (Frame × Bytes) :=
  match decode r.buf with
  | .raises     => .error .raises
  | .ok frame _ => .ok (frame, r.socket)
  | .needMore   => .error .closed

/-- The rest of the frame, once the header has been read. -/
def recvPayload (plen : ℕ) (r : Recv) : Except RecvFailure (Frame × Bytes) :=
  match decode r.buf with
  | .raises     => .error .raises
  | .ok frame _ => .ok (frame, r.socket)
  | .needMore   => readN (neededLength plen r.buf) r >>= recvLast

/-- The rest of the length field, if there is more. -/
def recvLength (b₁ : UInt8) (r : Recv) : Except RecvFailure Recv :=
  if (b₁ &&& 0x7F).toNat = 126 then readN 2 r
  else if (b₁ &&& 0x7F).toNat = 127 then readN 8 r
  else .ok r

/-- The key of the mask, if there is one. -/
def recvMask (b₁ : UInt8) (r : Recv) : Except RecvFailure Recv :=
  if b₁ &&& 0x80 ≠ 0 then readN 4 r else .ok r

/-- `ws_recv_frame`: the frame, and what is left in the socket. -/
def wsRecvFrame (stream : Bytes) : Except RecvFailure (Frame × Bytes) := do
  let r ← readN 2 ⟨[], stream⟩
  let b₁ := r.buf.getD 1 0
  let r ← recvLength b₁ r
  let r ← recvMask b₁ r
  recvPayload (b₁ &&& 0x7F).toNat r

/-- The length that a stream declares, once it is there. -/
def declaredLength : Bytes → Option ℕ
  | b₀ :: b₁ :: tail => (lengthField b₁ (b₀ :: b₁ :: tail)).map Prod.fst
  | _                => none

/-! ### The header -/

lemma readN_error {n : ℕ} {r : Recv} (h : r.socket.length < n) : readN n r = .error .closed :=
  if_pos h

lemma readN_append {n : ℕ} (buf : Bytes) {b : Bytes} (socket : Bytes) (h : b.length = n) :
    readN n ⟨buf, b ++ socket⟩ = .ok ⟨buf ++ b, socket⟩ := by
  rw [readN, if_neg (by simp [h]), List.take_left' h, List.drop_left' h]

variable {b₀ b₁ : UInt8} {ext : Bytes} {plen : ℕ}

lemma wsRecvFrame_cons (b₀ b₁ : UInt8) (tail : Bytes) :
    wsRecvFrame (b₀ :: b₁ :: tail) = (recvLength b₁ ⟨[b₀, b₁], tail⟩ >>= fun r =>
      recvMask b₁ r >>= recvPayload (b₁ &&& 0x7F).toNat) := by
  rw [wsRecvFrame, readN, if_neg (by simp)]
  rfl

/-- The length field is read, and nothing behind it. -/
lemma recvLength_of_declares (h : Declares b₁ ext plen) (r : Bytes) :
    recvLength b₁ ⟨[b₀, b₁], ext ++ r⟩ = .ok ⟨b₀ :: b₁ :: ext, r⟩ := by
  rw [Declares] at h
  rw [recvLength]
  split_ifs at h ⊢
  · exact readN_append _ _ h.1
  · exact readN_append _ _ h.1
  · rw [h.1]
    rfl

lemma recvLength_of_lengthField {tail : Bytes} (h : lengthField b₁ (b₀ :: b₁ :: tail) = none) :
    recvLength b₁ ⟨[b₀, b₁], tail⟩ = .error .closed := by
  simp only [lengthField, List.length_cons] at h
  rw [recvLength]
  split_ifs at h ⊢
  · exact readN_error (by dsimp only; omega)
  · exact readN_error (by dsimp only; omega)

lemma recvMask_append {key : Bytes} (hkey : key.length = maskSize b₁) (buf r : Bytes) :
    recvMask b₁ ⟨buf, key ++ r⟩ = .ok ⟨buf ++ key, r⟩ := by
  rw [maskSize] at hkey
  rw [recvMask]
  split_ifs at hkey ⊢
  · exact readN_append _ _ hkey
  · rw [List.length_eq_zero_iff.mp hkey, List.append_nil]
    rfl

lemma recvMask_error {r : Recv} (h : r.socket.length < maskSize b₁) :
    recvMask b₁ r = .error .closed := by
  rw [maskSize] at h
  rw [recvMask]
  split_ifs at h ⊢
  · exact readN_error h
  · omega

/-- The length that the header was read for is computed from it again. -/
lemma neededLength_of_declares (h : Declares b₁ ext plen) (r : Bytes) :
    neededLength (b₁ &&& 0x7F).toNat (b₀ :: b₁ :: (ext ++ r)) = plen := by
  rw [Declares] at h
  rw [neededLength]
  split_ifs at h ⊢
  · rw [h.2, List.drop_succ_cons, List.drop_succ_cons, List.drop_zero, List.take_left' h.1]
  · rw [h.2, List.drop_succ_cons, List.drop_succ_cons, List.drop_zero, List.take_left' h.1]
  · exact h.2.symm

/-! ### The payload -/

lemma decode_header (h : Declares b₁ ext plen) (hlt : plen < 2 ^ 63) {key : Bytes}
    (hkey : key.length = maskSize b₁) (hpos : plen ≠ 0) :
    decode (b₀ :: b₁ :: (ext ++ key)) = .needMore := by
  have hext := ext_length_le h
  have hmask := maskSize_le b₁
  refine decode_needMore h ?_
  rw [totalOf, Nat.mod_eq_of_lt (by omega)]
  simp only [List.length_cons, List.length_append]
  omega

lemma recvPayload_whole (h : Declares b₁ ext plen) (hlt : plen < 2 ^ 63) {key data : Bytes}
    (hkey : key.length = maskSize b₁) (hdata : data.length = plen) (rest : Bytes) :
    recvPayload (b₁ &&& 0x7F).toNat ⟨b₀ :: b₁ :: (ext ++ key), data ++ rest⟩ =
      .ok (⟨b₀ &&& 0x0F, if b₁ &&& 0x80 ≠ 0 then unmask key data else data⟩, rest) := by
  have hext := ext_length_le h
  have hmask := maskSize_le b₁
  have hwhole := @decode_whole b₀ _ _ _ h _ _ [] hkey hdata (by omega)
  rw [List.append_nil] at hwhole
  by_cases hzero : plen = 0
  · -- The header is all of the frame.
    obtain rfl : data = [] := List.length_eq_zero_iff.mp (hdata.trans hzero)
    rw [List.append_nil] at hwhole
    rw [recvPayload, hwhole]
    rfl
  · rw [recvPayload, decode_header h hlt hkey hzero]
    dsimp only
    rw [neededLength_of_declares h, readN_append _ _ hdata, List.cons_append, List.cons_append,
      List.append_assoc]
    change recvLast _ = _
    rw [recvLast, hwhole]

lemma recvPayload_short (h : Declares b₁ ext plen) (hlt : plen < 2 ^ 63) {key r : Bytes}
    (hkey : key.length = maskSize b₁) (hr : r.length < plen) :
    recvPayload (b₁ &&& 0x7F).toNat ⟨b₀ :: b₁ :: (ext ++ key), r⟩ = .error .closed := by
  rw [recvPayload, decode_header h hlt hkey (by omega)]
  dsimp only
  rw [neededLength_of_declares h, readN_error (by exact hr)]
  rfl

end WsDbServer
