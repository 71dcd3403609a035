import OnPremPbx.WebSocket.InnerTls
import OnPremPbx.WebSocket.InnerTlsBridge

/-!
# Reading ahead in a handshake

`WsInnerTlsBridge` as the transport of a TLS object. What a handshake over it does depends on the
bytes of its socket alone, and not on the reads that they come in. The reads decide how much of the
bytes behind the handshake is in the buffer of the bridge when the handshake is over.
-/

open WsFrame

namespace WsFrame

/-- A header that is not there yet ends behind the buffer. -/
lemma lt_headerSize {b₁ : UInt8} {buf r : Bytes} {plen headerSize : ℕ}
    (hnone : lengthField b₁ buf = none) (h : lengthField b₁ (buf ++ r) = some (plen, headerSize)) :
    buf.length < headerSize := by
  simp only [lengthField, List.length_append] at hnone h
  split_ifs at hnone h <;> cases h <;> omega

/-- A frame that ends in the front of a buffer is taken from the front alone. -/
lemma decode_of_append_ok {buf r rest : Bytes} {f : Frame} (h : decode (buf ++ r) = .ok f rest)
    (hle : r.length ≤ rest.length) : ∃ left, decode buf = .ok f left := by
  cases hdecode : decode buf with
  | ok g left =>
    rw [decode_append_ok r hdecode, DecodeResult.ok.injEq] at h
    exact ⟨left, by rw [h.1]⟩
  | raises =>
    rw [decode_append_raises r hdecode] at h
    cases h
  | needMore =>
    exfalso
    have htwo := length_rest_le h
    rw [List.length_append] at htwo
    match buf with
    | [] => simp only [List.length_nil] at htwo; omega
    | [_] => simp only [List.length_singleton] at htwo; omega
    | b₀ :: b₁ :: tail =>
      rcases hlen : lengthField b₁ (b₀ :: b₁ :: (tail ++ r)) with _ | ⟨plen, headerSize⟩
      · simp [decode, hlen] at h
      · simp only [List.cons_append, decode, hlen] at h
        generalize hsize : (if (b₁ &&& 0x80 ≠ 0) then 4 else 0) = maskSize at h
        generalize htotal : (headerSize + maskSize + plen) % 2 ^ 64 = total at h
        by_cases hmore : (b₀ :: b₁ :: (tail ++ r)).length < total
        · rw [if_pos hmore] at h; cases h
        by_cases hwrap : total < headerSize + maskSize
        · rw [if_neg hmore, if_pos hwrap] at h; cases h
        rw [if_neg hmore, if_neg hwrap] at h
        cases h
        simp only [List.length_drop, List.length_cons, List.length_append] at hle hmore
        rcases hnone : lengthField b₁ (b₀ :: b₁ :: tail) with _ | p
        · have hlt := lt_headerSize hnone (r := r) hlen
          simp only [List.length_cons] at hlt
          omega
        · have hsame := lengthField_append r hnone
          rw [List.cons_append, List.cons_append, hlen, Option.some.injEq] at hsame
          subst hsame
          simp only [decode, hnone, hsize, htotal] at hdecode
          rw [if_neg (by simp only [List.length_cons]; omega), if_neg hwrap] at hdecode
          cases hdecode

end WsFrame

open InnerTls

namespace WsInnerTlsBridge

variable (o : Outside)

/-- `send`, of a binary frame. -/
def send (data : Bytes) (b : Bridge) : Bool × Bridge :=
  if b.closed then (false, b)
  else (o.sends b.sent.length,
    { b with sent := b.sent ++ [encode data 0x2 (o.maskKey b.sent.length)] })

/-- The payload of an answer. An exception of the decoder leaves no stream, like a failure. -/
def Received.payload? : Received → Option Bytes
  | .data payload => some payload
  | _             => none

/-- The bridge as the transport of a TLS object. -/
def transport : Transport Bridge := ⟨send o, fun b => ((recv o b).1.payload?, (recv o b).2)⟩

/-- The bridge with all that is still to come in its buffer. -/
def gathered (b : Bridge) : Bridge :=
  { b with socketBuf := b.socketBuf ++ b.socket.flatten, socket := [] }

/-- The bridge of a handshake: it blocks, nothing was pushed to it, and no read is empty. -/
structure Blocking (b : Bridge) : Prop where
  buffered : b.buffered = false
  inbound : b.inbound = []
  chunks : ∀ chunk ∈ b.socket, chunk ≠ []

variable {o} {b : Bridge}

lemma Blocking.ok (h : Blocking b) (rest : Bytes) : Blocking { b with socketBuf := rest } :=
  ⟨h.buffered, h.inbound, h.chunks⟩

lemma Blocking.pong (h : Blocking b) (payload : Bytes) :
    Blocking (WsInnerTlsBridge.pong o payload b) :=
  ⟨h.buffered, h.inbound, h.chunks⟩

lemma Blocking.read (h : Blocking b) {chunk : Bytes} {socket : List Bytes}
    (hsocket : b.socket = chunk :: socket) :
    Blocking { b with socketBuf := b.socketBuf ++ chunk, socket := socket } := by
  have hchunks := h.chunks
  rw [hsocket] at hchunks
  exact ⟨h.buffered, h.inbound, (List.forall_mem_cons.mp hchunks).2⟩

/-! ### The bytes of the socket -/

lemma blockingRecv_ok {n : ℕ} {f : Frame} {rest : Bytes} (h : decode b.socketBuf = .ok f rest) :
    blockingRecv o (n + 1) b =
      if f.isData then (.data f.payload, { b with socketBuf := rest })
      else if f.opcode = 0x9 then
        if o.sends b.sent.length then
          blockingRecv o n (pong o f.payload { b with socketBuf := rest })
        else (.failed, pong o f.payload { b with socketBuf := rest })
      else if f.opcode = 0xA then blockingRecv o n { b with socketBuf := rest }
      else if f.opcode = 0x8 then (.failed, { b with socketBuf := rest, closed := true })
      else (.failed, { b with socketBuf := rest }) := by
  rw [blockingRecv, h]

lemma blockingRecv_end {n : ℕ} (h : decode b.socketBuf = .needMore) (hsocket : b.socket = []) :
    blockingRecv o (n + 1) b = (.failed, { b with closed := true }) := by
  rw [blockingRecv, h]
  dsimp only
  rw [hsocket]

lemma blockingRecv_read {n : ℕ} {chunk : Bytes} {socket : List Bytes}
    (h : decode b.socketBuf = .needMore) (hsocket : b.socket = chunk :: socket)
    (hchunk : chunk ≠ []) : blockingRecv o (n + 1) b =
      blockingRecv o n { b with socketBuf := b.socketBuf ++ chunk, socket := socket } := by
  rw [blockingRecv, h]
  dsimp only
  rw [hsocket]
  exact if_neg hchunk

lemma gathered_read {chunk : Bytes} {socket : List Bytes} (hsocket : b.socket = chunk :: socket) :
    gathered { b with socketBuf := b.socketBuf ++ chunk, socket := socket } = gathered b := by
  rw [gathered, gathered, hsocket, List.flatten_cons, List.append_assoc]

/-- What the bridge receives does not depend on the reads. -/
lemma blockingRecv_gathered {n m : ℕ} (h : Blocking b) (hn : work b < n)
    (hm : work (gathered b) < m) :
    Blocking (blockingRecv o n b).2 ∧ blockingRecv o m (gathered b) =
      ((blockingRecv o n b).1, gathered (blockingRecv o n b).2) := by
  induction n generalizing b m with
  | zero => omega
  | succ n ih =>
    obtain ⟨m, rfl⟩ : ∃ k, m = k + 1 := ⟨m - 1, by omega⟩
    cases hdecode : decode b.socketBuf with
    | raises =>
      have hall : decode (gathered b).socketBuf = .raises :=
        decode_append_raises b.socket.flatten hdecode
      rw [blockingRecv, blockingRecv, hdecode, hall]
      exact ⟨h, rfl⟩
    | needMore =>
      cases hsocket : b.socket with
      | nil =>
        have hall : decode (gathered b).socketBuf = .needMore := by
          rw [gathered, hsocket, List.flatten_nil, List.append_nil]
          exact hdecode
        rw [blockingRecv_end hdecode hsocket, blockingRecv_end hall rfl]
        exact ⟨⟨h.buffered, h.inbound, h.chunks⟩, rfl⟩
      | cons chunk socket =>
        have hwork := work_read hsocket
        rw [blockingRecv_read hdecode hsocket (h.chunks chunk (hsocket ▸ List.mem_cons_self)),
          ← gathered_read hsocket]
        exact ih (h.read hsocket) (by omega) (by rwa [gathered_read hsocket])
    | ok f rest =>
      have hall : decode (gathered b).socketBuf = .ok f (rest ++ b.socket.flatten) :=
        decode_append_ok b.socket.flatten hdecode
      have hwork : work { b with socketBuf := rest } < n := by
        have hlt := work_ok hdecode
        omega
      have hwork' : work (gathered { b with socketBuf := rest }) < m := by
        have hlt := work_ok hall
        exact lt_of_lt_of_le hlt (Nat.le_of_lt_succ hm)
      rw [blockingRecv_ok hdecode, blockingRecv_ok hall, show (gathered b).sent = b.sent from rfl]
      split_ifs
      · exact ⟨h.ok rest, rfl⟩
      · exact ih ((h.ok rest).pong f.payload) hwork hwork'
      · exact ⟨(h.ok rest).pong f.payload, rfl⟩
      · exact ih (h.ok rest) hwork hwork'
      · exact ⟨⟨h.buffered, h.inbound, h.chunks⟩, rfl⟩
      · exact ⟨h.ok rest, rfl⟩

lemma recv_gathered (h : Blocking b) : Blocking (recv o b).2 ∧
    recv o (gathered b) = ((recv o b).1, gathered (recv o b).2) := by
  rw [recv, recv, show (gathered b).closed = b.closed from rfl,
    show (gathered b).buffered = b.buffered from rfl, h.buffered]
  by_cases hclosed : b.closed = true
  · rw [if_pos hclosed, if_pos hclosed]
    exact ⟨h, rfl⟩
  · rw [if_neg hclosed, if_neg hclosed, if_neg Bool.false_ne_true, if_neg Bool.false_ne_true]
    exact blockingRecv_gathered h (Nat.lt_succ_self _) (Nat.lt_succ_self _)

lemma send_gathered (data : Bytes) (h : Blocking b) : Blocking (send o data b).2 ∧
    send o data (gathered b) = ((send o data b).1, gathered (send o data b).2) := by
  rw [send, send, show (gathered b).closed = b.closed from rfl]
  split_ifs
  · exact ⟨h, rfl⟩
  · exact ⟨⟨h.buffered, h.inbound, h.chunks⟩, rfl⟩

/-! ### The reads -/

/-- The bridge has made a number of the reads of a socket. Each of them was needed for what it has
taken, and what is in the buffer comes from the last one. -/
structure Ahead (chunks : List Bytes) (j : ℕ) (b : Bridge) : Prop where
  socket : b.socket = chunks.drop j
  length : b.socketBuf.length ≤ (chunks.take j).flatten.length
  needed : ∀ k < j, (chunks.take k).flatten.length + b.socketBuf.length <
    (chunks.take j).flatten.length

variable {chunks : List Bytes} {j : ℕ}

lemma length_take_le {k : ℕ} (h : k ≤ j) :
    (chunks.take k).flatten.length ≤ (chunks.take j).flatten.length := by
  obtain ⟨l, hl⟩ := List.take_prefix_take_left (l := chunks) h
  rw [← hl, List.flatten_append, List.length_append]
  exact Nat.le_add_right _ _

lemma length_take_succ {chunk : Bytes} {socket : List Bytes}
    (h : chunks.drop j = chunk :: socket) : chunks.drop (j + 1) = socket ∧
      (chunks.take (j + 1)).flatten.length = (chunks.take j).flatten.length + chunk.length := by
  have hget : chunks[j]? = some chunk := by
    rw [← List.head?_drop, h, List.head?_cons]
  refine ⟨by rw [← List.tail_drop, h, List.tail_cons], ?_⟩
  rw [List.take_add_one, hget, Option.toList_some, List.flatten_append, List.length_append,
    List.flatten_singleton]

/-- With a payload the reads that were made for it were needed. -/
lemma ahead_blockingRecv {n : ℕ} {payload : Bytes} {b' : Bridge} (hchunks : Blocking b)
    (hsocket : b.socket = chunks.drop j)
    (hlength : b.socketBuf.length ≤ (chunks.take j).flatten.length)
    (hneeded : ∀ f rest, decode b.socketBuf = .ok f rest → ∀ k < j,
      (chunks.take k).flatten.length + rest.length < (chunks.take j).flatten.length)
    (h : blockingRecv o n b = (.data payload, b')) : ∃ i, Ahead chunks i b' := by
  induction n generalizing b j with
  | zero => cases h
  | succ n ih =>
    cases hdecode : decode b.socketBuf with
    | raises =>
      rw [blockingRecv, hdecode] at h
      cases h
    | needMore =>
      cases hcons : b.socket with
      | nil =>
        rw [blockingRecv_end hdecode hcons] at h
        cases h
      | cons chunk socket =>
        rw [blockingRecv_read hdecode hcons
          (hchunks.chunks chunk (hcons ▸ List.mem_cons_self))] at h
        obtain ⟨hdrop, htake⟩ := length_take_succ (hsocket ▸ hcons)
        refine ih (hchunks.read hcons) hdrop.symm ?_ (fun f rest hok k hk => ?_) h
        · rw [htake, List.length_append]
          omega
        · -- Before the read the frame was not there.
          have hlt : rest.length < chunk.length := by
            by_contra hle
            obtain ⟨left, hleft⟩ := decode_of_append_ok hok (not_lt.mp hle)
            rw [hdecode] at hleft
            cases hleft
          have hk' := @length_take_le chunks _ _ (Nat.le_of_lt_succ hk)
          omega
    | ok f rest =>
      have hlt := length_rest_lt hdecode
      have hafter := hneeded f rest hdecode
      have hmore : ∀ (g : Frame) (more : Bytes), decode rest = .ok g more → ∀ k < j,
          (chunks.take k).flatten.length + more.length < (chunks.take j).flatten.length := by
        intro g more hok k hk
        have hlt' := length_rest_lt hok
        have hk' := hafter k hk
        omega
      rw [blockingRecv_ok hdecode] at h
      split_ifs at h
      · cases h
        exact ⟨j, hsocket, hlt.le.trans hlength, hafter⟩
      · exact ih ((hchunks.ok rest).pong f.payload) hsocket (hlt.le.trans hlength) hmore h
      · cases h
      · exact ih (hchunks.ok rest) hsocket (hlt.le.trans hlength) hmore h
      · cases h
      · cases h

lemma ahead_recv {payload : Bytes} {b' : Bridge} (hb : Blocking b) (h : Ahead chunks j b)
    (hrecv : recv o b = (.data payload, b')) : ∃ i, Ahead chunks i b' := by
  rw [recv] at hrecv
  split_ifs at hrecv with hclosed hbuffered
  · cases hrecv
  · exact absurd hbuffered (by rw [hb.buffered]; decide)
  · refine ahead_blockingRecv hb h.socket h.length (fun f rest hok k hk => ?_) hrecv
    have hlt := length_rest_lt hok
    have hk' := h.needed k hk
    omega

lemma ahead_send (data : Bytes) (h : Ahead chunks j b) : Ahead chunks j (send o data b).2 := by
  rw [send]
  split_ifs
  · exact h
  · exact ⟨h.socket, h.length, h.needed⟩

/-! ### Handshakes -/

variable {σ : Type}

/-- The object after a number of turns of a handshake over the bridge. -/
def handshakeOver (o : Outside) (perform : σ → Bytes → SslAnswer σ) (ssl : σ) (n : ℕ)
    (b : Bridge) : TlsObject σ Bridge :=
  (TlsObject.turn (transport o) perform)^[n] { ssl := ssl, transport := b }

variable {perform : σ → Bytes → SslAnswer σ} {ssl : σ} {n : ℕ}

lemma handshakeOver_succ (b : Bridge) : handshakeOver o perform ssl (n + 1) b =
    TlsObject.turn (transport o) perform (handshakeOver o perform ssl n b) :=
  Function.iterate_succ_apply' _ _ _

/-- A handshake that has returned stays as it is. -/
lemma handshakeOver_of_returned {m : ℕ} (h : (handshakeOver o perform ssl n b).result.isSome)
    (hnm : n ≤ m) : handshakeOver o perform ssl m b = handshakeOver o perform ssl n b := by
  induction m, hnm using Nat.le_induction with
  | base => rfl
  | succ m _ ih => rw [handshakeOver_succ, ih, TlsObject.turn, if_pos h]

lemma transport_recv_gathered (h : Blocking b) : (transport o).recv (gathered b) =
    (((transport o).recv b).1, gathered ((transport o).recv b).2) := by
  rw [transport]
  dsimp only
  rw [(recv_gathered h).2]

/-- A handshake does the same if all of the socket is read at once. -/
lemma handshakeOver_gathered (h : Blocking b) :
    Blocking (handshakeOver o perform ssl n b).transport ∧
      handshakeOver o perform ssl n (gathered b) =
        (handshakeOver o perform ssl n b).map gathered := by
  induction n with
  | zero => exact ⟨h, rfl⟩
  | succ n ih =>
    obtain ⟨hblocking, heq⟩ := ih
    rw [handshakeOver_succ, handshakeOver_succ, heq]
    exact ⟨TlsObject.turn_invariant (P := Blocking) (fun d t ht => (send_gathered d ht).1)
        (fun t ht => (recv_gathered ht).1) hblocking,
      TlsObject.turn_map (P := Blocking) (fun d t ht => (send_gathered d ht).1)
        (fun d t ht => (send_gathered d ht).2) (fun t ht => transport_recv_gathered ht) hblocking⟩

/-- As long as the handshake has not failed, all reads were needed. -/
lemma ahead_handshakeOver (hb : Blocking b) (hsocket : b.socket = chunks)
    (hempty : b.socketBuf = [])
    (hresult : (handshakeOver o perform ssl n b).result ≠ some false) :
    ∃ i, Ahead chunks i (handshakeOver o perform ssl n b).transport := by
  induction n with
  | zero =>
    refine ⟨0, hsocket, ?_, fun k hk => absurd hk (Nat.not_lt_zero k)⟩
    change b.socketBuf.length ≤ _
    rw [hempty]
    exact Nat.zero_le _
  | succ n ih =>
    rw [handshakeOver_succ] at hresult ⊢
    have hkept := TlsObject.turn_keeps (x := transport o)
      (P := fun b => Blocking b ∧ ∃ i, Ahead chunks i b)
      (fun d t ht => ⟨(send_gathered d ht.1).1, ht.2.imp fun i hi => ahead_send d hi⟩)
      (fun t buf ht hbuf => ⟨(recv_gathered ht.1).1, ?_⟩)
      ⟨(handshakeOver_gathered hb).1, ih (TlsObject.result_of_turn hresult)⟩ hresult
    · exact hkept.2
    · obtain ⟨i, hi⟩ := ht.2
      cases hreceived : (recv o t).1 with
      | data payload => exact ahead_recv ht.1 hi (Prod.ext hreceived rfl)
      | failed => simp [transport, hreceived, Received.payload?] at hbuf
      | raised => simp [transport, hreceived, Received.payload?] at hbuf

/-! ### What is read ahead -/

/-- The read that ends what is taken of the bytes does not end the frame after it as well. `left` is
what is left of the bytes. -/
def EndsApart (chunks : List Bytes) (left : Bytes) : Prop :=
  ∀ f rest, decode left = .ok f rest → ∀ k,
    (chunks.take k).flatten.length < chunks.flatten.length - left.length →
      (chunks.take (k + 1)).flatten.length < chunks.flatten.length - rest.length

/-- In the buffer of the bridge there is a frame exactly if a read has ended it together with what
was taken. -/
lemma Ahead.no_frame_iff (h : Ahead chunks j b) :
    (∀ f rest, decode b.socketBuf ≠ .ok f rest) ↔ EndsApart chunks (gathered b).socketBuf := by
  have hleft : (gathered b).socketBuf = b.socketBuf ++ (chunks.drop j).flatten := by
    rw [gathered, h.socket]
  have hall : chunks.flatten.length =
      (chunks.take j).flatten.length + (chunks.drop j).flatten.length := by
    conv_lhs => rw [← List.take_append_drop j chunks, List.flatten_append, List.length_append]
  have hlength := h.length
  constructor
  · intro hnone f rest hok k hk
    rw [hleft, List.length_append, hall] at hk
    have hkj : k < j := by
      by_contra hle
      have hle' := @length_take_le chunks _ _ (not_lt.mp hle)
      omega
    have hsucc : (chunks.take (k + 1)).flatten.length ≤ (chunks.take j).flatten.length :=
      length_take_le (Nat.succ_le_of_lt hkj)
    rw [hleft] at hok
    by_contra hge
    obtain ⟨left, hdecode⟩ := decode_of_append_ok hok (by rw [hall] at hge; omega)
    exact hnone f left hdecode
  · intro hapart f rest hok
    have hall' := decode_append_ok (chunks.drop j).flatten hok
    have hlt := length_rest_lt hok
    have hpos : 0 < j := by
      rcases Nat.eq_zero_or_pos j with rfl | hpos
      · rw [List.take_zero, List.flatten_nil, List.length_nil] at hlength
        omega
      · exact hpos
    rw [← hleft] at hall'
    have hneeded := h.needed (j - 1) (by omega)
    have hend := hapart f _ hall' (j - 1) (by rw [hleft, List.length_append, hall]; omega)
    rw [Nat.sub_add_cancel hpos, List.length_append, hall] at hend
    omega

end WsInnerTlsBridge
