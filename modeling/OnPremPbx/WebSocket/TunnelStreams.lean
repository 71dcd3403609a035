import OnPremPbx.WebSocket.ReadAhead

/-!
# The streams of the tunnel

`AgentStream` (`agent_stream.cpp`) and `AceSslTransport` (`ace_ssl_transport.cpp`) are the two ends
of the tunnel between the cloud and an agent, once the WebSocket is open. Each lets the inner TLS
shake hands over its socket, takes over the bytes that were read ahead, and then reads frames when
the reactor calls it back. A frame among the bytes that it took over waits for the next input.
-/

open WsFrame InnerTls WsInnerTlsBridge

namespace TunnelStream

/-! ### Streams -/

/-- The class of a stream. -/
inductive Side where
  | agentStream
  | aceSslTransport
  deriving DecidableEq, Repr

/-- What becomes of a stream while its owner has the bytes: `on_bytes_received` may close its
socket, or throw. -/
inductive Delivery where
  | kept
  | dropped
  | raised
  deriving DecidableEq, Repr

/-- How a part of a callback ends: it goes on, it returns false, or an exception passes through
it. -/
inductive Outcome where
  | goOn
  | stop
  | raised
  deriving DecidableEq, Repr

/-- What a stream does not decide. -/
structure Surroundings (σ : Type) where
  library : TlsLibrary σ
  /-- a new TLS object -/
  ssl : σ
  maskKey : ℕ → UInt32
  /-- whether the bridge's frames are sent -/
  sends : ℕ → Bool
  onBytes : ℕ → Delivery

structure Stream (σ : Type) where
  /-- `m_handle` is valid -/
  handle : Bool := true
  /-- the reads of the socket that are still to come -/
  socket : List Bytes
  recvBuf : Bytes := []
  /-- `m_inner_tls`, over `m_bridge` -/
  innerTls : Option (TlsObject σ Bridge) := none
  closeNotified : Bool := false
  attached : Bool := false
  /-- the reactor calls the stream back -/
  registered : Bool := false
  /-- what the owner has been given -/
  received : List Bytes := []
  /-- the frames that were written without the bridge -/
  written : List Bytes := []

section

variable {σ : Type} (env : Surroundings σ) (side : Side)

/-- A client masks its frames. -/
def mask (n : ℕ) : Option UInt32 :=
  match side with
  | .agentStream     => none
  | .aceSslTransport => some (env.maskKey n)

def outside : Outside := ⟨mask env side, env.sends⟩

/-- The handshake of the class. -/
def perform : σ → Bytes → SslAnswer σ :=
  match side with
  | .agentStream     => env.library.accept
  | .aceSslTransport => env.library.connect

namespace Stream

def notifyDisconnectOnce (s : Stream σ) : Stream σ := { s with closeNotified := true }

/-- A frame on the socket. -/
def write (payload : Bytes) (opcode : UInt8) (key : Option UInt32) (s : Stream σ) : Stream σ :=
  { s with written := s.written ++ [encode payload opcode key] }

/-- The owner is given bytes, and the stream looks at its handle after that. -/
def deliver (bytes : Bytes) (s : Stream σ) : Stream σ × Outcome :=
  let d := env.onBytes s.received.length
  let s := { s with received := s.received ++ [bytes], handle := s.handle && d != .dropped }
  if d = .raised then (s, .raised)
  else if s.handle then (s, .goOn)
  else (s, .stop)

/-- The loop of `drain_frames` over `InnerTls::recv`, if it ends within a number of turns. -/
def feedInnerTls : ℕ → TlsObject σ Bridge → Stream σ → Option (Stream σ × Outcome)
  | 0, _, _     => none
  | n + 1, t, s =>
    match t.recv (transport (outside env side)) env.library with
    | (none, t)           => some ({ s with innerTls := some t }.notifyDisconnectOnce, .stop)
    | (some plaintext, t) =>
      if plaintext = [] then some ({ s with innerTls := some t }, .goOn)
      else
        match deliver env plaintext s with
        | (s, .goOn) => feedInnerTls n t s
        | (s, out)   => some ({ s with innerTls := some t }, out)

/-- The `switch` of `drain_frames`. -/
def dispatch (n : ℕ) (f : Frame) (s : Stream σ) : Option (Stream σ × Outcome) :=
  if f.isData then
    match s.innerTls with
    | some t =>
      feedInnerTls env side n { t with transport := pushInbound f.payload t.transport } s
    | none   => some (deliver env f.payload s)
  else if f.opcode = 0x9 then
    some (s.write f.payload 0xA (mask env side s.written.length), .goOn)
  else if f.opcode = 0xA then some (s, .goOn)
  else if f.opcode = 0x8 then some ((s.write [] 0x8 none).notifyDisconnectOnce, .stop)
  else some (s.notifyDisconnectOnce, .stop)

/-- `drain_frames`, if it ends within a number of turns. -/
def drainFrames : ℕ → Stream σ → Option (Stream σ × Outcome)
  | 0, _     => none
  | n + 1, s =>
    match decode s.recvBuf with
    | .needMore  => some (s, .goOn)
    | .raises    => some (s, .raised)
    | .ok f rest =>
      match dispatch env side n f { s with recvBuf := rest } with
      | some (s, .goOn) => drainFrames n s
      | out             => out

/-- `handle_input`; a read may fail. -/
def handleInput (n : ℕ) (readable : Bool) (s : Stream σ) : Option (Stream σ × Outcome) :=
  match s.socket with
  | []              => some (s.notifyDisconnectOnce, .stop)
  | chunk :: socket =>
    if readable ∧ s.handle ∧ chunk ≠ [] then
      drainFrames env side n { s with socket := socket, recvBuf := s.recvBuf ++ chunk }
    else some (s.notifyDisconnectOnce, .stop)

def handleClose (s : Stream σ) : Stream σ :=
  { s.notifyDisconnectOnce with handle := false, registered := false }

/-- The end of the set-up of the inner TLS: the bridge is switched, and what it has read ahead goes
to the buffer of the stream. -/
def takeOver (t : TlsObject σ Bridge) (s : Stream σ) : Stream σ :=
  let leftover := leftoverSocketBytes (switchToBuffered t.transport)
  { s with
    innerTls := some { t with transport := { leftover.2 with socket := [] } }
    recvBuf := leftover.1
    socket := t.transport.socket }

end Stream

/-! ### The set-up -/

/-- What decides about the set-up of a stream, the handshake apart. -/
structure Setup where
  /-- a certificate is configured -/
  wantsInnerTls : Bool
  /-- `set_cert` succeeds -/
  setCert : Bool := true
  /-- the host name need not be verified, or is -/
  verified : Bool := true
  /-- the reactor registers the stream -/
  registers : Bool

variable (cfg : Setup)

/-- The TLS object after a number of turns of the handshake over a socket. -/
def shaken (n : ℕ) (socket : List Bytes) : TlsObject σ Bridge :=
  handshakeOver (outside env side) (perform env side) env.ssl n { socket := socket }

/-- `setup_inner_tls`, if the handshake returns within a number of turns. -/
def AgentStream.setupInnerTls (n : ℕ) (s : Stream σ) : Option (Bool × Stream σ) :=
  if s.attached ∨ s.handle = false then some (false, s)
  else
    let t := shaken env .agentStream n s.socket
    match t.result with
    | none       => none
    | some false => some (false, { s with socket := t.transport.socket })
    | some true  => some (true, s.takeOver t)

/-- The hand-off in `WebConnection::handle_input`, where a stream is left in the end. -/
def AgentStream.handOff (n : ℕ) (socket : List Bytes) : Option (Stream σ) :=
  let s : Stream σ := { socket := socket, attached := !cfg.wantsInnerTls }
  if cfg.wantsInnerTls then
    match AgentStream.setupInnerTls env n s with
    | some (true, s) =>
      if cfg.registers then some { s with attached := true, registered := true } else none
    | _              => none
  else if cfg.registers then some { s with registered := true }
  else none

/-- `connect_and_handshake` after the upgrade, if the handshake returns within a number of turns.
The upgrade reads byte by byte, so all that comes after it is still to be read. -/
def AceSslTransport.connectAndHandshake (n : ℕ) (s : Stream σ) : Option (Bool × Stream σ) :=
  if cfg.wantsInnerTls then
    if cfg.setCert then
      let t := shaken env .aceSslTransport n s.socket
      match t.result with
      | none       => none
      | some false => some (false, { s with handle := false })
      | some true  =>
        if cfg.verified then some (true, s.takeOver t) else some (false, { s with handle := false })
    else some (false, { s with handle := false })
  else some (true, s)

/-- `create_connected`, where a transport is left in the end. -/
def AceSslTransport.createConnected (n : ℕ) (socket : List Bytes) : Option (Stream σ) :=
  match AceSslTransport.connectAndHandshake env cfg n { socket := socket } with
  | some (true, s) => if cfg.registers then some { s with registered := true } else none
  | _              => none

/-! ### Callbacks -/

/-- `write_bytes` with the inner TLS, or without it, where `sent` says whether the frame was
sent. -/
def AgentStream.writeBytes (bytes : Bytes) (sent : Bool) (s : Stream σ) : Stream σ × Bool :=
  if s.handle = false then (s, false)
  else
    match s.innerTls with
    | some t =>
      let r := t.send (transport (outside env .agentStream)) env.library bytes
      ({ s with innerTls := some r.2 }, r.1)
    | none   => (s.write bytes 0x1 none, sent)

/-- `send`, which reports a failure. -/
def AceSslTransport.send (bytes : Bytes) (sent : Bool) (s : Stream σ) : Stream σ × Bool :=
  if s.handle = false then (s, false)
  else
    let out : Stream σ × Bool :=
      match s.innerTls with
      | some t =>
        let r := t.send (transport (outside env .aceSslTransport)) env.library bytes
        ({ s with innerTls := some r.2 }, r.1)
      | none   => (s.write bytes 0x1 (some (env.maskKey s.written.length)), sent)
    if out.2 then out else (out.1.notifyDisconnectOnce, false)

/-- `handle_timeout`, after which the reactor closes the stream if the PING was not sent. -/
def AgentStream.handleTimeout (sent : Bool) (s : Stream σ) : Stream σ :=
  if s.handle = false then s.handleClose
  else if sent then s.write [] 0x9 none
  else (s.write [] 0x9 none).notifyDisconnectOnce.handleClose

def AceSslTransport.sendWsPing (sent : Bool) (s : Stream σ) : Stream σ :=
  if s.handle = false then s
  else
    let s := s.write [] 0x9 (some (env.maskKey s.written.length))
    if sent then s else s.notifyDisconnectOnce

def AgentStream.closeSocket (s : Stream σ) : Stream σ := { s with handle := false }

def AceSslTransport.close (s : Stream σ) : Stream σ :=
  if s.handle = false then s
  else { s.write [] 0x8 none with handle := false, closeNotified := true }

/-- What can happen to a stream: the reactor calls it back with input, within a number of turns, its
owner sends, a PING is due, its owner closes it, or the reactor does. -/
inductive Event where
  | input (n : ℕ) (readable : Bool)
  | send (bytes : Bytes) (sent : Bool)
  | ping (sent : Bool)
  | close
  | handleClose
  deriving DecidableEq, Repr

/-- Input for a stream that the reactor knows. A stream that does not want to go on is closed; an
exception ends the process. -/
def input (n : ℕ) (readable : Bool) (s : Stream σ) : Option (Stream σ) :=
  if s.registered then
    match s.handleInput env side n readable with
    | some (s, .goOn) => some s
    | some (s, .stop) => some s.handleClose
    | _               => none
  else some s

/-- The stream when control is back. -/
def step : Event → Stream σ → Option (Stream σ)
  | .input n readable, s => input env side n readable s
  | .send bytes sent, s  =>
    match side with
    | .agentStream     => some (AgentStream.writeBytes env bytes sent s).1
    | .aceSslTransport => some (AceSslTransport.send env bytes sent s).1
  | .ping sent, s        =>
    match side with
    | .agentStream     => some (AgentStream.handleTimeout sent s)
    | .aceSslTransport => some (AceSslTransport.sendWsPing env sent s)
  | .close, s            =>
    match side with
    | .agentStream     => some (AgentStream.closeSocket s)
    | .aceSslTransport => some (AceSslTransport.close s)
  | .handleClose, s      => some s.handleClose

def run : List Event → Stream σ → Option (Stream σ)
  | [], s      => some s
  | e :: es, s => (step env side e s).bind (run es)

/-! ### Stalled frames -/

/-- The receive buffer has no whole frame, and the bridge no payload that the TLS object was not
given. -/
structure NoStalledFrame (s : Stream σ) : Prop where
  recvBuf : ∀ f rest, decode s.recvBuf ≠ .ok f rest
  inbound : ∀ t ∈ s.innerTls, t.transport.inbound = []

/-- A stream that the reactor knows has no stalled frame whenever control is back, the set-up
included. -/
def NeverStalls (opened : ℕ → Option (Stream σ)) : Prop :=
  ∀ n es s s', opened n = some s → run env side es s = some s' → s'.registered = true →
    NoStalledFrame s'

/-- A handshake that succeeds leaves the frame after it to a later read. `chunks` are the reads of
the socket; what the handshake takes of their bytes is what it takes if it has all of them at
once. -/
def HandshakeEndsApart (chunks : List Bytes) : Prop :=
  ∀ n,
    let t := handshakeOver (outside env side) (perform env side) env.ssl n
      { socketBuf := chunks.flatten, socket := [] }
    t.result = some true → EndsApart chunks t.transport.socketBuf

/-! ### What a callback leaves -/

variable {env side}

/-- The bridge of the stream does not block, and holds nothing back. -/
def Idle (s : Stream σ) : Prop :=
  ∀ t ∈ s.innerTls, t.transport.buffered = true ∧ t.transport.inbound = []

lemma recv_buffered {o : Outside} {b : Bridge} (hb : b.buffered = true) {wire : Bytes}
    (h : ((transport o).recv b).1 = some wire) :
    ((transport o).recv b).2 = { b with inbound := b.inbound.tail } := by
  simp only [transport, WsInnerTlsBridge.recv, hb] at h ⊢
  split_ifs at h ⊢ with hclosed
  · cases h
  · cases hinbound : b.inbound with
    | nil =>
      dsimp only
      rw [List.tail_nil, ← hinbound, ← hb]
    | cons payload inbound => rfl

/-- A call of `recv` that succeeds takes what the bridge holds. -/
lemma transport_recv {t t' : TlsObject σ Bridge} {o : Outside} {plaintext : Bytes}
    (hbuffered : t.transport.buffered = true) (hinbound : t.transport.inbound.length ≤ 1)
    (h : t.recv (transport o) env.library = (some plaintext, t')) :
    t'.transport.buffered = true ∧ t'.transport.inbound = [] := by
  rw [TlsObject.recv] at h
  cases hwire : ((transport o).recv t.transport).1 with
  | none =>
    rw [show (transport o).recv t.transport = (none, ((transport o).recv t.transport).2) from
      Prod.ext hwire rfl] at h
    cases h
  | some wire =>
    rw [show (transport o).recv t.transport = (some wire, ((transport o).recv t.transport).2) from
      Prod.ext hwire rfl, recv_buffered hbuffered hwire] at h
    obtain ⟨-, rfl⟩ := Prod.mk.inj h
    refine ⟨hbuffered, ?_⟩
    rw [← List.length_eq_zero_iff]
    dsimp only
    rw [List.length_tail]
    omega

lemma innerTls_deliver (bytes : Bytes) (s : Stream σ) :
    (s.deliver env bytes).1.innerTls = s.innerTls := by
  rw [Stream.deliver]
  dsimp only
  split_ifs <;> rfl

/-- Where the loop over the TLS object goes on, the bridge is empty. -/
lemma idle_feedInnerTls {n : ℕ} {t : TlsObject σ Bridge} {s s' : Stream σ}
    (hbuffered : t.transport.buffered = true) (hinbound : t.transport.inbound.length ≤ 1)
    (h : s.feedInnerTls env side n t = some (s', .goOn)) : Idle s' := by
  induction n generalizing t s with
  | zero => cases h
  | succ n ih =>
    rw [Stream.feedInnerTls] at h
    rcases hrecv : t.recv (transport (outside env side)) env.library with ⟨_ | plaintext, t'⟩
    · rw [hrecv] at h
      cases h
    · obtain ⟨hbuffered', hinbound'⟩ := transport_recv hbuffered hinbound hrecv
      rw [hrecv] at h
      dsimp only at h
      split_ifs at h
      · cases h
        rintro t ht
        rw [Option.mem_some_iff] at ht
        exact ht ▸ ⟨hbuffered', hinbound'⟩
      · rcases hdeliver : s.deliver env plaintext with ⟨s₁, _ | _ | _⟩ <;> rw [hdeliver] at h
        · exact ih hbuffered' (by rw [hinbound']; exact Nat.zero_le 1) h
        · cases h
        · cases h

lemma idle_dispatch {n : ℕ} {f : Frame} {s s' : Stream σ} (hidle : Idle s)
    (h : s.dispatch env side n f = some (s', .goOn)) : Idle s' := by
  rw [Stream.dispatch] at h
  split_ifs at h
  · cases ht : s.innerTls with
    | none =>
      rw [ht, Option.some.injEq] at h
      have hsame : (s.deliver env f.payload).1.innerTls = s.innerTls :=
        innerTls_deliver f.payload s
      rw [h] at hsame
      intro t hmem
      rw [hsame, ht] at hmem
      cases hmem
    | some t =>
      rw [ht] at h
      obtain ⟨hbuffered, hinbound⟩ := hidle t (by rw [ht]; rfl)
      refine idle_feedInnerTls ?_ ?_ h <;> rw [pushInbound] <;> split_ifs
      · exact hbuffered
      · exact hbuffered
      · rw [hinbound]
        exact Nat.zero_le 1
      · rw [hinbound]
        exact le_rfl
  · cases h
    exact hidle
  · cases h
    exact hidle
  · cases h
  · cases h

/-- When `drain_frames` returns true the buffer has no frame, and the bridge is empty. -/
lemma drainFrames_goOn {n : ℕ} {s s' : Stream σ} (hidle : Idle s)
    (h : s.drainFrames env side n = some (s', .goOn)) :
    decode s'.recvBuf = .needMore ∧ Idle s' := by
  induction n generalizing s with
  | zero => cases h
  | succ n ih =>
    rw [Stream.drainFrames] at h
    cases hdecode : decode s.recvBuf with
    | needMore =>
      rw [hdecode] at h
      cases h
      exact ⟨hdecode, hidle⟩
    | raises =>
      rw [hdecode] at h
      cases h
    | ok f rest =>
      rw [hdecode] at h
      dsimp only at h
      rcases hdispatch : Stream.dispatch env side n f { s with recvBuf := rest } with
        _ | ⟨s₁, _ | _ | _⟩ <;> rw [hdispatch] at h
      · cases h
      · exact ih (idle_dispatch (s := { s with recvBuf := rest }) hidle hdispatch) h
      · cases h
      · cases h

/-- What holds of a stream whenever control is back. -/
structure Settled (s : Stream σ) : Prop where
  recvBuf : s.registered = true → ∀ f rest, decode s.recvBuf ≠ .ok f rest
  idle : s.registered = true → Idle s

lemma Settled.noStalledFrame {s : Stream σ} (h : Settled s) (hregistered : s.registered = true) :
    NoStalledFrame s :=
  ⟨h.recvBuf hregistered, fun t ht => (h.idle hregistered t ht).2⟩

lemma Settled.of_same {s s' : Stream σ} (h : Settled s)
    (hregistered : s'.registered = s.registered) (hbuf : s'.recvBuf = s.recvBuf)
    (hidle : Idle s → Idle s') : Settled s' := by
  refine ⟨fun hreg => ?_, fun hreg => ?_⟩ <;> rw [hregistered] at hreg
  · rw [hbuf]
    exact h.recvBuf hreg
  · exact hidle (h.idle hreg)

lemma Settled.of_closed {s : Stream σ} (h : s.registered = false) : Settled s :=
  ⟨fun hreg => by simp [h] at hreg, fun hreg => by simp [h] at hreg⟩

/-- Sending leaves the bridge as empty as it was. -/
lemma send_idle {t : TlsObject σ Bridge} {o : Outside} (bytes : Bytes)
    (h : t.transport.buffered = true ∧ t.transport.inbound = []) :
    (t.send (transport o) env.library bytes).2.transport.buffered = true ∧
      (t.send (transport o) env.library bytes).2.transport.inbound = [] := by
  have hsend : ∀ d (b : Bridge), ((transport o).send d b).2.buffered = b.buffered ∧
      ((transport o).send d b).2.inbound = b.inbound := by
    intro d b
    simp only [transport, WsInnerTlsBridge.send]
    split_ifs <;> exact ⟨rfl, rfl⟩
  rw [TlsObject.send]
  split_ifs
  · generalize hs : ({ t with
      ssl := (env.library.write t.ssl bytes).ssl
      wbio := t.wbio ++ (env.library.write t.ssl bytes).written } : TlsObject σ Bridge) = s
    have htransport : s.transport = t.transport := by rw [← hs]
    rcases TlsObject.flushWbio_transport (x := transport o) s with heq | ⟨d, heq⟩
    · rw [heq, htransport]
      exact h
    · rw [heq, (hsend d s.transport).1, (hsend d s.transport).2, htransport]
      exact h
  · exact h

lemma idle_send {s : Stream σ} {t : TlsObject σ Bridge} {o : Outside} (bytes : Bytes)
    (ht : s.innerTls = some t) (h : Idle s) : Idle { s with
      innerTls := some (t.send (transport o) env.library bytes).2 } := by
  intro t' ht'
  rw [Option.mem_some_iff] at ht'
  exact ht' ▸ send_idle bytes (h t (by rw [ht]; rfl))

lemma Settled.writeBytes {s : Stream σ} (h : Settled s) (bytes : Bytes) (sent : Bool) :
    Settled (AgentStream.writeBytes env bytes sent s).1 := by
  rw [AgentStream.writeBytes]
  split_ifs
  · exact h
  cases ht : s.innerTls with
  | none => exact h.of_same rfl rfl id
  | some t => exact h.of_same rfl rfl (idle_send bytes ht)

lemma Settled.send {s : Stream σ} (h : Settled s) (bytes : Bytes) (sent : Bool) :
    Settled (AceSslTransport.send env bytes sent s).1 := by
  rw [AceSslTransport.send]
  by_cases hhandle : s.handle = false
  · rw [if_pos hhandle]
    exact h
  rw [if_neg hhandle]
  cases ht : s.innerTls with
  | none =>
    dsimp only
    split_ifs <;> exact h.of_same rfl rfl id
  | some t =>
    dsimp only
    split_ifs <;> exact h.of_same rfl rfl (idle_send bytes ht)

lemma Settled.input {n : ℕ} {readable : Bool} {s s' : Stream σ} (h : Settled s)
    (hinput : input env side n readable s = some s') : Settled s' := by
  rw [TunnelStream.input] at hinput
  split_ifs at hinput with hregistered
  swap
  · cases hinput
    exact h
  have hidle := h.idle hregistered
  rw [Stream.handleInput] at hinput
  cases hsocket : s.socket with
  | nil =>
    rw [hsocket] at hinput
    cases hinput
    exact .of_closed rfl
  | cons chunk socket =>
    rw [hsocket] at hinput
    dsimp only at hinput
    split_ifs at hinput
    · rcases hdrain : Stream.drainFrames env side n
          { s with socket := socket, recvBuf := s.recvBuf ++ chunk } with _ | ⟨s₁, _ | _ | _⟩ <;>
        rw [hdrain] at hinput <;> cases hinput
      · obtain ⟨hmore, hidle'⟩ := drainFrames_goOn
          (s := { s with socket := socket, recvBuf := s.recvBuf ++ chunk }) hidle hdrain
        refine ⟨fun _ f rest hok => ?_, fun _ => hidle'⟩
        rw [hmore] at hok
        cases hok
      · exact .of_closed rfl
    · cases hinput
      exact .of_closed rfl

/-- Every callback keeps a stream settled. -/
lemma Settled.step {e : Event} {s s' : Stream σ} (h : Settled s)
    (hstep : step env side e s = some s') : Settled s' := by
  cases e with
  | input n readable => exact h.input hstep
  | send bytes sent =>
    cases side with
    | agentStream => cases hstep; exact h.writeBytes bytes sent
    | aceSslTransport => cases hstep; exact h.send bytes sent
  | ping sent =>
    cases side with
    | agentStream =>
      cases hstep
      rw [AgentStream.handleTimeout]
      split_ifs
      · exact .of_closed rfl
      · exact h.of_same rfl rfl id
      · exact .of_closed rfl
    | aceSslTransport =>
      cases hstep
      rw [AceSslTransport.sendWsPing]
      dsimp only
      split_ifs
      · exact h
      · exact h.of_same rfl rfl id
      · exact h.of_same rfl rfl id
  | close =>
    cases side with
    | agentStream => cases hstep; exact h.of_same rfl rfl id
    | aceSslTransport =>
      cases hstep
      rw [AceSslTransport.close]
      split_ifs
      · exact h
      · exact h.of_same rfl rfl id
  | handleClose =>
    cases hstep
    exact .of_closed rfl

lemma Settled.run {es : List Event} {s s' : Stream σ} (h : Settled s)
    (hrun : run env side es s = some s') : Settled s' := by
  induction es generalizing s with
  | nil =>
    cases hrun
    exact h
  | cons e es ih =>
    obtain ⟨s₁, hstep, hrest⟩ := Option.bind_eq_some_iff.mp hrun
    exact ih (h.step hstep) hrest

/-! ### What the set-up leaves -/

variable (env side) in
/-- Where nothing else fails, the set-up leaves a stream exactly if the handshake succeeds, and the
stream has what was read ahead. Without the inner TLS there is nothing in its buffer. -/
structure Opens (ok : Prop) (opened : ℕ → Option (Stream σ)) (socket : List Bytes) : Prop where
  registered : ∀ n s, opened n = some s → s.registered = true
  cases : ∀ n s, opened n = some s → s.recvBuf = [] ∧ s.innerTls = none ∨
    ok ∧ (shaken env side n socket).result = some true ∧
      s.recvBuf = (shaken env side n socket).transport.socketBuf ∧
      ∀ t ∈ s.innerTls, t.transport.buffered = true ∧
        t.transport.inbound = (shaken env side n socket).transport.inbound
  of_result : ok → ∀ n, (shaken env side n socket).result = some true →
    ∃ s, opened n = some s ∧ s.recvBuf = (shaken env side n socket).transport.socketBuf

lemma takeOver_innerTls (t : TlsObject σ Bridge) (s : Stream σ) :
    ∀ t' ∈ (s.takeOver t).innerTls, t'.transport.buffered = true ∧
      t'.transport.inbound = t.transport.inbound := by
  intro t' ht'
  rw [Stream.takeOver, Option.mem_some_iff] at ht'
  exact ht' ▸ ⟨rfl, rfl⟩

/-- A set-up that takes the handshake over leaves what was read ahead. -/
lemma opens_of_shaken {wants ok : Prop} [Decidable ok] {opened : ℕ → Option (Stream σ)}
    {socket : List Bytes} (left : TlsObject σ Bridge → Stream σ)
    (hleft : ∀ t, (left t).registered = true ∧ (left t).recvBuf = t.transport.socketBuf ∧
      (left t).innerTls = (Stream.takeOver t { socket := socket }).innerTls)
    (hinner : wants → ∀ n, opened n =
      if (shaken env side n socket).result = some true ∧ ok then
        some (left (shaken env side n socket))
      else none)
    (hplain : ¬ wants → ∀ n s, opened n = some s →
      s.registered = true ∧ s.recvBuf = [] ∧ s.innerTls = none) :
    Opens env side (wants ∧ ok) opened socket := by
  by_cases hwants : wants
  · refine ⟨fun n s h => ?_, fun n s h => ?_, fun hok n hresult => ?_⟩
    · rw [hinner hwants] at h
      split_ifs at h
      cases h
      exact (hleft _).1
    · rw [hinner hwants] at h
      split_ifs at h with hif
      cases h
      obtain ⟨-, hbuf, htls⟩ := hleft (shaken env side n socket)
      refine .inr ⟨⟨hwants, hif.2⟩, hif.1, hbuf, ?_⟩
      rw [htls]
      exact takeOver_innerTls _ _
    · exact ⟨_, (hinner hwants n).trans (if_pos ⟨hresult, hok.2⟩), (hleft _).2.1⟩
  · exact ⟨fun n s h => (hplain hwants n s h).1, fun n s h => .inl (hplain hwants n s h).2,
      fun hok => absurd hok.1 hwants⟩

lemma handOff_eq (cfg : Setup) (hwants : cfg.wantsInnerTls = true) (n : ℕ)
    (socket : List Bytes) : AgentStream.handOff env cfg n socket =
      if (shaken env .agentStream n socket).result = some true ∧ cfg.registers = true then
        some { Stream.takeOver (shaken env .agentStream n socket) { socket := socket } with
          attached := true, registered := true }
      else none := by
  rw [AgentStream.handOff, if_pos hwants, AgentStream.setupInnerTls, if_neg (by simp [hwants])]
  dsimp only
  cases (shaken env .agentStream n socket).result with
  | none => simp
  | some b => cases b <;> cases cfg.registers <;> rfl

lemma opens_handOff (cfg : Setup) (socket : List Bytes) :
    Opens env .agentStream (cfg.wantsInnerTls = true ∧ cfg.registers = true)
      (fun n => AgentStream.handOff env cfg n socket) socket := by
  refine opens_of_shaken
    (fun t => { Stream.takeOver t { socket := socket } with attached := true, registered := true })
    (fun t => ⟨rfl, rfl, rfl⟩) (fun hwants n => handOff_eq cfg hwants n socket)
    fun hplain n s h => ?_
  rw [AgentStream.handOff, if_neg hplain] at h
  split_ifs at h
  cases h
  exact ⟨rfl, rfl, rfl⟩

lemma createConnected_eq (cfg : Setup) (hwants : cfg.wantsInnerTls = true) (n : ℕ)
    (socket : List Bytes) : AceSslTransport.createConnected env cfg n socket =
      if (shaken env .aceSslTransport n socket).result = some true ∧ cfg.setCert = true ∧
          cfg.verified = true ∧ cfg.registers = true then
        some { Stream.takeOver (shaken env .aceSslTransport n socket) { socket := socket } with
          registered := true }
      else none := by
  rw [AceSslTransport.createConnected, AceSslTransport.connectAndHandshake, if_pos hwants]
  dsimp only
  cases (shaken env .aceSslTransport n socket).result with
  | none => cases cfg.setCert <;> rfl
  | some b =>
    cases b <;> cases cfg.setCert <;> cases cfg.verified <;> cases cfg.registers <;> rfl

lemma opens_createConnected (cfg : Setup) (socket : List Bytes) :
    Opens env .aceSslTransport (cfg.wantsInnerTls = true ∧ cfg.setCert = true ∧
        cfg.verified = true ∧ cfg.registers = true)
      (fun n => AceSslTransport.createConnected env cfg n socket) socket := by
  refine opens_of_shaken
    (fun t => { Stream.takeOver t { socket := socket } with registered := true })
    (fun t => ⟨rfl, rfl, rfl⟩) (fun hwants n => createConnected_eq cfg hwants n socket)
    fun hplain n s h => ?_
  rw [AceSslTransport.createConnected, AceSslTransport.connectAndHandshake, if_neg hplain] at h
  dsimp only at h
  split_ifs at h
  cases h
  exact ⟨rfl, rfl, rfl⟩

/-- A stream stalls no frame exactly if a handshake that opens it leaves the frame after it to a
later read. -/
lemma neverStalls_iff {ok : Prop} {opened : ℕ → Option (Stream σ)} {chunks : List Bytes}
    (hopens : Opens env side ok opened chunks) (hchunks : ∀ chunk ∈ chunks, chunk ≠ []) :
    NeverStalls env side opened ↔ (ok → HandshakeEndsApart env side chunks) := by
  have hblocking : Blocking { socket := chunks } := ⟨rfl, rfl, hchunks⟩
  have hshaken : ∀ n, handshakeOver (outside env side) (perform env side) env.ssl n
      { socketBuf := chunks.flatten, socket := [] } = (shaken env side n chunks).map gathered :=
    fun n => (handshakeOver_gathered hblocking).2
  have hapart : ∀ n, (shaken env side n chunks).result = some true →
      ((∀ f rest, decode (shaken env side n chunks).transport.socketBuf ≠ .ok f rest) ↔
        EndsApart chunks (gathered (shaken env side n chunks).transport).socketBuf) := by
    intro n hresult
    have hnot : (shaken env side n chunks).result ≠ some false := by
      rw [hresult]
      nofun
    obtain ⟨i, hi⟩ := ahead_handshakeOver hblocking rfl rfl hnot
    exact hi.no_frame_iff
  constructor
  · intro hnever hok n t hresult
    dsimp only [t] at hresult ⊢
    rw [hshaken] at hresult ⊢
    obtain ⟨s, hs, hbuf⟩ := hopens.of_result hok n hresult
    refine (hapart n hresult).mp ?_
    rw [← hbuf]
    exact (hnever n [] s s hs rfl (hopens.registered n s hs)).recvBuf
  · intro hends n es s s' hs hrun hregistered
    refine (Settled.run ?_ hrun).noStalledFrame hregistered
    rcases hopens.cases n s hs with ⟨hbuf, hnone⟩ | ⟨hok, hresult, hbuf, htls⟩
    · refine ⟨fun _ f rest h => ?_, fun _ t ht => ?_⟩
      · rw [hbuf] at h
        cases h
      · rw [hnone] at ht
        cases ht
    · have hfrom := hends hok n
      rw [hshaken] at hfrom
      refine ⟨fun _ => ?_, fun _ t ht => ?_⟩
      · rw [hbuf]
        exact (hapart n hresult).mpr (hfrom hresult)
      · obtain ⟨hbuffered, hinbound⟩ := htls t ht
        refine ⟨hbuffered, hinbound.trans ?_⟩
        exact (handshakeOver_gathered hblocking).1.inbound

/-! ### No frame is stalled where the reads of the handshake end with it -/

/-- Neither end of the tunnel ever stalls a frame if and only if no read ends the last frame that
the handshake takes and the one after it. -/
theorem no_stalled_frame_iff (env : Surroundings σ) (cfg : Setup) (chunks : List Bytes)
    (hchunks : ∀ chunk ∈ chunks, chunk ≠ []) :
    (NeverStalls env .agentStream (fun n => AgentStream.handOff env cfg n chunks) ↔
      (cfg.wantsInnerTls = true ∧ cfg.registers = true →
        HandshakeEndsApart env .agentStream chunks)) ∧
    (NeverStalls env .aceSslTransport (fun n => AceSslTransport.createConnected env cfg n chunks) ↔
      (cfg.wantsInnerTls = true ∧ cfg.setCert = true ∧ cfg.verified = true ∧ cfg.registers = true →
        HandshakeEndsApart env .aceSslTransport chunks)) :=
  ⟨neverStalls_iff (opens_handOff cfg chunks) hchunks,
    neverStalls_iff (opens_createConnected cfg chunks) hchunks⟩

end

/-- A TLS library whose handshake takes one record. -/
def oneRecord : TlsLibrary Unit where
  connect := takeOne
  accept := takeOne
  read _ rbio := ⟨if rbio = [] then [] else [rbio], true, (), [], []⟩
  write _ plaintext := ⟨true, (), plaintext⟩
where
  takeOne (_ : Unit) (rbio : Bytes) : SslAnswer Unit :=
    if rbio = [] then ⟨.wantRead, (), [], []⟩ else ⟨.ok, (), [], []⟩

def tunnel : Surroundings Unit where
  library := oneRecord
  ssl := ()
  maskKey _ := 0
  sends _ := true
  onBytes _ := .kept

def innerTls : Setup where
  wantsInnerTls := true
  registers := true

/-- A record of the handshake, and the one after it. -/
def record (b : UInt8) : Bytes := [0x82, 0x01, b]

/-- The handshake leaves the record after it. -/
lemma shaken_records (side : Side) (n : ℕ) :
    let t := handshakeOver (outside tunnel side) (perform tunnel side) tunnel.ssl n
      { socketBuf := record 0x16 ++ record 0x17, socket := [] }
    t.result = some true → t.transport.socketBuf = record 0x17 := by
  intro t hresult
  have htwo : (handshakeOver (outside tunnel side) (perform tunnel side) tunnel.ssl 2
      { socketBuf := record 0x16 ++ record 0x17, socket := [] }).result.isSome := by
    cases side <;> rfl
  by_cases hn : 2 ≤ n
  · have ht : t = handshakeOver (outside tunnel side) (perform tunnel side) tunnel.ssl 2
        { socketBuf := record 0x16 ++ record 0x17, socket := [] } :=
      handshakeOver_of_returned htwo hn
    rw [ht]
    cases side <;> rfl
  · obtain rfl | rfl : n = 0 ∨ n = 1 := by omega
    · exact absurd hresult nofun
    · cases side <;> exact absurd hresult nofun

lemma endsApart_records (side : Side) :
    HandshakeEndsApart tunnel side [record 0x16, record 0x17] := by
  intro n t hresult f rest hok k hk
  have hleft : t.transport.socketBuf = record 0x17 := shaken_records side n hresult
  rw [hleft] at hok hk
  obtain ⟨rfl, rfl⟩ : f = ⟨0x2, [0x17]⟩ ∧ rest = [] := by cases hok; exact ⟨rfl, rfl⟩
  cases k with
  | zero => decide
  | succ k =>
    rw [List.take_succ_cons, List.flatten_cons, List.length_append] at hk
    exact absurd (lt_of_le_of_lt (Nat.le_add_right _ _) hk) (by decide)

/-- Each record in a read of its own. -/
theorem no_stalled_frame_apart :
    NeverStalls tunnel .agentStream
      (fun n => AgentStream.handOff tunnel innerTls n [record 0x16, record 0x17]) ∧
    NeverStalls tunnel .aceSslTransport
      (fun n => AceSslTransport.createConnected tunnel innerTls n [record 0x16, record 0x17]) := by
  obtain ⟨hcloud, hagent⟩ :=
    no_stalled_frame_iff tunnel innerTls [record 0x16, record 0x17] (by decide)
  exact ⟨hcloud.mpr fun _ => endsApart_records .agentStream,
    hagent.mpr fun _ => endsApart_records .aceSslTransport⟩

/-- Both records in one read. -/
theorem record_stalled :
    ¬ NeverStalls tunnel .agentStream
      (fun n => AgentStream.handOff tunnel innerTls n [record 0x16 ++ record 0x17]) ∧
    ¬ NeverStalls tunnel .aceSslTransport
      (fun n => AceSslTransport.createConnected tunnel innerTls n
        [record 0x16 ++ record 0x17]) := by
  constructor
  · intro h
    have hopened : AgentStream.handOff tunnel innerTls 2 [record 0x16 ++ record 0x17] =
        some { socket := [], recvBuf := record 0x17, attached := true, registered := true
               innerTls := some ⟨(), [], [], { buffered := true, socket := [] }, some true⟩ } := by
      rfl
    exact (h 2 [] _ _ hopened rfl rfl).recvBuf ⟨0x2, [0x17]⟩ [] rfl
  · intro h
    have hopened : AceSslTransport.createConnected tunnel innerTls 2
        [record 0x16 ++ record 0x17] =
        some { socket := [], recvBuf := record 0x17, registered := true
               innerTls := some ⟨(), [], [], { buffered := true, socket := [] }, some true⟩ } := by
      rfl
    exact (h 2 [] _ _ hopened rfl rfl).recvBuf ⟨0x2, [0x17]⟩ [] rfl

end TunnelStream
