import OnPremPbx.Cloud.Invariant
import OnPremPbx.WebSocket.WsFrame

/-!
# The streams of the agents

One `AgentStream` (`agent_stream.cpp`) reads the socket of an agent that has dialed in, and lends
the endpoint an adapter to write to it. When the endpoint takes the adapter of a new stream it
closes the old one, whose stream goes on running its own callbacks until the reactor deletes it.
`Reactor` is the cloud end together with all such streams; a stream is the `ConnId` of its
connection, and is called back only until it is deleted.

The endpoint calls `close` on the transports that it records as shut. The socket, the inner TLS
and the reactor are outside of the code: what they return is part of the events.
-/

open Framing SipFrame

structure AgentStream where
  /-- `m_handle` is valid -/
  handle : Bool := true
  /-- `m_adapter` is not null -/
  adapter : Bool := false
  /-- the adapter's `m_s` is not null -/
  backPointer : Bool := false
  /-- there is an `m_inner_tls`, or one is to be set up -/
  innerTls : Bool := false
  recvBuf : Bytes := []
  closeNotified : Bool := false
  attached : Bool := false
  /-- `m_ping_timer` is scheduled -/
  pingTimer : Bool := false
  /-- the reactor calls the stream back -/
  registered : Bool := false
  deriving DecidableEq, Repr

namespace AgentStream

def closeSocket (a : AgentStream) : AgentStream :=
  { a with adapter := false, pingTimer := false, handle := false }

/-- The stream has not reported its end, and its socket is open. -/
def alive (a : AgentStream) : Bool := a.handle && !a.closeNotified

end AgentStream

structure Reactor where
  cloud : Cloud
  /-- the streams that are not deleted -/
  streams : ConnId → Option AgentStream := fun _ => none
  /-- the number of streams made so far -/
  accepted : ℕ := 0

namespace Reactor

/-- How `drain_frames` ends: it returns true or false, or an exception passes through it. -/
inductive Outcome where
  | goOn
  | stop
  | raised
  deriving DecidableEq, Repr

/-- Change every stream. -/
def map (g : ConnId → AgentStream → AgentStream) (s : Reactor) : Reactor :=
  { s with streams := fun k => (s.streams k).map (g k) }

/-- Change the stream `k`. -/
def modify (k : ConnId) (f : AgentStream → AgentStream) (s : Reactor) : Reactor :=
  s.map fun j a => if j = k then f a else a

/-- `close` of the transports `ks`, which an adapter without `m_s` ignores. -/
def closeSockets (ks : List ConnId) (s : Reactor) : Reactor :=
  s.map fun k a => if k ∈ ks ∧ a.backPointer then a.closeSocket else a

/-- Call the endpoint. -/
def call (f : Cloud → Cloud) (s : Reactor) : Reactor :=
  closeSockets ((f s.cloud).trace.shut.drop s.cloud.trace.shut.length) { s with cloud := f s.cloud }

def attach (k : ConnId) (s : Reactor) : Reactor :=
  match s.streams k with
  | none   => s
  | some a =>
    if a.attached then s
    else
      (s.modify k fun a => { a with attached := true, adapter := true, backPointer := true }).call
        (Cloud.onAgentConnected k)

def notifyDisconnectOnce (k : ConnId) (s : Reactor) : Reactor :=
  match s.streams k with
  | none   => s
  | some a =>
    if a.closeNotified then s
    else
      let s := s.modify k fun a => { a with closeNotified := true }
      if a.adapter then
        (s.modify k fun a => { a with adapter := false, backPointer := false }).call
          Cloud.onAgentDisconnected
      else s

/-- `handle_close`, and the destructor, which does the same. -/
def handleClose (k : ConnId) (s : Reactor) : Reactor :=
  let s := s.notifyDisconnectOnce k
  { s with streams := Function.update s.streams k none }

/-- `on_bytes_received`, and the look at `m_handle` after it. -/
def feed (k : ConnId) (bytes : Bytes) (s : Reactor) : Reactor × Outcome :=
  let raised := (s.cloud.clearPings.onTunnelBytes bytes).exit = .raised
  let s := s.call (Cloud.onBytesReceived bytes)
  (s, if raised then .raised
    else if ((s.streams k).map (·.handle)).getD false then .goOn else .stop)

/-- Feed what `InnerTls::recv` returns, call after call: `none` for a failure, and no bytes when
the records are used up. -/
def feedInnerTls (k : ConnId) : List (Option Bytes) → Reactor → Reactor × Outcome
  | [], s                => (s, .goOn)
  | none :: _, s         => (s.notifyDisconnectOnce k, .stop)
  | some [] :: _, s      => (s, .goOn)
  | some bytes :: rest, s =>
    let out := s.feed k bytes
    if out.2 = .goOn then feedInnerTls k rest out.1 else out

/-- The loop of `drain_frames`, with the number of iterations it may still make. `tls` has the
results of `InnerTls::recv` for each frame of data. -/
def drainFrames (k : ConnId) :
    ℕ → List (List (Option Bytes)) → Reactor → Reactor × Outcome
  | 0, _, s       => (s, .goOn)
  | n + 1, tls, s =>
    match s.streams k with
    | none   => (s, .stop)
    | some a =>
      match WsFrame.decode a.recvBuf with
      | .needMore      => (s, .goOn)
      | .raises        => (s, .raised)
      | .ok frame rest =>
        let s := s.modify k fun a => { a with recvBuf := rest }
        if frame.opcode = 0x0 ∨ frame.opcode = 0x1 ∨ frame.opcode = 0x2 then
          let out := if a.innerTls then s.feedInnerTls k (tls.headD []) else s.feed k frame.payload
          if out.2 = .goOn then drainFrames k n tls.tail out.1 else out
        -- a PING is answered on the socket, a PONG ignored
        else if frame.opcode = 0x9 ∨ frame.opcode = 0xA then drainFrames k n tls s
        -- a close frame, or an unknown opcode
        else (s.notifyDisconnectOnce k, .stop)

/-- `chunk` is what the socket has, nothing at its end or on an error. -/
def handleInput (k : ConnId) (chunk : Bytes) (tls : List (List (Option Bytes))) (s : Reactor) :
    Reactor × Outcome :=
  match s.streams k with
  | none   => (s, .stop)
  | some a =>
    if a.handle = false ∨ chunk = [] then (s.notifyDisconnectOnce k, .stop)
    else
      let s := s.modify k fun a => { a with recvBuf := a.recvBuf ++ chunk }
      s.drainFrames k ((a.recvBuf ++ chunk).length + 1) tls

/-- `sent` says whether the PING was written. -/
def handleTimeout (k : ConnId) (sent : Bool) (s : Reactor) : Reactor × Outcome :=
  match s.streams k with
  | none   => (s, .stop)
  | some a =>
    if a.handle = false then (s, .stop)
    else if sent then (s, .goOn)
    else (s.notifyDisconnectOnce k, .stop)

/-- The reactor closes a handler that does not want to go on. -/
def closeOnStop (k : ConnId) (out : Reactor × Outcome) : Reactor :=
  if out.2 = .stop then out.1.handleClose k else out.1

/-- The hand-off in `WebConnection::handle_input` after the constructor: the inner TLS if it is
wanted, `attach`, and `register_with_reactor`; the stream is deleted where one of them fails. -/
def establish (k : ConnId) (handshake : Bool) (leftover : Bytes) (registers : Bool)
    (s : Reactor) : Reactor :=
  match s.streams k with
  | none   => s
  | some a =>
    if a.attached then s
    else if a.innerTls ∧ handshake = false then s.handleClose k
    else
      let s := (s.modify k fun a =>
        { a with recvBuf := if a.innerTls then leftover else a.recvBuf }).attach k
      if registers then s.modify k fun a => { a with registered := true, pingTimer := true }
      else s.handleClose k

inductive Event where
  | accept (innerTls : Bool)
  | establish (k : ConnId) (handshake : Bool) (leftover : Bytes) (registers : Bool)
  | input (k : ConnId) (chunk : Bytes) (tls : List (List (Option Bytes)))
  | timeout (k : ConnId) (sent : Bool)
  | close (k : ConnId)
  | browserUpgrade (openMeta : Bytes)
  | browserData (b : BrowserSink) (bytes : Bytes)
  | browserClose (b : BrowserSink) (reason : Bytes)
  | revoke (payload : Bytes)
  | tick
  | advance (seconds : ℕ)
  deriving DecidableEq, Repr

/-- Call a stream back, if the reactor knows it. -/
def callback (k : ConnId) (ready : AgentStream → Bool) (f : Reactor → Reactor) (s : Reactor) :
    Reactor :=
  if ((s.streams k).map ready).getD false then f s else s

def handle (e : Event) (s : Reactor) : Reactor :=
  match e with
  | .accept innerTls =>
    { s with
      streams := Function.update s.streams s.accepted (some { innerTls := innerTls })
      accepted := s.accepted + 1 }
  | .establish k handshake leftover registers => s.establish k handshake leftover registers
  | .input k chunk tls =>
    s.callback k (·.registered) fun s => closeOnStop k (s.handleInput k chunk tls)
  | .timeout k sent =>
    s.callback k (·.pingTimer) fun s => closeOnStop k (s.handleTimeout k sent)
  | .close k => s.callback k (·.registered) (handleClose k)
  | .browserUpgrade openMeta => s.call (Cloud.handle (.browserUpgrade openMeta))
  | .browserData b bytes     => s.call (Cloud.handle (.browserData b bytes))
  | .browserClose b reason   => s.call (Cloud.handle (.browserClose b reason))
  | .revoke payload          => s.call (Cloud.handle (.revoke payload))
  | .tick                    => s.call (Cloud.handle .tick)
  | .advance seconds         => s.call (Cloud.handle (.advance seconds))

def setScript (script : Cloud.Script) (s : Reactor) : Reactor :=
  { s with cloud := s.cloud.setScript script }

/-- An event, with what the surroundings of the cloud end do while it is handled. -/
abbrev Input := Event × Cloud.Script

def step (s : Reactor) (i : Input) : Reactor := (s.setScript i.2).handle i.1

/-- The state after the inputs `is`. -/
def run (s : Reactor) (is : List Input) : Reactor := is.foldl step s

/-- Before the first agent dials in. -/
def init (cfg : CloudTunnelEndpoint.Config) (clock : Option ℤ)
    (connectedField : Bytes → Option Bool) : Reactor where
  cloud := Cloud.init cfg clock connectedField

end Reactor
