import Mathlib.Data.List.AList
import OnPremPbx.Framing.Outbound
import OnPremPbx.Framing.Receiver
import OnPremPbx.Tunnel.SipFrame

/-!
# The agent end of the tunnel

`CloudConnector` (`cloud_connector.cpp`) dials the cloud, owns the transport and the queue of
frames that wait for one, and drives the heartbeat. `SipFrameDemux` (`sip_frame_demux.cpp`) maps
stream ids to connections to the local Asterisk and decodes what the cloud sends. A connection is
torn down only at the next `tick`: until then `m_disconnect_pending` keeps frames off it.

As on the cloud end, what the code does not decide is read off a `Script`, and `Agent.Trace` is a
record that no function reads.
-/

open Framing SipFrame

/-- An `IAsteriskStream`, named by the number of streams opened before it. -/
abbrev AsteriskStream := ℕ

structure CloudConnector.Config where
  initialBackoffSec : ℤ := 1
  maxBackoffSec : ℤ := 30
  outboundBufferMax : ℕ := 0
  heartbeatIntervalSec : ℤ := 15
  heartbeatMaxMissed : ℤ := 3
  deriving DecidableEq, Repr

structure CloudConnector where
  cfg : CloudConnector.Config := {}
  clock : ℤ := 0
  transport : Option ConnId := none
  reconnectAttempts : ℤ := 0
  currentBackoffSec : ℤ := 0
  nextReconnectAt : ℤ := 0
  /-- the queued frames; the source keeps their encodings -/
  outbound : List Frame := []
  lastHeartbeatUnix : ℤ := 0
  pingsOutstanding : ℤ := 0
  disconnectPending : Bool := false

namespace SipFrameDemux

/-- What the `TunnelSink *` of the demux can point to. -/
inductive Sink where
  | connector
  deriving DecidableEq, Repr

end SipFrameDemux

structure SipFrameDemux where
  tunnel : Option SipFrameDemux.Sink := some .connector
  streams : AList fun _ : UInt32 => AsteriskStream := ∅
  recvBuffer : Bytes := []

namespace Agent

/-- What `IAsteriskStream::send_bytes` does: it returns true, or false, or it reports the end of
the stream back to the demux before it returns false. -/
inductive StreamWrite where
  | ok
  | broken
  | brokenEof
  deriving DecidableEq, Repr

/-- What the surroundings do while one entry point runs: the results of the transport's `send`,
of the factory's `open` (whether there is a stream) and of the streams' `send_bytes`, whether the
installed handlers return, and what the on-connected handler sends. -/
structure Script where
  sends : List SendResult := []
  opens : List Bool := []
  streamWrites : List StreamWrite := []
  handlers : List Bool := []
  onConnected : List Frame := []
  deriving DecidableEq, Repr

/-- The record of what the two objects did. -/
structure Trace where
  /-- the transports installed so far, and those the connector has closed -/
  dialed : List ConnId := []
  shut : List ConnId := []
  writes : List (Write ConnId Frame) := []
  /-- the frames handed to `send_frame`, and whether they were kept or refused -/
  passed : List (Frame × Bool) := []
  /-- the number of calls of `on_tunnel_disconnect` -/
  losses : ℕ := 0
  /-- when bytes arrived on the current connection -/
  recvTimes : List ℤ := []
  /-- the stream id of every stream that was opened -/
  opened : List UInt32 := []
  /-- what the streams were given, and what they produced -/
  handed : List (AsteriskStream × Bytes) := []
  produced : List (AsteriskStream × Bytes) := []
  closed : List (AsteriskStream × Bytes) := []
  /-- the frames dispatched to the end, with the connection they came from -/
  heard : List (ConnId × Frame) := []

end Agent

/-- The connector and the demux attached to it. -/
structure Agent where
  connector : CloudConnector := {}
  demux : SipFrameDemux := {}
  script : Agent.Script := {}
  trace : Agent.Trace := {}

namespace Agent

/-! ### CloudConnector -/

/-- The transport that `send_frame` may write to. -/
def usable (s : Agent) : Option ConnId :=
  if s.connector.disconnectPending then none else s.connector.transport

def connected (s : Agent) : Bool := s.usable.isSome

def requestDisconnect (s : Agent) : Agent := { s with connector.disconnectPending := true }

def onTunnelDisconnect (s : Agent) : Agent :=
  { s with
    demux.streams := ∅
    demux.recvBuffer := []
    demux.tunnel := none
    trace.closed := s.trace.closed ++
      s.demux.streams.entries.map fun kv => (kv.2, Bytes.ofString "tunnel_lost")
    trace.losses := s.trace.losses + 1 }

def setTunnel (tunnel : Option SipFrameDemux.Sink) (s : Agent) : Agent :=
  { s with demux.tunnel := tunnel, demux.recvBuffer := [] }

def markDisconnected (s : Agent) : Agent :=
  onTunnelDisconnect
    { s with
      connector.transport := none
      connector.currentBackoffSec := 0
      connector.nextReconnectAt := 0
      connector.pingsOutstanding := 0
      connector.disconnectPending := false
      trace.shut := s.trace.shut ++ s.connector.transport.toList }

/-- Record a write and its result, the next one of the script. -/
def wrote (c : ConnId) (f : Frame) (result : SendResult) (s : Agent) : Agent :=
  { s with
    script.sends := s.script.sends.tail
    trace.writes := s.trace.writes ++ [⟨c, f, result⟩] }

/-- `m_transport->send(bytes)` on the transport `c`. -/
def transportSend (c : ConnId) (f : Frame) (s : Agent) : Agent × Bool :=
  let result := s.script.sends.headD .ok
  (s.wrote c f result, result = .ok)

/-- Record a frame handed to `send_frame`, and whether it was kept. -/
def record (f : Frame) (kept : Bool) (s : Agent) : Agent :=
  { s with trace.passed := s.trace.passed ++ [(f, kept)] }

/-- The queue takes another frame: it is unbounded or not full. -/
def hasRoom (s : Agent) : Bool :=
  s.connector.cfg.outboundBufferMax = 0 ∨
    s.connector.outbound.length < s.connector.cfg.outboundBufferMax

/-- Replace the queue. -/
def setOutbound (q : List Frame) (s : Agent) : Agent := { s with connector.outbound := q }

/-- The end of `send_frame`: keep the frame for the next connection, if there is room. -/
def enqueue (f : Frame) (s : Agent) : Agent :=
  if s.hasRoom then (s.setOutbound (s.connector.outbound ++ [f])).record f true
  else s.record f false

def sendFrame (op : Op) (streamId : UInt32) (payload : Bytes) (s : Agent) : Agent :=
  let f : Frame := ⟨op, streamId, payload⟩
  match s.usable with
  | none   => s.enqueue f
  | some c =>
    let out := s.transportSend c f
    if out.2 then out.1.record f true else out.1.requestDisconnect.enqueue f

/-- The loop of `flush_outbound` over the queue it still has to send. -/
def flushLoop (c : ConnId) : List Frame → Agent → Agent
  | [], s        => s
  | f :: rest, s =>
    let out := s.transportSend c f
    if out.2 then flushLoop c rest (out.1.setOutbound rest)
    else out.1.markDisconnected

def flushOutbound (s : Agent) : Agent :=
  match s.connector.transport with
  | none   => s
  | some c => flushLoop c s.connector.outbound s

/-- `send_frame` with its arguments as one frame. -/
def post (s : Agent) (f : Frame) : Agent := s.sendFrame f.op f.streamId f.payload

/-- The on-connected handler: `main.cpp` re-arms the demux, then sends. -/
def onConnected (s : Agent) : Agent :=
  s.script.onConnected.foldl post (s.setTunnel (some .connector))

/-- A failed connect doubles the backoff, up to its maximum. -/
def backOff (s : Agent) : Agent :=
  let backoff :=
    if s.connector.currentBackoffSec = 0 then s.connector.cfg.initialBackoffSec
    else min (s.connector.currentBackoffSec * 2) s.connector.cfg.maxBackoffSec
  { s with
    connector.reconnectAttempts := s.connector.reconnectAttempts + 1
    connector.currentBackoffSec := backoff
    connector.nextReconnectAt := s.connector.clock + backoff }

/-- Take over a transport: the part of `attempt_connect` before the flush. -/
def install (c : ConnId) (s : Agent) : Agent :=
  { s with
    connector.transport := some c
    connector.reconnectAttempts := 0
    connector.currentBackoffSec := 0
    connector.nextReconnectAt := 0
    connector.lastHeartbeatUnix := s.connector.clock
    connector.pingsOutstanding := 0
    trace.dialed := s.trace.dialed ++ [c]
    trace.recvTimes := [] }

/-- `dial` is the transport that `create_connected` returns, if any. -/
def attemptConnect (dial : Option ConnId) (s : Agent) : Agent :=
  match dial with
  | none   => s.backOff
  | some c => (s.install c).flushOutbound.onConnected

/-- Count a PING as outstanding. -/
def countPing (now : ℤ) (s : Agent) : Agent :=
  { s with
    connector.pingsOutstanding := s.connector.pingsOutstanding + 1
    connector.lastHeartbeatUnix := now }

def maybeHeartbeat (s : Agent) : Agent :=
  let now := s.connector.clock
  if s.connector.cfg.heartbeatIntervalSec ≤ 0 then s
  else if now - s.connector.lastHeartbeatUnix < s.connector.cfg.heartbeatIntervalSec then s
  else if s.connector.cfg.heartbeatMaxMissed ≤ s.connector.pingsOutstanding then
    s.markDisconnected
  else
    let s := s.sendFrame .PING 0 []
    if s.connector.transport.isSome then s.countPing now else s

def clearPending (s : Agent) : Agent := { s with connector.disconnectPending := false }

/-- The first part of `tick`: run a disconnect that was put off. -/
def drainPending (s : Agent) : Agent :=
  if s.connector.disconnectPending then
    let s := s.clearPending
    if s.connector.transport.isSome then s.markDisconnected else s
  else s

def tick (dial : Option ConnId) (s : Agent) : Agent :=
  let s := s.drainPending
  if s.connector.transport.isSome then s.maybeHeartbeat
  else if s.connector.clock < s.connector.nextReconnectAt then s
  else s.attemptConnect dial

def onTransportLost (s : Agent) : Agent :=
  if s.connector.transport.isSome then s.requestDisconnect else s

/-- `ok` is what the transport's `send_ws_ping` returns. -/
def sendWsPing (ok : Bool) (s : Agent) : Agent :=
  if s.usable.isSome ∧ ok = false then s.requestDisconnect else s

/-! ### SipFrameDemux -/

/-- `if (m_tunnel) m_tunnel->send_frame(...)`. -/
def tunnelSend (op : Op) (streamId : UInt32) (payload : Bytes) (s : Agent) : Agent :=
  match s.demux.tunnel with
  | none            => s
  | some .connector => s.sendFrame op streamId payload

def onAsteriskData (streamId : UInt32) (bytes : Bytes) (s : Agent) : Agent :=
  if streamId ∈ s.demux.streams then s.tunnelSend .DATA streamId bytes else s

/-- `m_streams.erase(stream_id)`. -/
def forget (streamId : UInt32) (s : Agent) : Agent :=
  { s with demux.streams := s.demux.streams.erase streamId }

def onAsteriskEof (streamId : UInt32) (reason : Bytes) (s : Agent) : Agent :=
  if streamId ∈ s.demux.streams then (s.forget streamId).tunnelSend .CLOSE streamId reason
  else s

/-- `close` of a stream. -/
def release (r : AsteriskStream) (reason : Bytes) (s : Agent) : Agent :=
  { s with trace.closed := s.trace.closed ++ [(r, reason)] }

def closeStream (streamId : UInt32) (reason : Bytes) (s : Agent) : Agent :=
  match s.demux.streams.lookup streamId with
  | none   => s
  | some r => (s.release r reason).forget streamId

def setScript (script : Script) (s : Agent) : Agent := { s with script := script }

/-- A stream that the factory opened, entered into the map. -/
def enter (streamId : UInt32) (s : Agent) : Agent :=
  { s with
    script.opens := s.script.opens.tail
    demux.streams := s.demux.streams.insert streamId s.trace.opened.length
    trace.opened := s.trace.opened ++ [streamId] }

/-- The OPEN case of `dispatch_frame`. -/
def openStream (streamId : UInt32) (s : Agent) : Agent :=
  if streamId ∈ s.demux.streams then s
  else if s.script.opens.headD true then s.enter streamId
  else
    (s.setScript { s.script with opens := s.script.opens.tail }).tunnelSend .CLOSE streamId
      (Bytes.ofString "asterisk_unreachable")

/-- Hand bytes to a stream. -/
def hand (r : AsteriskStream) (bytes : Bytes) (s : Agent) : Agent :=
  { s with
    script.streamWrites := s.script.streamWrites.tail
    trace.handed := s.trace.handed ++ [(r, bytes)] }

/-- The DATA case of `dispatch_frame`. -/
def writeStream (streamId : UInt32) (payload : Bytes) (s : Agent) : Agent :=
  let reason := Bytes.ofString "asterisk_write_failed"
  match s.demux.streams.lookup streamId with
  | none   => s
  | some r =>
    match s.script.streamWrites.headD .ok with
    | .ok        => s.hand r payload
    | .broken    => (s.hand r payload).closeStream streamId reason
    | .brokenEof => ((s.hand r payload).onAsteriskEof streamId reason).closeStream streamId reason

/-- Run the installed handler of a frame, and answer whether it returned. -/
def callHandler (s : Agent) : Agent × Bool :=
  (s.setScript { s.script with handlers := s.script.handlers.tail }, s.script.handlers.headD true)

/-- `dispatch_frame`, answering whether it returned normally. -/
def dispatchFrame (f : Frame) (s : Agent) : Agent × Bool :=
  match f.op with
  | .OPEN  => (s.openStream f.streamId, true)
  | .DATA  => (s.writeStream f.streamId f.payload, true)
  | .CLOSE => (s.closeStream f.streamId f.payload, true)
  | .PING  => (s.tunnelSend .PONG f.streamId [], true)
  | .SUBSCRIBER_REVOKED | .SOCIETY_BOOTSTRAP => s.callHandler
  | .PONG | .ERR | .PUSH_NOTIFY | .CDR_PUSH | .REGISTER_STATE | .AGENT_HELLO
  | .ASTERISK_STATUS => (s, true)

/-- Record a frame that was dispatched to its end. -/
def hear (conn : Option ConnId) (f : Frame) (s : Agent) : Agent :=
  { s with trace.heard := s.trace.heard ++ conn.toList.map fun c => (c, f) }

def dispatch (f : Frame) (s : Agent) : Agent × Bool :=
  let out := s.dispatchFrame f
  (if out.2 then out.1.hear s.connector.transport f else out.1, out.2)

/-! ### The cases of `send_frame` -/

lemma sendFrame_of_none {s : Agent} (h : s.usable = none) (op : Op) (i : UInt32) (p : Bytes) :
    s.sendFrame op i p = s.enqueue ⟨op, i, p⟩ := by
  simp only [sendFrame, h]

lemma sendFrame_of_ok {s : Agent} {c : ConnId} (h : s.usable = some c)
    (hr : s.script.sends.headD .ok = .ok) (op : Op) (i : UInt32) (p : Bytes) :
    s.sendFrame op i p = (s.wrote c ⟨op, i, p⟩ .ok).record ⟨op, i, p⟩ true := by
  simp only [sendFrame, h, transportSend, hr, decide_true, if_true]

lemma sendFrame_of_failed {s : Agent} {c : ConnId} {n : ℕ} (h : s.usable = some c)
    (hr : s.script.sends.headD .ok = .failed n) (op : Op) (i : UInt32) (p : Bytes) :
    s.sendFrame op i p =
      (s.wrote c ⟨op, i, p⟩ (.failed n)).requestDisconnect.enqueue ⟨op, i, p⟩ := by
  simp only [sendFrame, h, transportSend, hr, reduceCtorEq, decide_false, Bool.false_eq_true,
    if_false]

lemma tunnelSend_of_none {s : Agent} (h : s.demux.tunnel = none) (op : Op) (i : UInt32)
    (p : Bytes) : s.tunnelSend op i p = s := by simp only [tunnelSend, h]

lemma tunnelSend_of_some {s : Agent} {t : SipFrameDemux.Sink} (h : s.demux.tunnel = some t)
    (op : Op) (i : UInt32) (p : Bytes) : s.tunnelSend op i p = s.sendFrame op i p := by
  cases t
  simp only [tunnelSend, h]

/-! ### The receive loop -/

def setBuffer (b : Bytes) (s : Agent) : Agent := { s with demux.recvBuffer := b }

lemma enqueue_setBuffer (f : Frame) (b : Bytes) (s : Agent) :
    (s.setBuffer b).enqueue f = (s.enqueue f).setBuffer b := by
  have hroom : (s.setBuffer b).hasRoom = s.hasRoom := rfl
  rw [enqueue, enqueue, hroom]
  cases s.hasRoom <;> rfl

@[simp] lemma losses_enqueue (f : Frame) (s : Agent) :
    (s.enqueue f).trace.losses = s.trace.losses := by
  rw [enqueue]
  cases s.hasRoom <;> rfl

lemma sendFrame_setBuffer (op : Op) (i : UInt32) (p : Bytes) (b : Bytes) (s : Agent) :
    (s.setBuffer b).sendFrame op i p = (s.sendFrame op i p).setBuffer b := by
  rcases h : s.usable with _ | c
  · rw [sendFrame_of_none h, sendFrame_of_none (s := s.setBuffer b) h, enqueue_setBuffer]
  · cases hr : s.script.sends.headD .ok with
    | ok =>
      rw [sendFrame_of_ok h hr, sendFrame_of_ok (s := s.setBuffer b) h hr]
      rfl
    | failed n =>
      rw [sendFrame_of_failed h hr, sendFrame_of_failed (s := s.setBuffer b) h hr,
        ← enqueue_setBuffer]
      rfl

/-- The connector puts off every disconnect to its next tick. -/
@[simp] lemma losses_sendFrame (op : Op) (i : UInt32) (p : Bytes) (s : Agent) :
    (s.sendFrame op i p).trace.losses = s.trace.losses := by
  rcases h : s.usable with _ | c
  · rw [sendFrame_of_none h, losses_enqueue]
  · cases hr : s.script.sends.headD .ok with
    | ok => rw [sendFrame_of_ok h hr]; rfl
    | failed n => rw [sendFrame_of_failed h hr, losses_enqueue]; rfl

lemma tunnelSend_setBuffer (op : Op) (i : UInt32) (p : Bytes) (b : Bytes) (s : Agent) :
    (s.setBuffer b).tunnelSend op i p = (s.tunnelSend op i p).setBuffer b := by
  rcases h : s.demux.tunnel with _ | t
  · rw [tunnelSend_of_none h, tunnelSend_of_none (s := s.setBuffer b) h]
  · rw [tunnelSend_of_some h, tunnelSend_of_some (s := s.setBuffer b) h, sendFrame_setBuffer]

@[simp] lemma losses_tunnelSend (op : Op) (i : UInt32) (p : Bytes) (s : Agent) :
    (s.tunnelSend op i p).trace.losses = s.trace.losses := by
  rcases h : s.demux.tunnel with _ | t
  · rw [tunnelSend_of_none h]
  · rw [tunnelSend_of_some h, losses_sendFrame]

lemma onAsteriskEof_setBuffer (i : UInt32) (reason b : Bytes) (s : Agent) :
    (s.setBuffer b).onAsteriskEof i reason = (s.onAsteriskEof i reason).setBuffer b := by
  have hs : (s.setBuffer b).demux.streams = s.demux.streams := rfl
  rw [onAsteriskEof, onAsteriskEof, hs]
  split_ifs
  · exact tunnelSend_setBuffer _ _ _ b (s.forget i)
  · rfl

@[simp] lemma losses_onAsteriskEof (i : UInt32) (reason : Bytes) (s : Agent) :
    (s.onAsteriskEof i reason).trace.losses = s.trace.losses := by
  rw [onAsteriskEof]
  split_ifs
  · exact losses_tunnelSend _ _ _ (s.forget i)
  · rfl

lemma closeStream_setBuffer (i : UInt32) (reason b : Bytes) (s : Agent) :
    (s.setBuffer b).closeStream i reason = (s.closeStream i reason).setBuffer b := by
  have hs : (s.setBuffer b).demux.streams = s.demux.streams := rfl
  rcases h : s.demux.streams.lookup i with _ | r
  · simp only [closeStream, hs, h]
  · simp only [closeStream, hs, h]; rfl

@[simp] lemma losses_closeStream (i : UInt32) (reason : Bytes) (s : Agent) :
    (s.closeStream i reason).trace.losses = s.trace.losses := by
  rcases h : s.demux.streams.lookup i with _ | r <;> simp only [closeStream, h, forget, release]

lemma openStream_setBuffer (i : UInt32) (b : Bytes) (s : Agent) :
    (s.setBuffer b).openStream i = (s.openStream i).setBuffer b := by
  have hs : (s.setBuffer b).demux.streams = s.demux.streams := rfl
  have hscript : (s.setBuffer b).script = s.script := rfl
  rw [openStream, openStream, hs, hscript]
  split_ifs
  · rfl
  · rfl
  · exact tunnelSend_setBuffer _ _ _ b
      (s.setScript { s.script with opens := s.script.opens.tail })

@[simp] lemma losses_openStream (i : UInt32) (s : Agent) :
    (s.openStream i).trace.losses = s.trace.losses := by
  rw [openStream]
  split_ifs
  · rfl
  · rfl
  · exact losses_tunnelSend _ _ _ (s.setScript { s.script with opens := s.script.opens.tail })

lemma writeStream_setBuffer (i : UInt32) (p b : Bytes) (s : Agent) :
    (s.setBuffer b).writeStream i p = (s.writeStream i p).setBuffer b := by
  have hs : (s.setBuffer b).demux.streams = s.demux.streams := rfl
  have hscript : (s.setBuffer b).script = s.script := rfl
  rcases h : s.demux.streams.lookup i with _ | r
  · simp only [writeStream, hs, h]
  · have hhand : (s.setBuffer b).hand r p = (s.hand r p).setBuffer b := rfl
    cases hw : s.script.streamWrites.headD .ok with
    | ok => simp only [writeStream, hs, hscript, h, hw, hhand]
    | broken => simp only [writeStream, hs, hscript, h, hw, hhand, closeStream_setBuffer]
    | brokenEof =>
      simp only [writeStream, hs, hscript, h, hw, hhand, onAsteriskEof_setBuffer,
        closeStream_setBuffer]

@[simp] lemma losses_writeStream (i : UInt32) (p : Bytes) (s : Agent) :
    (s.writeStream i p).trace.losses = s.trace.losses := by
  rcases h : s.demux.streams.lookup i with _ | r
  · simp only [writeStream, h]
  · cases hw : s.script.streamWrites.headD .ok <;>
      simp only [writeStream, h, hw, losses_closeStream, losses_onAsteriskEof, hand]

lemma dispatchFrame_setBuffer (f : Frame) (b : Bytes) (s : Agent) :
    (s.setBuffer b).dispatchFrame f =
      ((s.dispatchFrame f).1.setBuffer b, (s.dispatchFrame f).2) := by
  obtain ⟨op, i, p⟩ := f
  cases op with
  | OPEN => simp only [dispatchFrame, openStream_setBuffer]
  | DATA => simp only [dispatchFrame, writeStream_setBuffer]
  | CLOSE => simp only [dispatchFrame, closeStream_setBuffer]
  | PING => simp only [dispatchFrame, tunnelSend_setBuffer]
  | SUBSCRIBER_REVOKED | SOCIETY_BOOTSTRAP => rfl
  | PONG | ERR | PUSH_NOTIFY | CDR_PUSH | REGISTER_STATE | AGENT_HELLO | ASTERISK_STATUS => rfl

@[simp] lemma losses_dispatchFrame (f : Frame) (s : Agent) :
    (s.dispatchFrame f).1.trace.losses = s.trace.losses := by
  obtain ⟨op, i, p⟩ := f
  cases op with
  | OPEN => exact losses_openStream i s
  | DATA => exact losses_writeStream i p s
  | CLOSE => exact losses_closeStream i p s
  | PING => exact losses_tunnelSend _ _ _ s
  | SUBSCRIBER_REVOKED | SOCIETY_BOOTSTRAP => rfl
  | PONG | ERR | PUSH_NOTIFY | CDR_PUSH | REGISTER_STATE | AGENT_HELLO | ASTERISK_STATUS => rfl

@[simp] lemma losses_dispatch (f : Frame) (s : Agent) :
    (s.dispatch f).1.trace.losses = s.trace.losses := by
  cases h : (s.dispatchFrame f).2 <;> simp [dispatch, h, hear]

/-- The loop of `on_tunnel_bytes`. -/
def receiver : Receiver UInt8 Frame Agent where
  toCodec := codec
  buffer s := s.demux.recvBuffer
  setBuffer := setBuffer
  dispatch := dispatch
  epoch s := s.trace.losses
  buffer_setBuffer _ _ := rfl
  setBuffer_buffer _ := rfl
  setBuffer_setBuffer _ _ _ := rfl
  epoch_setBuffer _ _ := rfl
  dispatch_setBuffer f b s := by
    rw [losses_dispatch, if_pos rfl]
    simp only [dispatch, dispatchFrame_setBuffer]
    cases (s.dispatchFrame f).2 <;> rfl
  epoch_dispatch_le f s := (losses_dispatch f s).ge

def onTunnelBytes (bytes : Bytes) (s : Agent) : Received Frame Agent := receiver.feed bytes s

/-- Any inbound bytes clear the miss counter. -/
def clearPings (s : Agent) : Agent :=
  { s with
    connector.pingsOutstanding := 0
    trace.recvTimes := s.trace.recvTimes ++ [s.connector.clock] }

def onBytesReceived (bytes : Bytes) (s : Agent) : Agent :=
  let out := s.clearPings.onTunnelBytes bytes
  if out.exit = .returned false then out.state.requestDisconnect else out.state

/-! ### Runs -/

/-- What can happen to the agent end. -/
inductive Event where
  | tick (dial : Option ConnId)
  | bytesReceived (bytes : Bytes)
  | transportLost
  | asteriskData (stream : AsteriskStream) (bytes : Bytes)
  | asteriskEof (stream : AsteriskStream) (reason : Bytes)
  | sendFrame (f : Frame)
  | wsPing (ok : Bool)
  | advance (seconds : ℕ)
  deriving DecidableEq, Repr

/-- Record what a stream produces. -/
def recordData (r : AsteriskStream) (bytes : Bytes) (s : Agent) : Agent :=
  { s with trace.produced := s.trace.produced ++ [(r, bytes)] }

/-- Time passes on the clock. -/
def advance (seconds : ℕ) (s : Agent) : Agent :=
  { s with connector.clock := s.connector.clock + seconds }

/-- Handle an event. A stream calls with the stream id it was opened for, and the factory returns
a new transport. -/
def handle (e : Event) (s : Agent) : Agent :=
  match e with
  | .tick dial           => s.tick (dial.filter fun c => c ∉ s.trace.dialed)
  | .bytesReceived bytes => s.onBytesReceived bytes
  | .transportLost       => s.onTransportLost
  | .asteriskData r bytes =>
    match s.trace.opened[r]? with
    | none     => s
    | some sid => (s.recordData r bytes).onAsteriskData sid bytes
  | .asteriskEof r reason =>
    match s.trace.opened[r]? with
    | none     => s
    | some sid => s.onAsteriskEof sid reason
  | .sendFrame f         => s.post f
  | .wsPing ok           => s.sendWsPing ok
  | .advance seconds     => s.advance seconds

/-- An event, with what the surroundings do while it is handled. -/
abbrev Input := Event × Script

def step (s : Agent) (i : Input) : Agent := (s.setScript i.2).handle i.1

/-- The state after the inputs `is`. -/
def run (s : Agent) (is : List Input) : Agent := is.foldl step s

/-- The state in which `main.cpp` wires the two objects. -/
def init (cfg : CloudConnector.Config) (clock : ℤ) : Agent :=
  { connector := { cfg := cfg, clock := clock } }

end Agent
