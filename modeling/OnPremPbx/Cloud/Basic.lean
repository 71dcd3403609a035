import Mathlib.Data.List.AList
import OnPremPbx.Framing.Outbound
import OnPremPbx.Framing.Receiver
import OnPremPbx.Tunnel.SipFrame

/-!
# The cloud end of the tunnel

`CloudTunnelEndpoint` (`cloud_tunnel_endpoint.cpp`) owns the transport to the agent, the queue of
frames that wait for one, and the heartbeat. `SipBridge` (`sip_bridge.cpp`) maps stream ids to
browsers and decodes what the agent sends. They call each other, a failing send inside a dispatch
included, so both live in one state `Cloud`.

What the code does not decide is read off a `Script`: the results of the transport's `send`, and
what the handlers do that `webservice_main.cpp` installs. `Cloud.Trace` records what the two
objects did, and no function reads it.
-/

open Framing SipFrame

/-- A registered browser, named by the number of upgrades before its own. -/
abbrev BrowserSink := ℕ

/-- What a `TunnelSink *` of the bridge or of the demux can point to. -/
inductive TunnelSink where
  | endpoint
  deriving DecidableEq, Repr

/-- What a handler installed on the bridge does with a frame: it throws, or it returns after
perhaps one call of `bootstrap_society` with the payload that makes. -/
inductive HandlerCall where
  | raises
  | returns (bootstrap : Option Bytes)
  deriving DecidableEq, Repr

structure CloudTunnelEndpoint.Config where
  outboundBufferMax : ℕ := 0
  heartbeatIntervalSec : ℤ := 10
  heartbeatMaxMissed : ℤ := 5
  deriving DecidableEq, Repr

structure CloudTunnelEndpoint where
  cfg : CloudTunnelEndpoint.Config := {}
  /-- the reading of the clock, if one is wired -/
  clock : Option ℤ := none
  transport : Option ConnId := none
  /-- the queued frames; the source keeps their encodings -/
  outbound : List Frame := []
  lastHeartbeatUnix : ℤ := 0
  pingsOutstanding : ℤ := 0

structure SipBridge where
  tunnel : Option TunnelSink := some .endpoint
  nextStreamId : UInt32 := 1
  browsers : AList fun _ : UInt32 => BrowserSink := ∅
  recvBuffer : Bytes := []
  asteriskConnected : Bool := false

namespace Cloud

/-- What the surroundings do while one entry point runs. -/
structure Script where
  sends : List SendResult := []
  handlers : List HandlerCall := []
  deriving DecidableEq, Repr

/-- The record of what the two objects did. -/
structure Trace where
  /-- the transports attached so far, and those the endpoint has closed -/
  attached : List ConnId := []
  shut : List ConnId := []
  writes : List (Write ConnId Frame) := []
  /-- the frames handed to `send_frame`, and whether they were kept or refused -/
  passed : List (Frame × Bool) := []
  /-- the number of calls of `on_tunnel_disconnect`, and of upgrades before the last of them -/
  losses : ℕ := 0
  issuedAtLoss : ℕ := 0
  /-- when bytes arrived on the current connection -/
  recvTimes : List ℤ := []
  /-- the stream id that each upgrade returned -/
  issued : List UInt32 := []
  fromBrowser : List (BrowserSink × Bytes) := []
  toBrowser : List (BrowserSink × Bytes) := []
  closed : List (BrowserSink × Bytes) := []
  /-- the frames dispatched to the end, with the connection they came from -/
  heard : List (ConnId × Frame) := []

end Cloud

/-- The endpoint and the bridge attached to it. -/
structure Cloud where
  endpoint : CloudTunnelEndpoint := {}
  bridge : SipBridge := {}
  /-- the value of a boolean field "connected", if `json::parse` finds one -/
  connectedField : Bytes → Option Bool := fun _ => none
  script : Cloud.Script := {}
  trace : Cloud.Trace := {}

namespace Cloud

/-! ### CloudTunnelEndpoint -/

def hasAgent (s : Cloud) : Bool := s.endpoint.transport.isSome

def onTunnelDisconnect (s : Cloud) : Cloud :=
  { s with
    bridge.browsers := ∅
    bridge.recvBuffer := []
    bridge.tunnel := none
    bridge.asteriskConnected := false
    trace.closed := s.trace.closed ++
      s.bridge.browsers.entries.map fun kv => (kv.2, Bytes.ofString "tunnel_lost")
    trace.losses := s.trace.losses + 1
    trace.issuedAtLoss := s.trace.issued.length }

def setTunnel (tunnel : Option TunnelSink) (s : Cloud) : Cloud :=
  { s with bridge.tunnel := tunnel, bridge.recvBuffer := [] }

def markDisconnected (s : Cloud) : Cloud :=
  onTunnelDisconnect
    { s with
      endpoint.transport := none
      trace.shut := s.trace.shut ++ s.endpoint.transport.toList }

/-- Record a write and its result, the next one of the script. -/
def wrote (c : ConnId) (f : Frame) (result : SendResult) (s : Cloud) : Cloud :=
  { s with
    script.sends := s.script.sends.tail
    trace.writes := s.trace.writes ++ [⟨c, f, result⟩] }

/-- `m_transport && m_transport->send(bytes)`. -/
def transportSend (f : Frame) (s : Cloud) : Cloud × Bool :=
  match s.endpoint.transport with
  | none   => (s, false)
  | some c =>
    let result := s.script.sends.headD .ok
    (s.wrote c f result, result = .ok)

/-- Record a frame handed to `send_frame`, and whether it was kept. -/
def record (f : Frame) (kept : Bool) (s : Cloud) : Cloud :=
  { s with trace.passed := s.trace.passed ++ [(f, kept)] }

/-- The queue takes another frame: it is unbounded or not full. -/
def hasRoom (s : Cloud) : Bool :=
  s.endpoint.cfg.outboundBufferMax = 0 ∨
    s.endpoint.outbound.length < s.endpoint.cfg.outboundBufferMax

/-- Replace the queue. -/
def setOutbound (q : List Frame) (s : Cloud) : Cloud := { s with endpoint.outbound := q }

/-- The end of `send_frame`: keep the frame for the next agent, if there is room. -/
def enqueue (f : Frame) (s : Cloud) : Cloud :=
  if s.hasRoom then (s.setOutbound (s.endpoint.outbound ++ [f])).record f true
  else s.record f false

def sendFrame (op : Op) (streamId : UInt32) (payload : Bytes) (s : Cloud) : Cloud :=
  let f : Frame := ⟨op, streamId, payload⟩
  let out := s.transportSend f
  if out.2 then out.1.record f true
  else if out.1.hasAgent then out.1.markDisconnected.enqueue f
  else out.1.enqueue f

/-- The loop of `flush_outbound` over the queue it still has to send. -/
def flushLoop : List Frame → Cloud → Cloud
  | [], s        => s
  | f :: rest, s =>
    let out := s.transportSend f
    if out.2 then flushLoop rest (out.1.setOutbound rest)
    else out.1.markDisconnected

def flushOutbound (s : Cloud) : Cloud :=
  if s.hasAgent then flushLoop s.endpoint.outbound s else s

/-- Take over a transport: the part of `on_agent_connected` before the flush. -/
def install (c : ConnId) (s : Cloud) : Cloud :=
  setTunnel (some .endpoint)
    { s with
      endpoint.transport := some c
      endpoint.pingsOutstanding := 0
      endpoint.lastHeartbeatUnix := s.endpoint.clock.getD s.endpoint.lastHeartbeatUnix
      trace.attached := s.trace.attached ++ [c]
      trace.recvTimes := [] }

def onAgentConnected (c : ConnId) (s : Cloud) : Cloud :=
  ((if s.hasAgent then s.markDisconnected else s).install c).flushOutbound

def onAgentDisconnected (s : Cloud) : Cloud := if s.hasAgent then s.markDisconnected else s

/-- Count a PING as outstanding. -/
def countPing (now : ℤ) (s : Cloud) : Cloud :=
  { s with
    endpoint.pingsOutstanding := s.endpoint.pingsOutstanding + 1
    endpoint.lastHeartbeatUnix := now }

def maybeHeartbeat (s : Cloud) : Cloud :=
  match s.endpoint.clock with
  | none     => s
  | some now =>
    if s.endpoint.cfg.heartbeatIntervalSec ≤ 0 then s
    else if now - s.endpoint.lastHeartbeatUnix < s.endpoint.cfg.heartbeatIntervalSec then s
    else if s.endpoint.cfg.heartbeatMaxMissed ≤ s.endpoint.pingsOutstanding then
      s.markDisconnected
    else
      let s := s.sendFrame .PING 0 []
      if s.hasAgent then s.countPing now else s

def tick (s : Cloud) : Cloud := if s.hasAgent then s.maybeHeartbeat else s

/-! ### SipBridge -/

/-- `if (m_tunnel) m_tunnel->send_frame(...)`. -/
def tunnelSend (op : Op) (streamId : UInt32) (payload : Bytes) (s : Cloud) : Cloud :=
  match s.bridge.tunnel with
  | none           => s
  | some .endpoint => s.sendFrame op streamId payload

/-- The registration at the start of `on_browser_upgrade`. `emplace` leaves a present entry. -/
def register (s : Cloud) : Cloud :=
  { s with
    bridge.nextStreamId := s.bridge.nextStreamId + 1
    bridge.browsers :=
      if s.bridge.nextStreamId ∈ s.bridge.browsers then s.bridge.browsers
      else s.bridge.browsers.insert s.bridge.nextStreamId s.trace.issued.length
    trace.issued := s.trace.issued ++ [s.bridge.nextStreamId] }

def onBrowserUpgrade (openMeta : Bytes) (s : Cloud) : Cloud × UInt32 :=
  let sid := s.bridge.nextStreamId
  (s.register.tunnelSend .OPEN sid openMeta, sid)

def onBrowserData (streamId : UInt32) (bytes : Bytes) (s : Cloud) : Cloud :=
  if streamId ∈ s.bridge.browsers then s.tunnelSend .DATA streamId bytes else s

/-- `m_browsers.erase(stream_id)`. -/
def deregister (streamId : UInt32) (s : Cloud) : Cloud :=
  { s with bridge.browsers := s.bridge.browsers.erase streamId }

def onBrowserClose (streamId : UInt32) (reason : Bytes) (s : Cloud) : Cloud :=
  if streamId ∈ s.bridge.browsers then (s.deregister streamId).tunnelSend .CLOSE streamId reason
  else s

/-- `payload` is the dump of `{societyId, sipRealm}`. -/
def bootstrapSociety (payload : Bytes) (s : Cloud) : Cloud :=
  s.tunnelSend .SOCIETY_BOOTSTRAP 0 payload

/-- `payload` is the dump of `{societyId, sipUsername}`. -/
def revoke (payload : Bytes) (s : Cloud) : Cloud := s.tunnelSend .SUBSCRIBER_REVOKED 0 payload

/-- `send_bytes` of a browser. -/
def deliver (b : BrowserSink) (bytes : Bytes) (s : Cloud) : Cloud :=
  { s with trace.toBrowser := s.trace.toBrowser ++ [(b, bytes)] }

/-- `close` of a browser. -/
def release (b : BrowserSink) (reason : Bytes) (s : Cloud) : Cloud :=
  { s with trace.closed := s.trace.closed ++ [(b, reason)] }

def closeStream (streamId : UInt32) (reason : Bytes) (s : Cloud) : Cloud :=
  match s.bridge.browsers.lookup streamId with
  | none   => s
  | some b => (s.release b reason).deregister streamId

def setScript (script : Script) (s : Cloud) : Cloud := { s with script := script }

@[simp] lemma trace_setScript (script : Script) (s : Cloud) :
    (s.setScript script).trace = s.trace := rfl

/-- Run the installed handler of a frame, and answer whether it returned. -/
def callHandler (s : Cloud) : Cloud × Bool :=
  let s' := s.setScript { s.script with handlers := s.script.handlers.tail }
  match s.script.handlers.headD (.returns none) with
  | .raises           => (s', false)
  | .returns none     => (s', true)
  | .returns (some p) => (s'.bootstrapSociety p, true)

/-- The cached flag follows the payload, and stays as it is when that is bad JSON. -/
def cacheStatus (payload : Bytes) (s : Cloud) : Cloud :=
  { s with
    bridge.asteriskConnected := (s.connectedField payload).getD s.bridge.asteriskConnected }

/-- `dispatch_frame`, answering whether it returned normally. -/
def dispatchFrame (f : Frame) (s : Cloud) : Cloud × Bool :=
  match f.op with
  | .DATA =>
    match s.bridge.browsers.lookup f.streamId with
    | none   => (s, true)
    | some b => (s.deliver b f.payload, true)
  | .CLOSE => (s.closeStream f.streamId f.payload, true)
  | .PING  => (s.tunnelSend .PONG f.streamId [], true)
  | .PONG | .ERR | .OPEN | .SUBSCRIBER_REVOKED | .SOCIETY_BOOTSTRAP => (s, true)
  | .PUSH_NOTIFY | .CDR_PUSH | .REGISTER_STATE | .AGENT_HELLO => s.callHandler
  | .ASTERISK_STATUS => (s.cacheStatus f.payload).callHandler

/-- Record a frame that was dispatched to its end. -/
def hear (conn : Option ConnId) (f : Frame) (s : Cloud) : Cloud :=
  { s with trace.heard := s.trace.heard ++ conn.toList.map fun c => (c, f) }

def dispatch (f : Frame) (s : Cloud) : Cloud × Bool :=
  let out := s.dispatchFrame f
  (if out.2 then out.1.hear s.endpoint.transport f else out.1, out.2)

/-! ### The cases of `send_frame` -/

lemma sendFrame_of_none {s : Cloud} (h : s.endpoint.transport = none) (op : Op) (i : UInt32)
    (p : Bytes) : s.sendFrame op i p = s.enqueue ⟨op, i, p⟩ := by
  simp [sendFrame, transportSend, h, hasAgent]

lemma sendFrame_of_ok {s : Cloud} {c : ConnId} (h : s.endpoint.transport = some c)
    (hr : s.script.sends.headD .ok = .ok) (op : Op) (i : UInt32) (p : Bytes) :
    s.sendFrame op i p = (s.wrote c ⟨op, i, p⟩ .ok).record ⟨op, i, p⟩ true := by
  simp only [sendFrame, transportSend, h, hr, decide_true, if_true]

lemma sendFrame_of_failed {s : Cloud} {c : ConnId} {n : ℕ} (h : s.endpoint.transport = some c)
    (hr : s.script.sends.headD .ok = .failed n) (op : Op) (i : UInt32) (p : Bytes) :
    s.sendFrame op i p =
      (s.wrote c ⟨op, i, p⟩ (.failed n)).markDisconnected.enqueue ⟨op, i, p⟩ := by
  have hagent : (s.wrote c ⟨op, i, p⟩ (.failed n)).hasAgent = true := by
    simp [hasAgent, wrote, h]
  simp only [sendFrame, transportSend, h, hr, reduceCtorEq, decide_false, Bool.false_eq_true,
    if_false, hagent, if_true]

/-! ### The receive loop -/

def setBuffer (b : Bytes) (s : Cloud) : Cloud := { s with bridge.recvBuffer := b }

lemma enqueue_setBuffer (f : Frame) (b : Bytes) (s : Cloud) :
    (s.setBuffer b).enqueue f = (s.enqueue f).setBuffer b := by
  have hroom : (s.setBuffer b).hasRoom = s.hasRoom := rfl
  rw [enqueue, enqueue, hroom]
  cases s.hasRoom <;> rfl

@[simp] lemma losses_enqueue (f : Frame) (s : Cloud) :
    (s.enqueue f).trace.losses = s.trace.losses := by
  rw [enqueue]
  cases s.hasRoom <;> rfl

@[simp] lemma recvBuffer_enqueue (f : Frame) (s : Cloud) :
    (s.enqueue f).bridge.recvBuffer = s.bridge.recvBuffer := by
  rw [enqueue]
  cases s.hasRoom <;> rfl

/-- A `send_frame` does not look at the receive buffer, and empties it when it loses the
tunnel. -/
lemma sendFrame_setBuffer (op : Op) (i : UInt32) (p : Bytes) (b : Bytes) (s : Cloud) :
    (s.setBuffer b).sendFrame op i p = (s.sendFrame op i p).setBuffer
      (if (s.sendFrame op i p).trace.losses = s.trace.losses then b else []) := by
  rcases h : s.endpoint.transport with _ | c
  · rw [sendFrame_of_none h, sendFrame_of_none (s := s.setBuffer b) h, enqueue_setBuffer]
    simp
  · cases hr : s.script.sends.headD .ok with
    | ok =>
      rw [sendFrame_of_ok h hr, sendFrame_of_ok (s := s.setBuffer b) h hr]
      simp [record, wrote, setBuffer]
    | failed n =>
      rw [sendFrame_of_failed h hr, sendFrame_of_failed (s := s.setBuffer b) h hr,
        ← enqueue_setBuffer]
      simp [markDisconnected, onTunnelDisconnect, wrote, setBuffer]

lemma losses_sendFrame_le (op : Op) (i : UInt32) (p : Bytes) (s : Cloud) :
    s.trace.losses ≤ (s.sendFrame op i p).trace.losses := by
  rcases h : s.endpoint.transport with _ | c
  · rw [sendFrame_of_none h, losses_enqueue]
  · cases hr : s.script.sends.headD .ok with
    | ok => rw [sendFrame_of_ok h hr]; exact le_rfl
    | failed n =>
      rw [sendFrame_of_failed h hr, losses_enqueue]
      exact Nat.le_succ _

lemma tunnelSend_of_none {s : Cloud} (h : s.bridge.tunnel = none) (op : Op) (i : UInt32)
    (p : Bytes) : s.tunnelSend op i p = s := by simp only [tunnelSend, h]

lemma tunnelSend_of_some {s : Cloud} {t : TunnelSink} (h : s.bridge.tunnel = some t) (op : Op)
    (i : UInt32) (p : Bytes) : s.tunnelSend op i p = s.sendFrame op i p := by
  cases t
  simp only [tunnelSend, h]

lemma tunnelSend_setBuffer (op : Op) (i : UInt32) (p : Bytes) (b : Bytes) (s : Cloud) :
    (s.setBuffer b).tunnelSend op i p = (s.tunnelSend op i p).setBuffer
      (if (s.tunnelSend op i p).trace.losses = s.trace.losses then b else []) := by
  rcases h : s.bridge.tunnel with _ | t
  · rw [tunnelSend_of_none h, tunnelSend_of_none (s := s.setBuffer b) h]
    simp
  · rw [tunnelSend_of_some h, tunnelSend_of_some (s := s.setBuffer b) h, sendFrame_setBuffer]

lemma losses_tunnelSend_le (op : Op) (i : UInt32) (p : Bytes) (s : Cloud) :
    s.trace.losses ≤ (s.tunnelSend op i p).trace.losses := by
  rcases h : s.bridge.tunnel with _ | t
  · rw [tunnelSend_of_none h]
  · rw [tunnelSend_of_some h]
    exact losses_sendFrame_le op i p s

lemma callHandler_setBuffer (b : Bytes) (s : Cloud) :
    (s.setBuffer b).callHandler = (s.callHandler.1.setBuffer
      (if s.callHandler.1.trace.losses = s.trace.losses then b else []), s.callHandler.2) := by
  have hs : (s.setBuffer b).script = s.script := rfl
  rcases h : s.script.handlers.headD (.returns none) with _ | _ | p
  · simp only [callHandler, hs, h, trace_setScript, if_true]; rfl
  · simp only [callHandler, hs, h, trace_setScript, if_true]; rfl
  · simp only [callHandler, hs, h, bootstrapSociety]
    exact congrArg (·, true) (tunnelSend_setBuffer _ _ _ b
      (s.setScript { s.script with handlers := s.script.handlers.tail }))

lemma losses_callHandler_le (s : Cloud) : s.trace.losses ≤ s.callHandler.1.trace.losses := by
  rcases h : s.script.handlers.headD (.returns none) with _ | _ | p
  · simp only [callHandler, h, trace_setScript, le_refl]
  · simp only [callHandler, h, trace_setScript, le_refl]
  · simp only [callHandler, h]
    exact losses_tunnelSend_le _ _ _
      (s.setScript { s.script with handlers := s.script.handlers.tail })

/-- A handler that throws has not lost the tunnel. -/
lemma losses_callHandler_of_raises {s : Cloud} (h : s.callHandler.2 = false) :
    s.callHandler.1.trace.losses = s.trace.losses := by
  rcases hh : s.script.handlers.headD (.returns none) with _ | _ | p
  · simp only [callHandler, hh, trace_setScript]
  · simp only [callHandler, hh, trace_setScript]
  · simp only [callHandler, hh, Bool.true_eq_false] at h

lemma closeStream_setBuffer (i : UInt32) (reason : Bytes) (b : Bytes) (s : Cloud) :
    (s.setBuffer b).closeStream i reason = (s.closeStream i reason).setBuffer b := by
  have hs : (s.setBuffer b).bridge.browsers = s.bridge.browsers := rfl
  rcases h : s.bridge.browsers.lookup i with _ | sink
  · simp only [closeStream, hs, h]
  · simp only [closeStream, hs, h]; rfl

@[simp] lemma losses_closeStream (i : UInt32) (reason : Bytes) (s : Cloud) :
    (s.closeStream i reason).trace.losses = s.trace.losses := by
  rcases h : s.bridge.browsers.lookup i with _ | sink <;>
    simp only [closeStream, h, deregister, release]

lemma dispatchFrame_setBuffer (f : Frame) (b : Bytes) (s : Cloud) :
    (s.setBuffer b).dispatchFrame f = ((s.dispatchFrame f).1.setBuffer
      (if (s.dispatchFrame f).1.trace.losses = s.trace.losses then b else []),
      (s.dispatchFrame f).2) := by
  obtain ⟨op, i, p⟩ := f
  cases op with
  | DATA =>
    have hs : (s.setBuffer b).bridge.browsers = s.bridge.browsers := rfl
    rcases h : s.bridge.browsers.lookup i with _ | sink
    · simp only [dispatchFrame, hs, h, if_true]
    · simp only [dispatchFrame, hs, h, deliver, if_true]; rfl
  | CLOSE => simp only [dispatchFrame, closeStream_setBuffer, losses_closeStream, if_true]
  | PING => exact congrArg (·, true) (tunnelSend_setBuffer _ _ _ b s)
  | PONG | ERR | OPEN | SUBSCRIBER_REVOKED | SOCIETY_BOOTSTRAP => simp [dispatchFrame]
  | PUSH_NOTIFY | CDR_PUSH | REGISTER_STATE | AGENT_HELLO =>
    exact callHandler_setBuffer b s
  | ASTERISK_STATUS =>
    exact callHandler_setBuffer b (s.cacheStatus p)

lemma losses_dispatchFrame_le (f : Frame) (s : Cloud) :
    s.trace.losses ≤ (s.dispatchFrame f).1.trace.losses := by
  obtain ⟨op, i, p⟩ := f
  cases op with
  | DATA => rcases h : s.bridge.browsers.lookup i with _ | sink <;> simp [dispatchFrame, deliver, h]
  | CLOSE => simp [dispatchFrame]
  | PING => exact losses_tunnelSend_le _ _ _ s
  | PONG | ERR | OPEN | SUBSCRIBER_REVOKED | SOCIETY_BOOTSTRAP => simp [dispatchFrame]
  | PUSH_NOTIFY | CDR_PUSH | REGISTER_STATE | AGENT_HELLO => exact losses_callHandler_le s
  | ASTERISK_STATUS => exact losses_callHandler_le (s.cacheStatus p)

lemma losses_dispatchFrame_of_raises {f : Frame} {s : Cloud} (h : (s.dispatchFrame f).2 = false) :
    (s.dispatchFrame f).1.trace.losses = s.trace.losses := by
  obtain ⟨op, i, p⟩ := f
  cases op with
  | DATA =>
    rcases hl : s.bridge.browsers.lookup i with _ | sink <;> simp [dispatchFrame, deliver, hl]
  | CLOSE => simp [dispatchFrame]
  | PING => simp [dispatchFrame] at h
  | PONG | ERR | OPEN | SUBSCRIBER_REVOKED | SOCIETY_BOOTSTRAP => simp [dispatchFrame]
  | PUSH_NOTIFY | CDR_PUSH | REGISTER_STATE | AGENT_HELLO =>
    exact losses_callHandler_of_raises h
  | ASTERISK_STATUS =>
    exact losses_callHandler_of_raises (s := s.cacheStatus p) h

@[simp] lemma losses_dispatch (f : Frame) (s : Cloud) :
    (s.dispatch f).1.trace.losses = (s.dispatchFrame f).1.trace.losses := by
  cases h : (s.dispatchFrame f).2 <;> simp [dispatch, h, hear]

/-- The loop of `on_tunnel_bytes`. -/
def receiver : Receiver UInt8 Frame Cloud where
  toCodec := codec
  buffer s := s.bridge.recvBuffer
  setBuffer := setBuffer
  dispatch := dispatch
  epoch s := s.trace.losses
  buffer_setBuffer _ _ := rfl
  setBuffer_buffer _ := rfl
  setBuffer_setBuffer _ _ _ := rfl
  epoch_setBuffer _ _ := rfl
  dispatch_setBuffer f b s := by
    rw [losses_dispatch]
    simp only [dispatch, dispatchFrame_setBuffer]
    cases (s.dispatchFrame f).2 <;> rfl
  epoch_dispatch_le f s := by
    rw [losses_dispatch]
    exact losses_dispatchFrame_le f s

def onTunnelBytes (bytes : Bytes) (s : Cloud) : Received Frame Cloud := receiver.feed bytes s

/-- Any inbound bytes clear the miss counter. -/
def clearPings (s : Cloud) : Cloud :=
  { s with
    endpoint.pingsOutstanding := 0
    trace.recvTimes := s.trace.recvTimes ++ s.endpoint.clock.toList }

def onBytesReceived (bytes : Bytes) (s : Cloud) : Cloud :=
  let out := s.clearPings.onTunnelBytes bytes
  if out.exit = .returned false then out.state.markDisconnected else out.state

/-! ### Runs -/

/-- What can happen to the cloud end. -/
inductive Event where
  | browserUpgrade (openMeta : Bytes)
  | browserData (browser : BrowserSink) (bytes : Bytes)
  | browserClose (browser : BrowserSink) (reason : Bytes)
  | revoke (payload : Bytes)
  | sendFrame (f : Frame)
  | tick
  | agentConnected (c : ConnId)
  | bytesReceived (bytes : Bytes)
  | agentDisconnected
  | advance (seconds : ℕ)
  deriving DecidableEq, Repr

/-- Record what a browser hands over. -/
def recordData (b : BrowserSink) (bytes : Bytes) (s : Cloud) : Cloud :=
  { s with trace.fromBrowser := s.trace.fromBrowser ++ [(b, bytes)] }

/-- Time passes on the clock. -/
def advance (seconds : ℕ) (s : Cloud) : Cloud :=
  { s with endpoint.clock := s.endpoint.clock.map (· + seconds) }

/-- Handle an event. A browser calls with the stream id its upgrade returned, and a transport is
attached at most once. -/
def handle (e : Event) (s : Cloud) : Cloud :=
  match e with
  | .browserUpgrade openMeta => (s.onBrowserUpgrade openMeta).1
  | .browserData b bytes =>
    match s.trace.issued[b]? with
    | none     => s
    | some sid => (s.recordData b bytes).onBrowserData sid bytes
  | .browserClose b reason =>
    match s.trace.issued[b]? with
    | none     => s
    | some sid => s.onBrowserClose sid reason
  | .revoke payload      => s.revoke payload
  | .sendFrame f         => s.sendFrame f.op f.streamId f.payload
  | .tick                => s.tick
  | .agentConnected c    => if c ∈ s.trace.attached then s else s.onAgentConnected c
  | .bytesReceived bytes => s.onBytesReceived bytes
  | .agentDisconnected   => s.onAgentDisconnected
  | .advance seconds     => s.advance seconds

/-- An event, with what the surroundings do while it is handled. -/
abbrev Input := Event × Script

def step (s : Cloud) (i : Input) : Cloud := (s.setScript i.2).handle i.1

/-- The state after the inputs `is`. -/
def run (s : Cloud) (is : List Input) : Cloud := is.foldl step s

/-- The state in which `webservice_main.cpp` wires the two objects. -/
def init (cfg : CloudTunnelEndpoint.Config) (clock : Option ℤ)
    (connectedField : Bytes → Option Bool) : Cloud :=
  { endpoint := { cfg := cfg, clock := clock }, connectedField := connectedField }

end Cloud
