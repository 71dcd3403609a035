import OnPremPbx.Transition.Run
import OnPremPbx.WebSocket.ReadLoop

/-!
# The event stream of Asterisk

`AriWsClient` (`ari_ws_client.cpp`) reads the WebSocket on which Asterisk pushes its events. There
is one such object in a process: when it has lost a connection, `ReconnectSupervisor` (`main.cpp`)
lets it make the next one. Neither `connect_and_handshake` nor `handle_close` touches the receive
buffer or the flag that the loss was reported.
-/

open Framing Transition

/-- What the outside has seen of one connection. -/
structure AriConnection where
  /-- the bytes that were received on it -/
  received : Bytes := []
  /-- the payloads handed to `m_on_event` -/
  events : List Bytes := []
  /-- the frames that were sent on it -/
  replies : List WsFrame.Frame := []
  /-- calls of `m_on_disconnect` -/
  disconnects : ℕ := 0
  lost : Bool := false
  deriving DecidableEq, Repr

structure AriWsClient where
  /-- `m_handle` is valid -/
  handle : Bool := false
  recvBuf : Bytes := []
  closeNotified : Bool := false
  /-- the reactor calls `handle_input` -/
  registered : Bool := false
  /-- no exception has left the event loop -/
  running : Bool := true
  /-- the connections made so far, the newest one first -/
  connections : List AriConnection := []
  deriving DecidableEq, Repr

namespace AriWsClient

/-- What happens to the client: the supervisor's timer fires, with what a connection attempt and
`register_handler` would return, or the socket is readable, with what `recv` returns: no bytes at
the end of the stream and on an error. -/
inductive Input where
  | timeout (connects registers : Bool)
  | readable (chunk : Bytes)
  deriving DecidableEq, Repr

/-- Note something about the newest connection. -/
def note (f : AriConnection → AriConnection) (c : AriWsClient) : AriWsClient :=
  { c with connections := c.connections.modifyHead f }

/-- The call of `m_on_event`, which only queues the event. -/
def onEvent (payload : Bytes) (c : AriWsClient) : AriWsClient :=
  c.note fun k => { k with events := k.events ++ [payload] }

def sendFrame (f : WsFrame.Frame) (c : AriWsClient) : AriWsClient :=
  c.note fun k => { k with replies := k.replies ++ [f] }

def notifyDisconnectOnce (c : AriWsClient) : AriWsClient :=
  if c.closeNotified then c
  else ({ c with closeNotified := true }).note fun k => { k with disconnects := k.disconnects + 1 }

/-- The `switch` of `drain_frames`, and whether the loop goes on. -/
def dispatch (frame : WsFrame.Frame) (c : AriWsClient) : AriWsClient × Bool :=
  if frame.opcode = 0x2 ∨ frame.opcode = 0x1 ∨ frame.opcode = 0x0 then
    let c := c.onEvent frame.payload
    (c, c.handle)
  -- a PING is answered with a masked PONG, a PONG ignored
  else if frame.opcode = 0x9 then (c.sendFrame ⟨0xA, frame.payload⟩, true)
  else if frame.opcode = 0xA then (c, true)
  else if frame.opcode = 0x8 then ((c.sendFrame ⟨0x8, []⟩).notifyDisconnectOnce, false)
  else (c.notifyDisconnectOnce, false)

lemma notifyDisconnectOnce_setRecvBuf (b : Bytes) (c : AriWsClient) :
    notifyDisconnectOnce { c with recvBuf := b } =
      { c.notifyDisconnectOnce with recvBuf := b } := by
  rw [notifyDisconnectOnce, notifyDisconnectOnce]
  split_ifs <;> rfl

def readLoop : WsFrame.ReadLoop AriWsClient where
  recvBuf := recvBuf
  setRecvBuf b c := { c with recvBuf := b }
  dispatch := dispatch
  recvBuf_set _ _ := rfl
  set_set _ _ _ := rfl
  set_recvBuf _ := rfl
  dispatch_set f b c := by
    rw [dispatch, dispatch]
    split_ifs
    · rfl
    · rfl
    · rfl
    · exact Prod.ext (notifyDisconnectOnce_setRecvBuf b (c.sendFrame _)) rfl
    · exact Prod.ext (notifyDisconnectOnce_setRecvBuf b c) rfl

def handleInput (chunk : Bytes) (c : AriWsClient) : AriWsClient × Exit :=
  if chunk = [] then (c.notifyDisconnectOnce, .returned false) else readLoop.feed chunk c

def handleClose (c : AriWsClient) : AriWsClient :=
  let c := c.notifyDisconnectOnce
  if c.handle then ({ c with handle := false }).note fun k => { k with lost := true } else c

/-- `connect_and_handshake` when it succeeds, and `register_with_reactor` after it. -/
def connect (registers : Bool) (c : AriWsClient) : AriWsClient :=
  { c with handle := true, registered := registers, connections := {} :: c.connections }

/-- The reactor calls back. It calls `handle_close` where `handle_input` has returned -1. -/
def step (c : AriWsClient) : Input → AriWsClient
  | .timeout connects registers =>
    if c.running ∧ c.handle = false ∧ connects then c.connect registers else c
  | .readable chunk =>
    if c.running ∧ c.registered then
      let c := c.note fun k => { k with received := k.received ++ chunk }
      match c.handleInput chunk with
      | (c, .returned true)  => c
      | (c, .returned false) => { c.handleClose with registered := false }
      | (c, .raised)         => { c with running := false }
    else c

def run (is : List Input) : AriWsClient := is.foldl step {}

/-- The events are those of the connection's own bytes, and its loss is reported once. -/
structure Clean (k : AriConnection) : Prop where
  events : k.events = WsFrame.dataPayloads (WsFrame.decoder.drain k.received).frames
  disconnects : k.disconnects = if k.lost then 1 else 0

/-- The bytes end the connection: there are none, or one of the frames they complete ends it. -/
def Ends (c : AriWsClient) (chunk : Bytes) : Prop :=
  chunk = [] ∨ ∃ f ∈ (WsFrame.decoder.drain (c.recvBuf ++ chunk)).frames, f.ends = true

/-- A connection is made while the receive buffer is empty, and lost while no loss was reported
before. -/
def Fresh (c : AriWsClient) : Input → Prop
  | .timeout connects _ => c.handle = false → connects = true → c.recvBuf = []
  | .readable chunk     => c.registered → c.Ends chunk → c.closeNotified = false

/-! ### What a call of the loop does -/

variable {c : AriWsClient} {k : AriConnection} {ks : List AriConnection}

/-- What the frames `fs` have done to the connection `k` when the loop stopped at one that ends the
connection, or has worked through all of them. -/
structure Drains (c : AriWsClient) (k : AriConnection) (ks : List AriConnection)
    (fs : List WsFrame.Frame) (c' : AriWsClient) (k' : AriConnection) : Prop where
  connections : c'.connections = k' :: ks
  handle : c'.handle = c.handle
  registered : c'.registered = c.registered
  running : c'.running = c.running
  received : k'.received = k.received
  lost : k'.lost = k.lost
  events : k'.events = k.events ++ WsFrame.dataPayloads fs
  closeNotified : c'.closeNotified = (c.closeNotified || fs.any WsFrame.Frame.ends)
  disconnects : k'.disconnects =
    k.disconnects + if fs.any WsFrame.Frame.ends && !c.closeNotified then 1 else 0

/-- A frame that does not end the connection, before the others. -/
lemma Drains.cons {c₁ c' : AriWsClient} {k₁ k' : AriConnection} {fs : List WsFrame.Frame}
    {f : WsFrame.Frame} (h : Drains c₁ k₁ ks fs c' k')
    (hc : c₁.handle = c.handle ∧ c₁.registered = c.registered ∧ c₁.running = c.running ∧
      c₁.closeNotified = c.closeNotified)
    (hk : k₁.received = k.received ∧ k₁.lost = k.lost ∧ k₁.disconnects = k.disconnects)
    (hends : f.ends = false)
    (hevents : k₁.events ++ WsFrame.dataPayloads fs =
      k.events ++ WsFrame.dataPayloads (f :: fs)) : Drains c k ks (f :: fs) c' k' where
  connections := h.connections
  handle := h.handle.trans hc.1
  registered := h.registered.trans hc.2.1
  running := h.running.trans hc.2.2.1
  received := h.received.trans hk.1
  lost := h.lost.trans hk.2.1
  events := h.events.trans hevents
  closeNotified := by simpa [hends, hc.2.2.2] using h.closeNotified
  disconnects := by simpa [hends, hc.2.2.2, hk.2.2] using h.disconnects

/-- A frame that ends the connection. -/
lemma drains_ends {c₁ : AriWsClient} {fs : List WsFrame.Frame} {f : WsFrame.Frame}
    (replies : List WsFrame.Frame)
    (hc : c₁.handle = c.handle ∧ c₁.registered = c.registered ∧ c₁.running = c.running ∧
      c₁.closeNotified = c.closeNotified)
    (hconn : c₁.connections = { k with replies := replies } :: ks) (hends : f.ends = true) :
    ∃ k', Drains c k ks (f :: fs) c₁.notifyDisconnectOnce k' := by
  obtain ⟨hhandle, hregistered, hrunning, hsame⟩ := hc
  rw [notifyDisconnectOnce]
  split_ifs with hnotified
  · refine ⟨{ k with replies := replies }, hconn, hhandle, hregistered, hrunning, rfl, rfl, ?_, ?_,
      ?_⟩ <;>
      simp [hends, ← hsame, hnotified, WsFrame.dataPayloads_ends]
  · refine ⟨{ k with replies := replies, disconnects := k.disconnects + 1 }, ?_, hhandle,
      hregistered, hrunning, rfl, rfl, ?_, ?_, ?_⟩ <;>
      simp [hends, ← hsame, hnotified, note, hconn, WsFrame.dataPayloads_ends]

/-- The three kinds of frames. -/
lemma dispatch_cases (f : WsFrame.Frame) (c : AriWsClient) :
    (f.isData = true ∧ dispatch f c = (c.onEvent f.payload, c.handle)) ∨
    (f.isData = false ∧ f.ends = false ∧ ∃ replies,
      dispatch f c = (c.note fun k => { k with replies := k.replies ++ replies }, true)) ∨
    (f.ends = true ∧ ∃ replies, dispatch f c =
      ((c.note fun k => { k with replies := k.replies ++ replies }).notifyDisconnectOnce,
        false)) := by
  have hnil : (c.note fun k => { k with replies := k.replies ++ [] }) = c := by
    have hhead : ∀ l : List AriConnection, l.modifyHead (fun k => k) = l := by
      intro l
      cases l <;> rfl
    simp only [note, List.append_nil]
    exact congrArg (fun l => { c with connections := l }) (hhead c.connections)
  rw [dispatch]
  split_ifs with hdata hping hpong hclose
  · exact .inl ⟨by simpa [WsFrame.Frame.isData, or_assoc] using hdata, rfl⟩
  · refine .inr (.inl ⟨?_, ?_, [⟨0xA, f.payload⟩], rfl⟩) <;>
      simp [WsFrame.Frame.isData, WsFrame.Frame.ends, hping]
  · refine .inr (.inl ⟨?_, ?_, [], by rw [hnil]⟩) <;>
      simp [WsFrame.Frame.isData, WsFrame.Frame.ends, hpong]
  · exact .inr (.inr ⟨by simp [WsFrame.Frame.ends, WsFrame.Frame.isData, hclose], [⟨0x8, []⟩], rfl⟩)
  · refine .inr (.inr ⟨?_, [], by rw [hnil]⟩)
    simp only [not_or] at hdata
    simp [WsFrame.Frame.ends, WsFrame.Frame.isData, hping, hpong, hdata]

/-- The frames are handed on up to one that ends the connection, where the loop stops. -/
lemma drains_work (fs : List WsFrame.Frame) (hhandle : c.handle = true)
    (hconn : c.connections = k :: ks) :
    (∃ k', Drains c k ks fs (readLoop.work fs c).1 k') ∧
      (readLoop.work fs c).2 = !fs.any WsFrame.Frame.ends := by
  induction fs generalizing c k with
  | nil =>
    refine ⟨⟨k, hconn, rfl, rfl, rfl, rfl, rfl, ?_, ?_, ?_⟩, rfl⟩ <;>
      simp [WsFrame.ReadLoop.work]
  | cons f fs ih =>
    have hwork : readLoop.work (f :: fs) c =
        if (dispatch f c).2 then readLoop.work fs (dispatch f c).1 else dispatch f c := rfl
    rw [hwork, List.any_cons]
    rcases dispatch_cases f c with ⟨hdata, hd⟩ | ⟨hdata, hends, replies, hd⟩ | ⟨hends, replies, hd⟩
    · -- an event, and the connection goes on
      have hends := WsFrame.Frame.ends_of_isData hdata
      rw [hd, if_pos hhandle, hends, Bool.false_or]
      obtain ⟨⟨k', hk'⟩, hgo⟩ := ih (c := onEvent f.payload c)
        (k := { k with events := k.events ++ [f.payload] }) hhandle
        (by simp only [onEvent, note, hconn, List.modifyHead_cons])
      refine ⟨⟨k', hk'.cons ⟨rfl, rfl, rfl, rfl⟩ ⟨rfl, rfl, rfl⟩ hends ?_⟩, hgo⟩
      rw [WsFrame.dataPayloads_data hdata, List.append_assoc]
      rfl
    · rw [hd, if_pos rfl, hends, Bool.false_or]
      obtain ⟨⟨k', hk'⟩, hgo⟩ := ih
        (c := c.note fun k => { k with replies := k.replies ++ replies })
        (k := { k with replies := k.replies ++ replies }) hhandle
        (by simp only [note, hconn, List.modifyHead_cons])
      refine ⟨⟨k', hk'.cons ⟨rfl, rfl, rfl, rfl⟩ ⟨rfl, rfl, rfl⟩ hends ?_⟩, hgo⟩
      rw [WsFrame.dataPayloads_control hdata hends]
    · rw [hd, if_neg Bool.false_ne_true, hends]
      exact ⟨drains_ends (k.replies ++ replies) ⟨rfl, rfl, rfl, rfl⟩
        (by simp only [note, hconn, List.modifyHead_cons]) hends, rfl⟩

/-- A call of `handle_input` with bytes. -/
lemma drains_handleInput {chunk : Bytes} (hchunk : chunk ≠ []) (hhandle : c.handle = true)
    (hconn : c.connections = k :: ks) :
    let d := WsFrame.decoder.drain (c.recvBuf ++ chunk)
    let out := c.handleInput chunk
    ∃ k', Drains c k ks d.frames out.1 k' ∧
      out.2 = (if d.frames.any WsFrame.Frame.ends then .returned false
        else if d.valid then .returned true else .raised) ∧
      (out.2 = .returned true → out.1.recvBuf = d.rest) := by
  intro d out
  have hout : out = readLoop.feed chunk c := if_neg hchunk
  obtain ⟨b, hfeed, hb⟩ := readLoop.feed_eq chunk c
  obtain ⟨⟨k', h⟩, hgo⟩ := drains_work d.frames hhandle hconn
  have hexit : readLoop.exit (c.recvBuf ++ chunk) c =
      if d.frames.any WsFrame.Frame.ends then .returned false
      else if d.valid then .returned true else .raised := by
    rw [WsFrame.ReadLoop.exit, hgo]
    cases d.frames.any WsFrame.Frame.ends <;> rfl
  rw [hout, hfeed]
  exact ⟨k', ⟨h.connections, h.handle, h.registered, h.running, h.received, h.lost, h.events,
    h.closeNotified, h.disconnects⟩, hexit, hb⟩

/-! ### Runs -/

/-- The connection `k` is open: the receive buffer is what its bytes leave over. -/
structure Open (c : AriWsClient) (k : AriConnection) : Prop where
  kept : k.lost = false
  goesOn : (WsFrame.decoder.drain k.received).frames.any WsFrame.Frame.ends = false
  valid : (WsFrame.decoder.drain k.received).valid = true
  recvBuf : (WsFrame.decoder.drain k.received).rest = c.recvBuf

/-- What holds of a client whose connections were all fresh. -/
structure Inv (c : AriWsClient) : Prop where
  clean : ∀ k ∈ c.connections, Clean k
  registered : c.registered = true → c.handle = true
  isOpen : c.handle = true → c.running = true → ∃ k ks, c.connections = k :: ks ∧ Open c k

lemma Inv.init : Inv {} := ⟨by simp, by simp, by simp⟩

lemma Inv.connect {registers : Bool} (h : Inv c) (hbuf : c.recvBuf = []) :
    Inv (c.connect registers) where
  clean := by
    intro k hk
    rcases List.mem_cons.mp hk with rfl | hk
    · exact ⟨by rw [WsFrame.decoder.drain_needMore WsFrame.decoder.decode_nil]; rfl, rfl⟩
    · exact h.clean k hk
  registered := fun _ => rfl
  isOpen := by
    intro _ _
    have hdrain := WsFrame.decoder.drain_needMore WsFrame.decoder.decode_nil
    refine ⟨{}, c.connections, rfl, rfl, ?_, ?_, ?_⟩ <;> rw [hdrain]
    · rfl
    · exact hbuf.symm

/-- The loss of the newest connection, which `k'` describes and which was reported already. -/
lemma Inv.handleClose (k' : AriConnection) (hclean : ∀ k ∈ ks, Clean k)
    (hconn : c.connections = k' :: ks) (hhandle : c.handle = true)
    (hnotified : c.closeNotified = true)
    (hevents : k'.events = WsFrame.dataPayloads (WsFrame.decoder.drain k'.received).frames)
    (hdisconnects : k'.disconnects = 1) : Inv { c.handleClose with registered := false } := by
  have hnote : c.notifyDisconnectOnce = c := by rw [notifyDisconnectOnce, if_pos hnotified]
  rw [AriWsClient.handleClose, hnote]
  simp only [hhandle, if_true, note, hconn, List.modifyHead_cons]
  refine ⟨?_, by simp, by simp⟩
  intro j hj
  rcases List.mem_cons.mp hj with rfl | hj
  · exact ⟨hevents, by simpa using hdisconnects⟩
  · exact hclean j hj

/-- The bytes of the connection and of the buffer, read together. -/
lemma Open.dataPayloads_append (h : Open c k) (chunk : Bytes) :
    WsFrame.dataPayloads (WsFrame.decoder.drain (k.received ++ chunk)).frames =
      WsFrame.dataPayloads (WsFrame.decoder.drain k.received).frames ++
        WsFrame.dataPayloads (WsFrame.decoder.drain (c.recvBuf ++ chunk)).frames := by
  rw [WsFrame.decoder.drain_append, if_pos h.valid, h.recvBuf,
    WsFrame.dataPayloads_append (by simpa using h.goesOn)]

/-- Bytes that complete more frames. -/
lemma Inv.handleInput {chunk : Bytes} {c' : AriWsClient} {exit : Exit} (hks : ∀ j ∈ ks, Clean j)
    (hk : Clean k) (hopen : Open c k) (hhandle : c.handle = true)
    (hfresh : (WsFrame.decoder.drain (c.recvBuf ++ chunk)).frames.any WsFrame.Frame.ends = true →
      c.closeNotified = false)
    {k' : AriConnection} (h : Drains c { k with received := k.received ++ chunk } ks
      (WsFrame.decoder.drain (c.recvBuf ++ chunk)).frames c' k')
    (hexit : exit = if (WsFrame.decoder.drain (c.recvBuf ++ chunk)).frames.any WsFrame.Frame.ends
      then .returned false
      else if (WsFrame.decoder.drain (c.recvBuf ++ chunk)).valid then .returned true else .raised)
    (hrest : exit = .returned true →
      c'.recvBuf = (WsFrame.decoder.drain (c.recvBuf ++ chunk)).rest) :
    (exit = .returned true → Inv c') ∧
      (exit = .returned false → Inv { c'.handleClose with registered := false }) ∧
      (exit = .raised → Inv { c' with running := false }) := by
  have hdrain := WsFrame.decoder.drain_append k.received chunk
  rw [if_pos hopen.valid, hopen.recvBuf] at hdrain
  have hzero : k.disconnects = 0 := by simpa [hopen.kept] using hk.disconnects
  have hlost : k'.lost = false := h.lost.trans hopen.kept
  have hreceived : k'.received = k.received ++ chunk := h.received
  have hevents : k'.events = WsFrame.dataPayloads (WsFrame.decoder.drain k'.received).frames := by
    rw [hreceived, hopen.dataPayloads_append, ← hk.events]
    exact h.events
  have hclean : k'.disconnects = 0 → ∀ j ∈ c'.connections, Clean j := by
    intro hnone j hj
    rw [h.connections] at hj
    rcases List.mem_cons.mp hj with rfl | hj
    · exact ⟨hevents, by simpa [hlost] using hnone⟩
    · exact hks j hj
  have hcount := h.disconnects
  cases hany : (WsFrame.decoder.drain (c.recvBuf ++ chunk)).frames.any WsFrame.Frame.ends with
  | true =>
    -- a frame ends the connection
    rw [if_pos hany] at hexit
    subst hexit
    refine ⟨nofun, fun _ => ?_, nofun⟩
    refine Inv.handleClose _ hks h.connections (h.handle.trans hhandle) ?_ hevents ?_
    · exact h.closeNotified.trans (by rw [hany, Bool.or_true])
    · simpa [hany, hfresh hany, hzero] using hcount
  | false =>
    have hnone : k'.disconnects = 0 := by simpa [hany, hzero] using hcount
    cases hvalid : (WsFrame.decoder.drain (c.recvBuf ++ chunk)).valid with
    | true =>
      simp only [hany, hvalid, Bool.false_eq_true, if_false, if_true] at hexit
      subst hexit
      refine ⟨fun _ => ⟨hclean hnone, fun _ => h.handle.trans hhandle, ?_⟩, nofun, nofun⟩
      intro _ _
      refine ⟨k', ks, h.connections, hlost, ?_, ?_, ?_⟩ <;> rw [hreceived, hdrain]
      · simpa [hany] using hopen.goesOn
      · exact hvalid
      · exact (hrest rfl).symm
    | false =>
      simp only [hany, hvalid, Bool.false_eq_true, if_false] at hexit
      subst hexit
      exact ⟨nofun, nofun, fun _ => ⟨hclean hnone, fun _ => h.handle.trans hhandle, by simp⟩⟩

lemma Inv.readable (h : Inv c) (chunk : Bytes) (hfresh : Fresh c (.readable chunk)) :
    Inv (c.step (.readable chunk)) := by
  simp only [AriWsClient.step]
  split_ifs with hready
  swap
  · exact h
  obtain ⟨hrunning, hregistered⟩ := hready
  have hhandle := h.registered hregistered
  obtain ⟨k, ks, hconn, hopen⟩ := h.isOpen hhandle hrunning
  have hk : Clean k := h.clean k (by rw [hconn]; exact List.mem_cons_self)
  have hks : ∀ j ∈ ks, Clean j := by
    intro j hj
    exact h.clean j (by rw [hconn]; exact List.mem_cons_of_mem k hj)
  have hnote : (c.note fun k => { k with received := k.received ++ chunk }).connections =
      { k with received := k.received ++ chunk } :: ks := by
    simp only [note, hconn, List.modifyHead_cons]
  by_cases hend : chunk = []
  · -- the end of the stream
    have hfirst : c.closeNotified = false := hfresh hregistered (.inl hend)
    have hzero : k.disconnects = 0 := by simpa [hopen.kept] using hk.disconnects
    subst hend
    rw [AriWsClient.handleInput, if_pos rfl]
    refine Inv.handleClose { k with received := k.received ++ [], disconnects := 1 } hks
      ?_ ?_ ?_ ?_ rfl
    · simp [notifyDisconnectOnce, note, hfirst, hconn, hzero]
    · simpa [notifyDisconnectOnce, note, hfirst] using hhandle
    · simp [notifyDisconnectOnce, note, hfirst]
    · simpa using hk.events
  · obtain ⟨k', hk', hexit, hrest⟩ := drains_handleInput (c := c.note fun k => { k with
      received := k.received ++ chunk }) hend hhandle hnote
    generalize (c.note _).handleInput chunk = out at hk' hexit hrest ⊢
    obtain ⟨c', exit⟩ := out
    have hall := Inv.handleInput (c := c.note _) hks hk ⟨hopen.kept, hopen.goesOn, hopen.valid,
      hopen.recvBuf⟩ hhandle (fun hany => by
        obtain ⟨f, hf, hfends⟩ := List.any_eq_true.mp hany
        exact hfresh hregistered (.inr ⟨f, hf, hfends⟩)) hk' hexit hrest
    cases exit with
    | raised => exact hall.2.2 rfl
    | returned ok =>
      cases ok with
      | true => exact hall.1 rfl
      | false => exact hall.2.1 rfl

lemma Inv.step (h : Inv c) {i : Input} (hfresh : Fresh c i) : Inv (c.step i) := by
  cases i with
  | readable chunk => exact h.readable chunk hfresh
  | timeout connects registers =>
    simp only [AriWsClient.step]
    split_ifs with hgo
    · exact h.connect (hfresh hgo.2.1 hgo.2.2)
    · exact h

/-- While every connection is made on an empty receive buffer, and no connection is lost after a
loss was reported, each connection is handed on as it came and its loss is reported once. -/
theorem clean_of_fresh (is : List Input) (hfresh : Along step Fresh {} is) :
    ∀ k ∈ (run is).connections, Clean k := by
  have hinv : Inv (run is) := hfresh.invariant (fun c i hi hc => hc.step hi) Inv.init
  exact hinv.clean

/-- The stream of one text frame. -/
lemma drain_textFrame (x : UInt8) :
    WsFrame.decoder.drain [0x81, 1, x] = ⟨[⟨1, [x]⟩], [], true⟩ := by
  have hdecode : WsFrame.decode [0x81, 1, x] = .ok ⟨1, [x]⟩ [] := rfl
  rw [WsFrame.drain_ok hdecode, WsFrame.decoder.drain_needMore WsFrame.decoder.decode_nil]

theorem clean_of_fresh_reconnect :
    (run [.timeout true true, .readable [0x81, 1, 0x61], .readable [], .timeout true true,
      .readable [0x81, 1, 0x62]]).connections.length = 2 ∧
    ∀ k ∈ (run [.timeout true true, .readable [0x81, 1, 0x61], .readable [], .timeout true true,
      .readable [0x81, 1, 0x62]]).connections, Clean k := by
  refine ⟨rfl, clean_of_fresh _ ⟨fun _ _ => rfl, fun _ _ => rfl, fun _ _ => rfl, fun _ _ => rfl,
    ?_, trivial⟩⟩
  rintro _ (hnil | ⟨f, hf, hends⟩)
  · cases hnil
  · change f ∈ (WsFrame.decoder.drain [0x81, 1, 0x62]).frames at hf
    rw [drain_textFrame, List.mem_singleton] at hf
    subst hf
    cases hends

/-- A connection that is lost in the middle of a frame, and the one after it: the frame of the new
connection is taken for the rest of the old frame. -/
theorem reconnect_unclean : ¬ ∀ is, ∀ k ∈ (run is).connections, Clean k := by
  intro h
  have hclean := h [.timeout true true, .readable [0x81, 5, 0x61], .readable [], .timeout true true,
    .readable [0x81, 1, 0x62]] ⟨[0x81, 1, 0x62], [], [], 0, false⟩ List.mem_cons_self
  have hevents := hclean.events
  rw [drain_textFrame] at hevents
  cases hevents

end AriWsClient
