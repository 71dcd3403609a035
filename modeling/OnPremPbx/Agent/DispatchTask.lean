import OnPremPbx.Agent.Reading

/-!
# The dispatch task between the transport and the connector

The reactor thread does not hand what it receives to the connector: it puts it on the queue of
`InnerTlsDispatchTask` (`inner_tls_task.cpp`), whose own thread takes it from there to
`on_bytes_received`. The queue outlives the connections. `AgentProcess` is the agent end with that
queue, and each step of either thread is one event.

With every byte goes the connection it was received on, for the record: no function of the code
sees it.
-/

open Framing SipFrame

structure AgentProcess where
  agent : Agent
  /-- the messages in the queue, with the connection they came from -/
  queue : List (ConnId × Bytes) := []
  /-- the connection of each byte in the receive buffer -/
  origins : List ConnId := []
  /-- the frames dispatched, with the connections of the bytes they were decoded from -/
  decoded : List (Frame × List ConnId) := []
  /-- the calls of `on_tunnel_bytes` that returned false: the connection there was, and those of
  the bytes found invalid -/
  rejected : List (Option ConnId × List ConnId) := []

namespace AgentProcess

/-- Each frame with the connections of its bytes. -/
def sources : List Frame → List ConnId → List (Frame × List ConnId)
  | [], _            => []
  | f :: fs, origins =>
    (f, origins.take f.encode.length) :: sources fs (origins.drop f.encode.length)

/-- The handler of `AceSslTransport` for inbound plaintext: `dispatch_bytes`. -/
def receive (bytes : Bytes) (s : AgentProcess) : AgentProcess :=
  match s.agent.connector.transport with
  | none   => s
  | some c => { s with queue := s.queue ++ [(c, bytes)] }

/-- The agent goes on to `agent`, with the last of `origins` left in its receive buffer. -/
def proceed (agent : Agent) (origins : List ConnId) (s : AgentProcess) : AgentProcess :=
  { s with
    agent := agent
    origins := origins.drop (origins.length - agent.demux.recvBuffer.length) }

/-- One round of `svc`. -/
def dequeue (s : AgentProcess) : AgentProcess :=
  match s.queue with
  | []                 => s
  | (c, bytes) :: rest =>
    let out := s.agent.clearPings.onTunnelBytes bytes
    let origins := s.origins ++ List.replicate bytes.length c
    { s.proceed (s.agent.onBytesReceived bytes) origins with
      queue := rest
      decoded := s.decoded ++ sources out.frames origins
      rejected := s.rejected ++
        if out.exit = .returned false then
          [(s.agent.connector.transport, origins.drop (codec.encodeAll out.frames).length)]
        else [] }

inductive Event where
  | receive (bytes : Bytes)
  | dequeue
  /-- what else the reactor thread does -/
  | reactor (e : Agent.Event)
  deriving DecidableEq, Repr

def handle (e : Event) (s : AgentProcess) : AgentProcess :=
  match e with
  | .receive bytes            => s.receive bytes
  | .dequeue                  => s.dequeue
  -- inbound bytes come through the queue only
  | .reactor (.bytesReceived _) => s
  | .reactor e                => s.proceed (s.agent.handle e) s.origins

/-- An event, with what the surroundings do while it is handled. -/
abbrev Input := Event × Agent.Script

def setScript (script : Agent.Script) (s : AgentProcess) : AgentProcess :=
  { s with agent := s.agent.setScript script }

def step (s : AgentProcess) (i : Input) : AgentProcess := (s.setScript i.2).handle i.1

/-- The state after the inputs `is`. -/
def run (s : AgentProcess) (is : List Input) : AgentProcess := is.foldl step s

def init (cfg : CloudConnector.Config) (clock : ℤ) : AgentProcess where
  agent := Agent.init cfg clock

/-! ### What must not mix -/

/-- No bytes of two connections are decoded together: a frame is decoded from bytes of one
connection, the receive buffer of a connection holds no bytes of another, and no connection is
rejected for the bytes of another. -/
structure Separate (s : AgentProcess) : Prop where
  decoded : ∀ x ∈ s.decoded, x.2.length = x.1.encode.length ∧ ∃ c, ∀ o ∈ x.2, o = c
  buffered : ∀ c, s.agent.connector.transport = some c → ∀ o ∈ s.origins, o = c
  rejected : ∀ x ∈ s.rejected, ∀ c, x.1 = some c → ∀ o ∈ x.2, o = c

end AgentProcess

/-- The tick gets as far as `attempt_connect`. -/
def Agent.reconnects (s : Agent) : Bool :=
  s.drainPending.connector.transport.isNone &&
    decide (s.drainPending.connector.nextReconnectAt ≤ s.drainPending.connector.clock)

namespace AgentProcess

/-- A tick that connects finds the queue empty. -/
def QueueDrained (s : AgentProcess) (i : Input) : Prop :=
  match i.1 with
  | .reactor (.tick dial) => s.agent.reconnects = true → dial.isSome → s.queue = []
  | _                     => True

instance (s : AgentProcess) (i : Input) : Decidable (s.QueueDrained i) := by
  unfold QueueDrained
  split <;> infer_instance

end AgentProcess

/-! ### The tick -/

namespace Agent

lemma reconnects_setScript (script : Script) (s : Agent) :
    (s.setScript script).reconnects = s.reconnects := by
  have hdrain : (s.setScript script).drainPending.connector = s.drainPending.connector := by
    cases hpending : s.connector.disconnectPending with
    | false => simp [drainPending, setScript, hpending]
    | true =>
      rcases htransport : s.connector.transport with _ | c <;>
        simp [drainPending, setScript, clearPending, markDisconnected, onTunnelDisconnect, hpending,
          htransport]
  rw [reconnects, hdrain, reconnects]

/-- What a tick does to the connection and the receive buffer. -/
lemma tick_cases (dial : Option ConnId) (s : Agent) :
    (s.tick dial).connector.transport = s.connector.transport ∧
      (s.tick dial).demux.recvBuffer = s.demux.recvBuffer ∨
    (s.tick dial).connector.transport = none ∧ (s.tick dial).demux.recvBuffer = [] ∨
    s.reconnects = true ∧ ∃ c, dial = some c ∧ (s.tick dial).connector.transport = some c ∧
      (s.tick dial).demux.recvBuffer = [] := by
  have hdrain : s.drainPending.connector.transport = s.connector.transport ∧
      s.drainPending.demux.recvBuffer = s.demux.recvBuffer ∨
      s.drainPending.connector.transport = none ∧ s.drainPending.demux.recvBuffer = [] := by
    simp only [drainPending]
    split_ifs
    · exact Or.inr ⟨rfl, rfl⟩
    · exact Or.inl ⟨rfl, rfl⟩
    · exact Or.inl ⟨rfl, rfl⟩
  rw [tick, reconnects]
  generalize s.drainPending = t at hdrain ⊢
  have hcalm : ∀ {u : Agent}, Calm t u →
      u.connector.transport = s.connector.transport ∧ u.demux.recvBuffer = s.demux.recvBuffer ∨
      u.connector.transport = none ∧ u.demux.recvBuffer = [] := by
    rintro u ⟨-, -, htransport, hbuffer⟩
    rwa [htransport, hbuffer]
  split_ifs with hup hearly
  · have hping := (closedFrame_calm t).sendFrame .PING 0 [] t (.refl t)
    simp only [maybeHeartbeat]
    split_ifs
    · exact (hcalm (.refl t)).imp_right Or.inl
    · exact (hcalm (.refl t)).imp_right Or.inl
    · exact Or.inr (Or.inl ⟨rfl, rfl⟩)
    · exact (hcalm hping).imp_right Or.inl
    · exact (hcalm hping).imp_right Or.inl
  · exact (hcalm (.refl t)).imp_right Or.inl
  · rcases dial with _ | c
    · exact (hcalm (u := t.backOff) (.refl t)).imp_right Or.inl
    · have hready : (t.connector.transport.isNone &&
          decide (t.connector.nextReconnectAt ≤ t.connector.clock)) = true := by
        simpa using And.intro hup (not_lt.mp hearly)
      obtain h | ⟨sent, f, rest, n, -, h⟩ := attemptConnect_cases c t
      · rw [h, onConnected]
        set u := ((t.install c).flushed c t.connector.outbound []).setTunnel (some .connector)
        obtain ⟨-, -, htransport, hbuffer⟩ := (closedFrame_calm u).foldl_post _ (.refl u)
        exact Or.inr (Or.inr ⟨hready, c, rfl, htransport, hbuffer⟩)
      · rw [h, onConnected]
        set u := (((t.install c).flushed c sent (f :: rest)).wrote c f
          (.failed n)).markDisconnected.setTunnel (some .connector)
        obtain ⟨-, -, htransport, hbuffer⟩ := (closedFrame_calm u).foldl_post _ (.refl u)
        exact Or.inr (Or.inl ⟨htransport, hbuffer⟩)

end Agent

/-! ### The invariant -/

namespace AgentProcess

lemma mem_sources {fs : List Frame} {origins : List ConnId} {x : Frame × List ConnId}
    (h : x ∈ sources fs origins) (hlength : (codec.encodeAll fs).length ≤ origins.length) :
    x.2.length = x.1.encode.length ∧ ∀ o ∈ x.2, o ∈ origins := by
  induction fs generalizing origins with
  | nil => cases h
  | cons f fs ih =>
    rw [codec.encodeAll_cons, List.length_append] at hlength
    obtain rfl | h := List.mem_cons.mp h
    · refine ⟨?_, fun o ho => List.mem_of_mem_take ho⟩
      exact List.length_take_of_le (le_of_add_le_left hlength)
    · have hrest : (codec.encodeAll fs).length ≤ (origins.drop f.encode.length).length := by
        rw [List.length_drop]
        exact Nat.le_sub_of_add_le' hlength
      obtain ⟨hlen, hmem⟩ := ih h hrest
      exact ⟨hlen, fun o ho => List.mem_of_mem_drop (hmem o ho)⟩

/-- All that is in the buffer and in the queue comes from one connection, and there is no other. -/
structure Sole (s : AgentProcess) (c : ConnId) : Prop where
  transport : ∀ d, s.agent.connector.transport = some d → d = c
  origins : ∀ o ∈ s.origins, o = c
  queue : ∀ m ∈ s.queue, m.1 = c

structure Inv (s : AgentProcess) : Prop where
  separate : s.Separate
  length_origins : s.origins.length = s.agent.demux.recvBuffer.length
  sole : ∃ c, s.Sole c

variable {s : AgentProcess}

lemma length_proceed {agent : Agent} {origins : List ConnId}
    (h : agent.demux.recvBuffer.length ≤ origins.length) :
    (s.proceed agent origins).origins.length = agent.demux.recvBuffer.length := by
  simp only [proceed, List.length_drop]
  omega

/-- The reactor thread does something that does not lengthen the receive buffer. -/
lemma Inv.proceed (hs : s.Inv) {agent : Agent} {c : ConnId}
    (hlength : agent.demux.recvBuffer.length ≤ s.agent.demux.recvBuffer.length)
    (hsole : (s.proceed agent s.origins).Sole c) : (s.proceed agent s.origins).Inv where
  separate :=
    { decoded := hs.separate.decoded
      buffered := fun d hd o ho => (hsole.origins o ho).trans (hsole.transport d hd).symm
      rejected := hs.separate.rejected }
  length_origins := length_proceed (hs.length_origins ▸ hlength)
  sole := ⟨c, hsole⟩

lemma Inv.receive (hs : s.Inv) (bytes : Bytes) : (s.receive bytes).Inv := by
  obtain ⟨c, hsole⟩ := hs.sole
  unfold AgentProcess.receive
  split
  · exact hs
  · rename_i d hd
    refine ⟨⟨hs.separate.decoded, hs.separate.buffered, hs.separate.rejected⟩, hs.length_origins, c,
      hsole.transport, hsole.origins, fun m hm => ?_⟩
    obtain hm | hm := List.mem_append.mp hm
    · exact hsole.queue m hm
    · rw [List.mem_singleton.mp hm]
      exact hsole.transport d hd

lemma Inv.dequeue (hs : s.Inv) : s.dequeue.Inv := by
  obtain ⟨c, hsole⟩ := hs.sole
  unfold AgentProcess.dequeue
  split
  · exact hs
  · rename_i d bytes rest hqueue
    obtain rfl : d = c := hsole.queue (d, bytes) (by simp [hqueue])
    set origins := s.origins ++ List.replicate bytes.length d with horigins
    have hall : ∀ o ∈ origins, o = d := by
      intro o ho
      obtain ho | ho := List.mem_append.mp ho
      · exact hsole.origins o ho
      · exact List.eq_of_mem_replicate ho
    have hlength : origins.length = (s.agent.demux.recvBuffer ++ bytes).length := by
      simp [horigins, hs.length_origins]
    have htransport : (s.agent.onBytesReceived bytes).connector.transport =
        s.agent.connector.transport := by
      have hfed := (Agent.closedInner_transport s.agent.connector.transport
        s.agent.trace.dialed).onTunnelBytes bytes s.agent.clearPings ⟨rfl, rfl⟩
      rw [Agent.onBytesReceived]
      split_ifs
      · exact hfed.1
      · exact hfed.1
    have hbuffer : (s.agent.onBytesReceived bytes).demux.recvBuffer.length ≤ origins.length := by
      have hsuffix := Agent.receiver.buffer_receive_suffix (s.agent.fed bytes)
      rw [hlength, Agent.onBytesReceived]
      split_ifs
      · exact hsuffix.length_le
      · exact hsuffix.length_le
    have hframes : (codec.encodeAll (s.agent.clearPings.onTunnelBytes bytes).frames).length ≤
        origins.length := by
      rw [hlength]
      exact (Agent.receiver.encodeAll_frames_prefix (s.agent.fed bytes)).length_le
    have hleft : ∀ {n : ℕ}, ∀ o ∈ origins.drop n, o = d :=
      fun o ho => hall o (List.mem_of_mem_drop ho)
    refine ⟨⟨?_, ?_, ?_⟩, length_proceed (s := s) hbuffer, d, ?_, hleft, ?_⟩
    · intro x hx
      obtain hx | hx := List.mem_append.mp hx
      · exact hs.separate.decoded x hx
      · obtain ⟨hlen, hmem⟩ := mem_sources hx hframes
        exact ⟨hlen, d, fun o ho => hall o (hmem o ho)⟩
    · intro e he o ho
      exact (hleft o ho).trans (hsole.transport e (htransport ▸ he)).symm
    · intro x hx e he o ho
      obtain hx | hx := List.mem_append.mp hx
      · exact hs.separate.rejected x hx e he o ho
      · split_ifs at hx
        · obtain rfl := List.mem_singleton.mp hx
          exact (hleft o ho).trans (hsole.transport e he).symm
        · cases hx
    · intro e he
      exact hsole.transport e (htransport ▸ he)
    · intro m hm
      exact hsole.queue m (by simp [hqueue, hm])

/-- What the reactor thread does between ticks. -/
lemma Inv.calm (hs : s.Inv) {agent : Agent} (h : Agent.Calm s.agent agent) :
    (s.proceed agent s.origins).Inv := by
  obtain ⟨c, hsole⟩ := hs.sole
  obtain ⟨-, -, htransport, hbuffer⟩ := h
  refine hs.proceed (c := c) (hbuffer ▸ le_rfl) ⟨?_, ?_, hsole.queue⟩
  · intro d hd
    exact hsole.transport d (htransport ▸ hd)
  · intro o ho
    exact hsole.origins o (List.mem_of_mem_drop ho)

lemma Inv.tick (hs : s.Inv) {dial : Option ConnId}
    (hdrained : s.agent.reconnects = true → dial.isSome → s.queue = []) :
    (s.proceed (s.agent.tick dial) s.origins).Inv := by
  obtain ⟨c, hsole⟩ := hs.sole
  have hclear : (s.agent.tick dial).demux.recvBuffer = [] →
      (s.proceed (s.agent.tick dial) s.origins).origins = [] := by
    intro h
    simp [AgentProcess.proceed, h]
  obtain ⟨htransport, hbuffer⟩ | ⟨htransport, hbuffer⟩ | ⟨hconnects, d, hd, htransport, hbuffer⟩ :=
    Agent.tick_cases dial s.agent
  · refine hs.proceed (c := c) (hbuffer ▸ le_rfl) ⟨?_, ?_, hsole.queue⟩
    · intro d hd
      exact hsole.transport d (htransport ▸ hd)
    · intro o ho
      exact hsole.origins o (List.mem_of_mem_drop ho)
  · refine hs.proceed (c := c) (by simp [hbuffer]) ⟨?_, ?_, hsole.queue⟩
    · intro d hd
      exact absurd (htransport.symm.trans hd) (by simp)
    · intro o ho
      simp [hclear hbuffer] at ho
  · -- the new connection finds nothing of the old one, neither in the buffer nor in the queue
    have hqueue := hdrained hconnects (by simp [hd])
    refine hs.proceed (c := d) (by simp [hbuffer]) ⟨?_, ?_, ?_⟩
    · intro e he
      exact Option.some.inj (he.symm.trans htransport)
    · intro o ho
      simp [hclear hbuffer] at ho
    · intro m hm
      simp [AgentProcess.proceed, hqueue] at hm

lemma Inv.step (hs : s.Inv) {i : Input} (hdrained : s.QueueDrained i) : (s.step i).Inv := by
  obtain ⟨e, script⟩ := i
  have ht : (s.setScript script).Inv :=
    ⟨⟨hs.separate.decoded, hs.separate.buffered, hs.separate.rejected⟩, hs.length_origins,
      hs.sole.imp fun _ h => ⟨h.transport, h.origins, h.queue⟩⟩
  have hcalm := Agent.closedFrame_calm (s.setScript script).agent
  have hrefl := Agent.Calm.refl (s.setScript script).agent
  cases e with
  | receive bytes => exact ht.receive bytes
  | dequeue => exact ht.dequeue
  | reactor e =>
    cases e with
    | tick dial =>
      apply ht.tick
      intro hconnects hdial
      apply hdrained
      · rwa [← Agent.reconnects_setScript script]
      · obtain ⟨c, hc⟩ := Option.isSome_iff_exists.mp hdial
        exact Option.isSome_iff_exists.mpr ⟨c, (Option.filter_eq_some_iff.mp hc).1⟩
    | bytesReceived bytes => exact ht
    | transportLost => exact ht.calm (hcalm.onTransportLost _ hrefl)
    | asteriskData r bytes => exact ht.calm (hcalm.handle_asterisk hrefl (Or.inl ⟨r, bytes, rfl⟩))
    | asteriskEof r reason => exact ht.calm (hcalm.handle_asterisk hrefl (Or.inr ⟨r, reason, rfl⟩))
    | sendFrame f => exact ht.calm (hcalm.sendFrame _ _ _ _ hrefl)
    | wsPing ok => exact ht.calm (hcalm.sendWsPing ok _ hrefl)
    | advance seconds => exact ht.calm hrefl

lemma inv_init (cfg : CloudConnector.Config) (clock : ℤ) : (init cfg clock).Inv where
  separate := ⟨by simp [init], by simp [init], by simp [init]⟩
  length_origins := rfl
  sole := ⟨0, by simp [init, Agent.init], by simp [init], by simp [init]⟩

/-- In every run in which each tick that connects finds the queue empty, the bytes of different
connections stay apart. -/
theorem connections_separate (cfg : CloudConnector.Config) (clock : ℤ) (is : List Input)
    (hdrained : Transition.Along step QueueDrained (init cfg clock) is) :
    ((init cfg clock).run is).Separate :=
  (hdrained.invariant (P := Inv) (fun _ _ h hs => hs.step h) (inv_init cfg clock)).separate

/-- A PING cut in two, of a connection that is replaced after the second half was taken from the
queue. -/
theorem connections_separate_ping :
    let s := (init {} 0).run
      [(.reactor (.tick (some 0)), {}), (.receive ((encode .PING 0 []).take 4), {}),
        (.receive ((encode .PING 0 []).drop 4), {}), (.dequeue, {}), (.dequeue, {}),
        (.reactor .transportLost, {}), (.reactor (.tick (some 1)), {})]
    s.agent.connector.transport = some 1 ∧
      s.decoded = [(⟨.PING, 0, []⟩, [0, 0, 0, 0, 0, 0, 0, 0, 0, 0])] ∧ s.Separate :=
  ⟨by decide, by decide, connections_separate {} 0 _ (by decide)⟩

/-- The connection is lost when the header of a message has been received, and still is in the
queue when the next connection is set up: the first bytes of that one become the message. -/
theorem message_of_two_connections :
    let s := (init {} 0).run
      [(.reactor (.tick (some 0)), {}), (.receive (encode .OPEN 1 []), {}), (.dequeue, {}),
        (.receive ((encode .DATA 1 (encode .PING 0 [])).take kHeaderSize), {}),
        (.reactor .transportLost, {}), (.reactor (.tick (some 1)), {}),
        (.receive (encode .PING 0 []), {}), (.dequeue, {}), (.dequeue, {})]
    s.decoded.getLast? = some (⟨.DATA, 1, encode .PING 0 []⟩,
      List.replicate 10 0 ++ List.replicate 10 1) ∧ ¬ s.Separate := by
  intro s
  have hlast : s.decoded.getLast? = some (⟨.DATA, 1, encode .PING 0 []⟩,
      List.replicate 10 0 ++ List.replicate 10 1) := by decide
  refine ⟨hlast, ?_⟩
  intro h
  obtain ⟨-, c, hc⟩ := h.decoded _ (List.mem_of_getLast? hlast)
  exact absurd ((hc 0 (by decide)).trans (hc 1 (by decide)).symm) (by decide)

end AgentProcess
