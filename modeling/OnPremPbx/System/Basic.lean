import OnPremPbx.Agent.Reading
import OnPremPbx.Cloud.Reading
import OnPremPbx.Framing.Link

/-!
# The cloud and its agents

The composed system: one cloud end, any number of agents, and the connections that agents dial and
the cloud attaches one after the other. A connection carries what its two ends write to it, in
order; either end reads any part of what is there as long as it holds the connection, and what it
has not read when it lets go is lost.
-/

open Framing SipFrame

/-- What the programs of an agent send besides streams. -/
inductive Notice where
  | pushNotify
  | cdrPush
  | registerState
  | agentHello
  | asteriskStatus
  deriving DecidableEq, Repr

def Notice.op : Notice → Op
  | pushNotify     => .PUSH_NOTIFY
  | cdrPush        => .CDR_PUSH
  | registerState  => .REGISTER_STATE
  | agentHello     => .AGENT_HELLO
  | asteriskStatus => .ASTERISK_STATUS

/-- A notice goes out on stream 0. -/
def Notice.frame (notice : Notice) (payload : Bytes) : Frame := ⟨notice.op, 0, payload⟩

lemma Notice.not_isStream (notice : Notice) (payload : Bytes) :
    ¬ (notice.frame payload).IsStream := by
  cases notice <;> simp [Frame.IsStream, frame, op]

structure System where
  cloud : Cloud
  agents : ℕ → Agent
  /-- the agent that dialed each connection -/
  dialed : List ℕ := []
  /-- how much of each connection the agent has read, and how much the cloud -/
  readDown : ConnId → ℕ := fun _ => 0
  readUp : ConnId → ℕ := fun _ => 0

namespace System

/-- What can happen. -/
inductive Event where
  | browserUpgrade (openMeta : Bytes)
  | browserData (b : BrowserSink) (bytes : Bytes)
  | browserClose (b : BrowserSink) (reason : Bytes)
  | revoke (payload : Bytes)
  | cloudTick
  | cloudAdvance (seconds : ℕ)
  | attach (c : ConnId)
  | cloudRead (n : ℕ)
  | cloudEof
  | agentTick (a : ℕ) (dial : Bool) (notices : List (Notice × Bytes))
  | agentRead (a n : ℕ)
  | transportLost (a : ℕ)
  | asteriskData (a : ℕ) (r : AsteriskStream) (bytes : Bytes)
  | asteriskEof (a : ℕ) (r : AsteriskStream) (reason : Bytes)
  | notify (a : ℕ) (notice : Notice) (payload : Bytes)
  | wsPing (a : ℕ) (ok : Bool)
  | agentAdvance (a seconds : ℕ)
  deriving DecidableEq, Repr

/-- An event, with what the surroundings do at the end that handles it. -/
structure Input where
  event : Event
  cloudScript : Cloud.Script := {}
  agentScript : Agent.Script := {}

def onCloud (i : Cloud.Input) (s : System) : System := { s with cloud := s.cloud.step i }

def onAgent (a : ℕ) (i : Agent.Input) (s : System) : System :=
  { s with agents := Function.update s.agents a ((s.agents a).step i) }

/-- The agent at the other end of a connection. -/
def owner (s : System) (c : ConnId) : ℕ := s.dialed.getD c 0

/-- The next bytes, at most `n`, that the cloud reads from `c`. -/
def upward (s : System) (c : ConnId) (n : ℕ) : Bytes :=
  (s.agents (s.owner c)).outbound.unread codec c (s.readUp c) n

/-- The next bytes, at most `n`, that an agent reads from `c`. -/
def downward (s : System) (c : ConnId) (n : ℕ) : Bytes :=
  s.cloud.outbound.unread codec c (s.readDown c) n

/-- The cloud reads from its agent. -/
def cloudRead (n : ℕ) (script : Cloud.Script) (s : System) : System :=
  match s.cloud.endpoint.transport with
  | none   => s
  | some c =>
    { s.onCloud (.bytesReceived (s.upward c n), script) with
      readUp := Function.update s.readUp c (s.readUp c + (s.upward c n).length) }

/-- An agent reads from the cloud. -/
def agentRead (a n : ℕ) (script : Agent.Script) (s : System) : System :=
  match (s.agents a).connector.transport with
  | none   => s
  | some c =>
    { s.onAgent a (.bytesReceived (s.downward c n), script) with
      readDown := Function.update s.readDown c (s.readDown c + (s.downward c n).length) }

/-- A tick of an agent, which dials a new connection if it needs one and the factory has one. -/
def agentTick (a : ℕ) (dial : Bool) (notices : List (Notice × Bytes)) (script : Agent.Script)
    (s : System) : System :=
  { s.onAgent a (.tick (if dial then some s.dialed.length else none),
      { script with onConnected := notices.map fun x => x.1.frame x.2 }) with
    dialed := if dial then s.dialed ++ [a] else s.dialed }

def step (s : System) (i : Input) : System :=
  match i.event with
  | .browserUpgrade openMeta     => s.onCloud (.browserUpgrade openMeta, i.cloudScript)
  | .browserData b bytes         => s.onCloud (.browserData b bytes, i.cloudScript)
  | .browserClose b reason       => s.onCloud (.browserClose b reason, i.cloudScript)
  | .revoke payload              => s.onCloud (.revoke payload, i.cloudScript)
  | .cloudTick                   => s.onCloud (.tick, i.cloudScript)
  | .cloudAdvance seconds        => s.onCloud (.advance seconds, i.cloudScript)
  | .attach c                    =>
    if c < s.dialed.length then s.onCloud (.agentConnected c, i.cloudScript) else s
  | .cloudRead n                 => s.cloudRead n i.cloudScript
  | .cloudEof                    => s.onCloud (.agentDisconnected, i.cloudScript)
  | .agentTick a dial notices    => s.agentTick a dial notices i.agentScript
  | .agentRead a n               => s.agentRead a n i.agentScript
  | .transportLost a             => s.onAgent a (.transportLost, i.agentScript)
  | .asteriskData a r bytes      => s.onAgent a (.asteriskData r bytes, i.agentScript)
  | .asteriskEof a r reason      => s.onAgent a (.asteriskEof r reason, i.agentScript)
  | .notify a notice payload     =>
    s.onAgent a (.sendFrame (notice.frame payload), i.agentScript)
  | .wsPing a ok                 => s.onAgent a (.wsPing ok, i.agentScript)
  | .agentAdvance a seconds      => s.onAgent a (.advance seconds, i.agentScript)

/-- The state after the inputs `is`. -/
def run (s : System) (is : List Input) : System := is.foldl step s

/-- A step is at most one event at the cloud. -/
lemma step_cloud (s : System) (i : Input) :
    (s.step i).cloud = s.cloud ∨ ∃ e, (s.step i).cloud = s.cloud.step (e, i.cloudScript) := by
  obtain ⟨e, cloudScript, agentScript⟩ := i
  cases e with
  | browserUpgrade openMeta => exact Or.inr ⟨.browserUpgrade openMeta, rfl⟩
  | browserData b bytes => exact Or.inr ⟨.browserData b bytes, rfl⟩
  | browserClose b reason => exact Or.inr ⟨.browserClose b reason, rfl⟩
  | revoke payload => exact Or.inr ⟨.revoke payload, rfl⟩
  | cloudTick => exact Or.inr ⟨.tick, rfl⟩
  | cloudAdvance seconds => exact Or.inr ⟨.advance seconds, rfl⟩
  | attach c =>
    simp only [step]
    split_ifs
    · exact Or.inr ⟨.agentConnected c, rfl⟩
    · exact Or.inl rfl
  | cloudRead n =>
    simp only [step, cloudRead]
    rcases s.cloud.endpoint.transport with _ | c
    · exact Or.inl rfl
    · exact Or.inr ⟨.bytesReceived (s.upward c n), rfl⟩
  | cloudEof => exact Or.inr ⟨.agentDisconnected, rfl⟩
  | agentRead a n =>
    simp only [step, agentRead]
    rcases (s.agents a).connector.transport with _ | c <;> exact Or.inl rfl
  | agentTick | transportLost | asteriskData | asteriskEof | notify | wsPing | agentAdvance =>
    exact Or.inl rfl

lemma agents_onAgent (s : System) (a : ℕ) (i : Agent.Input) (b : ℕ) :
    (s.onAgent a i).agents b = s.agents b ∨
      b = a ∧ (s.onAgent a i).agents b = (s.agents b).step i := by
  by_cases hb : b = a
  · subst hb
    exact Or.inr ⟨rfl, Function.update_self _ _ _⟩
  · exact Or.inl (Function.update_of_ne hb _ _)

/-- A step is at most one event at every agent. -/
lemma step_agents (s : System) (i : Input) (b : ℕ) :
    (s.step i).agents b = s.agents b ∨
      ∃ e script, (s.step i).agents b = (s.agents b).step (e, script) := by
  obtain ⟨e, cloudScript, agentScript⟩ := i
  have hevent : ∀ a j, (s.onAgent a j).agents b = s.agents b ∨
      ∃ e script, (s.onAgent a j).agents b = (s.agents b).step (e, script) := by
    intro a j
    obtain h | ⟨-, h⟩ := agents_onAgent s a j b
    · exact Or.inl h
    · exact Or.inr ⟨j.1, j.2, h⟩
  cases e with
  | agentRead a n =>
    simp only [step, agentRead]
    rcases (s.agents a).connector.transport with _ | c
    · exact Or.inl rfl
    · exact hevent a _
  | agentTick | transportLost | asteriskData | asteriskEof | notify | wsPing | agentAdvance =>
    exact hevent _ _
  | attach c =>
    simp only [step]
    split_ifs <;> exact Or.inl rfl
  | cloudRead n =>
    simp only [step, cloudRead]
    rcases s.cloud.endpoint.transport with _ | c <;> exact Or.inl rfl
  | browserUpgrade | browserData | browserClose | revoke | cloudTick | cloudAdvance | cloudEof =>
    exact Or.inl rfl

/-- How the programs set the ends up. Both leave `outbound_buffer_max` at its default. -/
structure Setup where
  cloudCfg : CloudTunnelEndpoint.Config := {}
  cloudClock : Option ℤ := none
  connectedField : Bytes → Option Bool := fun _ => none
  agentCfg : ℕ → CloudConnector.Config := fun _ => {}
  agentClock : ℕ → ℤ := fun _ => 0

def init (setup : Setup) : System where
  cloud := Cloud.init { setup.cloudCfg with outboundBufferMax := 0 } setup.cloudClock
    setup.connectedField
  agents a := Agent.init { setup.agentCfg a with outboundBufferMax := 0 } (setup.agentClock a)

/-- A payload that `SipFrame::decode` accepts. -/
def Fits (bytes : Bytes) : Prop := bytes.length ≤ kMaxPayload

instance (bytes : Bytes) : Decidable (Fits bytes) := inferInstanceAs (Decidable (_ ≤ _))

/-- Every payload that the step hands to the tunnel fits. -/
def Sized (s : System) (i : Input) : Prop :=
  match i.event with
  | .browserUpgrade openMeta  => s.cloud.bridge.tunnel.isSome → Fits openMeta
  | .browserData b bytes      => ∀ sid ∈ s.cloud.trace.issued[b]?, s.cloud.bridge.tunnel.isSome →
    sid ∈ s.cloud.bridge.browsers → Fits bytes
  | .browserClose b reason    => ∀ sid ∈ s.cloud.trace.issued[b]?, s.cloud.bridge.tunnel.isSome →
    sid ∈ s.cloud.bridge.browsers → Fits reason
  | .revoke payload           => s.cloud.bridge.tunnel.isSome → Fits payload
  | .cloudRead _              => i.cloudScript.Small
  | .agentTick _ _ notices    => ∀ x ∈ notices, Fits x.2
  | .asteriskData a r bytes   => ∀ sid ∈ (s.agents a).trace.opened[r]?,
    sid ∈ (s.agents a).demux.streams → Fits bytes
  | .asteriskEof a r reason   => ∀ sid ∈ (s.agents a).trace.opened[r]?,
    sid ∈ (s.agents a).demux.streams → Fits reason
  | .notify _ _ payload       => Fits payload
  | _                         => True

instance (s : System) (i : Input) : Decidable (s.Sized i) := by
  -- the stream ids are finitely many, but not to be enumerated
  letI {p : UInt32 → Prop} [DecidablePred p] (o : Option UInt32) : Decidable (∀ i ∈ o, p i) :=
    Option.decidableForallMem o
  unfold Sized
  cases i.event <;> infer_instance

def Input.isUpgrade (i : Input) : Bool :=
  match i.event with
  | .browserUpgrade _ => true
  | _                 => false

/-- The number of browser upgrades. -/
def upgrades (is : List Input) : ℕ := is.countP Input.isUpgrade

/-- Ids are issued by upgrades only. -/
lemma length_issued_step (s : System) (i : Input) :
    (s.step i).cloud.trace.issued.length ≤ s.cloud.trace.issued.length + i.isUpgrade.toNat := by
  obtain ⟨e, cloudScript, agentScript⟩ := i
  have hcloud := fun e => Cloud.length_issued_handle e (s.cloud.setScript cloudScript)
  cases e with
  | browserUpgrade openMeta => exact hcloud (.browserUpgrade openMeta)
  | browserData b bytes => exact hcloud (.browserData b bytes)
  | browserClose b reason => exact hcloud (.browserClose b reason)
  | revoke payload => exact hcloud (.revoke payload)
  | cloudTick => exact hcloud .tick
  | cloudAdvance seconds => exact hcloud (.advance seconds)
  | attach c =>
    simp only [step]
    split_ifs
    · exact hcloud (.agentConnected c)
    · exact Nat.le_add_right _ _
  | cloudRead n =>
    rcases hconn : s.cloud.endpoint.transport with _ | c
    · simp only [step, cloudRead, hconn]
      exact Nat.le_add_right _ _
    · simp only [step, cloudRead, hconn]
      exact hcloud (.bytesReceived (s.upward c n))
  | cloudEof => exact hcloud .agentDisconnected
  | agentRead a n =>
    rcases hconn : (s.agents a).connector.transport with _ | c <;>
      simp [step, agentRead, hconn, onAgent]
  | agentTick a dial notices => exact Nat.le_add_right _ _
  | transportLost a => exact Nat.le_add_right _ _
  | asteriskData a r bytes => exact Nat.le_add_right _ _
  | asteriskEof a r reason => exact Nat.le_add_right _ _
  | notify a notice payload => exact Nat.le_add_right _ _
  | wsPing a ok => exact Nat.le_add_right _ _
  | agentAdvance a seconds => exact Nat.le_add_right _ _

lemma upgrades_cons (i : Input) (is : List Input) :
    upgrades (i :: is) = upgrades is + i.isUpgrade.toNat := by
  cases hi : i.isUpgrade <;> simp [upgrades, hi]

lemma length_issued_run (s : System) (is : List Input) :
    (s.run is).cloud.trace.issued.length ≤ s.cloud.trace.issued.length + upgrades is := by
  induction is generalizing s with
  | nil => exact le_rfl
  | cons i is ih =>
    have hcount := upgrades_cons i is
    have hstep := length_issued_step s i
    have hrest := ih (s.step i)
    simp only [run, List.foldl_cons] at hrest ⊢
    omega

end System
