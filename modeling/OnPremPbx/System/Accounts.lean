import OnPremPbx.Framing.Turns
import OnPremPbx.System.Links

/-!
# Every frame is accounted for

Of the frames that one end hands to the tunnel, the other end hears some, each once and in the
order in which they were handed over. The others wait in the queue, or they were written to a
connection and not heard on it: as long as the connection is up these are on their way, and when it
is lost they are lost with it.
-/

open Framing SipFrame

namespace System

/-- What was heard on a connection of the agent at its other end, and of the cloud. -/
def heardDown (s : System) (c : ConnId) : List Frame := ofKey c (s.agents (s.owner c)).trace.heard
def heardUp (s : System) (c : ConnId) : List Frame := ofKey c s.cloud.trace.heard

/-- What was written to a connection and not heard. -/
def missedDown (s : System) (c : ConnId) : List Frame :=
  (s.cloud.outbound.on c).drop (s.heardDown c).length
def missedUp (s : System) (c : ConnId) : List Frame :=
  ((s.agents (s.owner c)).outbound.on c).drop (s.heardUp c).length

/-- The bytes of a connection that are on their way, or received and not yet decoded. -/
def undecodedDown (s : System) (c : ConnId) : Bytes :=
  (s.agents (s.owner c)).demux.recvBuffer ++ (s.cloud.outbound.wire codec c).drop (s.readDown c)
def undecodedUp (s : System) (c : ConnId) : Bytes :=
  s.cloud.bridge.recvBuffer ++
    ((s.agents (s.owner c)).outbound.wire codec c).drop (s.readUp c)

/-! ### Steps of the queues -/

lemma steps_cloud (s : System) (i : Input) :
    s.cloud.outbound.Steps (s.step i).cloud.outbound := by
  obtain h | ⟨e, h⟩ := step_cloud s i
  · rw [h]
    exact .refl _
  · rw [h]
    exact Cloud.steps_handle e (s.cloud.setScript i.cloudScript)

lemma steps_agent (s : System) (i : Input) (a : ℕ) :
    (s.agents a).outbound.Steps ((s.step i).agents a).outbound := by
  obtain h | ⟨e, script, h⟩ := step_agents s i a
  · rw [h]
    exact .refl _
  · rw [h]
    exact Agent.steps_handle e ((s.agents a).setScript script)

lemma steps_cloud_run (s : System) (is : List Input) :
    s.cloud.outbound.Steps (s.run is).cloud.outbound :=
  Transition.run_invariant (f := step) (P := fun t => s.cloud.outbound.Steps t.cloud.outbound)
    (fun t i h => h.trans (steps_cloud t i)) (.refl _) is

lemma steps_agent_run (s : System) (is : List Input) (a : ℕ) :
    (s.agents a).outbound.Steps ((s.run is).agents a).outbound :=
  Transition.run_invariant (f := step)
    (P := fun t => (s.agents a).outbound.Steps (t.agents a).outbound)
    (fun t i h => h.trans (steps_agent t i a)) (.refl _) is

/-- A queue that started empty and without a bound keeps all that is passed to it. -/
lemma passed_eq {o o' : Outbound ConnId Frame} (hsteps : o.Steps o') (ho : o.Wf)
    (hstart : o.used = [] ∧ o.conn = none ∧ o.writes = []) (hcap : o.cap = 0) :
    o'.passed.map Prod.fst = o'.used.flatMap o'.on ++ o'.queue := by
  have hturn : o.InTurn :=
    { nodup := by simp [hstart.1]
      last := by simp [hstart.2.1]
      accepted := by simp [hstart.1, hstart.2.2, acceptedOf] }
  have ho' := ho.steps hsteps
  have hkept : kept o'.passed = o'.passed.map Prod.fst := by
    have hall := ho'.kept_of_unbounded (hcap ▸ Outbound.cap_eq hsteps)
    rw [kept, List.filter_eq_self.mpr hall]
  rw [← hkept, (hturn.steps ho hsteps).kept_eq ho']

namespace Linked

variable {s : System}

lemma heardDown_append (hs : s.Linked) (c : ConnId) :
    s.heardDown c ++ s.missedDown c = s.cloud.outbound.on c :=
  List.prefix_iff_eq_append.mp (hs.heard_down (s.owner c) c)

lemma heardUp_append (hs : s.Linked) (c : ConnId) :
    s.heardUp c ++ s.missedUp c = (s.agents (s.owner c)).outbound.on c :=
  List.prefix_iff_eq_append.mp (hs.heard_up c)

/-- The cloud hears only on connections that an agent has set up. -/
lemma mem_dialed (hs : s.Linked) {x : ConnId × Frame} (hx : x ∈ s.cloud.trace.heard) :
    x.1 ∈ (s.agents (s.owner x.1)).trace.dialed := by
  by_contra hnot
  have hnil := (hs.agent (s.owner x.1)).wf.on_eq_nil hnot
  have hheard := hs.heard_up x.1
  rw [hnil, List.prefix_nil] at hheard
  have hmem : x.2 ∈ ofKey x.1 s.cloud.trace.heard := mem_ofKey.mpr hx
  rw [hheard] at hmem
  cases hmem

/-- An agent hears only on connections that it set up and that the cloud has attached. -/
lemma mem_attached (hs : s.Linked) {a : ℕ} {x : ConnId × Frame}
    (hx : x ∈ (s.agents a).trace.heard) : s.owner x.1 = a ∧ x.1 ∈ s.cloud.trace.attached := by
  refine ⟨hs.owner_eq ((hs.agent a).heard_used x.1 x.2 hx), ?_⟩
  by_contra hnot
  have hnil := hs.cloud.wf.on_eq_nil hnot
  have hheard := hs.heard_down a x.1
  rw [hnil, List.prefix_nil] at hheard
  have hmem : x.2 ∈ ofKey x.1 (s.agents a).trace.heard := mem_ofKey.mpr hx
  rw [hheard] at hmem
  cases hmem

lemma encode_missedUp (hs : s.Linked) {c : ConnId} (ha : (s.agents (s.owner c)).usable = some c)
    (hcloud : s.cloud.endpoint.transport = some c) :
    codec.encodeAll (s.missedUp c) = s.undecodedUp c :=
  (hs.link_up c hcloud).missed (hs.agent (s.owner c)).wf ha

lemma encode_missedDown (hs : s.Linked) {c : ConnId}
    (hcloud : s.cloud.endpoint.transport = some c)
    (ha : (s.agents (s.owner c)).connector.transport = some c) :
    codec.encodeAll (s.missedDown c) = s.undecodedDown c :=
  (hs.link_down (s.owner c) c ha).missed hs.cloud.wf hcloud

end Linked

/-- In every run whose payloads fit: the frames that an agent handed to the tunnel are those heard
and missed on its connections, one after the other, and those in its queue; and while a connection
is up, the missed ones are what is still to be read and decoded. So it is with the frames of the
cloud, and nothing else is heard. -/
theorem frames_accounted (setup : Setup) (is : List Input)
    (hsized : Transition.Along step Sized (init setup) is) :
    let s := (init setup).run is
    (∀ a, (s.agents a).trace.passed.map Prod.fst =
      ((s.agents a).trace.dialed.flatMap fun c => s.heardUp c ++ s.missedUp c) ++
        (s.agents a).connector.outbound) ∧
    (∀ c, (s.agents (s.owner c)).usable = some c → s.cloud.endpoint.transport = some c →
      codec.encodeAll (s.missedUp c) = s.undecodedUp c) ∧
    (∀ x ∈ s.cloud.trace.heard, x.1 ∈ (s.agents (s.owner x.1)).trace.dialed) ∧
    s.cloud.trace.passed.map Prod.fst =
      (s.cloud.trace.attached.flatMap fun c => s.heardDown c ++ s.missedDown c) ++
        s.cloud.endpoint.outbound ∧
    (∀ c, s.cloud.endpoint.transport = some c →
      (s.agents (s.owner c)).connector.transport = some c →
      codec.encodeAll (s.missedDown c) = s.undecodedDown c) ∧
    ∀ a, ∀ x ∈ (s.agents a).trace.heard, s.owner x.1 = a ∧ x.1 ∈ s.cloud.trace.attached := by
  intro s
  have hs : s.Linked := linked_run hsized
  refine ⟨fun a => ?_, fun c => hs.encode_missedUp, fun x => hs.mem_dialed, ?_,
    fun c => hs.encode_missedDown, fun a x => hs.mem_attached⟩
  · have hpassed := passed_eq (steps_agent_run (init setup) is a) (Agent.wf_init _ _)
      ⟨rfl, rfl, rfl⟩ rfl
    have hon : ∀ c ∈ (s.agents a).trace.dialed,
        s.heardUp c ++ s.missedUp c = (s.agents a).outbound.on c := fun c hc => by
      rw [hs.heardUp_append, hs.owner_eq hc]
    rw [List.flatMap_congr hon]
    exact hpassed
  · have hpassed := passed_eq (steps_cloud_run (init setup) is) (Cloud.wf_init _ _ _)
      ⟨rfl, rfl, rfl⟩ rfl
    rw [List.flatMap_congr fun c _ => hs.heardDown_append c]
    exact hpassed

/-- A notice is heard on the first connection, one is lost with it, the next agent connection takes
what waited for it, and the one after is on its way. -/
theorem frames_accounted_lost :
    let s := (init {}).run
      [{ event := .agentTick 0 true [(.agentHello, [1])] }, { event := .attach 0 },
        { event := .cloudRead 11 }, { event := .notify 0 .registerState [2] },
        { event := .transportLost 0 }, { event := .notify 0 .registerState [3] },
        { event := .agentTick 0 true [(.agentHello, [4])] }, { event := .attach 1 },
        { event := .cloudRead 11 }]
    s.cloud.trace.heard = [(0, Notice.agentHello.frame [1]), (1, Notice.registerState.frame [3])] ∧
      s.missedUp 0 = [Notice.registerState.frame [2]] ∧
      (s.agents 0).trace.passed.map Prod.fst =
        ((s.agents 0).trace.dialed.flatMap fun c => s.heardUp c ++ s.missedUp c) ++
          (s.agents 0).connector.outbound ∧
      codec.encodeAll (s.missedUp 1) = s.undecodedUp 1 := by
  intro s
  obtain ⟨hup, hway, -⟩ := frames_accounted {}
    [{ event := .agentTick 0 true [(.agentHello, [1])] }, { event := .attach 0 },
      { event := .cloudRead 11 }, { event := .notify 0 .registerState [2] },
      { event := .transportLost 0 }, { event := .notify 0 .registerState [3] },
      { event := .agentTick 0 true [(.agentHello, [4])] }, { event := .attach 1 },
      { event := .cloudRead 11 }] (by decide +kernel)
  exact ⟨by decide +kernel, by decide +kernel, hup 0, hway 1 (by decide +kernel) (by decide +kernel)⟩

end System
