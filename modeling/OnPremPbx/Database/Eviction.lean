import OnPremPbx.Database.Server

/-!
# The session of an agent and its successor

`on_agent_connected` evicts an agent by a shutdown of its socket, and accepts the next one as soon
as `m_connected` is clear. The thread of `svc` may then still be in the session of the first, with
the stream of the second in `m_agentStream`.
-/

open Transition

/-- What the session did was to its own connection, if it was to one. -/
def SessionAct.Own (a : SessionAct) : Prop := a.on = none ∨ a.on = a.serving

instance (a : SessionAct) : Decidable a.Own := inferInstanceAs (Decidable (_ ∨ _))

namespace WsDbServer

variable {s t : WsDbServer}

/-- An agent is accepted only while no session is in progress. -/
def AcceptsIdle (s : WsDbServer) : ServerInput → Prop
  | .agentConnects => s.locked = false → s.connected = false → s.serving = none
  | _ => True

instance (s : WsDbServer) (input : ServerInput) : Decidable (s.AcceptsIdle input) := by
  unfold AcceptsIdle
  split <;> infer_instance

/-- The thread of `svc` is in a session: from the begin of a handshake, or a setup that failed, to
the last store of the cleanup. -/
def inSession : SvcPc → Bool
  | .waiting | .creating | .created | .failAll _ | .failing _ _ => false
  | _ => true

/-- The thread of `svc` has cleared `m_connected` and is still in the session. -/
def hasCleared : SvcPc → Bool
  | .cleanup pc | .setupFailed pc => pc ≠ .connected
  | _ => false

lemma hasCleared_of_inSession {pc : SvcPc} (h : inSession pc = false) : hasCleared pc = false := by
  cases pc with
  | setupFailed next => cases h
  | cleanup next => cases h
  | _ => rfl

structure Served (s : WsDbServer) : Prop where
  current : s.connected = true → s.agentStream.isSome ∧ s.agentHandle = s.agentStream
  own : ∀ c ∈ s.serving, ∀ d ∈ s.agentStream, d = c
  serving : s.serving.isSome = inSession s.svc
  open_stream : s.svc = .creating ∨ s.svc = .created → s.agentStream.isSome
  cleared : hasCleared s.svc = true → s.connected = false
  acts : ∀ a ∈ s.acts, SessionAct.Own a

lemma served_init (tls : Bool) : (init tls).Served := by
  constructor
  · intro h
    cases h
  · intro c hc
    cases hc
  · rfl
  · rintro (h | h) <;> cases h
  · intro h
    cases h
  · intro a ha
    cases ha

/-- The connection of the stream is that of the session. -/
lemma Served.stream_eq (hs : s.Served) (h : inSession s.svc = true) :
    s.agentStream = none ∨ s.agentStream = s.serving := by
  have hserving := hs.serving
  rw [h] at hserving
  obtain ⟨c, hc⟩ := Option.isSome_iff_exists.mp hserving
  rcases hstream : s.agentStream with _ | d
  · exact Or.inl rfl
  · right
    rw [hc, hs.own c hc d hstream]

/-- `m_connected` is raised for the connection of the session. -/
lemma Served.current_eq (hs : s.Served) (h : inSession s.svc = true) :
    (if s.connected then s.agentHandle else none) = none ∨
      (if s.connected then s.agentHandle else none) = s.serving := by
  split_ifs with hconnected
  · obtain ⟨hsome, hhandle⟩ := hs.current hconnected
    rw [hhandle]
    exact hs.stream_eq h
  · exact Or.inl rfl

/-- A step that leaves the agent alone. -/
lemma Served.of_same (hs : s.Served) (hconnected : t.connected = s.connected)
    (hhandle : t.agentHandle = s.agentHandle) (hstream : t.agentStream = s.agentStream)
    (hserving : t.serving = s.serving) (hsvc : inSession t.svc = inSession s.svc)
    (hopen : t.svc = .creating ∨ t.svc = .created → s.agentStream.isSome)
    (hcleared : hasCleared t.svc = true → s.connected = false)
    (hacts : ∀ a ∈ t.acts, a ∈ s.acts ∨ a.Own) : t.Served := by
  constructor
  · rw [hconnected, hhandle, hstream]
    exact hs.current
  · rw [hserving, hstream]
    exact hs.own
  · rw [hserving, hsvc]
    exact hs.serving
  · rw [hstream]
    exact hopen
  · rw [hconnected]
    exact hcleared
  · intro a ha
    obtain ha | ha := hacts a ha
    · exact hs.acts a ha
    · exact ha

/-- The session begins with the connection of the stream. -/
lemma Served.begin (hs : s.Served) (hstream : s.agentStream.isSome)
    (hconnected : t.connected = s.connected) (hhandle : t.agentHandle = s.agentHandle)
    (hstream' : t.agentStream = s.agentStream) (hserving : t.serving = s.agentStream)
    (hsvc : inSession t.svc = true) (hcleared : hasCleared t.svc = false)
    (hacts : t.acts = s.acts) : t.Served := by
  constructor
  · rw [hconnected, hhandle, hstream']
    exact hs.current
  · rw [hserving, hstream']
    intro c hc d hd
    exact Option.some.inj (hd.symm.trans hc)
  · rw [hserving, hsvc]
    exact hstream
  · rintro (h | h) <;> rw [h] at hsvc <;> cases hsvc
  · rw [hcleared]
    intro h
    cases h
  · rw [hacts]
    exact hs.acts

/-- An act of the session on the connection of the stream. -/
lemma own_act {kind : ActKind}
    {on : Option Conn} (hon : on = none ∨ on = s.serving) :
    ∀ a ∈ (s.act kind on).acts, a ∈ s.acts ∨ a.Own := by
  intro a ha
  obtain ha | ha := List.mem_append.mp ha
  · exact Or.inl ha
  · right
    rw [List.mem_singleton.mp ha]
    exact hon

lemma served_agentConnected (hs : s.Served) (hok : s.AcceptsIdle .agentConnects) :
    s.onAgentConnected.Served := by
  rw [onAgentConnected]
  split_ifs with hlocked hconnected
  · exact hs
  · constructor
    · intro h
      cases h
    · exact hs.own
    · exact hs.serving
    · exact hs.open_stream
    · intro _
      rfl
    · exact hs.acts
  · have hidle := hok (Bool.eq_false_iff.mpr hlocked) (Bool.eq_false_iff.mpr hconnected)
    have hout : inSession s.svc = false := by rw [← hs.serving, hidle]; rfl
    constructor
    · intro _
      exact ⟨rfl, rfl⟩
    · intro c hc
      rw [accept, hidle] at hc
      cases hc
    · exact hs.serving
    · intro _
      rfl
    · intro hcleared
      have hnot := hasCleared_of_inSession hout
      exact absurd hcleared (Bool.eq_false_iff.mp hnot)
    · exact hs.acts

/-- A store of the cleanup, or after a setup that failed. -/
lemma served_cleanupStore (hs : s.Served) (h : inSession s.svc = true) (pc : CleanupPc)
    (hcleared : pc ≠ .connected → s.connected = false) {svc : SvcPc}
    (hsvc : inSession svc = decide (pc ≠ .handle)) (hopen : svc ≠ .creating ∧ svc ≠ .created) :
    { s.cleanupStore pc with svc := svc }.Served := by
  have hno : ∀ p : Prop, svc = .creating ∨ svc = .created → p := by
    rintro p (hc | hc)
    · exact absurd hc hopen.1
    · exact absurd hc hopen.2
  have hserving := hs.serving
  rw [h] at hserving
  -- `m_connected` is clear after each of them
  have hclear : { s.cleanupStore pc with svc := svc }.connected = false := by
    cases pc with
    | connected => rfl
    | _ => exact hcleared (by decide)
  have hcurrent : ∀ p : Prop, { s.cleanupStore pc with svc := svc }.connected = true → p := by
    intro p hconnected
    rw [hclear] at hconnected
    cases hconnected
  have hacts : ∀ a ∈ { s.cleanupStore pc with svc := svc }.acts, a.Own := by
    have hown : ∀ a, a ∈ s.acts ∨ a.Own → a.Own := by
      rintro a (ha | ha)
      · exact hs.acts a ha
      · exact ha
    cases pc with
    | connected => exact fun a ha => hown a (own_act (hs.current_eq h) a ha)
    | stream => exact fun a ha => hown a (own_act (hs.stream_eq h) a ha)
    | _ => exact hs.acts
  cases pc with
  | connected => exact ⟨hcurrent _, hs.own, hserving.trans hsvc.symm, hno _, fun _ => hclear, hacts⟩
  | ready => exact ⟨hcurrent _, hs.own, hserving.trans hsvc.symm, hno _, fun _ => hclear, hacts⟩
  | innerTls => exact ⟨hcurrent _, hs.own, hserving.trans hsvc.symm, hno _, fun _ => hclear, hacts⟩
  | stream =>
    refine ⟨hcurrent _, ?_, hserving.trans hsvc.symm, hno _, fun _ => hclear, hacts⟩
    intro c _ d hd
    cases hd
  | handle =>
    refine ⟨hcurrent _, ?_, hsvc.symm, hno _, fun _ => hclear, hacts⟩
    intro c hc
    cases hc

/-- A step of the session itself. -/
lemma Served.in_session (hs : s.Served) (h : inSession s.svc = true) {t : WsDbServer}
    (hconnected : t.connected = s.connected) (hhandle : t.agentHandle = s.agentHandle)
    (hstream : t.agentStream = s.agentStream) (hserving : t.serving = s.serving)
    (hsvc : inSession t.svc = true) (hcleared : hasCleared t.svc = false)
    (hacts : ∀ a ∈ t.acts, a ∈ s.acts ∨ a.Own) : t.Served := by
  refine hs.of_same hconnected hhandle hstream hserving (hsvc.trans h.symm) ?_ ?_ hacts
  · rintro (hpc | hpc) <;> rw [hpc] at hsvc <;> cases hsvc
  · intro hpc
    rw [hcleared] at hpc
    cases hpc

lemma served_svcStep (hs : s.Served) (h : SvcStep s t) : t.Served := by
  have hkeep : ∀ a ∈ s.acts, a ∈ s.acts ∨ a.Own := fun _ ha => Or.inl ha
  -- while a session is in progress, what is read or closed is its own
  have hread : inSession s.svc = true →
      ∀ a ∈ (s.act .reads s.agentStream).acts, a ∈ s.acts ∨ a.Own :=
    fun hin => own_act (hs.stream_eq hin)
  cases h with
  | idle => exact hs
  | wake hsvc hconnected =>
    exact hs.of_same rfl rfl rfl rfl (by rw [hsvc]; rfl) (fun _ => (hs.current hconnected).1)
      (fun h => by cases h) hkeep
  | create hsvc =>
    exact hs.of_same rfl rfl rfl rfl (by rw [hsvc]; rfl) (fun _ => hs.open_stream (Or.inl hsvc))
      (fun h => by cases h) hkeep
  | begin hsvc hpc =>
    have hopen := hs.open_stream (Or.inl hsvc)
    obtain rfl | rfl := hpc
    · exact hs.begin hopen rfl rfl rfl rfl rfl rfl rfl
    · exact hs.begin hopen rfl rfl rfl rfl rfl rfl rfl
  | handshake hsvc => exact hs.begin (hs.open_stream (Or.inr hsvc)) rfl rfl rfl rfl rfl rfl rfl
  | establish hsvc | refuse hsvc =>
    have hin : inSession s.svc = true := by rw [hsvc]; rfl
    exact hs.in_session hin rfl rfl rfl rfl rfl rfl (hread hin)
  | reset hsvc | ready hsvc | ignore hsvc | find hsvc | deliver hsvc =>
    have hin : inSession s.svc = true := by rw [hsvc]; rfl
    exact hs.in_session hin rfl rfl rfl rfl rfl rfl hkeep
  | loop hsvc hpc =>
    have hin : inSession s.svc = true := by rw [hsvc]; rfl
    obtain rfl | rfl := hpc
    · exact hs.in_session hin rfl rfl rfl rfl rfl rfl hkeep
    · exact hs.in_session hin rfl rfl rfl rfl rfl rfl hkeep
  | read hsvc hpc | message hsvc hpc =>
    have hin : inSession s.svc = true := by rw [hsvc]; rfl
    obtain rfl | rfl := hpc
    · exact hs.in_session hin rfl rfl rfl rfl rfl rfl (hread hin)
    · exact hs.in_session hin rfl rfl rfl rfl rfl rfl (hread hin)
  | failedStore pc hsvc | store pc hsvc =>
    have hin : inSession s.svc = true := by rw [hsvc]; rfl
    apply served_cleanupStore hs hin pc
    · intro hpc
      exact hs.cleared (by rw [hsvc]; exact decide_eq_true hpc)
    · cases pc <;> rfl
    · cases pc <;> exact ⟨by decide, by decide⟩
  | failAll hsvc | failed hsvc | fail hsvc =>
    exact hs.of_same rfl rfl rfl rfl (by rw [hsvc]; rfl)
      (fun h => by rcases h with h | h <;> cases h) (fun h => by cases h) hkeep

lemma served_step (hs : s.Served) {input : ServerInput} (hok : s.AcceptsIdle input) :
    (s.step input).Served := by
  cases input with
  | agentConnects => exact served_agentConnected hs hok
  | enter bson => exact ⟨hs.current, hs.own, hs.serving, hs.open_stream, hs.cleared, hs.acts⟩
  | dispatch i ok =>
    rw [step]
    split_ifs
    · obtain ⟨pc, pending, writes, heq⟩ := dispatchStep_eq i ok s
      rw [heq]
      exact ⟨hs.current, hs.own, hs.serving, hs.open_stream, hs.cleared, hs.acts⟩
    · exact hs
  | svc ok received => exact served_svcStep hs (.of_svcStep ok received s)

/-- For every interleaving in which agents are accepted only while no session is in progress: a
session reads and closes no connection but its own, and clears `m_connected` for no other. -/
theorem session_keeps_to_its_agent (tls : Bool) (is : List ServerInput)
    (hok : Along step AcceptsIdle (init tls) is) :
    ∀ a ∈ ((init tls).run is).acts, a.Own :=
  (hok.invariant (P := Served) (fun _ _ hi h => served_step h hi) (served_init tls)).acts

/-- An agent is evicted, its session ends, and another agent comes. -/
theorem session_keeps_to_its_agent_evicted :
    let s := (init true).run (established ++ [.agentConnects] ++
      List.replicate 8 (.svc true .failed) ++ [.agentConnects])
    s.connected = true ∧ s.acts ≠ [] ∧ ∀ a ∈ s.acts, a.Own :=
  ⟨by decide +kernel, by decide +kernel, session_keeps_to_its_agent true _ (by decide +kernel)⟩

/-- An agent is evicted and another one comes while the session of the first still waits for a
frame: the end of the session closes the connection of the other, and clears `m_connected`. -/
theorem successor_closed :
    let s := (init true).run (established ++ .svc true .nothing ::
      [.agentConnects, .agentConnects] ++ List.replicate 6 (.svc true .failed))
    ¬ (∀ a ∈ s.acts, a.Own) ∧ { kind := .clears, serving := some 0, on := some 2 } ∈ s.acts ∧
      { kind := .closes, serving := some 0, on := some 2 } ∈ s.acts ∧
      s.connected = false ∧ s.agentStream = none := by
  decide +kernel

end WsDbServer
