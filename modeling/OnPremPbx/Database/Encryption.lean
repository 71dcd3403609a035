import OnPremPbx.Database.Correlation
import OnPremPbx.Database.Eviction

/-!
# Requests are encrypted

With certificate and key configured a request has to go out through the TLS session of its
connection. `dispatch` sends a plain frame whenever it finds no `m_innerTls`, which another thread
makes and resets while `m_connected` is already, or still, set.
-/

open Dbproto Transition

namespace WsDbServer

variable {s t : WsDbServer} {i : ℕ}

/-- A call that has found no `m_innerTls` sends only if nothing can be written. -/
def SendsClosed (s : WsDbServer) : ServerInput → Prop
  | .dispatch i _ => (s.call i).pc = .sendingRaw → s.writable = none
  | _ => True

instance (s : WsDbServer) (input : ServerInput) : Decidable (s.SendsClosed input) := by
  unfold SendsClosed
  split <;> infer_instance

/-- The TLS session may be established while the thread of `svc` is there. -/
def inTls : SvcPc → Bool
  | .readying | .looping | .receiving | .finding _ _ | .delivering _ _ | .cleanup .connected
  | .cleanup .ready | .cleanup .innerTls => true
  | _ => false

/-- The call has written its request. -/
def Wrote (s : WsDbServer) (i : ℕ) : Prop := ∃ w ∈ s.writes, w.call = i

/-- What is known of a call there: it waits only for what it has written, and returns an error if it
has written nothing. -/
def WroteAt (s : WsDbServer) (i : ℕ) : DispatchPc → Prop
  | .waiting | .waited _ => s.Wrote i
  | .returned bytes => s.Wrote i ∨ ∃ reqid errmsg, bytes = some (makeErrorResponse reqid errmsg)
  | _ => True

/-- A TLS session that is established is that of the connection which is served. -/
structure TlsAt (tls : Option InnerTls) (serving : Option Conn) (pc : SvcPc) : Prop where
  session : ∀ t ∈ tls, ∀ c ∈ t.established, serving = some c
  not_established : inTls pc = false → ∀ t ∈ tls, t.established = none
  peer : ∀ peer, pc = .accepting peer → peer = serving

structure Encrypted (s : WsDbServer) : Prop where
  tls : TlsAt s.innerTls s.serving s.svc
  writes : ∀ w ∈ s.writes, w.through = some w.on
  wrote : ∀ i < s.calls, s.WroteAt i (s.call i).pc

lemma encrypted_init (tls : Bool) : (init tls).Encrypted := by
  constructor
  · constructor
    · intro tls h
      cases h
    · intro _ tls h
      cases h
    · intro peer h
      cases h
  · intro w hw
    cases hw
  · intro i hi
    cases hi

/-! ### Calls -/

lemma WroteAt.mono (h : ∀ w ∈ s.writes, w ∈ t.writes) {pc : DispatchPc} (hw : s.WroteAt i pc) :
    t.WroteAt i pc := by
  have hwrote : s.Wrote i → t.Wrote i := by
    rintro ⟨w, hmem, hcall⟩
    exact ⟨w, h w hmem, hcall⟩
  cases pc with
  | waiting => exact hwrote hw
  | waited response => exact hwrote hw
  | returned bytes =>
    obtain hw | herror := hw
    · exact Or.inl (hwrote hw)
    · exact Or.inr herror
  | _ => trivial

/-- A call goes on without a write. -/
lemma Encrypted.of_goto (hs : s.Encrypted) {pc : DispatchPc} (pending : AList fun _ : ℤ => ℕ)
    {writes : List RequestWrite} (hmono : ∀ w ∈ s.writes, w ∈ writes)
    (hwrites : ∀ w ∈ writes, w ∈ s.writes ∨ w.through = some w.on)
    (hpc : { s.goto i pc with pending := pending, writes := writes }.WroteAt i pc) :
    { s.goto i pc with pending := pending, writes := writes }.Encrypted := by
  constructor
  · exact hs.tls
  · intro w hw
    obtain hold | hnew := hwrites w hw
    · exact hs.writes w hold
    · exact hnew
  · intro j hj
    by_cases hij : j = i
    · rw [hij]
      have hself : ((s.goto i pc).call i).pc = pc := pc_goto i pc s
      simp only [hself]
      exact hpc
    · have hother : (s.goto i pc).call j = s.call j := call_setCall_of_ne hij _ _
      simp only [hother]
      exact (hs.wrote j hj).mono hmono

/-- A call goes on without a write. -/
lemma encrypted_goto (hs : s.Encrypted) (pending : AList fun _ : ℤ => ℕ) {pc : DispatchPc}
    (hpc : s.WroteAt i pc) : { s.goto i pc with pending := pending }.Encrypted :=
  hs.of_goto pending (fun _ h => h) (fun _ h => Or.inl h) (hpc.mono fun _ h => h)

/-- A request is sent through the session of the connection. -/
lemma encrypted_send (hs : s.Encrypted) {through : Option Conn} {ok : Bool}
    (hthrough : ∀ on ∈ s.writable, through = some on) : (s.send i through ok).Encrypted := by
  rw [send]
  rcases hwritable : s.writable with _ | on
  · exact encrypted_goto hs s.pending trivial
  · have hmem : { call := i, on := on, through := through } ∈
        s.writes ++ [({ call := i, on := on, through := through } : RequestWrite)] :=
      List.mem_append_right _ (List.mem_singleton_self _)
    refine hs.of_goto s.pending (fun _ h => List.mem_append_left _ h) ?_ ?_
    · intro w hw
      obtain hw | hw := List.mem_append.mp hw
      · exact Or.inl hw
      · right
        rw [List.mem_singleton.mp hw]
        exact hthrough on hwritable
    · split_ifs
      · exact ⟨_, hmem, rfl⟩
      · trivial

lemma encrypted_dispatchStep (hserved : s.Served) (hs : s.Encrypted) (hi : i < s.calls) {ok : Bool}
    (hok : s.SendsClosed (.dispatch i ok)) : (s.dispatchStep i ok).Encrypted := by
  have hwrote := hs.wrote i hi
  cases hpc : (s.call i).pc with
  | entered =>
    simp only [dispatchStep, hpc]
    split_ifs
    · exact encrypted_goto hs s.pending trivial
    · exact encrypted_goto hs s.pending (Or.inr ⟨_, _, rfl⟩)
  | registering =>
    simp only [dispatchStep, hpc]
    split_ifs
    · exact encrypted_goto hs _ trivial
    · exact encrypted_goto hs s.pending (Or.inr ⟨_, _, rfl⟩)
  | testing =>
    simp only [dispatchStep, hpc]
    split_ifs <;> exact encrypted_goto hs s.pending trivial
  | loading =>
    simp only [dispatchStep, hpc]
    split_ifs <;> exact encrypted_goto hs s.pending trivial
  | sendingTls =>
    simp only [dispatchStep, hpc]
    rcases htls : s.innerTls with _ | tls
    · exact encrypted_goto hs s.pending trivial
    · rcases hestablished : tls.established with _ | c
      · simp only [hestablished, Option.isSome_none, Bool.false_eq_true, if_false]
        exact encrypted_goto hs s.pending trivial
      · simp only [hestablished, Option.isSome_some, if_true]
        apply encrypted_send hs
        intro on hon
        have hstream : s.agentStream = some on := by
          rw [writable] at hon
          split_ifs at hon
          · cases hon
          · exact hon
        rw [hserved.own c (hs.tls.session tls htls c hestablished) on hstream]
  | sendingRaw =>
    simp only [dispatchStep, hpc]
    apply encrypted_send hs
    intro on hon
    rw [hok hpc] at hon
    cases hon
  | notSent =>
    simp only [dispatchStep, hpc]
    exact encrypted_goto hs _ (Or.inr ⟨_, _, rfl⟩)
  | waiting =>
    rw [hpc] at hwrote
    simp only [dispatchStep, hpc]
    exact encrypted_goto hs s.pending hwrote
  | waited response =>
    rw [hpc] at hwrote
    simp only [dispatchStep, hpc]
    exact encrypted_goto hs _ (Or.inl hwrote)
  | returned bytes =>
    simp only [dispatchStep, hpc]
    exact hs
  | undefined =>
    simp only [dispatchStep, hpc]
    exact hs

lemma encrypted_enter (hs : s.Encrypted) (bson : Envelope) : (s.enter bson).Encrypted := by
  refine ⟨hs.tls, hs.writes, ?_⟩
  intro i hi
  obtain hlt | rfl := Nat.lt_succ_iff_lt_or_eq.mp hi
  · rw [call_enter_of_lt hlt]
    exact (hs.wrote i hlt).mono fun _ h => h
  · rw [call_enter_self]
    trivial

/-! ### The thread of `svc` -/

section

variable {tls : Option InnerTls} {serving : Option Conn} {pc : SvcPc}

/-- Nothing is established. -/
lemma TlsAt.of_not (h : ∀ t ∈ tls, t.established = none)
    (hpeer : ∀ peer, pc = .accepting peer → peer = serving) : TlsAt tls serving pc := by
  refine ⟨?_, fun _ => h, hpeer⟩
  intro t ht c hc
  rw [h t ht] at hc
  cases hc

/-- The session goes on. -/
lemma TlsAt.of_in (h : TlsAt tls serving pc) {pc' : SvcPc} (hin : inTls pc' = true) :
    TlsAt tls serving pc' := by
  refine ⟨h.session, ?_, ?_⟩
  · rw [hin]
    intro hnot
    cases hnot
  · rintro peer rfl
    cases hin

end

lemma innerTls_cleanupStore (pc : CleanupPc) :
    (s.cleanupStore pc).innerTls = s.innerTls ∨ (s.cleanupStore pc).innerTls = none := by
  cases pc with
  | innerTls => exact Or.inr rfl
  | _ => exact Or.inl rfl

lemma tls_svcStep (h : TlsAt s.innerTls s.serving s.svc) (hstep : SvcStep s t) :
    TlsAt t.innerTls t.serving t.svc := by
  have hnone : ∀ t ∈ (none : Option InnerTls), t.established = none := by
    intro t ht
    cases ht
  cases hstep with
  | idle => exact h
  | create hsvc =>
    apply TlsAt.of_not
    · intro t ht
      cases ht
      rfl
    · intro peer hp
      cases hp
  | begin hsvc hpc =>
    rw [hsvc] at h
    obtain rfl | rfl := hpc
    · exact TlsAt.of_not (h.not_established rfl) (fun _ hp => by cases hp)
    · exact TlsAt.of_not (h.not_established rfl) (fun _ hp => by cases hp)
  | handshake hsvc =>
    rw [hsvc] at h
    apply TlsAt.of_not (h.not_established rfl)
    intro peer hp
    cases hp
    rfl
  | establish hsvc =>
    rw [hsvc] at h
    constructor
    · intro t ht c hc
      cases ht
      exact (h.peer _ rfl).symm.trans hc
    · intro hin
      cases hin
    · intro p hp
      cases hp
  | reset => exact TlsAt.of_not hnone (fun _ hp => by cases hp)
  | ready | ignore | find | deliver => exact h.of_in rfl
  | loop hsvc hpc | read hsvc hpc | message hsvc hpc =>
    obtain rfl | rfl := hpc
    · exact h.of_in rfl
    · exact h.of_in rfl
  | failedStore pc hsvc =>
    rw [hsvc] at h
    apply TlsAt.of_not
    · obtain hstore | hstore := innerTls_cleanupStore (s := s) pc
      · rw [hstore]
        exact h.not_established rfl
      · rw [hstore]
        exact hnone
    · intro peer hp
      cases pc <;> cases hp
  | store pc hsvc =>
    cases pc with
    | connected => exact h.of_in rfl
    | ready => exact h.of_in rfl
    | innerTls => exact TlsAt.of_not hnone (fun _ hp => by cases hp)
    | stream =>
      rw [hsvc] at h
      exact TlsAt.of_not (h.not_established rfl) (fun _ hp => by cases hp)
    | handle =>
      rw [hsvc] at h
      exact TlsAt.of_not (h.not_established rfl) (fun _ hp => by cases hp)
  | wake hsvc | refuse hsvc | failAll hsvc | failed hsvc | fail hsvc =>
    rw [hsvc] at h
    exact TlsAt.of_not (h.not_established rfl) (fun _ hp => by cases hp)

lemma encrypted_svcStep (hs : s.Encrypted) (h : SvcStep s t) : t.Encrypted := by
  have hwrites := (h.frame 0).2.2
  refine ⟨tls_svcStep hs.tls h, ?_, ?_⟩
  · rw [hwrites]
    exact hs.writes
  · intro i hi
    obtain ⟨hpc, hcalls, -⟩ := h.frame i
    rw [hcalls] at hi
    rw [hpc]
    exact (hs.wrote i hi).mono (by rw [hwrites]; exact fun _ h => h)

/-- What has to hold of each step: no TLS session ends between a call's load of `m_innerTlsReady`
and its send, agents are accepted only while no session is in progress, and a call that has found no
`m_innerTls` sends only if nothing can be written. -/
def KeepsSecret (s : WsDbServer) (input : ServerInput) : Prop :=
  s.KeepsTls input ∧ s.AcceptsIdle input ∧ s.SendsClosed input

instance (s : WsDbServer) (input : ServerInput) : Decidable (s.KeepsSecret input) :=
  inferInstanceAs (Decidable (_ ∧ _ ∧ _))

lemma encrypted_step (hserved : s.Served) (hs : s.Encrypted) {input : ServerInput}
    (hok : s.SendsClosed input) : (s.step input).Encrypted := by
  cases input with
  | agentConnects =>
    rw [step, onAgentConnected]
    split_ifs <;> exact ⟨hs.tls, hs.writes, hs.wrote⟩
  | enter bson => exact encrypted_enter hs bson
  | dispatch i ok =>
    rw [step]
    split_ifs with hi
    · exact encrypted_dispatchStep hserved hs hi hok
    · exact hs
  | svc ok received => exact encrypted_svcStep hs (.of_svcStep ok received s)

/-- For every interleaving in which each step meets the condition: what is written of a request goes
through the TLS session that was established on the connection it is written to; and a call that has
written nothing returns an error, by its seventh step. -/
theorem requests_encrypted (is js : List ServerInput)
    (hok : Along step KeepsSecret (init true) (is ++ js)) :
    let s := (init true).run (is ++ js)
    (∀ w ∈ s.writes, w.through = some w.on) ∧
    ∀ i < ((init true).run is).calls, 7 ≤ js.countP (isStepOf i) → (∀ w ∈ s.writes, w.call ≠ i) →
      ∃ reqid errmsg, (s.call i).returned? = some (some (makeErrorResponse reqid errmsg)) := by
  intro s
  have hs : s.Served ∧ s.Encrypted := by
    apply hok.invariant (P := fun s => s.Served ∧ s.Encrypted)
    · rintro t input ⟨-, haccepts, hsends⟩ ⟨hserved, hencrypted⟩
      exact ⟨served_step hserved haccepts, encrypted_step hserved hencrypted hsends⟩
    · exact ⟨served_init true, encrypted_init true⟩
  refine ⟨hs.2.writes, ?_⟩
  intro i hi hsteps hnone
  obtain ⟨bytes, hreturned⟩ := returns_of_steps (hok.mono fun _ _ h => h.1) hi hsteps
  have hlt : i < s.calls := by
    have hrun : s = ((init true).run is).run js := List.foldl_append
    rw [hrun]
    exact calls_run hi js
  have hwrote := hs.2.wrote i hlt
  rw [pc_of_returned hreturned] at hwrote
  obtain ⟨w, hw, hcall⟩ | ⟨reqid, errmsg, rfl⟩ := hwrote
  · exact absurd hcall (hnone w hw)
  · exact ⟨reqid, errmsg, hreturned⟩

/-- A call while the handshake is not over, and one through the session. -/
def twoCalls : List ServerInput :=
  List.replicate 7 (.dispatch 0 true) ++ List.replicate 2 (.svc true .nothing) ++
    [.enter (some nextAwbnoRequest)] ++ List.replicate 5 (.dispatch 1 true)

theorem requests_encrypted_twoCalls :
    (∀ w ∈ ((init true).run ((.agentConnects :: List.replicate 3 (.svc true .nothing) ++
        [.enter (some nextAwbnoRequest)]) ++ twoCalls)).writes, w.through = some w.on) ∧
      ∃ reqid errmsg, (((init true).run ((.agentConnects :: List.replicate 3 (.svc true .nothing) ++
        [.enter (some nextAwbnoRequest)]) ++ twoCalls)).call 0).returned? =
          some (some (makeErrorResponse reqid errmsg)) := by
  have hok : Along step KeepsSecret (init true) ((.agentConnects ::
      List.replicate 3 (.svc true .nothing) ++ [.enter (some nextAwbnoRequest)]) ++ twoCalls) := by
    decide +kernel
  obtain ⟨hwrites, hreturns⟩ := requests_encrypted _ twoCalls hok
  exact ⟨hwrites, hreturns 0 (by decide +kernel) (by decide +kernel) (by decide +kernel)⟩

/-- A call comes after the agent is connected and before `m_innerTls` is made: its request goes out
in clear. -/
theorem request_in_clear :
    let s := (init true).run
      (.agentConnects :: .enter (some nextAwbnoRequest) :: List.replicate 4 (.dispatch 0 true))
    s.writes = [{ call := 0, on := 0, through := none }] ∧
      ¬ ∀ w ∈ s.writes, w.through = some w.on := by
  decide +kernel

end WsDbServer
