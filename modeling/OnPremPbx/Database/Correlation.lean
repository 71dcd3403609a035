import OnPremPbx.Database.Server

/-!
# Responses find their callers

A call of `dispatch` waits in a cell that `m_pending` has under the reqid of the request; a response
is put in the cell that is found under its own reqid. Every interleaving of the threads keeps the
cells apart. What a call can run into is the end of the session between its load of
`m_innerTlsReady` and its `m_innerTls->send`, which then goes through a null pointer.
-/

open Dbproto Transition

namespace WsDbServer

variable {s t : WsDbServer} {i : ℕ}

/-! ### Calls -/

/-- The call has its entry in `m_pending` until something takes it out. -/
def Registered : DispatchPc → Prop
  | .entered | .registering | .returned _ => False
  | _ => True

/-- The bytes are a response of the agent with the reqid of the call, or an error for it. -/
def Answers (s : WsDbServer) (i : ℕ) (bytes : Envelope) : Prop :=
  bytes ∈ s.received ∧ (parseResponse bytes).2.reqid = (s.call i).reqid ∨
    ∃ errmsg, bytes = some (makeErrorResponse (s.call i).reqid errmsg)

/-- What the call has in hand, at this point, is its own. -/
def Holds (s : WsDbServer) (i : ℕ) : DispatchPc → Prop
  | .waited (some bytes) => s.Answers i bytes
  | .returned bytes      => (parseRequest (s.call i).bson).1 = true → s.Answers i bytes
  | _                    => True

/-- What the thread of `svc` has in hand is for the call that it is put in the cell of. -/
def Carries (s : WsDbServer) : SvcPc → Prop
  | .finding reqid bytes => bytes ∈ s.received ∧ (parseResponse bytes).2.reqid = reqid
  | .delivering i bytes  => i < s.calls ∧ s.Answers i bytes
  | .failing _ rest      => ∀ e ∈ rest, e.2 < s.calls ∧ (s.call e.2).reqid = e.1
  | _                    => True

structure Correlated (s : WsDbServer) : Prop where
  pending : ∀ reqid i, s.pending.lookup reqid = some i →
    i < s.calls ∧ (s.call i).reqid = reqid ∧ Registered (s.call i).pc
  cell : ∀ i < s.calls, (s.call i).cell.ready = true → s.Answers i (s.call i).cell.response
  holds : ∀ i < s.calls, s.Holds i (s.call i).pc
  carries : s.Carries s.svc

lemma correlated_init (tls : Bool) : (init tls).Correlated := by
  constructor
  · intro reqid i h
    cases h
  · intro i hi
    cases hi
  · intro i hi
    cases hi
  · trivial

/-! ### Nothing is taken back -/

/-- The requests of the calls and what was received are still there. -/
structure Extends (s t : WsDbServer) : Prop where
  calls : s.calls ≤ t.calls
  bson : ∀ i < s.calls, (t.call i).bson = (s.call i).bson
  received : ∀ bytes ∈ s.received, bytes ∈ t.received

lemma Extends.reqid (h : Extends s t) (hi : i < s.calls) : (t.call i).reqid = (s.call i).reqid := by
  rw [DispatchCall.reqid, h.bson i hi]
  rfl

lemma Extends.answers (h : Extends s t) (hi : i < s.calls) {bytes : Envelope}
    (ha : s.Answers i bytes) : t.Answers i bytes := by
  rw [Answers, h.reqid hi]
  obtain ⟨hmem, hreqid⟩ | herror := ha
  · exact Or.inl ⟨h.received bytes hmem, hreqid⟩
  · exact Or.inr herror

lemma Extends.holds (h : Extends s t) (hi : i < s.calls) {pc : DispatchPc} (hh : s.Holds i pc) :
    t.Holds i pc := by
  cases pc with
  | waited response =>
    cases response with
    | none => trivial
    | some bytes => exact h.answers hi hh
  | returned bytes =>
    intro hparse
    rw [h.bson i hi] at hparse
    exact h.answers hi (hh hparse)
  | _ => trivial

lemma Extends.carries (h : Extends s t) {pc : SvcPc} (hc : s.Carries pc) : t.Carries pc := by
  cases pc with
  | finding reqid bytes => exact ⟨h.received bytes hc.1, hc.2⟩
  | delivering i bytes => exact ⟨hc.1.trans_le h.calls, h.answers hc.1 hc.2⟩
  | failing reason rest =>
    intro e he
    obtain ⟨hlt, hreqid⟩ := hc e he
    exact ⟨hlt.trans_le h.calls, (h.reqid hlt).trans hreqid⟩
  | _ => trivial

/-- A step that leaves the calls alone, and `m_pending` or what it takes out of it. -/
lemma Correlated.of_same (hs : s.Correlated) (hcall : t.call = s.call) (hcalls : t.calls = s.calls)
    (hreceived : ∀ bytes ∈ s.received, bytes ∈ t.received)
    (hpending : ∀ reqid i, t.pending.lookup reqid = some i → s.pending.lookup reqid = some i)
    (hcarries : t.Carries t.svc) : t.Correlated := by
  have hext : Extends s t := ⟨hcalls.ge, by intro i _; rw [hcall], hreceived⟩
  constructor
  · intro reqid i hlookup
    rw [hcalls, hcall]
    exact hs.pending reqid i (hpending reqid i hlookup)
  · intro i hi hready
    rw [hcalls] at hi
    rw [hcall] at hready ⊢
    exact hext.answers hi (hs.cell i hi hready)
  · intro i hi
    rw [hcalls] at hi
    rw [hcall]
    exact hext.holds hi (hs.holds i hi)
  · exact hcarries

/-! ### Steps -/

lemma correlated_enter (hs : s.Correlated) (bson : Envelope) : (s.enter bson).Correlated := by
  have hcall : ∀ i < s.calls, (s.enter bson).call i = s.call i := fun i hi =>
    call_enter_of_lt hi bson
  have hext : Extends s (s.enter bson) :=
    ⟨Nat.le_succ _, by intro i hi; rw [hcall i hi], fun _ h => h⟩
  have hnew := call_enter_self bson s
  constructor
  · intro reqid i hlookup
    obtain ⟨hlt, hreqid, hregistered⟩ := hs.pending reqid i hlookup
    rw [hcall i hlt]
    exact ⟨hlt.trans (Nat.lt_succ_self _), hreqid, hregistered⟩
  · intro i hi hready
    obtain hlt | rfl := Nat.lt_succ_iff_lt_or_eq.mp hi
    · rw [hcall i hlt] at hready ⊢
      exact hext.answers hlt (hs.cell i hlt hready)
    · rw [hnew] at hready
      cases hready
  · intro i hi
    obtain hlt | rfl := Nat.lt_succ_iff_lt_or_eq.mp hi
    · rw [hcall i hlt]
      exact hext.holds hlt (hs.holds i hlt)
    · rw [hnew]
      trivial
  · exact hext.carries hs.carries

lemma extends_setCall {f : DispatchCall → DispatchCall} (hf : ∀ c, (f c).bson = c.bson) :
    Extends s (s.setCall i f) := by
  refine ⟨le_rfl, ?_, fun _ h => h⟩
  intro j _
  by_cases hij : j = i
  · rw [hij, call_setCall_self, hf]
  · rw [call_setCall_of_ne hij]

/-- Something is put in the cell of a call. -/
lemma correlated_put (hs : s.Correlated) {cell : PendingRequest} {svc : SvcPc}
    (hcell : i < s.calls → cell.ready = true → s.Answers i cell.response)
    (hcarries : s.Carries svc) : { s.put i cell with svc := svc }.Correlated := by
  have hext : Extends s (s.put i cell) := extends_setCall fun _ => rfl
  have hext' : Extends s { s.put i cell with svc := svc } := ⟨hext.1, hext.2, hext.3⟩
  have hself : (s.put i cell).call i = { s.call i with cell := cell } := call_setCall_self _ _ _
  have hother : ∀ j, j ≠ i → (s.put i cell).call j = s.call j := by
    intro j hij
    exact call_setCall_of_ne hij _ _
  constructor
  · intro reqid j hlookup
    obtain ⟨hlt, hreqid, hregistered⟩ := hs.pending reqid j hlookup
    refine ⟨hlt, (hext.reqid hlt).trans hreqid, ?_⟩
    by_cases hij : j = i
    · rw [hij] at hregistered ⊢
      simp only [hself]
      exact hregistered
    · simp only [hother j hij]
      exact hregistered
  · intro j hj hready
    apply hext'.answers hj
    by_cases hij : j = i
    · rw [hij] at hj hready ⊢
      simp only [hself] at hready ⊢
      exact hcell hj hready
    · simp only [hother j hij] at hready ⊢
      exact hs.cell j hj hready
  · intro j hj
    apply hext'.holds hj
    by_cases hij : j = i
    · rw [hij] at hj ⊢
      simp only [hself]
      exact hs.holds i hj
    · simp only [hother j hij]
      exact hs.holds j hj
  · exact hext'.carries hcarries

/-- A call goes on, and `m_pending` changes for it alone. -/
lemma Correlated.of_goto (hs : s.Correlated) {pc : DispatchPc} {t : WsDbServer}
    (hcall : t.call = (s.goto i pc).call) (hcalls : t.calls = s.calls)
    (hreceived : t.received = s.received) (hsvc : t.svc = s.svc)
    (hpending : ∀ reqid j, t.pending.lookup reqid = some j →
      (j ≠ i → s.pending.lookup reqid = some j) ∧
        (j = i → i < s.calls ∧ (s.call i).reqid = reqid ∧ Registered pc))
    (hholds : s.Holds i pc) : t.Correlated := by
  have hext : Extends s (s.goto i pc) := extends_setCall fun _ => rfl
  have hext' : Extends s t :=
    ⟨hcalls.ge, by intro j hj; rw [hcall]; exact hext.bson j hj,
      by rw [hreceived]; exact fun _ h => h⟩
  have hself : t.call i = { s.call i with pc := pc } := by
    rw [hcall]
    exact call_setCall_self _ _ _
  have hother : ∀ j, j ≠ i → t.call j = s.call j := by
    intro j hij
    rw [hcall]
    exact call_setCall_of_ne hij _ _
  constructor
  · intro reqid j hlookup
    obtain ⟨hne, heq⟩ := hpending reqid j hlookup
    by_cases hij : j = i
    · obtain ⟨hlt, hreqid, hregistered⟩ := heq hij
      rw [hij, hself, hcalls]
      exact ⟨hlt, hreqid, hregistered⟩
    · rw [hother j hij, hcalls]
      exact hs.pending reqid j (hne hij)
  · intro j hj hready
    rw [hcalls] at hj
    apply hext'.answers hj
    by_cases hij : j = i
    · rw [hij] at hj hready ⊢
      rw [hself] at hready ⊢
      exact hs.cell i hj hready
    · rw [hother j hij] at hready ⊢
      exact hs.cell j hj hready
  · intro j hj
    rw [hcalls] at hj
    apply hext'.holds hj
    by_cases hij : j = i
    · rw [hij, hself]
      exact hholds
    · rw [hother j hij]
      exact hs.holds j hj
  · rw [hsvc]
    exact hext'.carries hs.carries

lemma correlated_goto (hs : s.Correlated) {pc : DispatchPc}
    (hregistered : Registered (s.call i).pc → Registered pc) (hholds : s.Holds i pc) :
    (s.goto i pc).Correlated := by
  apply hs.of_goto rfl rfl rfl rfl _ hholds
  intro reqid j hlookup
  refine ⟨fun _ => hlookup, ?_⟩
  rintro rfl
  obtain ⟨hlt, hreqid, hold⟩ := hs.pending reqid j hlookup
  exact ⟨hlt, hreqid, hregistered hold⟩

lemma correlated_register (hs : s.Correlated) (hi : i < s.calls) {pc : DispatchPc}
    (hregistered : Registered pc) (hholds : s.Holds i pc) :
    ((s.register i).goto i pc).Correlated := by
  apply hs.of_goto (t := (s.register i).goto i pc) rfl rfl rfl rfl _ hholds
  intro reqid j hlookup
  replace hlookup : (s.pending.insert (s.call i).reqid i).lookup reqid = some j := hlookup
  by_cases hreqid : reqid = (s.call i).reqid
  · rw [hreqid, AList.lookup_insert] at hlookup
    cases hlookup
    exact ⟨fun h => absurd rfl h, fun _ => ⟨hi, hreqid.symm, hregistered⟩⟩
  · rw [AList.lookup_insert_ne hreqid] at hlookup
    refine ⟨fun _ => hlookup, ?_⟩
    rintro rfl
    exact absurd (hs.pending reqid j hlookup).2.1.symm hreqid

lemma correlated_unregister (hs : s.Correlated) {pc : DispatchPc} (hholds : s.Holds i pc) :
    ((s.unregister i).goto i pc).Correlated := by
  apply hs.of_goto (t := (s.unregister i).goto i pc) rfl rfl rfl rfl _ hholds
  intro reqid j hlookup
  replace hlookup : (s.pending.erase (s.call i).reqid).lookup reqid = some j := hlookup
  by_cases hreqid : reqid = (s.call i).reqid
  · rw [hreqid, AList.lookup_erase] at hlookup
    cases hlookup
  · rw [AList.lookup_erase_ne hreqid] at hlookup
    refine ⟨fun _ => hlookup, ?_⟩
    rintro rfl
    exact absurd (hs.pending reqid j hlookup).2.1.symm hreqid

lemma correlated_write (hs : s.Correlated) (w : RequestWrite) : (s.write w).Correlated :=
  hs.of_same rfl rfl (fun _ h => h) (fun _ _ h => h) hs.carries

lemma correlated_send (hs : s.Correlated) (through : Option Conn) (ok : Bool) :
    (s.send i through ok).Correlated := by
  rw [send]
  split
  · exact correlated_goto hs (fun _ => trivial) trivial
  · apply correlated_goto (correlated_write hs _)
    · intro _
      split_ifs <;> trivial
    · split_ifs <;> trivial

lemma answers_error (errmsg : String) :
    s.Answers i (some (makeErrorResponse (s.call i).reqid errmsg)) := Or.inr ⟨errmsg, rfl⟩

/-- The next step of a call. -/
lemma correlated_dispatchStep (hs : s.Correlated) (hi : i < s.calls) (ok : Bool) :
    (s.dispatchStep i ok).Correlated := by
  cases hpc : (s.call i).pc with
  | entered =>
    simp only [dispatchStep, hpc]
    split_ifs
    · exact correlated_goto hs (by rw [hpc]; exact id) trivial
    · exact correlated_goto hs (by rw [hpc]; exact id) (fun _ => answers_error _)
  | registering =>
    simp only [dispatchStep, hpc]
    split_ifs with hparse
    · exact correlated_register hs hi trivial trivial
    · exact correlated_goto hs (by rw [hpc]; exact id) (fun h => absurd h hparse)
  | testing =>
    simp only [dispatchStep, hpc]
    split_ifs <;> exact correlated_goto hs (fun _ => trivial) trivial
  | loading =>
    simp only [dispatchStep, hpc]
    split_ifs <;> exact correlated_goto hs (fun _ => trivial) trivial
  | sendingTls =>
    simp only [dispatchStep, hpc]
    split
    · exact correlated_goto hs (fun _ => trivial) trivial
    · split_ifs
      · exact correlated_send hs _ ok
      · exact correlated_goto hs (fun _ => trivial) trivial
  | sendingRaw =>
    simp only [dispatchStep, hpc]
    exact correlated_send hs _ ok
  | notSent =>
    simp only [dispatchStep, hpc]
    exact correlated_unregister hs (fun _ => answers_error _)
  | waiting =>
    simp only [dispatchStep, hpc]
    split_ifs with hready
    · exact correlated_goto hs (fun _ => trivial) (hs.cell i hi hready)
    · exact correlated_goto hs (fun _ => trivial) trivial
  | waited response =>
    simp only [dispatchStep, hpc]
    apply correlated_unregister hs
    intro _
    cases response with
    | none => exact answers_error _
    | some bytes =>
      have hholds := hs.holds i hi
      rw [hpc] at hholds
      exact hholds
  | returned bytes =>
    simp only [dispatchStep, hpc]
    exact hs
  | undefined =>
    simp only [dispatchStep, hpc]
    exact hs

lemma correlated_agentConnected (hs : s.Correlated) : s.onAgentConnected.Correlated := by
  rw [onAgentConnected]
  split_ifs
  · exact hs
  · exact hs.of_same rfl rfl (fun _ h => h) (fun _ _ h => h) hs.carries
  · exact hs.of_same rfl rfl (fun _ h => h) (fun _ _ h => h) hs.carries

lemma cleanupStore_frame (s : WsDbServer) (pc : CleanupPc) :
    (s.cleanupStore pc).call = s.call ∧ (s.cleanupStore pc).calls = s.calls ∧
      (s.cleanupStore pc).received = s.received ∧ (s.cleanupStore pc).pending = s.pending := by
  cases pc <;> exact ⟨rfl, rfl, rfl, rfl⟩

lemma correlated_cleanupStore (hs : s.Correlated) (pc : CleanupPc) {svc : SvcPc}
    (hcarries : ∀ t : WsDbServer, t.Carries svc) :
    { s.cleanupStore pc with svc := svc }.Correlated := by
  obtain ⟨hcall, hcalls, hreceived, hpending⟩ := cleanupStore_frame s pc
  refine hs.of_same (t := { s.cleanupStore pc with svc := svc }) hcall hcalls ?_ ?_ (hcarries _)
  · intro bytes h
    rw [hreceived]
    exact h
  · intro reqid j h
    rw [hpending] at h
    exact h

/-- The next step of the thread of `svc`. -/
lemma correlated_svcStep (hs : s.Correlated) (h : SvcStep s t) : t.Correlated := by
  have hcarries := hs.carries
  have hsame : ∀ t : WsDbServer, t.call = s.call → t.calls = s.calls → t.received = s.received →
      t.pending = s.pending → t.Carries t.svc → t.Correlated := by
    intro t hcall hcalls hreceived hpending
    exact hs.of_same hcall hcalls (by rw [hreceived]; exact fun _ h => h)
      (by rw [hpending]; exact fun _ _ h => h)
  cases h with
  | idle => exact hs
  | begin hsvc hpc | loop hsvc hpc | read hsvc hpc =>
    obtain rfl | rfl := hpc
    · exact hsame _ rfl rfl rfl rfl trivial
    · exact hsame _ rfl rfl rfl rfl trivial
  | message hsvc hpc =>
    refine hs.of_same rfl rfl (fun _ h => List.mem_append_left _ h) (fun _ _ h => h) ?_
    obtain rfl | rfl := hpc
    · trivial
    · exact ⟨List.mem_append_right _ (List.mem_singleton_self _), rfl⟩
  | find hsvc hlookup =>
    rw [hsvc] at hcarries
    obtain ⟨hlt, hreqid, -⟩ := hs.pending _ _ hlookup
    refine hsame _ rfl rfl rfl rfl ?_
    exact ⟨hlt, Or.inl ⟨hcarries.1, hcarries.2.trans hreqid.symm⟩⟩
  | deliver hsvc =>
    rw [hsvc] at hcarries
    exact correlated_put hs (fun _ _ => hcarries.2) trivial
  | failedStore pc => exact correlated_cleanupStore hs pc (by cases pc <;> exact fun _ => trivial)
  | store pc => exact correlated_cleanupStore hs pc (by cases pc <;> exact fun _ => trivial)
  | failAll hsvc =>
    refine hs.of_same rfl rfl (fun _ h => h) ?_ ?_
    · intro reqid i h
      cases h
    · intro e he
      obtain ⟨entry, hmem, rfl⟩ := List.mem_map.mp he
      obtain ⟨hlt, hreqid, -⟩ := hs.pending entry.1 entry.2 (AList.mem_lookup_iff.mpr hmem)
      exact ⟨hlt, hreqid⟩
  | fail hsvc =>
    rw [hsvc] at hcarries
    obtain ⟨-, hreqid⟩ := hcarries _ List.mem_cons_self
    dsimp only at hreqid
    apply correlated_put hs
    · intro _ _
      rw [← hreqid]
      exact answers_error _
    · intro e' he'
      exact hcarries e' (List.mem_cons_of_mem _ he')
  -- the other steps touch nothing that the calls depend on
  | _ => exact hsame _ rfl rfl rfl rfl trivial

lemma correlated_step (hs : s.Correlated) (input : ServerInput) : (s.step input).Correlated := by
  cases input with
  | agentConnects => exact correlated_agentConnected hs
  | enter bson => exact correlated_enter hs bson
  | dispatch i ok =>
    rw [step]
    split_ifs with hi
    · exact correlated_dispatchStep hs hi ok
    · exact hs
  | svc ok received => exact correlated_svcStep hs (.of_svcStep ok received s)

/-! ### Every call returns -/

/-- The next step of the thread of `svc` is `m_innerTls.reset()`. -/
def resetsTls (s : WsDbServer) : Bool :=
  match s.svc with
  | .cleanup .innerTls | .setupFailed .innerTls | .acceptFailed => true
  | _ => false

/-- The TLS session does not end between the load of `m_innerTlsReady` and the send of a call. -/
def KeepsTls (s : WsDbServer) : ServerInput → Prop
  | .svc _ _ => s.resetsTls = true → ∀ i < s.calls, (s.call i).pc ≠ .sendingTls
  | _ => True

instance (s : WsDbServer) (input : ServerInput) : Decidable (s.KeepsTls input) := by
  unfold KeepsTls
  split <;> infer_instance

/-- What is known of `m_innerTlsReady` while the thread of `svc` is there. -/
def ReadyAt (s : WsDbServer) : SvcPc → Prop
  | .readying => s.innerTls.isSome
  | .looping | .receiving | .finding _ _ | .delivering _ _ | .cleanup .connected
  | .cleanup .ready =>
    s.innerTlsReady = true → s.innerTls.isSome
  | _ => s.innerTlsReady = false

structure Live (s : WsDbServer) : Prop where
  ready : s.ReadyAt s.svc
  sending : ∀ i < s.calls, (s.call i).pc = .sendingTls → s.innerTls.isSome
  defined : ∀ i < s.calls, (s.call i).pc ≠ .undefined

lemma live_init (tls : Bool) : (init tls).Live := by
  constructor
  · rfl
  · intro i hi
    cases hi
  · intro i hi
    cases hi

lemma Live.isSome_of_ready (hs : s.Live) (h : s.innerTlsReady = true) : s.innerTls.isSome := by
  have hready := hs.ready
  revert hready
  cases s.svc with
  | readying => exact id
  | cleanup next => cases next <;> simp [ReadyAt, h]
  | _ => simp [ReadyAt, h]

/-- The steps that a call still has to take. -/
def rank : DispatchPc → ℕ
  | .entered     => 7
  | .registering => 6
  | .testing     => 5
  | .loading     => 4
  | .sendingTls  => 3
  | .sendingRaw  => 3
  | .notSent     => 1
  | .waiting     => 2
  | .waited _    => 1
  | .returned _  => 0
  | .undefined   => 0

/-- Where the next step takes a call. -/
lemma pc_dispatchStep (s : WsDbServer) (i : ℕ) (ok : Bool) :
    (((s.dispatchStep i ok).call i).pc = .sendingTls → s.innerTlsReady = true) ∧
      (((s.dispatchStep i ok).call i).pc = .undefined →
        (s.call i).pc = .undefined ∨ (s.call i).pc = .sendingTls ∧ s.innerTls = none) ∧
      rank ((s.dispatchStep i ok).call i).pc ≤ rank (s.call i).pc - 1 := by
  have hsend : ∀ through, ((s.send i through ok).call i).pc = .notSent ∨
      ((s.send i through ok).call i).pc = .waiting := by
    intro through
    rw [send]
    split
    · exact Or.inl (pc_goto i _ s)
    · rw [pc_goto]
      split_ifs
      · exact Or.inr rfl
      · exact Or.inl rfl
  cases hpc : (s.call i).pc with
  | entered =>
    simp only [dispatchStep, hpc]
    split_ifs <;> simp [rank]
  | registering =>
    simp only [dispatchStep, hpc]
    split_ifs <;> simp [rank]
  | testing =>
    simp only [dispatchStep, hpc, pc_goto]
    split_ifs <;> simp [rank]
  | loading =>
    simp only [dispatchStep, hpc, pc_goto]
    split_ifs with hready <;> simp [rank, hready]
  | sendingTls =>
    simp only [dispatchStep, hpc]
    split
    · simp_all [rank]
    · split_ifs
      · obtain h | h := hsend _ <;> rw [h] <;> simp [rank]
      · simp [rank]
  | sendingRaw =>
    simp only [dispatchStep, hpc]
    obtain h | h := hsend none <;> rw [h] <;> simp [rank]
  | _ => simp [dispatchStep, hpc, rank]

lemma live_dispatchStep (hs : s.Live) (hi : i < s.calls) (ok : Bool) :
    (s.dispatchStep i ok).Live := by
  obtain ⟨hsending, hundefined, -⟩ := pc_dispatchStep s i ok
  obtain ⟨pc, pending, writes, heq⟩ := dispatchStep_eq i ok s
  have hcalls : (s.dispatchStep i ok).calls = s.calls := by rw [heq]; rfl
  have htls : (s.dispatchStep i ok).innerTls = s.innerTls := by rw [heq]; rfl
  constructor
  · rw [heq]
    exact hs.ready
  · intro j hj hpc
    rw [hcalls] at hj
    rw [htls]
    by_cases hij : j = i
    · rw [hij] at hpc
      exact hs.isSome_of_ready (hsending hpc)
    · rw [call_dispatchStep_of_ne hij] at hpc
      exact hs.sending j hj hpc
  · intro j hj hpc
    rw [hcalls] at hj
    by_cases hij : j = i
    · rw [hij] at hpc
      obtain hpc | ⟨hpc, hnone⟩ := hundefined hpc
      · exact hs.defined i hi hpc
      · have hsome := hs.sending i hi hpc
        rw [hnone] at hsome
        cases hsome
    · rw [call_dispatchStep_of_ne hij] at hpc
      exact hs.defined j hj hpc

lemma live_enter (hs : s.Live) (bson : Envelope) : (s.enter bson).Live := by
  have hpc : ∀ j < s.calls + 1, ((s.enter bson).call j).pc = .entered ∨
      j < s.calls ∧ (s.enter bson).call j = s.call j := by
    intro j hj
    obtain hlt | rfl := Nat.lt_succ_iff_lt_or_eq.mp hj
    · exact Or.inr ⟨hlt, call_enter_of_lt hlt bson⟩
    · left
      rw [call_enter_self]
  constructor
  · exact hs.ready
  · intro j hj h
    obtain hentered | ⟨hlt, hsame⟩ := hpc j hj
    · rw [hentered] at h
      cases h
    · rw [hsame] at h
      exact hs.sending j hlt h
  · intro j hj h
    obtain hentered | ⟨hlt, hsame⟩ := hpc j hj
    · rw [hentered] at h
      cases h
    · rw [hsame] at h
      exact hs.defined j hlt h

/-- What the thread of `svc` does to the TLS session. -/
lemma ready_svcStep (h : s.ReadyAt s.svc) (hstep : SvcStep s t) :
    t.ReadyAt t.svc ∧ (s.innerTls.isSome → s.resetsTls = false → t.innerTls.isSome) := by
  cases hstep with
  | idle => exact ⟨h, fun htls _ => htls⟩
  | create hsvc =>
    rw [hsvc] at h
    exact ⟨h, fun _ _ => rfl⟩
  | begin hsvc hpc =>
    rw [hsvc] at h
    refine ⟨?_, fun htls _ => htls⟩
    obtain rfl | rfl := hpc
    · exact h
    · intro hready
      rw [h] at hready
      cases hready
  | establish => exact ⟨rfl, fun _ _ => rfl⟩
  | reset hsvc =>
    rw [hsvc] at h
    rw [resetsTls, hsvc]
    exact ⟨h, fun _ hresets => by cases hresets⟩
  | ready hsvc =>
    rw [hsvc] at h
    exact ⟨fun _ => h, fun htls _ => htls⟩
  | loop hsvc hpc | read hsvc hpc | message hsvc hpc =>
    rw [hsvc] at h
    obtain rfl | rfl := hpc
    · exact ⟨h, fun htls _ => htls⟩
    · exact ⟨h, fun htls _ => htls⟩
  | failedStore pc hsvc | store pc hsvc =>
    rw [hsvc] at h
    rw [resetsTls, hsvc]
    cases pc with
    | innerTls => exact ⟨h, fun _ hresets => by cases hresets⟩
    | ready => exact ⟨rfl, fun htls _ => htls⟩
    | _ => exact ⟨h, fun htls _ => htls⟩
  | wake hsvc | handshake hsvc | refuse hsvc | ignore hsvc | find hsvc | deliver hsvc
  | failAll hsvc | failed hsvc | fail hsvc =>
    rw [hsvc] at h
    exact ⟨h, fun htls _ => htls⟩

lemma live_svcStep (hs : s.Live) (h : SvcStep s t)
    (hok : s.resetsTls = true → ∀ i < s.calls, (s.call i).pc ≠ .sendingTls) : t.Live := by
  obtain ⟨hready, hkeeps⟩ := ready_svcStep hs.ready h
  have hcalls := (h.frame 0).2.1
  constructor
  · exact hready
  · intro i hi hpc
    rw [hcalls] at hi
    rw [(h.frame i).1] at hpc
    apply hkeeps (hs.sending i hi hpc)
    by_contra hresets
    exact hok (Bool.not_eq_false _ ▸ hresets) i hi hpc
  · intro i hi hpc
    rw [hcalls] at hi
    rw [(h.frame i).1] at hpc
    exact hs.defined i hi hpc

lemma live_step (hs : s.Live) {input : ServerInput} (hok : s.KeepsTls input) :
    (s.step input).Live := by
  cases input with
  | agentConnects =>
    rw [step, onAgentConnected]
    split_ifs
    · exact hs
    · exact ⟨hs.ready, hs.sending, hs.defined⟩
    · exact ⟨hs.ready, hs.sending, hs.defined⟩
  | enter bson => exact live_enter hs bson
  | dispatch i ok =>
    rw [step]
    split_ifs with hi
    · exact live_dispatchStep hs hi ok
    · exact hs
  | svc ok received => exact live_svcStep hs (.of_svcStep ok received s) hok

/-- The input is a step of the call. -/
def isStepOf (i : ℕ) : ServerInput → Bool
  | .dispatch j _ => j = i
  | _             => false

/-- The steps of the others leave a call where it is, and its own bring it nearer to its return. -/
lemma rank_step (hi : i < s.calls) (input : ServerInput) :
    i < (s.step input).calls ∧ rank ((s.step input).call i).pc ≤
      rank (s.call i).pc - if isStepOf i input then 1 else 0 := by
  cases input with
  | agentConnects =>
    obtain ⟨hcall, hcalls⟩ := onAgentConnected_frame s
    rw [step, hcall, hcalls]
    exact ⟨hi, le_rfl⟩
  | enter bson =>
    rw [step, call_enter_of_lt hi]
    exact ⟨hi.trans (Nat.lt_succ_self _), le_rfl⟩
  | dispatch j ok =>
    rw [step]
    by_cases hj : j < s.calls
    · obtain ⟨pc, pending, writes, heq⟩ := dispatchStep_eq j ok s
      have hcalls : (s.dispatchStep j ok).calls = s.calls := by rw [heq]; rfl
      rw [if_pos hj, hcalls]
      refine ⟨hi, ?_⟩
      by_cases hij : j = i
      · simp only [isStepOf, hij, decide_true, if_true]
        exact (pc_dispatchStep s i ok).2.2
      · simp [isStepOf, hij, call_dispatchStep_of_ne (Ne.symm hij)]
    · have hij : j ≠ i := by
        rintro rfl
        exact hj hi
      rw [if_neg hj]
      simp [isStepOf, hij, hi]
  | svc ok received =>
    obtain ⟨hpc, hcalls, -⟩ := (SvcStep.of_svcStep ok received s).frame i
    rw [step, hpc, hcalls]
    exact ⟨hi, le_rfl⟩

lemma rank_run (hi : i < s.calls) (is : List ServerInput) :
    rank ((s.run is).call i).pc ≤ rank (s.call i).pc - is.countP (isStepOf i) := by
  induction is generalizing s with
  | nil => exact le_rfl
  | cons input is ih =>
    obtain ⟨hcalls, hrank⟩ := rank_step hi input
    have hrest := ih hcalls
    rw [List.countP_cons]
    simp only [run, List.foldl_cons] at hrest ⊢
    omega

lemma calls_run (hi : i < s.calls) (is : List ServerInput) : i < (s.run is).calls := by
  induction is generalizing s with
  | nil => exact hi
  | cons input is ih => exact ih (rank_step hi input).1

lemma rank_le (pc : DispatchPc) : rank pc ≤ 7 := by cases pc <;> simp [rank]

/-- A call returns by its seventh step, if no TLS session ends between its load of `m_innerTlsReady`
and its send. -/
lemma returns_of_steps {tls : Bool} {is js : List ServerInput}
    (hok : Along step KeepsTls (init tls) (is ++ js)) (hi : i < ((init tls).run is).calls)
    (hsteps : 7 ≤ js.countP (isStepOf i)) :
    ∃ bytes, (((init tls).run (is ++ js)).call i).returned? = some bytes := by
  have hlive : ((init tls).run (is ++ js)).Live :=
    hok.invariant (P := Live) (fun _ _ hi h => live_step h hi) (live_init tls)
  have hs : (init tls).run (is ++ js) = ((init tls).run is).run js := List.foldl_append
  have hrank := rank_run hi js
  have hdefined := hlive.defined i (hs ▸ calls_run hi js)
  have hle := rank_le (((init tls).run is).call i).pc
  rw [← hs] at hrank
  have hzero : rank (((init tls).run (is ++ js)).call i).pc = 0 := by omega
  cases hpc : (((init tls).run (is ++ js)).call i).pc with
  | returned bytes => exact ⟨bytes, by rw [DispatchCall.returned?, hpc]⟩
  | undefined => exact absurd hpc hdefined
  | _ =>
    rw [hpc] at hzero
    cases hzero

lemma pc_of_returned {c : DispatchCall} {bytes : Envelope} (h : c.returned? = some bytes) :
    c.pc = .returned bytes := by
  rw [DispatchCall.returned?] at h
  split at h
  · rename_i hpc
    cases h
    exact hpc
  · cases h

/-- For every interleaving in which no TLS session ends between a call's load of `m_innerTlsReady`
and its send: a call returns by its seventh step, whatever the others do; it returns a response of
the agent that has its reqid, or an error that has it; and `m_pending` has no entry of a call that
has returned. -/
theorem dispatch_correlated (tls : Bool) (is js : List ServerInput)
    (hok : Along step KeepsTls (init tls) (is ++ js)) :
    let s := (init tls).run (is ++ js)
    (∀ i < ((init tls).run is).calls, 7 ≤ js.countP (isStepOf i) →
      ∃ bytes, (s.call i).returned? = some bytes) ∧
    (∀ i < s.calls, ∀ bytes, (s.call i).returned? = some bytes →
      (parseRequest (s.call i).bson).1 = true → s.Answers i bytes) ∧
    ∀ reqid i, s.pending.lookup reqid = some i → (s.call i).returned? = none := by
  intro s
  have hs : s.Correlated :=
    run_invariant (P := Correlated) (fun _ i h => correlated_step h i) (correlated_init tls) _
  refine ⟨?_, ?_, ?_⟩
  · intro i hi hsteps
    exact returns_of_steps hok hi hsteps
  · intro i hi bytes hreturned hparse
    have hholds := hs.holds i hi
    rw [pc_of_returned hreturned] at hholds
    exact hholds hparse
  · intro reqid i hlookup
    obtain ⟨-, -, hregistered⟩ := hs.pending reqid i hlookup
    rw [Option.eq_none_iff_forall_ne_some]
    intro bytes hreturned
    rw [pc_of_returned hreturned] at hregistered
    exact hregistered

/-- The call of the worker, the response, and an agent that then disconnects. -/
def answered : List ServerInput :=
  List.replicate 5 (.dispatch 0 true) ++
    [.svc true .nothing,
      .svc true (.message (some (buildResponse { reqid := 0, ok := true, sval := [66] }))),
      .svc true .nothing, .svc true .nothing, .dispatch 0 true, .dispatch 0 true,
      .svc true .nothing, .svc true .failed] ++ List.replicate 5 (.svc true .nothing)

theorem dispatch_correlated_answered :
    ∃ bytes, (((init true).run ((established ++ [.enter (some nextAwbnoRequest)]) ++ answered)).call
      0).returned? = some bytes := by
  have hok : Along step KeepsTls (init true)
      ((established ++ [.enter (some nextAwbnoRequest)]) ++ answered) := by decide +kernel
  obtain ⟨hreturns, -⟩ := dispatch_correlated true _ answered hok
  exact hreturns 0 (by decide +kernel) (by decide +kernel)

/-- The agent disconnects between the load of `m_innerTlsReady` and the send of a call, and the call
never returns. -/
theorem session_ends_before_send :
    let s := (init true).run (established ++ .enter (some nextAwbnoRequest) ::
      List.replicate 4 (.dispatch 0 true) ++
      [.svc true .nothing, .svc true .failed, .svc true .nothing, .svc true .nothing,
        .svc true .nothing] ++ List.replicate 10 (.dispatch 0 true))
    s.calls = 1 ∧ (s.call 0).pc = .undefined ∧ (s.call 0).returned? = none := by
  decide +kernel

end WsDbServer
