import OnPremPbx.Cloud.Invariant

/-!
# Fresh stream ids

`on_browser_upgrade` takes the next value of a 32-bit counter that is never reset, and
`std::map::emplace` keeps an entry that is there already. An upgrade gets an id of its own unless
the counter has come round to zero, or to the id of a browser that is still registered.
-/

open Framing SipFrame

namespace Cloud

/-- `on_browser_close` is not called for the stream `i` in this step. -/
def NotClosedBy (i : UInt32) (s : Cloud) (input : Input) : Prop :=
  ∀ b reason, input.1 = .browserClose b reason → s.trace.issued[b]? ≠ some i

/-- An upgrade gets an id of its own: not that of the tunnel itself, and of no other browser.
From then on the DATA of the stream goes to the new browser and to no other, until the bridge
closes the browser or `on_browser_close` is called. -/
structure FreshUpgrade (s : Cloud) (openMeta : Bytes) : Prop where
  nonzero : (s.onBrowserUpgrade openMeta).2 ≠ 0
  unused : (s.onBrowserUpgrade openMeta).2 ∉ s.bridge.browsers
  delivered : ∀ is : List Input,
    Transition.Along step (NotClosedBy (s.onBrowserUpgrade openMeta).2)
      (s.onBrowserUpgrade openMeta).1 is →
    let t := (s.onBrowserUpgrade openMeta).1.run is
    (∀ reason, (s.trace.issued.length, reason) ∉ t.trace.closed) →
    ∀ payload, t.dispatchFrame ⟨.DATA, (s.onBrowserUpgrade openMeta).2, payload⟩ =
      (t.deliver s.trace.issued.length payload, true)

/-- The counter has not come round: the upgrades so far and this one are not a multiple of `2 ^ 32`,
and no browser that upgraded a multiple of `2 ^ 32` upgrades ago is registered. -/
def NotComeRound (s : Cloud) : Prop :=
  (s.trace.issued.length + 1) % 2 ^ 32 ≠ 0 ∧
  ∀ i b, s.bridge.browsers.lookup i = some b → b % 2 ^ 32 ≠ s.trace.issued.length % 2 ^ 32

/-! ### The ids follow the number of upgrades -/

/-- The ids are the numbers of the upgrades. -/
structure Numbered (s : Cloud) : Prop where
  next : s.bridge.nextStreamId = UInt32.ofNat (s.trace.issued.length + 1)
  lookup : ∀ i b, s.bridge.browsers.lookup i = some b → i = UInt32.ofNat (b + 1)

lemma closed_numbered : Closed Numbered where
  setScript _ _ h := ⟨h.next, h.lookup⟩
  wrote _ _ _ _ h := ⟨h.next, h.lookup⟩
  record _ _ _ h := ⟨h.next, h.lookup⟩
  setOutbound _ _ h := ⟨h.next, h.lookup⟩
  markDisconnected s h := ⟨h.next, by simp [markDisconnected, onTunnelDisconnect]⟩
  install _ _ _ h := ⟨h.next, h.lookup⟩
  countPing _ _ h := ⟨h.next, h.lookup⟩
  clearPings _ h := ⟨h.next, h.lookup⟩
  advance _ _ h := ⟨h.next, h.lookup⟩
  register s h := by
    constructor
    · have hlength : (s.trace.issued ++ [s.bridge.nextStreamId]).length =
          s.trace.issued.length + 1 := by simp
      simp only [register, hlength]
      rw [UInt32.ofNat_add (s.trace.issued.length + 1) 1, ← h.next]
      rfl
    · intro i b hb
      obtain hold | ⟨rfl, rfl, -⟩ := lookup_register hb
      · exact h.lookup i b hold
      · exact h.next
  deregister j s h := ⟨h.next, fun i b hb => h.lookup i b (lookup_deregister hb).2⟩
  deliver _ _ _ h := ⟨h.next, h.lookup⟩
  release _ _ _ h := ⟨h.next, h.lookup⟩
  recordData _ _ _ h := ⟨h.next, h.lookup⟩
  cacheStatus _ _ h := ⟨h.next, h.lookup⟩
  hear _ _ _ h := ⟨h.next, h.lookup⟩
  setBuffer _ _ h := ⟨h.next, h.lookup⟩

lemma numbered_run (cfg : CloudTunnelEndpoint.Config) (clock : Option ℤ)
    (connectedField : Bytes → Option Bool) (is : List Input) :
    ((init cfg clock connectedField).run is).Numbered :=
  closed_numbered.run ⟨rfl, by simp [init]⟩ is

lemma ofNat_eq_iff {a b : ℕ} : UInt32.ofNat a = UInt32.ofNat b ↔ a % 2 ^ 32 = b % 2 ^ 32 := by
  rw [← UInt32.toNat_inj, UInt32.toNat_ofNat', UInt32.toNat_ofNat']

/-! ### A registration stays -/

/-- The browser `b` is registered under `i`, or was closed by the bridge. -/
def Holding (i : UInt32) (b : BrowserSink) (s : Cloud) : Prop :=
  s.bridge.browsers.lookup i = some b ∨ ∃ reason, (b, reason) ∈ s.trace.closed

section

variable {i : UInt32} {b : BrowserSink}

lemma closedSend_holding : ClosedSend (Holding i b) where
  setScript _ _ h := h
  wrote _ _ _ _ h := h
  record _ _ _ h := h
  setOutbound _ _ h := h
  markDisconnected s h := by
    obtain h | ⟨reason, h⟩ := h
    · refine Or.inr ⟨Bytes.ofString "tunnel_lost", List.mem_append_right _ ?_⟩
      exact List.mem_map.mpr ⟨⟨i, b⟩, AList.mem_lookup_iff.mp h, rfl⟩
    · exact Or.inr ⟨reason, List.mem_append_left _ h⟩

lemma holding_register {s : Cloud} (h : Holding i b s) : Holding i b s.register := by
  obtain h | h := h
  · left
    simp only [register]
    split_ifs with hmem
    · exact h
    · have hi : i ≠ s.bridge.nextStreamId := by
        rintro rfl
        exact hmem (AList.lookup_isSome.mp (by simp [h]))
      rw [AList.lookup_insert_ne hi]
      exact h
  · exact Or.inr h

lemma holding_closeStream {s : Cloud} (h : Holding i b s) (j : UInt32) (reason : Bytes) :
    Holding i b (s.closeStream j reason) := by
  obtain h | ⟨reason', h⟩ := h
  · by_cases hj : j = i
    · subst hj
      simp only [closeStream, h]
      exact Or.inr ⟨reason, List.mem_append_right _ List.mem_cons_self⟩
    · rcases hlookup : s.bridge.browsers.lookup j with _ | b'
      · simp only [closeStream, hlookup]
        exact Or.inl h
      · simp only [closeStream, hlookup]
        left
        rw [deregister, AList.lookup_erase_ne (Ne.symm hj)]
        exact h
  · rcases hlookup : s.bridge.browsers.lookup j with _ | b'
    · simp only [closeStream, hlookup]
      exact Or.inr ⟨reason', h⟩
    · simp only [closeStream, hlookup]
      exact Or.inr ⟨reason', List.mem_append_left _ h⟩

lemma holding_dispatch {s : Cloud} (h : Holding i b s) (f : Frame) :
    Holding i b (s.dispatch f).1 := by
  have hframe : Holding i b (s.dispatchFrame f).1 := by
    obtain ⟨op, j, p⟩ := f
    cases op with
    | DATA =>
      rcases hlookup : s.bridge.browsers.lookup j with _ | b'
      · simpa only [dispatchFrame, hlookup] using h
      · simp only [dispatchFrame, hlookup]
        exact h
    | CLOSE => exact holding_closeStream h j p
    | PING => exact closedSend_holding.tunnelSend _ _ _ _ h
    | PONG | ERR | OPEN | SUBSCRIBER_REVOKED | SOCIETY_BOOTSTRAP => exact h
    | PUSH_NOTIFY | CDR_PUSH | REGISTER_STATE | AGENT_HELLO =>
      exact closedSend_holding.callHandler _ h
    | ASTERISK_STATUS => exact closedSend_holding.callHandler (s.cacheStatus p) h
  rw [dispatch]
  split_ifs
  · exact hframe
  · exact hframe

/-- A step in which `on_browser_close` is not called for the stream. -/
lemma holding_step {s : Cloud} {input : Input} (hclose : NotClosedBy i s input)
    (h : Holding i b s) : Holding i b (s.step input) := by
  obtain ⟨e, script⟩ := input
  have hP : ClosedSend (Holding i b) := closedSend_holding
  have hs : Holding i b (s.setScript script) := h
  cases e with
  | browserUpgrade openMeta => exact hP.tunnelSend _ _ _ _ (holding_register hs)
  | browserData b' bytes =>
    simp only [step, handle, trace_setScript]
    split
    · exact hs
    · rw [onBrowserData]
      split_ifs
      · exact hP.tunnelSend _ _ _ ((s.setScript script).recordData b' bytes) hs
      · exact hs
  | browserClose b' reason =>
    have hne : s.trace.issued[b']? ≠ some i := hclose b' reason rfl
    simp only [step, handle, trace_setScript]
    split
    · exact hs
    · rename_i sid hsid
      have hi : i ≠ sid := by
        rintro rfl
        exact hne hsid
      rw [onBrowserClose]
      split_ifs
      · refine hP.tunnelSend _ _ _ _ ?_
        obtain h | h := hs
        · left
          rw [deregister, AList.lookup_erase_ne hi]
          exact h
        · exact Or.inr h
      · exact hs
  | revoke payload => exact hP.tunnelSend _ _ _ _ hs
  | sendFrame f => exact hP.sendFrame _ _ _ _ hs
  | tick => exact hP.tick (fun _ _ h => h) _ hs
  | agentConnected c =>
    simp only [step, handle]
    split_ifs
    · exact hs
    · have hinstall : Holding i b ((s.setScript script).onAgentDisconnected.install c) :=
        hP.onAgentDisconnected _ hs
      exact hP.flushOutbound _ hinstall
  | bytesReceived bytes =>
    have hfed : Holding i b ((s.setScript script).clearPings.onTunnelBytes bytes).state :=
      receiver.receive_keeps (P := Holding i b) (fun _ _ h => h) (fun f _ h => holding_dispatch h f)
        _ hs
    simp only [step, handle, onBytesReceived]
    split_ifs
    · exact hP.markDisconnected _ hfed
    · exact hfed
  | agentDisconnected => exact hP.onAgentDisconnected _ hs
  | advance seconds => exact hs

end

/-! ### Upgrades -/

/-- In every reachable state, an upgrade gets an id of its own exactly when the counter has not come
round. -/
theorem freshUpgrade_iff (cfg : CloudTunnelEndpoint.Config) (clock : Option ℤ)
    (connectedField : Bytes → Option Bool) (is : List Input) (script : Script)
    (openMeta : Bytes) :
    let s := ((init cfg clock connectedField).run is).setScript script
    s.FreshUpgrade openMeta ↔ s.NotComeRound := by
  intro s
  have hs : s.Numbered := closed_numbered.setScript _ _ (numbered_run cfg clock connectedField is)
  have hzero : s.bridge.nextStreamId = 0 ↔ (s.trace.issued.length + 1) % 2 ^ 32 = 0 := by
    rw [hs.next, show (0 : UInt32) = UInt32.ofNat 0 from rfl, ofNat_eq_iff, Nat.zero_mod]
  constructor
  · rintro ⟨hnonzero, hunused, -⟩
    refine ⟨fun h => hnonzero (hzero.mpr h), fun i b hb heq => hunused ?_⟩
    have hi : i = s.bridge.nextStreamId := by
      rw [hs.lookup i b hb, hs.next, ofNat_eq_iff, Nat.add_mod, heq, ← Nat.add_mod]
    rw [← AList.lookup_isSome, show (s.onBrowserUpgrade openMeta).2 = i from hi.symm, hb]
    rfl
  · rintro ⟨hnonzero, hunused⟩
    have hnew : s.bridge.nextStreamId ∉ s.bridge.browsers := by
      intro hmem
      obtain ⟨b, hb⟩ := Option.isSome_iff_exists.mp (AList.lookup_isSome.mpr hmem)
      have heq := hs.lookup _ b hb
      rw [hs.next, ofNat_eq_iff] at heq
      exact hunused _ b hb (Nat.ModEq.add_right_cancel' 1 heq.symm)
    refine ⟨fun h => hnonzero (hzero.mp h), hnew, ?_⟩
    intro is' hclose t hclosed payload
    have hregister : Holding s.bridge.nextStreamId s.trace.issued.length s.register := by
      left
      simp only [register, if_neg hnew]
      exact AList.lookup_insert _
    have hupgrade : Holding s.bridge.nextStreamId s.trace.issued.length
        (s.onBrowserUpgrade openMeta).1 := closedSend_holding.tunnelSend _ _ _ _ hregister
    have hrun : Holding s.bridge.nextStreamId s.trace.issued.length t :=
      hclose.invariant (fun _ _ => holding_step) hupgrade
    obtain hlookup | ⟨reason, hreason⟩ := hrun
    · simp only [dispatchFrame, onBrowserUpgrade, hlookup]
    · exact absurd hreason (hclosed reason)

/-- Every upgrade issues one id. -/
lemma issued_upgrades (n : ℕ) :
    ((init {} none fun _ => none).run
      (List.replicate n (.browserUpgrade [], {}))).trace.issued.length = n := by
  induction n with
  | zero => rfl
  | succ n ih =>
    have hsend : ∀ t : Cloud, ClosedSend fun u => u.trace.issued = t.trace.issued := fun t =>
      { setScript := fun _ _ h => h
        wrote := fun _ _ _ _ h => h
        record := fun _ _ _ h => h
        setOutbound := fun _ _ h => h
        markDisconnected := fun _ h => h }
    rw [run] at ih
    rw [List.replicate_succ', run, List.foldl_concat]
    refine (congrArg List.length ((hsend _).tunnelSend _ _ _ _ rfl)).trans ?_
    simpa [register] using ih

lemma not_freshUpgrade_upgrades {n : ℕ} (hn : (n + 1) % 2 ^ 32 = 0) :
    ¬ FreshUpgrade ((init {} none fun _ => none).run
      (List.replicate n (.browserUpgrade [], {}))) [] := by
  intro h
  refine h.nonzero ((numbered_run {} none (fun _ => none) _).next.trans ?_)
  rw [issued_upgrades, show (0 : UInt32) = UInt32.ofNat 0 from rfl, ofNat_eq_iff, hn, Nat.zero_mod]

/-- The upgrade after `2 ^ 32 - 1` others gets the id 0. -/
theorem upgrade_wraps_to_zero :
    ¬ FreshUpgrade ((init {} none fun _ => none).run
      (List.replicate (2 ^ 32 - 1) (.browserUpgrade [], {}))) [] :=
  not_freshUpgrade_upgrades (by norm_num)

end Cloud
