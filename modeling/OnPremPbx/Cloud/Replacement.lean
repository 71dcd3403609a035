import OnPremPbx.Cloud.AgentStream

/-!
# A stream that was replaced is out of the way

The endpoint's transport is the stream that attached last, as long as that stream lives; every
other stream that ever attached has its socket closed and no adapter, and what it still does does
not reach the endpoint.
-/

open Framing SipFrame

namespace Cloud

/-- The endpoint keeps its transport, or closes it and has none. -/
def Releases (s t : Cloud) : Prop :=
  t.trace.attached = s.trace.attached ∧
  (t.endpoint.transport = s.endpoint.transport ∧ t.trace.shut = s.trace.shut ∨
    t.endpoint.transport = none ∧ t.trace.shut = s.trace.shut ++ s.endpoint.transport.toList)

lemma Releases.refl (s : Cloud) : Releases s s := ⟨rfl, Or.inl ⟨rfl, rfl⟩⟩

lemma closed_releases (s : Cloud) : ClosedInner (Releases s) where
  setScript _ _ h := h
  wrote _ _ _ _ h := h
  record _ _ _ h := h
  setOutbound _ _ h := h
  markDisconnected t h := by
    refine ⟨h.1, Or.inr ⟨rfl, ?_⟩⟩
    obtain ⟨htransport, hshut⟩ | ⟨htransport, hshut⟩ := h.2 <;>
      simp [markDisconnected, onTunnelDisconnect, htransport, hshut]
  deregister _ _ h := h
  deliver _ _ _ h := h
  release _ _ _ h := h
  recordData _ _ _ h := h
  cacheStatus _ _ h := h
  hear _ _ _ h := h
  setBuffer _ _ h := h

/-- Every event but an attach. -/
lemma releases_handle {e : Event} (he : ∀ c, e ≠ .agentConnected c) (s : Cloud) :
    Releases s (s.handle e) := by
  have hclosed := closed_releases s
  cases e with
  | browserUpgrade openMeta => exact hclosed.tunnelSend _ _ _ s.register (.refl s)
  | browserData b bytes => exact hclosed.handle_browser (.refl s) (Or.inl ⟨b, bytes, rfl⟩)
  | browserClose b reason => exact hclosed.handle_browser (.refl s) (Or.inr ⟨b, reason, rfl⟩)
  | revoke payload => exact hclosed.tunnelSend _ _ _ s (.refl s)
  | sendFrame f => exact hclosed.sendFrame _ _ _ s (.refl s)
  | tick => exact hclosed.tick (fun _ _ h => h) s (.refl s)
  | agentConnected c => exact absurd rfl (he c)
  | bytesReceived bytes =>
    have hfed := hclosed.onTunnelBytes bytes s.clearPings (.refl s)
    simp only [handle, onBytesReceived]
    split_ifs
    · exact hclosed.markDisconnected _ hfed
    · exact hfed
  | agentDisconnected => exact hclosed.onAgentDisconnected s (.refl s)
  | advance seconds => exact .refl s

/-- An attach closes the transport before, and the new one too if the flush fails. -/
lemma attaches_onAgentConnected (c : ConnId) (s : Cloud) :
    (s.onAgentConnected c).trace.attached = s.trace.attached ++ [c] ∧
    ((s.onAgentConnected c).endpoint.transport = some c ∧
        (s.onAgentConnected c).trace.shut = s.trace.shut ++ s.endpoint.transport.toList ∨
      (s.onAgentConnected c).endpoint.transport = none ∧
        (s.onAgentConnected c).trace.shut =
          s.trace.shut ++ s.endpoint.transport.toList ++ [c]) := by
  have hattached := attached_onAgentDisconnected s
  have hshut : s.onAgentDisconnected.trace.shut =
      s.trace.shut ++ s.endpoint.transport.toList := by
    rcases h : s.endpoint.transport with _ | d
    · simp [onAgentDisconnected, hasAgent, h]
    · simp [onAgentDisconnected, hasAgent, h, markDisconnected, onTunnelDisconnect]
  have hcases := onAgentConnected_cases c s
  generalize s.onAgentDisconnected = t at hattached hshut hcases
  rw [← hattached, ← hshut]
  obtain h | ⟨sent, f, rest, n, -, -, h⟩ := hcases
  · rw [h]
    exact ⟨rfl, Or.inl ⟨rfl, rfl⟩⟩
  · rw [h]
    exact ⟨rfl, Or.inr ⟨rfl, rfl⟩⟩

end Cloud

/-- How the stream `k` stands to the endpoint. -/
structure AgentStream.Placed (a : AgentStream) (k : ConnId) (c : Cloud) : Prop where
  /-- the transport has the adapter, and lives -/
  adapter : a.adapter = true ↔ c.endpoint.transport = some k
  current : c.endpoint.transport = some k →
    a.attached = true ∧ a.backPointer = true ∧ a.handle = true ∧ a.closeNotified = false
  /-- every other stream that attached is dead -/
  replaced : a.attached = true → c.endpoint.transport ≠ some k →
    a.handle = false ∨ a.closeNotified = true
  attached : k ∈ c.trace.attached ↔ a.attached = true
  /-- a stream that did not attach yet is open, and not called back -/
  waiting : a.attached = false → a.handle = true ∧ a.registered = false ∧ a.pingTimer = false

/-- A stream that is not the transport any more: if it was, the endpoint has closed it. -/
lemma AgentStream.Placed.release {a : AgentStream} {k : ConnId} {c t : Cloud} {ks : List ConnId}
    (ha : a.Placed k c) (hattached : k ∈ t.trace.attached ↔ k ∈ c.trace.attached)
    (htransport : t.endpoint.transport ≠ some k)
    (hks : k ∈ ks ↔ c.endpoint.transport = some k) :
    (if k ∈ ks ∧ a.backPointer then a.closeSocket else a).Placed k t := by
  obtain ⟨h₁, h₂, h₃, h₄, h₅⟩ := ha
  by_cases hk : c.endpoint.transport = some k
  · obtain ⟨hatt, hback, -⟩ := h₂ hk
    rw [if_pos ⟨hks.mpr hk, hback⟩]
    exact ⟨by simp [AgentStream.closeSocket, htransport], fun h => absurd h htransport,
      fun _ _ => Or.inl rfl, hattached.trans h₄, fun h => absurd (hatt.symm.trans h) (by simp)⟩
  · rw [if_neg fun h => hk (hks.mp h.1)]
    exact ⟨by simpa [hk, htransport] using h₁, fun h => absurd h htransport, fun h _ => h₃ h hk,
      hattached.trans h₄, h₅⟩

namespace Reactor

/-- The stream `k` is not deleted, has not reported its end, and has its socket open. -/
def alive (s : Reactor) (k : ConnId) : Bool := ((s.streams k).map AgentStream.alive).getD false

/-- What holds before and after every call of the endpoint. -/
structure Sound (s : Reactor) : Prop where
  placed : ∀ k a, s.streams k = some a → a.Placed k s.cloud
  /-- the transport is the last stream that attached -/
  transport : ∀ k, s.cloud.endpoint.transport = some k →
    (s.streams k).isSome ∧ s.cloud.trace.attached.getLast? = some k
  /-- the numbers of streams still to come are free -/
  fresh : ∀ k, s.accepted ≤ k → s.streams k = none
  attached_lt : ∀ k ∈ s.cloud.trace.attached, k < s.accepted

/-- The stream `k` has reported its end, and is not deleted yet. -/
def notified (s : Reactor) (k : ConnId) : Bool :=
  ((s.streams k).map AgentStream.closeNotified).getD false

/-! ### Changes of all streams -/

@[simp] lemma map_map (g h : ConnId → AgentStream → AgentStream) (s : Reactor) :
    (s.map h).map g = s.map fun k a => g k (h k a) := by
  simp only [map, Option.map_map]
  rfl

lemma map_id {g : ConnId → AgentStream → AgentStream} (hg : ∀ k a, g k a = a) (s : Reactor) :
    s.map g = s := by
  have hstreams : (fun k => (s.streams k).map (g k)) = s.streams := by
    funext k
    rw [show g k = id from funext (hg k), Option.map_id, id]
  rw [map, hstreams]

@[simp] lemma cloud_map (g : ConnId → AgentStream → AgentStream) (s : Reactor) :
    (s.map g).cloud = s.cloud := rfl

/-- The streams change, and then the endpoint is called. -/
lemma call_map (g : ConnId → AgentStream → AgentStream) (f : Cloud → Cloud) (s : Reactor) :
    (s.map g).call f = Reactor.map (fun k a =>
      if k ∈ (f s.cloud).trace.shut.drop s.cloud.trace.shut.length ∧ (g k a).backPointer then
        (g k a).closeSocket else g k a) { s with cloud := f s.cloud } :=
  map_map _ g { s with cloud := f s.cloud }

lemma of_streams_map {g : ConnId → AgentStream → AgentStream} {s : Reactor} {k : ConnId}
    {b : AgentStream} (h : (s.map g).streams k = some b) :
    ∃ a, s.streams k = some a ∧ b = g k a := by
  obtain ⟨a, ha, rfl⟩ := Option.map_eq_some_iff.mp h
  exact ⟨a, ha, rfl⟩

namespace Sound

variable {s : Reactor}

/-- The streams and the cloud end change, so that every stream is in its place again. -/
lemma map (hs : s.Sound) {t : Cloud} {g : ConnId → AgentStream → AgentStream}
    (hplaced : ∀ k a, s.streams k = some a → a.Placed k s.cloud → (g k a).Placed k t)
    (htransport : ∀ k, t.endpoint.transport = some k →
      (s.streams k).isSome ∧ t.trace.attached.getLast? = some k)
    (hattached : ∀ k ∈ t.trace.attached, k < s.accepted) :
    Sound (Reactor.map g { s with cloud := t }) where
  placed k b hb := by
    obtain ⟨a, ha, rfl⟩ := of_streams_map hb
    exact hplaced k a ha (hs.placed k a ha)
  transport k hk := by
    refine ⟨?_, (htransport k hk).2⟩
    simpa [Reactor.map] using (htransport k hk).1
  fresh k hk := by simp [Reactor.map, hs.fresh k hk]
  attached_lt := hattached

/-- The cloud end keeps what the streams see of it. -/
lemma keep (hs : s.Sound) {t : Cloud} (hattached : t.trace.attached = s.cloud.trace.attached)
    (htransport : t.endpoint.transport = s.cloud.endpoint.transport) :
    Sound { s with cloud := t } where
  placed k a ha := by
    obtain ⟨h₁, h₂, h₃, h₄, h₅⟩ := hs.placed k a ha
    exact ⟨htransport ▸ h₁, htransport ▸ h₂, htransport ▸ h₃, hattached ▸ h₄, h₅⟩
  transport k hk := hattached ▸ hs.transport k (htransport ▸ hk)
  fresh := hs.fresh
  attached_lt := hattached ▸ hs.attached_lt

/-- The endpoint closes its transport and has none. -/
lemma lose (hs : s.Sound) {t : Cloud} (hattached : t.trace.attached = s.cloud.trace.attached)
    (htransport : t.endpoint.transport = none) :
    Sound (closeSockets s.cloud.endpoint.transport.toList { s with cloud := t }) := by
  refine hs.map ?_ (by simp [htransport]) (hattached ▸ hs.attached_lt)
  intro k a _ ha
  exact ha.release (by rw [hattached]) (by simp [htransport]) (by simp)

/-- A call of the endpoint other than an attach. -/
lemma call (hs : s.Sound) {f : Cloud → Cloud} (hf : Cloud.Releases s.cloud (f s.cloud)) :
    (s.call f).Sound := by
  obtain ⟨hattached, ⟨htransport, hshut⟩ | ⟨htransport, hshut⟩⟩ := hf
  · rw [Reactor.call, hshut, List.drop_length, closeSockets, map_id (by simp)]
    exact hs.keep hattached htransport
  · rw [Reactor.call, hshut, List.drop_left]
    exact hs.lose hattached htransport

/-- One stream changes. -/
lemma modify (hs : s.Sound) {k : ConnId} {f : AgentStream → AgentStream}
    (hf : ∀ a, s.streams k = some a → a.Placed k s.cloud → (f a).Placed k s.cloud) :
    (s.modify k f).Sound := by
  refine hs.map (t := s.cloud) ?_ hs.transport hs.attached_lt
  intro j a ha hplaced
  split_ifs with hj
  · subst hj
    exact hf a ha hplaced
  · exact hplaced

/-- A stream reports its end. The transport takes its adapter back first, so that the endpoint's
`close` does not reach it. -/
lemma notifyDisconnectOnce (hs : s.Sound) (k : ConnId) : (s.notifyDisconnectOnce k).Sound := by
  rcases hk : s.streams k with _ | a
  · simpa only [Reactor.notifyDisconnectOnce, hk] using hs
  · have ha := hs.placed k a hk
    simp only [Reactor.notifyDisconnectOnce, hk]
    split_ifs with hnot hadapter
    · exact hs
    · have htransport := ha.adapter.mp hadapter
      have hshut : s.cloud.onAgentDisconnected.trace.shut = s.cloud.trace.shut ++ [k] := by
        simp [Cloud.onAgentDisconnected, Cloud.hasAgent, htransport, Cloud.markDisconnected,
          Cloud.onTunnelDisconnect]
      rw [Reactor.modify, Reactor.modify, map_map, call_map, hshut, List.drop_left]
      refine hs.map ?_ (by simp) (by simpa using hs.attached_lt)
      intro j b _ hb
      by_cases hjk : j = k
      · subst hjk
        simp only [if_true, Bool.false_eq_true, and_false, if_false]
        exact ⟨by simp, by simp, fun _ _ => Or.inr rfl, by simpa using hb.attached, hb.waiting⟩
      · have hne : s.cloud.endpoint.transport ≠ some j := by
          rw [htransport]
          exact fun h => hjk (Option.some.inj h).symm
        simp only [hjk, if_false, List.mem_singleton, false_and]
        exact ⟨by simpa [hne] using hb.adapter, by simp, fun h _ => hb.replaced h hne,
          by simpa using hb.attached, hb.waiting⟩
    · have htransport : s.cloud.endpoint.transport ≠ some k := fun h => hadapter (ha.adapter.mpr h)
      refine hs.modify ?_
      intro b _ hb
      exact ⟨hb.adapter, fun h => absurd h htransport, fun _ _ => Or.inr rfl, hb.attached,
        hb.waiting⟩

/-- A stream attaches. -/
lemma attach (hs : s.Sound) {k : ConnId} (hnot : s.notified k = false) : (s.attach k).Sound := by
  rcases hk : s.streams k with _ | a
  · simpa only [Reactor.attach, hk] using hs
  · have ha := hs.placed k a hk
    simp only [Reactor.attach, hk]
    split_ifs with hatt
    · exact hs
    · have hwait := ha.waiting (Bool.eq_false_iff.mpr hatt)
      have hold : s.cloud.endpoint.transport ≠ some k := fun h => hatt (ha.current h).1
      obtain ⟨hattached, hnew⟩ := Cloud.attaches_onAgentConnected k s.cloud
      have hlt : ∀ j ∈ (s.cloud.onAgentConnected k).trace.attached, j < s.accepted := by
        rw [hattached]
        intro j hj
        obtain hj | hj := List.mem_append.mp hj
        · exact hs.attached_lt j hj
        · rw [List.mem_singleton.mp hj]
          by_contra hge
          rw [hs.fresh k (not_lt.mp hge)] at hk
          cases hk
      have hother : ∀ {ks : List ConnId} {j : ConnId} {b : AgentStream}, j ≠ k →
          (s.cloud.onAgentConnected k).endpoint.transport ≠ some j →
          (j ∈ ks ↔ s.cloud.endpoint.transport = some j) → b.Placed j s.cloud →
          (if j ∈ ks ∧ b.backPointer then b.closeSocket else b).Placed j
            (s.cloud.onAgentConnected k) :=
        fun hjk htransport hks hb => hb.release (by simp [hattached, hjk]) htransport hks
      rw [Reactor.modify, call_map]
      obtain ⟨htransport, hshut⟩ | ⟨htransport, hshut⟩ := hnew
      · rw [hshut, List.drop_left]
        refine hs.map ?_ ?_ hlt
        · intro j b hj hb
          by_cases hjk : j = k
          · subst hjk
            obtain rfl := Option.some.inj (hk.symm.trans hj)
            simp only [if_true, Option.mem_toList, hold, false_and, if_false]
            exact ⟨by simp [htransport],
              fun _ => ⟨rfl, rfl, hwait.1, by simpa [notified, hk] using hnot⟩,
              fun _ h => absurd htransport h, by simp [hattached], fun h => by cases h⟩
          · simp only [hjk, if_false]
            refine hother hjk ?_ (by simp) hb
            rw [htransport]
            exact fun h => hjk (Option.some.inj h).symm
        · intro j hj
          obtain rfl := Option.some.inj (htransport.symm.trans hj)
          exact ⟨by simp [hk], by simp [hattached]⟩
      · rw [hshut, List.append_assoc, List.drop_left]
        refine hs.map ?_ (by simp [htransport]) hlt
        intro j b hj hb
        by_cases hjk : j = k
        · subst hjk
          simp only [if_true, List.mem_append, List.mem_singleton, or_true, and_self]
          exact ⟨by simp [AgentStream.closeSocket, htransport], by simp [htransport],
            fun _ _ => Or.inl rfl, by simp [hattached, AgentStream.closeSocket],
            fun h => by cases h⟩
        · simp only [hjk, if_false]
          exact hother hjk (by simp [htransport]) (by simp [hjk]) hb

end Sound

/-! ### Who has reported its end -/

lemma notified_map {g : ConnId → AgentStream → AgentStream} {k : ConnId}
    (hg : ∀ a, (g k a).closeNotified = a.closeNotified) (s : Reactor) :
    (s.map g).notified k = s.notified k := by
  simp [notified, map, Function.comp_def, hg]

@[simp] lemma notified_call (f : Cloud → Cloud) (s : Reactor) (k : ConnId) :
    (s.call f).notified k = s.notified k := by
  refine notified_map ?_ { s with cloud := f s.cloud }
  intro a
  split_ifs <;> rfl

lemma notified_modify {k j : ConnId} {f : AgentStream → AgentStream}
    (hf : j = k → ∀ a, (f a).closeNotified = a.closeNotified) (s : Reactor) :
    (s.modify k f).notified j = s.notified j := by
  refine notified_map ?_ s
  intro a
  split_ifs with hj
  · exact hf hj a
  · rfl

@[simp] lemma notified_attach (k j : ConnId) (s : Reactor) :
    (s.attach k).notified j = s.notified j := by
  rcases hk : s.streams k with _ | a
  · simp only [attach, hk]
  · simp only [attach, hk]
    split_ifs
    · rfl
    · rw [notified_call, notified_modify]
      exact fun _ _ => rfl

/-- A stream that reports its end leaves the others alone. -/
lemma notified_notifyDisconnectOnce {k j : ConnId} (hj : j ≠ k) (s : Reactor) :
    (s.notifyDisconnectOnce k).notified j = s.notified j := by
  rcases hk : s.streams k with _ | a
  · simp only [notifyDisconnectOnce, hk]
  · simp only [notifyDisconnectOnce, hk]
    split_ifs
    · rfl
    · rw [notified_call, notified_modify (fun h => absurd h hj),
        notified_modify (fun h => absurd h hj)]
    · exact notified_modify (fun h => absurd h hj) s

/-- A stream that has reported its end is not the transport. -/
lemma transport_notifyDisconnectOnce {s : Reactor} (hs : s.Sound) (k : ConnId) :
    (s.notifyDisconnectOnce k).cloud.endpoint.transport ≠ some k := by
  rcases hk : s.streams k with _ | a
  · simp only [notifyDisconnectOnce, hk]
    intro h
    simpa [hk] using (hs.transport k h).1
  · have ha := hs.placed k a hk
    simp only [notifyDisconnectOnce, hk]
    split_ifs with hnot hadapter
    · intro h
      simpa [hnot] using (ha.current h).2.2.2
    · simp [call, closeSockets, modify]
    · exact fun h => hadapter (ha.adapter.mpr h)

/-! ### The callbacks -/

/-- What holds between two callbacks: no stream that has reported its end is left. -/
def Idle (s : Reactor) : Prop := s.Sound ∧ ∀ k, s.notified k = false

/-- What a callback of the stream `k` leaves behind: only `k` may have reported its end, and then it
does not want to go on. -/
def Steady (k : ConnId) (out : Reactor × Outcome) : Prop :=
  out.1.Sound ∧ ∀ j, j ≠ k ∨ out.2 ≠ .stop → out.1.notified j = false

namespace Idle

variable {s : Reactor}

lemma steady (hs : s.Idle) (k : ConnId) (o : Outcome) : Steady k (s, o) :=
  ⟨hs.1, fun j _ => hs.2 j⟩

lemma call (hs : s.Idle) {f : Cloud → Cloud} (hf : Cloud.Releases s.cloud (f s.cloud)) :
    (s.call f).Idle :=
  ⟨hs.1.call hf, fun k => by rw [notified_call, hs.2 k]⟩

/-- Bytes are taken into a buffer, or out of it. -/
lemma setRecvBuf (hs : s.Idle) (k : ConnId) (f : AgentStream → Bytes) :
    (s.modify k fun a => { a with recvBuf := f a }).Idle := by
  refine ⟨hs.1.modify ?_, ?_⟩
  · intro a _ ha
    exact ⟨ha.adapter, ha.current, ha.replaced, ha.attached, ha.waiting⟩
  · intro j
    rw [notified_modify, hs.2 j]
    exact fun _ _ => rfl

lemma notifyDisconnectOnce (hs : s.Idle) (k : ConnId) :
    Steady k (s.notifyDisconnectOnce k, .stop) := by
  refine ⟨hs.1.notifyDisconnectOnce k, ?_⟩
  intro j hj
  rw [notified_notifyDisconnectOnce (hj.resolve_right (by simp)), hs.2 j]

lemma feed (hs : s.Idle) (k : ConnId) (bytes : Bytes) : (s.feed k bytes).1.Idle :=
  hs.call (Cloud.releases_handle (e := .bytesReceived bytes) (by simp) s.cloud)

lemma feedInnerTls (k : ConnId) (tls : List (Option Bytes)) (hs : s.Idle) :
    Steady k (s.feedInnerTls k tls) := by
  fun_induction Reactor.feedInnerTls k tls s with
  | case1 s => exact hs.steady k _
  | case2 _ s => exact hs.notifyDisconnectOnce k
  | case3 _ s => exact hs.steady k _
  | case4 bytes rest s _ out hgo ih => exact ih (hs.feed k bytes)
  | case5 bytes rest s _ out hstop => exact (hs.feed k bytes).steady k _

lemma of_steady {k : ConnId} {out : Reactor × Outcome} (h : Steady k out) (hout : out.2 ≠ .stop) :
    out.1.Idle :=
  ⟨h.1, fun j => h.2 j (Or.inr hout)⟩

lemma drainFrames (k : ConnId) (n : ℕ) (tls : List (List (Option Bytes))) (hs : s.Idle) :
    Steady k (s.drainFrames k n tls) := by
  induction n generalizing tls s with
  | zero => exact hs.steady k _
  | succ n ih =>
    unfold Reactor.drainFrames
    split
    · exact hs.steady k _
    · split
      · exact hs.steady k _
      · exact hs.steady k _
      · rename_i a _ _ frame rest _
        have hrest := hs.setRecvBuf k fun _ => rest
        dsimp only
        generalize s.modify k _ = t at hrest ⊢
        have hout : Steady k (if a.innerTls then t.feedInnerTls k (tls.headD [])
            else t.feed k frame.payload) := by
          split_ifs
          · exact hrest.feedInnerTls k _
          · exact (hrest.feed k _).steady k _
        generalize (if a.innerTls then t.feedInnerTls k (tls.headD [])
          else t.feed k frame.payload) = out at hout ⊢
        split_ifs with hdata hgo hcontrol
        · exact ih _ (of_steady hout (by simp [hgo]))
        · exact hout
        · exact ih _ hrest
        · exact hrest.notifyDisconnectOnce k

lemma handleInput (k : ConnId) (chunk : Bytes) (tls : List (List (Option Bytes))) (hs : s.Idle) :
    Steady k (s.handleInput k chunk tls) := by
  unfold Reactor.handleInput
  split
  · exact hs.steady k _
  · split_ifs
    · exact hs.notifyDisconnectOnce k
    · exact (hs.setRecvBuf k fun a => a.recvBuf ++ chunk).drainFrames k _ tls

lemma handleTimeout (k : ConnId) (sent : Bool) (hs : s.Idle) :
    Steady k (s.handleTimeout k sent) := by
  unfold Reactor.handleTimeout
  split
  · exact hs.steady k _
  · split_ifs
    · exact hs.steady k _
    · exact hs.steady k _
    · exact hs.notifyDisconnectOnce k

end Idle

/-! ### Streams come and go -/

/-- A stream is deleted that is not the transport. -/
lemma Sound.delete {s : Reactor} (hs : s.Sound) {k : ConnId}
    (hk : s.cloud.endpoint.transport ≠ some k) :
    Sound { s with streams := Function.update s.streams k none } where
  placed j a ha := by
    have hjk : j ≠ k := by
      rintro rfl
      simp at ha
    exact hs.placed j a (by simpa [hjk] using ha)
  transport j hj := by
    have hjk : j ≠ k := by
      rintro rfl
      exact hk hj
    simpa [hjk] using hs.transport j hj
  fresh j hj := by
    by_cases hjk : j = k
    · simp [hjk]
    · simpa [hjk] using hs.fresh j hj
  attached_lt := hs.attached_lt

/-- A new stream is made. -/
lemma Sound.accept {s : Reactor} (hs : s.Sound) (innerTls : Bool) :
    (s.handle (.accept innerTls)).Sound where
  placed j a ha := by
    by_cases hj : j = s.accepted
    · subst hj
      have htransport : s.cloud.endpoint.transport ≠ some s.accepted := by
        intro h
        simpa [hs.fresh s.accepted le_rfl] using (hs.transport _ h).1
      have hattached : s.accepted ∉ s.cloud.trace.attached :=
        fun h => lt_irrefl _ (hs.attached_lt _ h)
      obtain rfl : ({ innerTls := innerTls } : AgentStream) = a := by simpa [handle] using ha
      exact ⟨by simpa [handle] using htransport, fun h => absurd h htransport, by simp,
        by simpa [handle] using hattached, fun _ => ⟨rfl, rfl, rfl⟩⟩
    · exact hs.placed j a (by simpa [handle, hj] using ha)
  transport j hj := by
    refine ⟨?_, (hs.transport j hj).2⟩
    by_cases hjs : j = s.accepted
    · simp [handle, hjs]
    · simpa [handle, hjs] using (hs.transport j hj).1
  fresh j hj := by
    have hjs : j ≠ s.accepted := (Nat.lt_of_succ_le hj).ne'
    simpa [handle, hjs] using hs.fresh j (Nat.le_of_succ_le hj)
  attached_lt j hj := Nat.lt_succ_of_lt (hs.attached_lt j hj)

/-- Once `attach` returns, the stream has attached. -/
lemma attached_attach {s : Reactor} {k : ConnId} {b : AgentStream}
    (hb : (s.attach k).streams k = some b) : b.attached = true := by
  rcases hk : s.streams k with _ | a
  · simp [attach, hk] at hb
  · simp only [attach, hk] at hb
    split_ifs at hb with hatt
    · rw [← Option.some.inj (hk.symm.trans hb), hatt]
    · rw [modify, call_map] at hb
      obtain ⟨c, -, rfl⟩ := of_streams_map hb
      split_ifs <;> simp_all [AgentStream.closeSocket]

namespace Idle

variable {s : Reactor}

lemma handleClose {k : ConnId} (hs : s.Sound) (hnot : ∀ j, j ≠ k → s.notified j = false) :
    (s.handleClose k).Idle := by
  refine ⟨(hs.notifyDisconnectOnce k).delete (transport_notifyDisconnectOnce hs k), ?_⟩
  intro j
  by_cases hj : j = k
  · simp [notified, Reactor.handleClose, hj]
  · rw [← hnot j hj, ← notified_notifyDisconnectOnce hj s]
    simp [notified, Reactor.handleClose, hj]

lemma closeOnStop {k : ConnId} {out : Reactor × Outcome} (h : Steady k out) :
    (closeOnStop k out).Idle := by
  unfold Reactor.closeOnStop
  split_ifs with hstop
  · exact handleClose h.1 fun j hj => h.2 j (Or.inl hj)
  · exact of_steady h hstop

lemma attach (hs : s.Idle) (k : ConnId) : (s.attach k).Idle :=
  ⟨hs.1.attach (hs.2 k), fun j => by rw [notified_attach, hs.2 j]⟩

lemma establish (hs : s.Idle) (k : ConnId) (handshake : Bool) (leftover : Bytes)
    (registers : Bool) : (s.establish k handshake leftover registers).Idle := by
  unfold Reactor.establish
  split
  · exact hs
  · dsimp only
    split_ifs
    · exact hs
    · exact handleClose hs.1 fun j _ => hs.2 j
    · have hattach := (hs.setRecvBuf k fun a => if a.innerTls then leftover else a.recvBuf).attach k
      refine ⟨hattach.1.modify ?_, ?_⟩
      · intro b hb hplaced
        have hatt := attached_attach hb
        exact ⟨hplaced.adapter, hplaced.current, hplaced.replaced, hplaced.attached,
          fun h => absurd (hatt.symm.trans h) (by simp)⟩
      · intro j
        rw [notified_modify, hattach.2 j]
        exact fun _ _ => rfl
    · have hattach := (hs.setRecvBuf k fun a => if a.innerTls then leftover else a.recvBuf).attach k
      exact handleClose hattach.1 fun j _ => hattach.2 j

lemma callback (hs : s.Idle) {k : ConnId} {ready : AgentStream → Bool} {f : Reactor → Reactor}
    (hf : (f s).Idle) : (s.callback k ready f).Idle := by
  unfold Reactor.callback
  split_ifs
  · exact hf
  · exact hs

lemma handle (hs : s.Idle) (e : Event) : (s.handle e).Idle := by
  cases e with
  | accept innerTls =>
    refine ⟨hs.1.accept innerTls, ?_⟩
    intro j
    by_cases hj : j = s.accepted
    · simp [notified, Reactor.handle, hj]
    · simpa [notified, Reactor.handle, hj] using hs.2 j
  | establish k handshake leftover registers => exact hs.establish k handshake leftover registers
  | input k chunk tls =>
    simp only [Reactor.handle]
    exact hs.callback (closeOnStop (hs.handleInput k chunk tls))
  | timeout k sent =>
    simp only [Reactor.handle]
    exact hs.callback (closeOnStop (hs.handleTimeout k sent))
  | close k => exact hs.callback (handleClose hs.1 fun j _ => hs.2 j)
  | browserUpgrade openMeta => exact hs.call (Cloud.releases_handle (by simp) _)
  | browserData b bytes => exact hs.call (Cloud.releases_handle (by simp) _)
  | browserClose b reason => exact hs.call (Cloud.releases_handle (by simp) _)
  | revoke payload => exact hs.call (Cloud.releases_handle (by simp) _)
  | tick => exact hs.call (Cloud.releases_handle (by simp) _)
  | advance seconds => exact hs.call (Cloud.releases_handle (by simp) _)

lemma setScript (hs : s.Idle) (script : Cloud.Script) : (s.setScript script).Idle :=
  ⟨hs.1.keep rfl rfl, hs.2⟩

lemma run (hs : s.Idle) (is : List Input) : (s.run is).Idle := by
  induction is generalizing s with
  | nil => exact hs
  | cons i is ih => exact ih ((hs.setScript i.2).handle i.1)

lemma init (cfg : CloudTunnelEndpoint.Config) (clock : Option ℤ)
    (connectedField : Bytes → Option Bool) : (init cfg clock connectedField).Idle := by
  refine ⟨⟨?_, ?_, fun _ _ => rfl, ?_⟩, fun _ => rfl⟩
  · intro k a ha
    cases ha
  · intro k hk
    cases hk
  · intro k hk
    cases hk

end Idle

/-! ### Streams that are not the transport -/

/-- The stream whose callback an event is. -/
def Event.caller : Event → Option ConnId
  | .input k _ _ => some k
  | .timeout k _ => some k
  | .close k     => some k
  | _            => none

/-- Nothing but the stream `k` changes. -/
def Spares (k : ConnId) (s t : Reactor) : Prop :=
  t.cloud = s.cloud ∧ ∀ j, j ≠ k → t.streams j = s.streams j

lemma Spares.refl (k : ConnId) (s : Reactor) : Spares k s s := ⟨rfl, fun _ _ => rfl⟩

section

variable {s : Reactor} {k : ConnId}

lemma spares_notifyDisconnectOnce (hs : s.Sound) (hk : s.cloud.endpoint.transport ≠ some k) :
    Spares k s (s.notifyDisconnectOnce k) := by
  rcases hstream : s.streams k with _ | a
  · simpa only [notifyDisconnectOnce, hstream] using Spares.refl k s
  · simp only [notifyDisconnectOnce, hstream]
    split_ifs with hnot hadapter
    · exact .refl k s
    · exact absurd ((hs.placed k a hstream).adapter.mp hadapter) hk
    · exact ⟨rfl, fun j hj => by simp [modify, map, hj]⟩

lemma spares_handleClose (hs : s.Sound) (hk : s.cloud.endpoint.transport ≠ some k) :
    Spares k s (s.handleClose k) := by
  obtain ⟨hcloud, hstreams⟩ := spares_notifyDisconnectOnce hs hk
  refine ⟨hcloud, ?_⟩
  intro j hj
  rw [← hstreams j hj]
  exact Function.update_of_ne hj _ _

/-- A stream that the reactor calls back has attached; if it is not the transport, its socket is
closed. -/
lemma handle_eq_false (hs : s.Idle) (hk : s.cloud.endpoint.transport ≠ some k) {a : AgentStream}
    (ha : s.streams k = some a) (hcalled : a.registered = true ∨ a.pingTimer = true) :
    a.handle = false := by
  have hplaced := hs.1.placed k a ha
  have hnot : a.closeNotified = false := by simpa [notified, ha] using hs.2 k
  have hatt : a.attached = true := by
    by_contra hatt
    have hwait := hplaced.waiting (Bool.eq_false_iff.mpr hatt)
    simp [hwait.2.1, hwait.2.2] at hcalled
  simpa [hnot] using hplaced.replaced hatt hk

/-- A callback that finds the socket closed, and ends the stream. -/
lemma spares_callback (hs : s.Idle) (hk : s.cloud.endpoint.transport ≠ some k)
    {ready : AgentStream → Bool} {f : Reactor → Reactor}
    (hready : ∀ a, ready a = true → a.registered = true ∨ a.pingTimer = true)
    (hf : ∀ a, s.streams k = some a → a.handle = false → Spares k s (f s)) :
    Spares k s (s.callback k ready f) := by
  unfold callback
  split_ifs with h
  · rcases ha : s.streams k with _ | a
    · simp [ha] at h
    · exact hf a ha (handle_eq_false hs hk ha (hready a (by simpa [ha] using h)))
  · exact .refl k s

/-- The callbacks of a stream that is not the transport. -/
lemma spares_handle (hs : s.Idle) (hk : s.cloud.endpoint.transport ≠ some k) {e : Event}
    (he : e.caller = some k) : Spares k s (s.handle e) := by
  have hclose : Spares k s ((s.notifyDisconnectOnce k).handleClose k) := by
    obtain ⟨hcloud, hstreams⟩ := spares_notifyDisconnectOnce hs.1 hk
    obtain ⟨hcloud', hstreams'⟩ := spares_handleClose (k := k) (hs.1.notifyDisconnectOnce k)
      (transport_notifyDisconnectOnce hs.1 k)
    exact ⟨hcloud'.trans hcloud, fun j hj => (hstreams' j hj).trans (hstreams j hj)⟩
  cases e with
  | input k' chunk tls =>
    obtain rfl : k' = k := Option.some.inj he
    refine spares_callback hs hk (fun _ => Or.inl) fun a ha hhandle => ?_
    simpa [handleInput, ha, hhandle, closeOnStop] using hclose
  | timeout k' sent =>
    obtain rfl : k' = k := Option.some.inj he
    refine spares_callback hs hk (fun _ => Or.inr) fun a ha hhandle => ?_
    simpa [handleTimeout, ha, hhandle, closeOnStop] using spares_handleClose hs.1 hk
  | close k' =>
    obtain rfl : k' = k := Option.some.inj he
    exact spares_callback hs hk (fun _ => Or.inl) fun _ _ _ => spares_handleClose hs.1 hk
  | accept _ | establish _ _ _ _ | browserUpgrade _ | browserData _ _ | browserClose _ _
  | revoke _ | tick | advance _ => cases he

/-- The transport is the last stream that attached and is still alive. -/
lemma Idle.transport_eq (hs : s.Idle) :
    s.cloud.endpoint.transport = s.cloud.trace.attached.reverse.find? s.alive := by
  rcases htransport : s.cloud.endpoint.transport with _ | k
  · symm
    rw [List.find?_eq_none]
    intro j hj
    rcases hstream : s.streams j with _ | a
    · simp [alive, hstream]
    · have hplaced := hs.1.placed j a hstream
      have hatt := hplaced.attached.mp (List.mem_reverse.mp hj)
      have hdead := hplaced.replaced hatt (by simp [htransport])
      simpa [alive, hstream, AgentStream.alive, imp_iff_not_or] using hdead
  · obtain ⟨hsome, hlast⟩ := hs.1.transport k htransport
    obtain ⟨a, ha⟩ := Option.isSome_iff_exists.mp hsome
    obtain ⟨-, -, hhandle, hnot⟩ := (hs.1.placed k a ha).current htransport
    obtain ⟨rest, hrest⟩ := List.getLast?_eq_some_iff.mp hlast
    rw [hrest, List.reverse_append, List.reverse_singleton, List.singleton_append,
      List.find?_cons_of_pos]
    simp [alive, ha, AgentStream.alive, hhandle, hnot]

end

/-- In every run, the endpoint's transport is the most recently attached stream that has not died.
No callback of any other stream, be it for bytes, the end of the socket, a timer or its close,
changes the endpoint, the bridge, the browsers or another stream. -/
theorem replaced_stays_out (cfg : CloudTunnelEndpoint.Config) (clock : Option ℤ)
    (connectedField : Bytes → Option Bool) (is : List Input) :
    let s := (init cfg clock connectedField).run is
    s.cloud.endpoint.transport = s.cloud.trace.attached.reverse.find? s.alive ∧
    ∀ (k : ConnId) (e : Event) (script : Cloud.Script),
      s.cloud.endpoint.transport ≠ some k → e.caller = some k →
      Spares k (s.setScript script) (s.step (e, script)) := by
  intro s
  have hs : s.Idle := (Idle.init cfg clock connectedField).run is
  refine ⟨hs.transport_eq, ?_⟩
  intro k e script hk he
  exact spares_handle (hs.setScript script) hk he

/-- A second agent attaches while the first is connected; then the first one's socket ends. -/
theorem replaced_stays_out_second_agent :
    let s := (init {} (some 0) fun _ => none).run
      [(.accept false, {}), (.establish 0 true [] true, {}), (.browserUpgrade [], {}),
        (.accept false, {}), (.establish 1 true [] true, {})]
    s.cloud.endpoint.transport = some 1 ∧ s.alive 1 = true ∧
    (s.streams 0).isSome = true ∧
    Spares 0 (s.setScript {}) (s.step (.input 0 [] [], {})) ∧
    (s.step (.input 0 [] [], {})).streams 0 = none := by
  refine ⟨by decide +kernel, by decide +kernel, by decide +kernel, ?_, by decide +kernel⟩
  exact (replaced_stays_out {} (some 0) (fun _ => none) _).2 0 (.input 0 [] []) {}
    (by decide +kernel) rfl

end Reactor
