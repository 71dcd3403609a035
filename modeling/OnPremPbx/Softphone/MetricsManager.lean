import OnPremPbx.Transition.Run

/-!
# The metrics of the mobile app

`MetricsManager` (`metricsManager.ts`) keeps the events that were tracked until the sink has taken
them. A batch is removed by its length when the sink's promise has resolved, and in the meantime the
buffer may have been cleared. An event is an object, known by its place among all that were ever
tracked; the fields from `tracked` on are read by no function.
-/

open Transition

structure MetricEvent (δ : Type) where
  id : String
  timestamp : ℤ
  type : String
  data : Option δ

structure MetricsManager (δ : Type) where
  /-- `config.enabled` -/
  enabled : Bool
  /-- `setSink` was called -/
  sink : Bool := false
  events : List ℕ := []
  flushing : Bool := false
  /-- the batches of the calls of `flush` that wait for the sink -/
  sending : List (List ℕ) := []
  tracked : List (MetricEvent δ) := []
  /-- the batches that the sink has accepted -/
  accepted : List (List ℕ) := []
  /-- what was in the buffer when it was cleared -/
  cleared : List ℕ := []

namespace MetricsManager

variable {δ : Type}

def flushThreshold : ℕ := 20

/-- `flush` up to its wait; the sink may throw instead of giving a promise. -/
def flush (raises : Bool) (s : MetricsManager δ) : MetricsManager δ :=
  if s.flushing ∨ s.sink = false ∨ s.events = [] ∨ raises then s
  else { s with flushing := true, sending := s.sending ++ [s.events] }

def trackEvent (event : MetricEvent δ) (raises : Bool) (s : MetricsManager δ) : MetricsManager δ :=
  if s.enabled then
    let s : MetricsManager δ :=
      { s with events := s.events ++ [s.tracked.length], tracked := s.tracked ++ [event] }
    if s.sink ∧ flushThreshold ≤ s.events.length then s.flush raises else s
  else s

/-- A call of `flush` goes on when the promise that it waits for has resolved. -/
def resolved (k : ℕ) (s : MetricsManager δ) : MetricsManager δ :=
  match s.sending[k]? with
  | none       => s
  | some batch =>
    { s with
      events := s.events.drop batch.length
      flushing := false
      sending := s.sending.eraseIdx k
      accepted := s.accepted ++ [batch] }

/-- Or when it was rejected. -/
def rejected (k : ℕ) (s : MetricsManager δ) : MetricsManager δ :=
  match s.sending[k]? with
  | none   => s
  | some _ => { s with flushing := false, sending := s.sending.eraseIdx k }

def clearMetrics (s : MetricsManager δ) : MetricsManager δ :=
  { s with events := [], cleared := s.cleared ++ s.events }

/-! ### Runs -/

inductive Input (δ : Type) where
  | track (event : MetricEvent δ) (raises : Bool)
  | setSink
  | flush (raises : Bool)
  | clear
  | resolved (k : ℕ)
  | rejected (k : ℕ)

def step (s : MetricsManager δ) : Input δ → MetricsManager δ
  | .track event raises => s.trackEvent event raises
  | .setSink            => { s with sink := true }
  | .flush raises       => s.flush raises
  | .clear              => s.clearMetrics
  | .resolved k         => s.resolved k
  | .rejected k         => s.rejected k

/-- The batches that the sink has accepted and that hold the event. -/
def timesAccepted (e : ℕ) (s : MetricsManager δ) : ℕ := s.accepted.countP (e ∈ ·)

/-- Each event that was not cleared is in the buffer or was accepted once. -/
structure Accounted (s : MetricsManager δ) : Prop where
  once : ∀ e < s.tracked.length, e ∉ s.cleared →
    e ∈ s.events ∧ s.timesAccepted e = 0 ∨ e ∉ s.events ∧ s.timesAccepted e = 1
  order : s.events.Pairwise (· < ·)

/-- A rejected batch leaves its events in the buffer, save those that were cleared. -/
def KeepsRejected (s : MetricsManager δ) : Input δ → Prop
  | .rejected k => ∀ batch ∈ s.sending[k]?, ∀ e ∈ batch, e ∉ s.cleared → e ∈ (s.rejected k).events
  | _           => True

/-- It leaves all of them there. -/
def KeepsAllRejected (s : MetricsManager δ) : Input δ → Prop
  | .rejected k => ∀ batch ∈ s.sending[k]?, ∀ e ∈ batch, e ∈ (s.rejected k).events
  | _           => True

def Kept (s : MetricsManager δ) (i : Input δ) : Prop := Accounted (s.step i) ∧ KeepsRejected s i

/-- A batch that is accepted still begins the buffer, or nothing was tracked after it was
cleared. -/
def AcceptsFront (s : MetricsManager δ) : Input δ → Prop
  | .resolved k => ∀ batch ∈ s.sending[k]?, batch <+: s.events ∨ s.events = []
  | _           => True

/-- A batch that is rejected still begins the buffer. -/
def RejectsFront (s : MetricsManager δ) : Input δ → Prop
  | .rejected k => ∀ batch ∈ s.sending[k]?, batch <+: s.events
  | _           => True

/-! ### The batch that is being sent -/

variable {s : MetricsManager δ} {e : ℕ} {batch : List ℕ}

/-- A batch that is being sent begins the buffer, or it was cleared. -/
structure Sent (s : MetricsManager δ) (batch : List ℕ) : Prop where
  nonempty : batch ≠ []
  tracked : ∀ e ∈ batch, e < s.tracked.length
  notAccepted : ∀ e ∈ batch, s.timesAccepted e = 0
  front : batch <+: s.events ∨ ∀ e ∈ batch, e ∈ s.cleared

/-- Where an event may be. -/
structure Inv (s : MetricsManager δ) : Prop where
  accounted : Accounted s
  tracked : ∀ e ∈ s.events, e < s.tracked.length
  notCleared : ∀ e ∈ s.events, e ∉ s.cleared
  notAccepted : ∀ e ∈ s.events, s.timesAccepted e = 0
  cleared : ∀ e ∈ s.cleared, e < s.tracked.length
  accepted : ∀ e, s.tracked.length ≤ e → s.timesAccepted e = 0
  sending : s.flushing = false ∧ s.sending = [] ∨
    s.flushing = true ∧ ∃ batch, s.sending = [batch] ∧ s.Sent batch

namespace Inv

lemma init (enabled : Bool) : Inv ({ enabled } : MetricsManager δ) where
  accounted := ⟨nofun, .nil⟩
  tracked := nofun
  notCleared := nofun
  notAccepted := nofun
  cleared := nofun
  accepted _ _ := rfl
  sending := .inl ⟨rfl, rfl⟩

lemma setSink (h : Inv s) : Inv { s with sink := true } where
  accounted := ⟨h.accounted.once, h.accounted.order⟩
  tracked := h.tracked
  notCleared := h.notCleared
  notAccepted := h.notAccepted
  cleared := h.cleared
  accepted := h.accepted
  sending := h.sending.imp_right fun ⟨hflushing, batch, hsending, hsent⟩ =>
    ⟨hflushing, batch, hsending, hsent.nonempty, hsent.tracked, hsent.notAccepted, hsent.front⟩

lemma flush (h : Inv s) (raises : Bool) : Inv (s.flush raises) := by
  rw [MetricsManager.flush]
  split_ifs with hnot
  · exact h
  · simp only [not_or] at hnot
    obtain ⟨hflushing, -, hnonempty, -⟩ := hnot
    have hsending : s.sending = [] := by
      obtain ⟨-, hsending⟩ | ⟨htrue, -⟩ := h.sending
      · exact hsending
      · exact absurd htrue hflushing
    constructor
    case accounted => exact ⟨h.accounted.once, h.accounted.order⟩
    case tracked => exact h.tracked
    case notCleared => exact h.notCleared
    case notAccepted => exact h.notAccepted
    case cleared => exact h.cleared
    case accepted => exact h.accepted
    case sending =>
      refine .inr ⟨rfl, s.events, ?_, hnonempty, h.tracked, h.notAccepted, .inl List.prefix_rfl⟩
      dsimp only
      rw [hsending, List.nil_append]

/-- The new event is behind all others. -/
lemma push (h : Inv s) (event : MetricEvent δ) :
    Inv { s with events := s.events ++ [s.tracked.length], tracked := s.tracked ++ [event] } := by
  have hnew : s.tracked.length ∉ s.cleared := fun hmem => (h.cleared _ hmem).false
  constructor
  case accounted =>
    constructor
    case once =>
      intro e he hcleared
      rw [List.length_append, List.length_singleton, Nat.lt_succ_iff_lt_or_eq] at he
      obtain he | rfl := he
      · obtain ⟨hmem, htimes⟩ | ⟨hmem, htimes⟩ := h.accounted.once e he hcleared
        · exact .inl ⟨List.mem_append_left _ hmem, htimes⟩
        · refine .inr ⟨fun hconcat => ?_, htimes⟩
          obtain hold | hlast := List.mem_append.mp hconcat
          · exact hmem hold
          · exact he.ne (List.mem_singleton.mp hlast)
      · exact .inl ⟨List.mem_append_right _ List.mem_cons_self, h.accepted _ le_rfl⟩
    case order =>
      refine List.pairwise_append.mpr ⟨h.accounted.order, List.pairwise_singleton _ _, ?_⟩
      intro e he n hn
      rw [List.mem_singleton.mp hn]
      exact h.tracked e he
  case tracked =>
    intro e he
    rw [List.length_append, List.length_singleton]
    obtain he | he := List.mem_append.mp he
    · exact (h.tracked e he).trans (Nat.lt_succ_self _)
    · exact (List.mem_singleton.mp he).symm ▸ Nat.lt_succ_self _
  case notCleared =>
    intro e he
    obtain he | he := List.mem_append.mp he
    · exact h.notCleared e he
    · exact (List.mem_singleton.mp he).symm ▸ hnew
  case notAccepted =>
    intro e he
    obtain he | he := List.mem_append.mp he
    · exact h.notAccepted e he
    · exact (List.mem_singleton.mp he).symm ▸ h.accepted _ le_rfl
  case cleared =>
    intro e he
    rw [List.length_append]
    exact Nat.lt_add_right _ (h.cleared e he)
  case accepted =>
    intro e he
    rw [List.length_append] at he
    exact h.accepted e ((Nat.le_add_right _ _).trans he)
  case sending =>
    refine h.sending.imp_right fun ⟨hflushing, batch, hsending, hsent⟩ =>
      ⟨hflushing, batch, hsending, hsent.nonempty, ?_, hsent.notAccepted, ?_⟩
    · intro e he
      rw [List.length_append]
      exact Nat.lt_add_right _ (hsent.tracked e he)
    · exact hsent.front.imp_left fun hfront => hfront.trans (List.prefix_append _ _)

lemma trackEvent (h : Inv s) (event : MetricEvent δ) (raises : Bool) :
    Inv (s.trackEvent event raises) := by
  rw [MetricsManager.trackEvent]
  dsimp only
  split_ifs
  · exact (h.push event).flush raises
  · exact h.push event
  · exact h

lemma clearMetrics (h : Inv s) : Inv s.clearMetrics := by
  constructor
  case accounted =>
    refine ⟨fun e he hcleared => ?_, .nil⟩
    rw [MetricsManager.clearMetrics, List.mem_append, not_or] at hcleared
    obtain ⟨hmem, -⟩ | ⟨-, htimes⟩ := h.accounted.once e he hcleared.1
    · exact absurd hmem hcleared.2
    · exact .inr ⟨List.not_mem_nil, htimes⟩
  case tracked => nofun
  case notCleared => nofun
  case notAccepted => nofun
  case cleared =>
    intro e he
    obtain he | he := List.mem_append.mp he
    · exact h.cleared e he
    · exact h.tracked e he
  case accepted => exact h.accepted
  case sending =>
    refine h.sending.imp_right fun ⟨hflushing, batch, hsending, hsent⟩ =>
      ⟨hflushing, batch, hsending, hsent.nonempty, hsent.tracked, hsent.notAccepted, .inr ?_⟩
    intro e he
    obtain hfront | hcleared := hsent.front
    · exact List.mem_append_right _ (hfront.subset he)
    · exact List.mem_append_left _ (hcleared e he)

/-- No more than one batch is being sent. -/
lemma sent (h : Inv s) {k : ℕ} (hk : s.sending[k]? = some batch) :
    s.sending.eraseIdx k = [] ∧ s.Sent batch := by
  obtain ⟨-, hnone⟩ | ⟨-, only, honly, hsent⟩ := h.sending
  · rw [hnone] at hk
    cases hk
  · rw [honly] at hk ⊢
    cases k with
    | zero =>
      rw [List.getElem?_cons_zero, Option.some.injEq] at hk
      exact ⟨rfl, hk ▸ hsent⟩
    | succ k => cases hk

lemma rejected (h : Inv s) (k : ℕ) : Inv (s.rejected k) := by
  rw [MetricsManager.rejected]
  cases hk : s.sending[k]? with
  | none => exact h
  | some batch =>
    exact ⟨⟨h.accounted.once, h.accounted.order⟩, h.tracked, h.notCleared, h.notAccepted, h.cleared,
      h.accepted, .inl ⟨rfl, (h.sent hk).1⟩⟩

end Inv

lemma timesAccepted_resolved {k : ℕ} (hk : s.sending[k]? = some batch) (e : ℕ) :
    (s.resolved k).timesAccepted e = s.timesAccepted e + if e ∈ batch then 1 else 0 := by
  rw [resolved, hk, timesAccepted, timesAccepted, List.countP_append, List.countP_singleton]
  simp

/-- What begins the buffer is taken out of it, and nothing else. -/
lemma mem_drop_iff (h : Inv s) (hfront : batch <+: s.events ∨ s.events = []) :
    e ∈ s.events.drop batch.length ↔ e ∈ s.events ∧ e ∉ batch := by
  obtain ⟨rest, hrest⟩ | hnil := hfront
  · have hnodup : (batch ++ rest).Nodup := hrest ▸ h.accounted.order.imp Nat.ne_of_lt
    have hdisjoint := List.disjoint_of_nodup_append hnodup
    rw [← hrest, List.drop_left, List.mem_append]
    exact ⟨fun hmem => ⟨.inr hmem, fun hbatch => hdisjoint hbatch hmem⟩,
      fun ⟨hmem, hbatch⟩ => hmem.resolve_left hbatch⟩
  · rw [hnil, List.drop_nil]
    exact ⟨nofun, fun hmem => hmem.1⟩

/-- The batch that is being sent is in the buffer, but for what was cleared. -/
lemma Sent.mem_events (hsent : s.Sent batch) (he : e ∈ batch) (hcleared : e ∉ s.cleared) :
    e ∈ s.events := by
  obtain hfront | hall := hsent.front
  · exact hfront.subset he
  · exact absurd (hall e he) hcleared

lemma Inv.resolved (h : Inv s) {k : ℕ} (hfront : s.AcceptsFront (.resolved k)) :
    Inv (s.resolved k) := by
  cases hk : s.sending[k]? with
  | none =>
    rw [MetricsManager.resolved, hk]
    exact h
  | some batch =>
    obtain ⟨hsending, hsent⟩ := h.sent hk
    have htimes := timesAccepted_resolved hk
    have hmem : ∀ e, e ∈ (s.resolved k).events ↔ e ∈ s.events ∧ e ∉ batch := by
      intro e
      rw [MetricsManager.resolved, hk]
      exact mem_drop_iff h (hfront batch hk)
    have hsame : (s.resolved k).tracked = s.tracked ∧ (s.resolved k).cleared = s.cleared := by
      rw [MetricsManager.resolved, hk]
      exact ⟨rfl, rfl⟩
    constructor
    case accounted =>
      constructor
      case once =>
        intro e he hcleared
        rw [hsame.1] at he
        rw [hsame.2] at hcleared
        rw [hmem, htimes]
        obtain ⟨hin, hzero⟩ | ⟨hout, hone⟩ := h.accounted.once e he hcleared
        · by_cases hbatch : e ∈ batch
          · exact .inr ⟨fun hboth => hboth.2 hbatch, by rw [if_pos hbatch, hzero]⟩
          · exact .inl ⟨⟨hin, hbatch⟩, by rw [if_neg hbatch, hzero]⟩
        · have hbatch : e ∉ batch := fun hbatch => hout (hsent.mem_events hbatch hcleared)
          exact .inr ⟨fun hboth => hout hboth.1, by rw [if_neg hbatch, hone]⟩
      case order =>
        rw [MetricsManager.resolved, hk]
        exact h.accounted.order.sublist (List.drop_sublist _ _)
    case tracked =>
      intro e he
      rw [hsame.1]
      exact h.tracked e ((hmem e).mp he).1
    case notCleared =>
      intro e he
      rw [hsame.2]
      exact h.notCleared e ((hmem e).mp he).1
    case notAccepted =>
      intro e he
      obtain ⟨hin, hbatch⟩ := (hmem e).mp he
      rw [htimes, if_neg hbatch, h.notAccepted e hin]
    case cleared =>
      rw [hsame.1, hsame.2]
      exact h.cleared
    case accepted =>
      intro e he
      rw [hsame.1] at he
      have hbatch : e ∉ batch := fun hbatch => (hsent.tracked e hbatch).not_ge he
      rw [htimes, if_neg hbatch, h.accepted e he]
    case sending =>
      rw [MetricsManager.resolved, hk]
      exact .inl ⟨rfl, hsending⟩

/-- Otherwise an event that was never sent is taken out. -/
lemma not_accounted_resolved (h : Inv s) {k : ℕ} (hk : s.sending[k]? = some batch)
    (hfront : ¬ (batch <+: s.events ∨ s.events = [])) : ¬ Accounted (s.resolved k) := by
  intro haccounted
  obtain ⟨-, hsent⟩ := h.sent hk
  rw [not_or] at hfront
  obtain ⟨e, rest, hevents⟩ := List.exists_cons_of_ne_nil hfront.2
  have hin : e ∈ s.events := hevents ▸ List.mem_cons_self
  have hbatch : e ∉ batch :=
    fun hbatch => h.notCleared e hin ((hsent.front.resolve_left hfront.1) e hbatch)
  have htimes : (s.resolved k).timesAccepted e = 0 := by
    rw [timesAccepted_resolved hk, if_neg hbatch, h.notAccepted e hin]
  have hout : e ∉ (s.resolved k).events := by
    obtain ⟨b, bs, rfl⟩ := List.exists_cons_of_ne_nil hsent.nonempty
    have horder := h.accounted.order
    rw [hevents, List.pairwise_cons] at horder
    rw [resolved, hk]
    dsimp only
    rw [hevents, List.length_cons, List.drop_succ_cons]
    exact fun hmem => (horder.1 e (List.mem_of_mem_drop hmem)).false
  have hsame : (s.resolved k).tracked = s.tracked ∧ (s.resolved k).cleared = s.cleared := by
    rw [resolved, hk]
    exact ⟨rfl, rfl⟩
  obtain ⟨hmem, -⟩ | ⟨-, hone⟩ := haccounted.once e (hsame.1 ▸ h.tracked e hin)
    (hsame.2 ▸ h.notCleared e hin)
  · exact hout hmem
  · rw [htimes] at hone
    cases hone

/-! ### Steps and runs -/

lemma events_rejected (k : ℕ) : (s.rejected k).events = s.events := by
  rw [rejected]
  split <;> rfl

lemma Inv.step (h : Inv s) {i : Input δ} (hfront : s.AcceptsFront i) : Inv (s.step i) := by
  cases i with
  | track event raises => exact h.trackEvent event raises
  | setSink => exact h.setSink
  | flush raises => exact h.flush raises
  | clear => exact h.clearMetrics
  | resolved k => exact h.resolved hfront
  | rejected k => exact h.rejected k

lemma Inv.keepsRejected (h : Inv s) (i : Input δ) : s.KeepsRejected i := by
  cases i with
  | rejected k =>
    intro batch hk e he hcleared
    rw [events_rejected]
    exact (h.sent hk).2.mem_events he hcleared
  | track event raises | setSink | flush raises | clear | resolved k => trivial

lemma Inv.kept_iff (h : Inv s) (i : Input δ) : s.Kept i ↔ s.AcceptsFront i := by
  refine ⟨fun hkept => ?_, fun hfront => ⟨(h.step hfront).accounted, h.keepsRejected i⟩⟩
  cases i with
  | resolved k =>
    intro batch hk
    by_contra hfront
    exact not_accounted_resolved h hk hfront hkept.1
  | track event raises | setSink | flush raises | clear | rejected k => trivial

lemma Inv.keepsAllRejected_iff (h : Inv s) (i : Input δ) :
    s.KeepsAllRejected i ↔ s.RejectsFront i := by
  cases i with
  | rejected k =>
    rw [KeepsAllRejected, RejectsFront, events_rejected]
    refine forall_congr' fun batch => forall_congr' fun hk => ?_
    have hsent := (h.sent hk).2
    refine ⟨fun hall => hsent.front.resolve_right fun hcleared => ?_, fun hfront => hfront.subset⟩
    obtain ⟨e, rest, rfl⟩ := List.exists_cons_of_ne_nil hsent.nonempty
    exact h.notCleared e (hall e List.mem_cons_self) (hcleared e List.mem_cons_self)
  | track event raises | setSink | flush raises | clear | resolved k => exact Iff.rfl

/-- No event is lost or sent twice if and only if each batch that is accepted still begins the
buffer, or nothing was tracked after it was cleared. A rejected batch leaves its events in the
buffer, if they were not cleared; it leaves all of them there if and only if it still begins the
buffer. -/
theorem run_kept_iff (enabled : Bool) (is : List (Input δ)) :
    (Along step Kept { enabled } is ↔ Along step AcceptsFront { enabled } is) ∧
    (Along step (fun s i => Kept s i ∧ KeepsAllRejected s i) { enabled } is ↔
      Along step (fun s i => AcceptsFront s i ∧ RejectsFront s i) { enabled } is) := by
  have hpossible : Along step (fun _ _ => True) ({ enabled } : MetricsManager δ) is :=
    .of_forall (fun _ _ _ => trivial) _
  constructor
  · exact Along.congr (fun s i h _ hfront => h.step hfront) (fun s i h _ => h.kept_iff i) hpossible
      (Inv.init enabled)
  · exact Along.congr (fun s i h _ hfront => h.step hfront.1)
      (fun s i h _ => and_congr (h.kept_iff i) (h.keepsAllRejected_iff i)) hpossible
      (Inv.init enabled)

/-- The buffer is cleared while a batch of one event is being sent, and another event comes. -/
theorem event_lost : ¬ Along step Kept ({ enabled := true } : MetricsManager Unit)
    [.setSink, .track ⟨"metric_1", 0, "user_login", none⟩ false, .flush false, .clear,
      .track ⟨"metric_2", 1, "user_logout", none⟩ false, .resolved 0] := by
  rintro ⟨-, -, -, -, -, ⟨⟨hkept, -⟩, -⟩, -⟩
  have hlost := hkept 1 (by decide) (by decide)
  revert hlost
  decide

end MetricsManager
