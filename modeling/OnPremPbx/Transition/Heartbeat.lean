import OnPremPbx.Transition.Run

/-!
# Heartbeats

A `Monitor` watches a connection that is lost and set up again from time to time. At a tick an
interval or more after its last heartbeat it sends the next one, unless `missed` of them have gone
out since it last heard from the peer: then it gives the connection up.

`Monitor.Step` says what a step of such a monitor can do. From it follow both directions: a
connection is given up only after silence, and silence ends in its loss.
-/

namespace Heartbeat

/-- The state of a monitor: whether the connection is up, the time now, when the last heartbeat
went out, how many went out since the peer was heard, the number of losses, and when the peer was
heard on this connection. -/
structure Monitor where
  up : Bool
  now : ℤ
  last : ℤ
  sent : ℤ
  losses : ℕ
  heard : List ℤ

/-- What drives a step. -/
inductive Kind where
  | tick
  | hear
  | other
  deriving DecidableEq, Repr

namespace Monitor

/-- A connection just set up. -/
def Armed (m : Monitor) : Prop := m.last = m.now ∧ m.sent = 0 ∧ m.heard = []

/-- The heartbeat is due, and too many went unanswered: the next tick gives the connection up. -/
def Expired (interval missed : ℤ) (m : Monitor) : Prop :=
  m.up = true ∧ interval ≤ m.now - m.last ∧ missed ≤ m.sent

/-- One step of a monitor. -/
inductive Step (interval missed : ℤ) : Kind → Monitor → Monitor → Prop where
  /-- the connection is lost, and perhaps set up again at once -/
  | lost {m m' : Monitor} {k : Kind} (hlosses : m.losses < m'.losses) (hnow : m'.now = m.now)
      (harmed : m'.up = true → m'.Armed) : Step interval missed k m m'
  | connects {m m' : Monitor} {k : Kind} (hdown : m.up = false) (hlosses : m'.losses = m.losses)
      (hnow : m'.now = m.now) (harmed : m'.Armed) : Step interval missed k m m'
  | down {m m' : Monitor} {k : Kind} (hdown : m.up = false) (hdown' : m'.up = false)
      (hlosses : m'.losses = m.losses) (hnow : m.now ≤ m'.now) : Step interval missed k m m'
  | waits {m : Monitor} (t : ℤ) (hnow : m.now ≤ t) :
      Step interval missed .other m { m with now := t }
  | hears {m : Monitor} :
      Step interval missed .hear m { m with sent := 0, heard := m.heard ++ [m.now] }
  | rests {m : Monitor} (hearly : m.now - m.last < interval) : Step interval missed .tick m m
  | beats {m : Monitor} (hdue : interval ≤ m.now - m.last) (hsent : m.sent < missed) :
      Step interval missed .tick m { m with sent := m.sent + 1, last := m.now }

variable {interval missed : ℤ} {m m' : Monitor} {k : Kind}

lemma Step.losses_le (h : Step interval missed k m m') : m.losses ≤ m'.losses := by
  cases h with
  | lost hlosses hnow harmed => exact hlosses.le
  | connects hdown hlosses hnow harmed => exact hlosses.ge
  | down hdown hdown' hlosses hnow => exact hlosses.ge
  | waits t hnow | hears | rests hearly | beats hdue hsent => exact le_rfl

/-- What a step in which the peer is not heard can do to a connection that is up. -/
lemma Step.cases_of_up (h : Step interval missed k m m') (hup : m.up = true) (hk : k ≠ .hear) :
    m.losses < m'.losses ∨
    (k = .other ∧ ∃ t, m.now ≤ t ∧ m' = { m with now := t }) ∨
    (k = .tick ∧ m.now - m.last < interval ∧ m' = m) ∨
    (k = .tick ∧ m' = { m with sent := m.sent + 1, last := m.now }) := by
  cases h with
  | lost hlosses hnow harmed => exact Or.inl hlosses
  | connects hdown hlosses hnow harmed => simp [hup] at hdown
  | down hdown hdown' hlosses hnow => simp [hup] at hdown
  | waits t hnow => exact Or.inr (Or.inl ⟨rfl, t, hnow, rfl⟩)
  | hears => exact absurd rfl hk
  | rests hearly => exact Or.inr (Or.inr (Or.inl ⟨rfl, hearly, rfl⟩))
  | beats hdue hsent => exact Or.inr (Or.inr (Or.inr ⟨rfl, rfl⟩))

/-- While the connection is up, the peer was last heard at least one interval before the last
heartbeat for each heartbeat but the first that went out since. -/
structure Sound (interval missed : ℤ) (m : Monitor) : Prop where
  last_le : m.up = true → m.last ≤ m.now
  sent_nonneg : m.up = true → 0 ≤ m.sent
  sent_le : m.up = true → m.sent ≤ missed
  heard_le : m.up = true → ∀ r ∈ m.heard, r ≤ m.now
  heard_before : m.up = true → 1 ≤ m.sent → ∀ r ∈ m.heard, r + (m.sent - 1) * interval ≤ m.last

lemma Armed.sound (h : m.Armed) (hmissed : 0 ≤ missed) : Sound interval missed m where
  last_le _ := h.1.le
  sent_nonneg _ := h.2.1.ge
  sent_le _ := h.2.1.trans_le hmissed
  heard_le _ := by simp [h.2.2]
  heard_before _ := by simp [h.2.2]

lemma sound_of_down (h : m.up = false) : Sound interval missed m where
  last_le hup := by simp [h] at hup
  sent_nonneg hup := by simp [h] at hup
  sent_le hup := by simp [h] at hup
  heard_le hup := by simp [h] at hup
  heard_before hup := by simp [h] at hup

/-- Every step keeps the invariant. -/
lemma Sound.step (hm : Sound interval missed m) (hmissed : 0 ≤ missed)
    (h : Step interval missed k m m') : Sound interval missed m' := by
  cases h with
  | lost hlosses hnow harmed =>
    cases hup : m'.up with
    | false => exact sound_of_down hup
    | true => exact (harmed hup).sound hmissed
  | connects hdown hlosses hnow harmed => exact harmed.sound hmissed
  | down hdown hdown' hlosses hnow => exact sound_of_down hdown'
  | waits t hnow =>
    exact ⟨fun hup => (hm.last_le hup).trans hnow, hm.sent_nonneg, hm.sent_le,
      fun hup r hr => (hm.heard_le hup r hr).trans hnow, hm.heard_before⟩
  | hears =>
    refine ⟨hm.last_le, fun _ => le_rfl, fun _ => hmissed, ?_, by simp⟩
    intro hup r hr
    obtain hr | hr := List.mem_append.mp hr
    · exact hm.heard_le hup r hr
    · exact (List.mem_singleton.mp hr).le
  | rests hearly => exact hm
  | beats hdue hsent =>
    refine ⟨fun _ => le_rfl, ?_, fun _ => hsent, hm.heard_le, ?_⟩
    · intro hup
      exact (hm.sent_nonneg hup).trans (by simp)
    · intro hup _ r hr
      rw [add_sub_cancel_right]
      -- the first heartbeat since `r` goes out after `r`, each later one an interval later
      obtain hfirst | hlater := (hm.sent_nonneg hup).eq_or_lt
      · simpa [← hfirst] using hm.heard_le hup r hr
      · have hbefore := hm.heard_before hup hlater r hr
        have hexpand : (m.sent - 1) * interval = m.sent * interval - interval := by ring
        simp only
        linarith

/-- A connection is given up only after silence: whatever was heard on it was heard `missed`
intervals ago or earlier. -/
theorem Sound.silent_of_expired (hm : Sound interval missed m) (hmissed : 1 ≤ missed)
    (hexp : m.Expired interval missed) : ∀ r ∈ m.heard, r + missed * interval ≤ m.now := by
  intro r hr
  obtain ⟨hup, hdue, hmax⟩ := hexp
  have heq : m.sent = missed := le_antisymm (hm.sent_le hup) hmax
  have hbefore := hm.heard_before hup (hmissed.trans hmax) r hr
  have hexpand : (m.sent - 1) * interval = missed * interval - interval := by rw [heq]; ring
  linarith

end Monitor

/-! ### Silence ends in a loss -/

section Runs

variable {σ ι : Type*} {step : σ → ι → σ} (view : σ → Monitor) (kind : ι → Kind)

/-- The times of the ticks of a run. -/
def tickTimes (step : σ → ι → σ) : σ → List ι → List ℤ
  | _, []      => []
  | s, i :: is =>
    if kind i = .tick then (view s).now :: tickTimes step (step s i) is
    else tickTimes step (step s i) is

variable {view kind} {interval missed : ℤ} {C : σ → Prop}
  (hC : ∀ s i, C s → C (step s i))
  (hstep : ∀ s i, C s → Monitor.Step interval missed (kind i) (view s) (view (step s i)))

include hC hstep

lemma run_sound (hmissed : 0 ≤ missed) {s : σ} (hs : C s)
    (hsound : (view s).Sound interval missed) (is : List ι) :
    (view (is.foldl step s)).Sound interval missed :=
  (Transition.run_invariant (P := fun t => C t ∧ (view t).Sound interval missed)
    (fun t i h => ⟨hC t i h.1, h.2.step hmissed (hstep t i h.1)⟩) ⟨hs, hsound⟩ is).2

lemma run_losses_le {s : σ} (hs : C s) (is : List ι) :
    (view s).losses ≤ (view (is.foldl step s)).losses :=
  (Transition.run_invariant (P := fun t => C t ∧ (view s).losses ≤ (view t).losses)
    (fun t i h => ⟨hC t i h.1, h.2.trans (hstep t i h.1).losses_le⟩) ⟨hs, le_rfl⟩ is).2

/-- With `j` ticks at good distance behind, the last of them at `τ`, at least `j` heartbeats are
unanswered, and if it is no more than `j` the last one is not younger than `τ`. So `missed + 1`
such ticks cannot all pass without a loss. -/
lemma lost_of_silent_aux (hmissed : 0 ≤ missed) (is : List ι) (hquiet : ∀ i ∈ is, kind i ≠ .hear)
    {s : σ} (hs : C s) (hup : (view s).up = true) (hsound : (view s).Sound interval missed)
    {j : ℕ} {τ : ℤ} (hj : (j : ℤ) ≤ (view s).sent)
    (hτ : (view s).sent = j → (view s).last ≤ τ) {τs : List ℤ}
    (hsub : τs.Sublist (tickTimes view kind step s is))
    (hchain : List.IsChain (fun a b => a + interval ≤ b) (τ :: τs))
    (hlen : missed < j + τs.length) :
    (view s).losses < (view (is.foldl step s)).losses := by
  induction is generalizing s j τ τs with
  | nil =>
    have hnil : τs = [] := List.sublist_nil.mp hsub
    have hle := hsound.sent_le hup
    simp only [hnil, List.length_nil, Nat.cast_zero, add_zero] at hlen
    omega
  | cons i is ih =>
    have hquiet' : ∀ i' ∈ is, kind i' ≠ .hear :=
      fun i' hi' => hquiet i' (List.mem_cons_of_mem _ hi')
    have hi := hquiet i List.mem_cons_self
    have hmono := run_losses_le hC hstep (hC s i hs) is
    have hsound' := hsound.step hmissed (hstep s i hs)
    have hcons : ∀ (j' : ℕ) (τ' : ℤ) (τs' : List ℤ),
        (view (step s i)).losses = (view s).losses → (view (step s i)).up = true →
        (j' : ℤ) ≤ (view (step s i)).sent →
        ((view (step s i)).sent = j' → (view (step s i)).last ≤ τ') →
        τs'.Sublist (tickTimes view kind step (step s i) is) →
        List.IsChain (fun a b => a + interval ≤ b) (τ' :: τs') → missed < j' + τs'.length →
        (view s).losses < (view ((i :: is).foldl step s)).losses := by
      intro j' τ' τs' hlosses hup' hj' hτ' hsub' hchain' hlen'
      rw [← hlosses]
      exact ih hquiet' (hC s i hs) hup' hsound' hj' hτ' hsub' hchain' hlen'
    obtain hlost | ⟨hk, t, ht, hm'⟩ | ⟨hk, hearly, hm'⟩ | ⟨hk, hm'⟩ :=
      (hstep s i hs).cases_of_up hup hi
    · exact hlost.trans_le hmono
    · have hsub' : τs.Sublist (tickTimes view kind step (step s i) is) := by
        simpa [tickTimes, hk] using hsub
      exact hcons j τ τs (by rw [hm']) (by rwa [hm']) (by rwa [hm']) (by rwa [hm']) hsub' hchain
        hlen
    · rw [tickTimes, if_pos hk] at hsub
      obtain hsub' | ⟨τs', rfl, hsub'⟩ := List.sublist_cons_iff.mp hsub
      · exact hcons j τ τs (by rw [hm']) (by rwa [hm']) (by rwa [hm']) (by rwa [hm']) hsub' hchain
          hlen
      · -- no heartbeat was due at this tick, so one went out since the last tick that counts
        obtain ⟨hgap, hchain'⟩ := List.isChain_cons_cons.mp hchain
        have hmore : (j : ℤ) + 1 ≤ (view s).sent := by
          by_contra hcon
          have := hτ (by omega)
          omega
        refine hcons (j + 1) _ τs' (by rw [hm']) (by rwa [hm']) (by rw [hm']; exact_mod_cast hmore)
          (fun _ => ?_) hsub' hchain' (by simp only [List.length_cons] at hlen; push_cast; omega)
        rw [hm']
        exact hsound.last_le hup
    · rw [tickTimes, if_pos hk] at hsub
      obtain hsub' | ⟨τs', rfl, hsub'⟩ := List.sublist_cons_iff.mp hsub
      · refine hcons j τ τs (by rw [hm']) (by rwa [hm']) (by rw [hm']; simp only; omega)
          (fun heq => ?_) hsub' hchain hlen
        rw [hm'] at heq
        simp only at heq
        omega
      · obtain ⟨-, hchain'⟩ := List.isChain_cons_cons.mp hchain
        refine hcons (j + 1) _ τs' (by rw [hm']) (by rwa [hm']) (by rw [hm']; push_cast; omega)
          (fun _ => by rw [hm']) hsub' hchain'
          (by simp only [List.length_cons] at hlen; push_cast; omega)

/-- If the peer is not heard and there are ticks at `missed + 1` instants, the first an interval
or more after the start and each later one an interval or more after the one before, then the
connection is lost by the last of them. -/
theorem lost_of_silent (hmissed : 0 ≤ missed) {is : List ι} (hquiet : ∀ i ∈ is, kind i ≠ .hear)
    {s : σ} (hs : C s) (hup : (view s).up = true) (hsound : (view s).Sound interval missed)
    {τs : List ℤ} (hsub : τs.Sublist (tickTimes view kind step s is))
    (hchain : List.IsChain (fun a b => a + interval ≤ b) ((view s).now :: τs))
    (hlen : (τs.length : ℤ) = missed + 1) :
    (view s).losses < (view (is.foldl step s)).losses :=
  lost_of_silent_aux hC hstep hmissed is hquiet hs hup hsound (j := 0)
    (hsound.sent_nonneg hup) (fun _ => hsound.last_le hup) hsub hchain (by simp [hlen])

end Runs

end Heartbeat
