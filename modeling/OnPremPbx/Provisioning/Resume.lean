import OnPremPbx.Provisioning.Watcher
import OnPremPbx.Transition.Run

/-!
# Cursors that fail

The cursor of the watcher can fail, and a new one can be refused. `SubscriberWatcher` then asks for
a cursor that goes on after the last event it has handled, or for one from now on if there is none
(`open_stream` and `tick`, `subscriber_watcher.cpp`). `Feed` is the watcher with the log of the
server, and events are lost where a cursor from now on leaves some out.
-/

open Transition

namespace SubscriberWatcher

variable {σ : Type*}

/-! ### A token that the server rejects -/

/-- The watcher after `n` ticks. The database can answer in another way at each. -/
def ticks (dbs : ℕ → ChangeStreams σ) (w : SubscriberWatcher σ) : ℕ → SubscriberWatcher σ
  | 0     => w
  | n + 1 => (ticks dbs w n).tick (dbs n)

lemma tick_of_rejected {db : ChangeStreams σ} {w : SubscriberWatcher σ} (hstream : w.stream = none)
    (hdb : db.watchCollection w.resumeToken = none) :
    (w.tick db).stream = none ∧ (w.tick db).resumeToken = w.resumeToken := by
  simp only [tick, hstream, openStream, hdb]
  split_ifs <;> exact ⟨rfl, rfl⟩

/-- While the token is rejected there is no cursor, and the token stays. -/
lemma ticks_of_rejected (dbs : ℕ → ChangeStreams σ) {w : SubscriberWatcher σ}
    (hstream : w.stream = none) (hdbs : ∀ n, (dbs n).watchCollection w.resumeToken = none) (n : ℕ) :
    (ticks dbs w n).stream = none ∧ (ticks dbs w n).resumeToken = w.resumeToken := by
  induction n with
  | zero => exact ⟨hstream, rfl⟩
  | succ n ih =>
    obtain ⟨hstream', htoken⟩ := ih
    have hdb : (dbs n).watchCollection (ticks dbs w n).resumeToken = none := by
      rw [htoken]
      exact hdbs n
    have hstep := tick_of_rejected hstream' hdb
    exact ⟨hstep.1, hstep.2.trans htoken⟩

/-- The ticks that are skipped come to an end. -/
lemma ticks_of_skip {dbs : ℕ → ChangeStreams σ} {w : SubscriberWatcher σ}
    (hstream : w.stream = none) {n : ℕ} (hn : n ≤ w.reopenSkipTicks) :
    ticks dbs w n = { w with reopenSkipTicks := w.reopenSkipTicks - n } := by
  induction n with
  | zero => rfl
  | succ n ih =>
    rw [ticks, ih (by omega), tick, hstream]
    simp only [if_pos (show 0 < w.reopenSkipTicks - n by omega)]
    rw [Nat.sub_sub]

/-- Where the server accepts no cursor with the token that is stored but one without, the watcher
comes to a cursor exactly if it has one already or no token. -/
theorem reopens_iff (dbs : ℕ → ChangeStreams σ) (w : SubscriberWatcher σ)
    (hreject : ∀ n token, w.resumeToken = some token →
      (dbs n).watchCollection (some token) = none)
    (haccept : ∀ n, ((dbs n).watchCollection none).isSome) :
    (∃ n, (ticks dbs w n).stream.isSome) ↔ w.stream.isSome ∨ w.resumeToken = none := by
  constructor
  · rintro ⟨n, hopen⟩
    by_contra hno
    obtain ⟨hstream, htoken⟩ := not_or.mp hno
    obtain ⟨token, htoken⟩ := Option.ne_none_iff_exists'.mp htoken
    have hclosed := ticks_of_rejected dbs (Option.not_isSome_iff_eq_none.mp hstream)
      (fun n => by rw [htoken]; exact hreject n token htoken) n
    rw [hclosed.1] at hopen
    cases hopen
  · intro h
    by_cases hstream : w.stream.isSome
    · exact ⟨0, hstream⟩
    · have htoken := h.resolve_left hstream
      have hnone := Option.not_isSome_iff_eq_none.mp hstream
      refine ⟨w.reopenSkipTicks + 1, ?_⟩
      rw [ticks, ticks_of_skip hnone le_rfl]
      have hopen := haccept w.reopenSkipTicks
      simp only [tick, hnone, openStream, htoken, Nat.sub_self, lt_irrefl, if_false,
        Option.isNone_eq_false_iff.mpr hopen, Bool.false_eq_true]
      exact hopen

/-- A server where every token is too old. -/
def agedOut : ChangeStreams ℕ where
  watchCollection
    | none   => some 0
    | some _ => none
  tryNext cursor := some (none, cursor)

theorem reopens_iff_agedOut :
    (∃ n, (ticks (fun _ => agedOut) { societyId := "s", resumeToken := some 0 } n).stream.isSome) ↔
      (none : Option ℕ).isSome ∨ some 0 = (none : Option ResumeToken) :=
  reopens_iff (fun _ => agedOut) { societyId := "s", resumeToken := some 0 }
    (by intro n token h; rfl) (by intro n; rfl)

/-- A token that is too old is sent again for ever. -/
theorem aged_out_token_kept :
    ¬ ∃ n,
      (ticks (fun _ => agedOut) { societyId := "s", resumeToken := some 0 } n).stream.isSome := by
  rintro ⟨n, hopen⟩
  have hclosed := ticks_of_rejected (fun _ => agedOut)
    (w := { societyId := "s", resumeToken := some 0 }) rfl (fun _ => rfl) n
  rw [hclosed.1] at hopen
  cases hopen

/-! ### What the cursor and the token depend on -/

lemma sync_frame (d : Subscriber) (w : SubscriberWatcher σ) :
    (w.sync d).stream = w.stream ∧ (w.sync d).resumeToken = w.resumeToken ∧
      (w.sync d).reopenSkipTicks = w.reopenSkipTicks ∧ (w.sync d).applied = w.applied := by
  rw [sync]
  split_ifs <;> exact ⟨rfl, rfl, rfl, rfl⟩

lemma runFullScan_frame (rows : List Subscriber) (w : SubscriberWatcher σ) :
    (w.runFullScan rows).stream = w.stream ∧ (w.runFullScan rows).resumeToken = w.resumeToken ∧
      (w.runFullScan rows).applied = w.applied := by
  induction rows generalizing w with
  | nil => exact ⟨rfl, rfl, rfl⟩
  | cons row rows ih =>
    obtain ⟨hstream, htoken, -, happlied⟩ := sync_frame row w
    obtain ⟨hstream', htoken', happlied'⟩ := ih (w.sync row)
    exact ⟨hstream'.trans hstream, htoken'.trans htoken, happlied'.trans happlied⟩

lemma handleEvent_frame (e : ChangeEvent) (w : SubscriberWatcher σ) :
    (w.handleEvent e).stream = w.stream ∧
      (w.handleEvent e).resumeToken = e.resumeToken.or w.resumeToken ∧
      (w.handleEvent e).reopenSkipTicks = w.reopenSkipTicks ∧
      (w.handleEvent e).applied = w.applied ++ [e] := by
  simp only [handleEvent, handleDelete]
  split_ifs
  · split
    · exact ⟨rfl, rfl, rfl, rfl⟩
    · split <;> exact ⟨rfl, rfl, rfl, rfl⟩
  · split
    · exact ⟨rfl, rfl, rfl, rfl⟩
    · split_ifs
      · exact sync_frame _ _
      · exact ⟨rfl, rfl, rfl, rfl⟩

end SubscriberWatcher

/-! ### The log of the server -/

/-- The watcher after the scan of its bootstrap, and the events that were committed after the
snapshot of the scan. -/
structure Feed where
  log : List ChangeEvent := []
  /-- the bootstrap is over -/
  opened : Bool := false
  watcher : SubscriberWatcher ℕ

inductive FeedInput where
  /-- a write to the collection -/
  | commit (e : ChangeEvent)
  /-- the end of the bootstrap, with the database up or not -/
  | openStream (up : Bool)
  | tick (up : Bool)

namespace Feed

variable {s : Feed}

/-- The server with this log. A cursor is the position that it reads at, and the token of an event
is its position. -/
def server (log : List ChangeEvent) (up : Bool) : ChangeStreams ℕ where
  watchCollection token :=
    if up then
      match token with
      | none   => some log.length
      | some t => some (t + 1)
    else none
  tryNext cursor :=
    if up then
      match log[cursor]? with
      | none   => some (none, cursor)
      | some e => some (some e, cursor + 1)
    else none

def step (s : Feed) : FeedInput → Feed
  | .commit e      => { s with log := s.log ++ [{ e with resumeToken := some s.log.length }] }
  | .openStream up =>
    if s.opened then s
    else { s with opened := true, watcher := s.watcher.openStream (server s.log up) }
  | .tick up       =>
    if s.opened then { s with watcher := s.watcher.tick (server s.log up) } else s

/-- The bootstrap with its scan done. -/
def bootstrapped (societyId : String) (rows : List Subscriber) : Feed where
  watcher := ({ societyId := societyId } : SubscriberWatcher ℕ).runFullScan rows

/-- Nothing more is committed and nothing fails: the bootstrap ends if it has not, and `n` ticks
follow. -/
def caughtUp (s : Feed) (n : ℕ) : Feed :=
  (List.replicate n (.tick true)).foldl step (s.step (.openStream true))

/-- What the watcher has applied is a part of the log from its begin on, and it is all of the log
once the watcher has had the time to read it. -/
def Applies (s : Feed) : Prop :=
  s.watcher.applied <+: s.log ∧
    ∃ enough, ∀ n ≥ enough, (s.caughtUp n).watcher.applied = s.log

/-- An event is committed only while there is a cursor or a token, and a cursor without a token
fails only with no event to read. -/
def Ok (s : Feed) : FeedInput → Prop
  | .commit _     => s.watcher.stream ≠ none ∨ s.watcher.resumeToken ≠ none
  | .openStream _ => True
  | .tick up      =>
    up = true ∨ s.watcher.resumeToken ≠ none ∨ ∀ pos ∈ s.watcher.stream, s.log.length ≤ pos

/-! ### Where the watcher reads -/

/-- The position that the watcher reads at next. Without a cursor and without a token it is the end
of the log. -/
def next (s : Feed) : ℕ :=
  match s.watcher.stream, s.watcher.resumeToken with
  | some pos, _      => pos
  | none,     some t => t + 1
  | none,     none   => s.log.length

/-- The events that are left out before those that the watcher applies. -/
def missed (s : Feed) : ℕ := s.next - s.watcher.applied.length

structure Inv (s : Feed) : Prop where
  tokens : ∀ (pos : ℕ) (e : ChangeEvent), s.log[pos]? = some e → e.resumeToken = some pos
  not_opened : s.opened = false → s.watcher.stream = none
  applied_nil : s.watcher.resumeToken = none → s.watcher.applied = []
  after_token : ∀ t ∈ s.watcher.resumeToken, s.next = t + 1
  next_le : s.next ≤ s.log.length
  applied_le : s.watcher.applied.length ≤ s.next
  applied_eq : s.log.take s.next = s.log.take s.missed ++ s.watcher.applied

/-- The position and the log do not change. -/
lemma Inv.of_same {s t : Feed} (hs : s.Inv) (hlog : t.log = s.log)
    (happlied : t.watcher.applied = s.watcher.applied)
    (htoken : t.watcher.resumeToken = s.watcher.resumeToken) (hnext : t.next = s.next)
    (hopened : t.opened = false → t.watcher.stream = none) : t.Inv ∧ t.missed = s.missed := by
  have hmissed : t.missed = s.missed := by rw [missed, missed, hnext, happlied]
  constructor
  · constructor
    · rw [hlog]
      exact hs.tokens
    · exact hopened
    · rw [htoken, happlied]
      exact hs.applied_nil
    · rw [htoken, hnext]
      exact hs.after_token
    · rw [hnext, hlog]
      exact hs.next_le
    · rw [happlied, hnext]
      exact hs.applied_le
    · rw [hlog, hnext, hmissed, happlied]
      exact hs.applied_eq
  · exact hmissed

/-- The watcher has applied nothing and will begin at the end of the log. -/
lemma inv_of_fresh {s : Feed}
    (htokens : ∀ (pos : ℕ) (e : ChangeEvent), s.log[pos]? = some e → e.resumeToken = some pos)
    (hstream : s.watcher.stream = none) (htoken : s.watcher.resumeToken = none)
    (happlied : s.watcher.applied = []) : s.Inv ∧ s.missed = s.log.length := by
  have hnext : s.next = s.log.length := by simp only [next, hstream, htoken]
  have hmissed : s.missed = s.log.length := by rw [missed, hnext, happlied, List.length_nil]; rfl
  constructor
  · constructor
    · exact htokens
    · intro _
      exact hstream
    · intro _
      exact happlied
    · intro t ht
      rw [htoken] at ht
      cases ht
    · exact hnext.le
    · rw [happlied]
      exact Nat.zero_le _
    · rw [hnext, hmissed, happlied, List.append_nil]
  · exact hmissed

lemma inv_bootstrapped (societyId : String) (rows : List Subscriber) :
    (bootstrapped societyId rows).Inv ∧ (bootstrapped societyId rows).missed = 0 := by
  obtain ⟨hstream, htoken, happlied⟩ :=
    SubscriberWatcher.runFullScan_frame rows ({ societyId := societyId } : SubscriberWatcher ℕ)
  apply inv_of_fresh
  · intro pos e he
    cases he
  · exact hstream
  · exact htoken
  · exact happlied

lemma Inv.missed_le (hs : s.Inv) : s.missed ≤ s.log.length :=
  (Nat.sub_le _ _).trans hs.next_le

lemma next_of_stream {pos : ℕ} (h : s.watcher.stream = some pos) : s.next = pos := by
  simp only [next, h]

lemma next_of_none (hstream : s.watcher.stream = none) (htoken : s.watcher.resumeToken = none) :
    s.next = s.log.length := by simp only [next, hstream, htoken]

lemma tokens_commit (hs : s.Inv) (e : ChangeEvent) (pos : ℕ) (e' : ChangeEvent)
    (h : (s.log ++ [{ e with resumeToken := some s.log.length }])[pos]? = some e') :
    e'.resumeToken = some pos := by
  obtain hlt | hlt | hlt := lt_trichotomy pos s.log.length
  · rw [List.getElem?_append_left hlt] at h
    exact hs.tokens pos e' h
  · rw [hlt, List.getElem?_concat_length] at h
    cases h
    rw [hlt]
  · rw [List.getElem?_eq_none (by rw [List.length_append]; exact hlt)] at h
    cases h

/-- A cursor that is opened reads on where the watcher is. -/
lemma watchCollection_server (hs : s.Inv) (hstream : s.watcher.stream = none) :
    (server s.log true).watchCollection s.watcher.resumeToken = some s.next := by
  rcases htoken : s.watcher.resumeToken with _ | t
  · rw [next_of_none hstream htoken]
    rfl
  · rw [hs.after_token t htoken]
    rfl

/-- What a tick does. -/
inductive Tick (s : Feed) : Bool → SubscriberWatcher ℕ → Prop where
  | skip {up : Bool} (hstream : s.watcher.stream = none) (hskip : 0 < s.watcher.reopenSkipTicks) :
    Tick s up { s.watcher with reopenSkipTicks := s.watcher.reopenSkipTicks - 1 }
  | reopen (hstream : s.watcher.stream = none) (hskip : s.watcher.reopenSkipTicks = 0) :
    Tick s true { s.watcher with stream := some s.next }
  | refused (hstream : s.watcher.stream = none) (hskip : s.watcher.reopenSkipTicks = 0) :
    Tick s false { s.watcher with reopenSkipTicks := SubscriberWatcher.kReopenSkipTicks }
  | fails {pos : ℕ} (hstream : s.watcher.stream = some pos) :
    Tick s false { s.watcher with stream := none, reopenSkipTicks := 0 }
  | idle {pos : ℕ} (hstream : s.watcher.stream = some pos) (hlog : s.log[pos]? = none) :
    Tick s true s.watcher
  | event {pos : ℕ} {e : ChangeEvent} (hstream : s.watcher.stream = some pos)
      (hlog : s.log[pos]? = some e) :
    Tick s true ({ s.watcher with stream := some (pos + 1) }.handleEvent e)

lemma Tick.of_tick (hs : s.Inv) (up : Bool) : Tick s up (s.watcher.tick (server s.log up)) := by
  rcases hstream : s.watcher.stream with _ | pos
  · by_cases hskip : 0 < s.watcher.reopenSkipTicks
    · simp only [SubscriberWatcher.tick, hstream, if_pos hskip]
      rw [← hstream]
      exact Tick.skip hstream hskip
    · have hzero : s.watcher.reopenSkipTicks = 0 := by omega
      cases up with
      | true =>
        simp only [SubscriberWatcher.tick, hstream, if_neg hskip, SubscriberWatcher.openStream,
          watchCollection_server hs hstream, Option.isNone_some, Bool.false_eq_true, if_false]
        exact Tick.reopen hstream hzero
      | false =>
        have hrefused : (server s.log false).watchCollection s.watcher.resumeToken = none := rfl
        simp only [SubscriberWatcher.tick, hstream, if_neg hskip, SubscriberWatcher.openStream,
          hrefused, Option.isNone_none, if_true]
        rw [← hstream]
        exact Tick.refused hstream hzero
  · cases up with
    | true =>
      rcases hlog : s.log[pos]? with _ | e
      · have hidle : (server s.log true).tryNext pos = some (none, pos) := by
          simp only [server, hlog, if_true]
        simp only [SubscriberWatcher.tick, hstream, hidle]
        rw [← hstream]
        exact Tick.idle hstream hlog
      · have hevent : (server s.log true).tryNext pos = some (some e, pos + 1) := by
          simp only [server, hlog, if_true]
        simp only [SubscriberWatcher.tick, hstream, hevent]
        exact Tick.event hstream hlog
    | false =>
      have hfails : (server s.log false).tryNext pos = none := rfl
      simp only [SubscriberWatcher.tick, hstream, hfails]
      exact Tick.fails hstream

def withWatcher (s : Feed) (w : SubscriberWatcher ℕ) : Feed := { s with watcher := w }

/-- The invariant is kept, and events are left out exactly if the condition does not hold. -/
def Keeps (s t : Feed) (ok : Prop) : Prop :=
  t.Inv ∧ s.missed ≤ t.missed ∧ (t.missed = s.missed ↔ ok)

lemma Keeps.of_eq {t : Feed} {ok : Prop} (h : t.Inv ∧ t.missed = s.missed) (hok : ok) :
    Keeps s t ok := ⟨h.1, h.2.ge, iff_of_true h.2 hok⟩

/-- An event that is committed is left out if there is neither a cursor nor a token. -/
lemma keeps_commit (hs : s.Inv) (e : ChangeEvent) :
    Keeps s (s.step (.commit e)) (s.Ok (.commit e)) := by
  by_cases hok : s.Ok (.commit e)
  · have hnext : (s.step (.commit e)).next = s.next := by
      rcases hstream : s.watcher.stream with _ | pos
      · rcases htoken : s.watcher.resumeToken with _ | t
        · exact absurd hstream (hok.resolve_right (not_not_intro htoken))
        · simp only [next, step, hstream, htoken]
      · simp only [next, step, hstream]
    have hmissed : (s.step (.commit e)).missed = s.missed := by rw [missed, hnext]; rfl
    have htake : ∀ n ≤ s.log.length, (s.step (.commit e)).log.take n = s.log.take n := by
      intro n hn
      exact List.take_append_of_le_length hn
    refine Keeps.of_eq ⟨?_, hmissed⟩ hok
    constructor
    · exact tokens_commit hs e
    · exact hs.not_opened
    · exact hs.applied_nil
    · rw [hnext]
      exact hs.after_token
    · rw [hnext, step, List.length_append]
      exact hs.next_le.trans (Nat.le_add_right _ _)
    · rw [hnext]
      exact hs.applied_le
    · rw [hnext, hmissed, htake _ hs.next_le, htake _ hs.missed_le]
      exact hs.applied_eq
  · obtain ⟨hstream, htoken⟩ := not_or.mp hok
    obtain ⟨hinv, hmissed⟩ := inv_of_fresh (s := s.step (.commit e)) (tokens_commit hs e)
      (not_not.mp hstream) (not_not.mp htoken) (hs.applied_nil (not_not.mp htoken))
    have hlen : (s.step (.commit e)).log.length = s.log.length + 1 := List.length_append
    have hle := hs.missed_le
    rw [Keeps, hmissed, hlen]
    refine ⟨hinv, by omega, iff_of_false (by omega) hok⟩

/-- An event that is read is the next one of the log. -/
lemma inv_event (hs : s.Inv) (hopened : s.opened = true) {pos : ℕ} {e : ChangeEvent}
    (hstream : s.watcher.stream = some pos) (hlog : s.log[pos]? = some e) :
    (s.withWatcher ({ s.watcher with stream := some (pos + 1) }.handleEvent e)).Inv ∧
      (s.withWatcher ({ s.watcher with stream := some (pos + 1) }.handleEvent e)).missed =
        s.missed := by
  obtain ⟨hstream', htoken', -, happlied'⟩ :=
    SubscriberWatcher.handleEvent_frame e { s.watcher with stream := some (pos + 1) }
  rw [hs.tokens pos e hlog, Option.some_or] at htoken'
  have hnext := next_of_stream hstream
  have hle := hs.applied_le
  have hnext' : (s.withWatcher ({ s.watcher with stream := some (pos + 1) }.handleEvent e)).next =
      pos + 1 := next_of_stream hstream'
  have hlen : ({ s.watcher with stream := some (pos + 1) }.handleEvent e).applied.length =
      s.watcher.applied.length + 1 := by rw [happlied', List.length_append]; rfl
  have hmissed : (s.withWatcher
      ({ s.watcher with stream := some (pos + 1) }.handleEvent e)).missed = s.missed := by
    rw [missed, missed, hnext', hnext, withWatcher, hlen, Nat.add_sub_add_right]
  constructor
  · constructor
    · exact hs.tokens
    · intro h
      rw [withWatcher, hopened] at h
      cases h
    · intro h
      rw [withWatcher, htoken'] at h
      cases h
    · intro t ht
      rw [withWatcher, htoken'] at ht
      rw [hnext', Option.some.inj ht]
    · rw [hnext']
      exact (List.getElem?_eq_some_iff.mp hlog).1
    · rw [hnext', withWatcher, hlen, ← hnext]
      exact Nat.succ_le_succ hle
    · rw [hnext', hmissed, withWatcher, happlied', ← List.append_assoc, ← hs.applied_eq, hnext,
        List.take_add_one, hlog]
      rfl
  · exact hmissed

/-- The events that a cursor without a token has to read are left out if it fails. -/
lemma keeps_fails (hs : s.Inv) {pos : ℕ} (hstream : s.watcher.stream = some pos) :
    Keeps s (s.withWatcher { s.watcher with stream := none, reopenSkipTicks := 0 })
      (s.Ok (.tick false)) := by
  have hnext := next_of_stream hstream
  have hle := hs.next_le
  rcases htoken : s.watcher.resumeToken with _ | t
  · obtain ⟨hinv, hmissed⟩ := inv_of_fresh
      (s := s.withWatcher { s.watcher with stream := none, reopenSkipTicks := 0 })
      hs.tokens rfl htoken (hs.applied_nil htoken)
    have hpos : s.missed = pos := by
      rw [missed, hs.applied_nil htoken, hnext]
      rfl
    have hlen : (s.withWatcher
        { s.watcher with stream := none, reopenSkipTicks := 0 }).log.length = s.log.length := rfl
    rw [Keeps, hmissed, hpos, hlen]
    refine ⟨hinv, by omega, ?_⟩
    constructor
    · intro hall
      refine Or.inr (Or.inr ?_)
      intro pos' hpos'
      rw [hstream] at hpos'
      cases hpos'
      exact hall.le
    · intro hok
      have hall := (hok.resolve_left (by decide)).resolve_left (not_not_intro htoken) pos hstream
      omega
  · apply Keeps.of_eq
    · refine hs.of_same rfl rfl rfl ?_ (by intro _; rfl)
      have hnext' := hs.after_token t htoken
      simp only [next, withWatcher, htoken] at hnext' ⊢
      exact hnext'.symm
    · exact Or.inr (Or.inl (by rw [htoken]; exact Option.some_ne_none t))

lemma Tick.keeps (hs : s.Inv) (hopened : s.opened = true) {up : Bool} {w : SubscriberWatcher ℕ}
    (h : Tick s up w) : Keeps s (s.withWatcher w) (s.Ok (.tick up)) := by
  have hnot : s.opened = false → w.stream = none := by
    intro h
    rw [hopened] at h
    cases h
  have hnone : s.watcher.stream = none → s.Ok (.tick up) := by
    intro hstream
    refine Or.inr (Or.inr ?_)
    intro pos hpos
    rw [hstream] at hpos
    cases hpos
  cases h with
  | skip hstream hskip => exact Keeps.of_eq (hs.of_same rfl rfl rfl rfl hnot) (hnone hstream)
  | reopen hstream hskip => exact Keeps.of_eq (hs.of_same rfl rfl rfl rfl hnot) (hnone hstream)
  | refused hstream hskip => exact Keeps.of_eq (hs.of_same rfl rfl rfl rfl hnot) (hnone hstream)
  | fails hstream => exact keeps_fails hs hstream
  | idle hstream hlog => exact Keeps.of_eq ⟨hs, rfl⟩ (Or.inl rfl)
  | event hstream hlog => exact Keeps.of_eq (inv_event hs hopened hstream hlog) (Or.inl rfl)

/-- What one input does: no position is read twice, and events are left out exactly if the condition
does not hold. -/
lemma keeps_step (hs : s.Inv) (i : FeedInput) : Keeps s (s.step i) (s.Ok i) := by
  cases i with
  | commit e => exact keeps_commit hs e
  | openStream up =>
    by_cases hopened : s.opened = true
    · rw [step, if_pos hopened]
      exact Keeps.of_eq ⟨hs, rfl⟩ trivial
    · have hstream := hs.not_opened (Bool.eq_false_iff.mpr hopened)
      rw [step, if_neg hopened]
      refine Keeps.of_eq (hs.of_same rfl rfl rfl ?_ (by intro h; cases h)) trivial
      cases up with
      | true =>
        apply next_of_stream
        exact watchCollection_server hs hstream
      | false =>
        simp only [next, SubscriberWatcher.openStream, hstream]
        rfl
  | tick up =>
    by_cases hopened : s.opened = true
    · rw [step, if_pos hopened]
      exact (Tick.of_tick hs up).keeps hs hopened
    · have hstream := hs.not_opened (Bool.eq_false_iff.mpr hopened)
      rw [step, if_neg hopened]
      refine Keeps.of_eq ⟨hs, rfl⟩ (Or.inr (Or.inr ?_))
      intro pos hpos
      rw [hstream] at hpos
      cases hpos

/-- In a run, events are left out exactly if the condition fails at some step. -/
lemma keeps_run (hs : s.Inv) (is : List FeedInput) :
    Keeps s (is.foldl step s) (Along step Ok s is) := by
  induction is generalizing s with
  | nil => exact Keeps.of_eq ⟨hs, rfl⟩ trivial
  | cons i is ih =>
    obtain ⟨hinv, hle, hiff⟩ := keeps_step hs i
    obtain ⟨hinv', hle', hiff'⟩ := ih hinv
    refine ⟨hinv', hle.trans hle', ?_⟩
    rw [Along, ← hiff, ← hiff', List.foldl_cons]
    omega

/-! ### The watcher catches up -/

/-- The ticks that the watcher needs to have read all of the log. -/
def toRead (s : Feed) : ℕ :=
  (if s.watcher.stream.isNone then s.watcher.reopenSkipTicks + 1 else 0) + (s.log.length - s.next)

lemma Tick.toRead {w : SubscriberWatcher ℕ} (h : Tick s true w) :
    (s.withWatcher w).toRead = s.toRead - 1 := by
  cases h with
  | skip hstream hskip =>
    have hnext : (s.withWatcher { s.watcher with
        reopenSkipTicks := s.watcher.reopenSkipTicks - 1 }).next = s.next := rfl
    simp only [Feed.toRead, hnext]
    simp only [withWatcher, hstream, Option.isNone_none, if_true]
    omega
  | reopen hstream hskip =>
    have hnext : (s.withWatcher { s.watcher with stream := some s.next }).next = s.next := rfl
    simp only [Feed.toRead, hnext]
    simp only [withWatcher, hstream, hskip, Option.isNone_none, Option.isNone_some, if_true,
      Bool.false_eq_true, if_false]
    omega
  | idle hstream hlog =>
    have hlen := List.getElem?_eq_none_iff.mp hlog
    have hzero : s.toRead = 0 := by
      rw [Feed.toRead, next_of_stream hstream, hstream, Nat.sub_eq_zero_of_le hlen]
      rfl
    rw [hzero]
    exact hzero
  | @event pos e hstream hlog =>
    obtain ⟨hstream', -⟩ :=
      SubscriberWatcher.handleEvent_frame e { s.watcher with stream := some (pos + 1) }
    rw [Feed.toRead, Feed.toRead, next_of_stream hstream, hstream, withWatcher,
      next_of_stream hstream', hstream']
    simp only [Option.isNone_some, Bool.false_eq_true, if_false]
    omega

lemma opened_of_ticks (hopened : s.opened = true) (n : ℕ) :
    ((List.replicate n (.tick true)).foldl step s).opened = true ∧
      ((List.replicate n (.tick true)).foldl step s).log = s.log := by
  induction n generalizing s with
  | zero => exact ⟨hopened, rfl⟩
  | succ n ih =>
    rw [List.replicate_succ, List.foldl_cons, step, if_pos hopened]
    exact ih hopened

lemma toRead_ticks (hs : s.Inv) (hopened : s.opened = true) (n : ℕ) :
    ((List.replicate n (.tick true)).foldl step s).toRead = s.toRead - n := by
  induction n generalizing s with
  | zero => rfl
  | succ n ih =>
    have htick := Tick.of_tick hs true
    rw [List.replicate_succ, List.foldl_cons, step, if_pos hopened]
    have hrest := ih (htick.keeps hs hopened).1 hopened
    rw [htick.toRead] at hrest
    rw [Nat.add_comm n 1, ← Nat.sub_sub]
    exact hrest

/-- With all of the log read, what was applied is the log without what was left out. -/
lemma applied_of_toRead (hs : s.Inv) (h : s.toRead = 0) :
    s.watcher.applied = s.log.drop s.missed := by
  have hnext : s.next = s.log.length := by
    have hle := hs.next_le
    rw [toRead] at h
    omega
  have happlied := hs.applied_eq
  rw [hnext, List.take_length] at happlied
  conv_rhs => rw [happlied]
  rw [List.drop_left' (List.length_take_of_le hs.missed_le)]

lemma along_ok_caughtUp (n : ℕ) :
    Along step Ok s (.openStream true :: List.replicate n (.tick true)) := by
  apply Along.of_forall
  intro i hi s
  obtain rfl | hi := List.mem_cons.mp hi
  · trivial
  · rw [List.eq_of_mem_replicate hi]
    exact Or.inl rfl

lemma applied_caughtUp (hs : s.Inv) :
    ∃ enough, ∀ n ≥ enough, (s.caughtUp n).watcher.applied = s.log.drop s.missed := by
  refine ⟨(s.step (.openStream true)).toRead, ?_⟩
  intro n hn
  obtain ⟨hinv, -, hmissed⟩ := keeps_run hs (.openStream true :: List.replicate n (.tick true))
  have hopened : (s.step (.openStream true)).opened = true ∧
      (s.step (.openStream true)).log = s.log := by
    rw [step]
    split_ifs with hopened
    · exact ⟨hopened, rfl⟩
    · exact ⟨rfl, rfl⟩
  have hread := toRead_ticks (keeps_step hs (.openStream true)).1 hopened.1 n
  rw [Nat.sub_eq_zero_of_le hn] at hread
  have hkept := hmissed.mpr (along_ok_caughtUp n)
  rw [List.foldl_cons] at hinv hkept
  rw [caughtUp, applied_of_toRead hinv hread, (opened_of_ticks hopened.1 n).2, hopened.2, hkept]

lemma applies_iff_missed (hs : s.Inv) : s.Applies ↔ s.missed = 0 := by
  obtain ⟨enough, hcaught⟩ := applied_caughtUp hs
  constructor
  · rintro ⟨-, enough', hall⟩
    have heq := (hcaught (max enough enough') (le_max_left _ _)).symm.trans
      (hall (max enough enough') (le_max_right _ _))
    have hlen := congrArg List.length heq
    have hle := hs.missed_le
    rw [List.length_drop] at hlen
    omega
  · intro hmissed
    constructor
    · have happlied := hs.applied_eq
      rw [hmissed, List.take_zero, List.nil_append] at happlied
      rw [← happlied]
      exact List.take_prefix _ _
    · refine ⟨enough, ?_⟩
      intro n hn
      rw [hcaught n hn, hmissed, List.drop_zero]

/-- Whatever fails and whenever documents are written, the watcher applies each event after the scan
once and in order, exactly if no event falls where there is neither a cursor nor a token, and no
cursor fails with events to read before the first one is handled. -/
theorem applies_iff (societyId : String) (rows : List Subscriber) (is : List FeedInput) :
    (is.foldl step (bootstrapped societyId rows)).Applies ↔
      Along step Ok (bootstrapped societyId rows) is := by
  obtain ⟨hs, hzero⟩ := inv_bootstrapped societyId rows
  obtain ⟨hinv, -, hiff⟩ := keeps_run hs is
  rw [applies_iff_missed hinv, ← hiff, hzero]

/-- A subscriber that is added between the scan and the first cursor is not seen. -/
theorem insert_before_cursor_missed :
    ¬ ([.commit { operationType := .insert, documentKey := some "1" }, .openStream true].foldl step
      (bootstrapped "s" [])).Applies := by
  obtain ⟨hs, -⟩ := inv_bootstrapped "s" []
  rw [applies_iff_missed (keeps_run hs _).1]
  decide

end Feed
