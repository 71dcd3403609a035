import OnPremPbx.Pbx.Filters
import OnPremPbx.Text.Dump

/-!
# Push messages to all subscriptions

`notify` posts a payload to the subscriptions of a subscriber one after the other. The push service
answers as it likes; what the sender did is a log of its posts and of the subscriptions it deleted.
A document with an id that is not a string ends the loop with an exception, and that is how the
database renders every id.
-/

open Text Json MicroServicePbx

namespace PushSender

/-! ### Runs against a push service -/

/-- What leaves the sender. -/
inductive Event where
  | post (url : Bytes) (headers : List (Bytes × Bytes)) (body : Bytes) (status : ℤ)
  | delete (coll filter : Bytes)
  deriving DecidableEq, Repr

/-- The answers that the push service is going to give, and what has been done. -/
structure Outside where
  answers : ℕ → ℤ
  log : List Event

/-- The service after some of its answers, with more done. -/
def Outside.after (s : Outside) (n : ℕ) (events : List Event) : Outside :=
  ⟨fun k => s.answers (k + n), s.log ++ events⟩

/-- The database answers a query with the text `raw`. -/
def outside (raw : Bytes) : Program.Handler Answer Outside
  | .post url headers body, s               =>
    (some (s.answers 0), s.after 1 [.post url headers body (s.answers 0)])
  | .db (.deleteDocument coll filter) _, s => (some (.flag true), s.after 0 [.delete coll filter])
  | .db _ _, s                              => (some (.text raw), s)
  | .revoke _ _, s                          => (some (), s)

/-- The answers to the posts. -/
def statuses (log : List Event) : List ℤ :=
  log.filterMap fun
    | .post _ _ _ status => some status
    | .delete _ _        => none

/-- The collections and filters of the deletions. -/
def deletions (log : List Event) : List (Bytes × Bytes) :=
  log.filterMap fun
    | .post _ _ _ _       => none
    | .delete coll filter => some (coll, filter)

def accepted (status : ℤ) : Bool := 200 ≤ status ∧ status < 300

/-- The answers that a delivery with this many attempts gets: it goes on after 503 only. -/
def answersTo : ℕ → (ℕ → ℤ) → List ℤ
  | 0, _           => []
  | n + 1, answers =>
    answers 0 :: if answers 0 = 503 then answersTo n fun k => answers (k + 1) else []

/-- What a delivery leaves in the log. -/
def Delivery.events (d : Delivery) (answers : List ℤ) : List Event :=
  answers.map (.post d.endpoint d.headers d.body) ++
    if 410 ∈ answers then
      [.delete (Bytes.ofString "push_subscriptions")
        (Json.concatText [(Bytes.ofString "_id", d.subId)])]
    else []

section

variable {n : ℕ} {answers : ℕ → ℤ} {s : Outside} {raw : Bytes}

@[simp] lemma after_after (m : ℕ) (events events' : List Event) :
    (s.after n events).after m events' = s.after (n + m) (events ++ events') := by
  simp [Outside.after, Nat.add_assoc, Nat.add_comm m n]

@[simp] lemma after_zero : s.after 0 [] = s := by simp [Outside.after]

@[simp] lemma statuses_append (l l' : List Event) :
    statuses (l ++ l') = statuses l ++ statuses l' := List.filterMap_append

@[simp] lemma deletions_append (l l' : List Event) :
    deletions (l ++ l') = deletions l ++ deletions l' := List.filterMap_append

lemma length_answersTo_le : (answersTo n answers).length ≤ n := by
  induction n generalizing answers with
  | zero => exact le_rfl
  | succ n ih =>
    rw [answersTo, List.length_cons]
    split_ifs
    · exact Nat.succ_le_succ ih
    · exact Nat.succ_le_succ (Nat.zero_le n)

/-- The answers are the next ones of the service. -/
lemma answersTo_eq :
    answersTo n answers = (List.range (answersTo n answers).length).map answers := by
  induction n generalizing answers with
  | zero => rfl
  | succ n ih =>
    rw [answersTo]
    split_ifs with h
    · rw [List.length_cons, List.range_succ_eq_map, List.map_cons, List.map_map]
      exact congrArg (List.cons _) ih
    · rfl

lemma statuses_events (d : Delivery) (l : List ℤ) : statuses (d.events l) = l := by
  have hposts : statuses (l.map (.post d.endpoint d.headers d.body)) = l := by
    rw [statuses, List.filterMap_map]
    exact List.filterMap_some
  rw [Delivery.events, statuses_append, hposts]
  split_ifs <;> simp [statuses]

lemma deletions_events (d : Delivery) (l : List ℤ) : deletions (d.events l) =
    if 410 ∈ l then [(Bytes.ofString "push_subscriptions",
      Json.concatText [(Bytes.ofString "_id", d.subId)])] else [] := by
  have hposts : deletions (l.map (.post d.endpoint d.headers d.body)) = [] := by
    rw [deletions, List.filterMap_map, List.filterMap_eq_nil_iff]
    exact fun _ _ => rfl
  rw [Delivery.events, deletions_append, hposts]
  split_ifs <;> rfl

lemma events_cons (d : Delivery) {status : ℤ} (h : status ≠ 410) (l : List ℤ) :
    d.events (status :: l) = .post d.endpoint d.headers d.body status :: d.events l := by
  simp [Delivery.events, Ne.symm h]

lemma run_deleteDocument (coll : String) (filter : Filter) :
    (deleteDocument coll filter).run (outside raw) s =
      (some (), s.after 0 [.delete (Bytes.ofString coll) filter.text]) := rfl

/-- A delivery makes its attempts, and tells whether one was accepted. -/
lemma run_attempts {d : Delivery} (hid : d.subId ≠ []) :
    (attempts d n).run (outside raw) s =
      (some ((answersTo n s.answers).any accepted),
        s.after (answersTo n s.answers).length (d.events (answersTo n s.answers))) := by
  induction n generalizing s with
  | zero => simp [attempts, answersTo, Delivery.events]
  | succ n ih =>
    rw [attempts, Program.run_bind, Program.run_perform, answersTo]
    dsimp only [outside]
    by_cases hok : 200 ≤ s.answers 0 ∧ s.answers 0 < 300
    · have hne : s.answers 0 ≠ 503 ∧ s.answers 0 ≠ 410 := by omega
      rw [if_pos hok, if_neg hne.1, events_cons d hne.2]
      simp [accepted, hok, Delivery.events]
    · rw [if_neg hok]
      by_cases hgone : s.answers 0 = 410
      · rw [if_pos hgone, if_neg hid, if_neg (by omega), Program.run_bind, run_deleteDocument]
        simp [hgone, accepted, Delivery.events, Filter.concat]
      · rw [if_neg hgone, events_cons d hgone]
        by_cases hbusy : s.answers 0 = 503
        · rw [if_pos hbusy]
          cases n with
          | zero => simp [hbusy, accepted, answersTo, Delivery.events]
          | succ n =>
            rw [if_pos ⟨hbusy, Nat.succ_ne_zero n⟩, ih]
            simp [hbusy, accepted, Outside.after, Nat.add_assoc]
        · rw [if_neg fun h => hbusy h.1, if_neg hbusy]
          simp [accepted, Delivery.events]
          omega

end

/-! ### Subscriptions -/

/-- A document as the database gives it: its id is an object, such as an ObjectId; a string without
characters that JSON escapes would do as well. -/
def Stored (sub : Json) : Prop :=
  ∃ id, sub.field (Bytes.ofString "_id") = some id ∧
    ((∃ ms, id = .object ms) ∨ ∃ s, id = .string s ∧ s ≠ [] ∧ Plain s)

/-- The document has an endpoint and both keys. -/
def Complete (sub : Json) : Prop :=
  sub.field (Bytes.ofString "endpoint") ≠ none ∧ sub.field (Bytes.ofString "p256dh") ≠ none ∧
    sub.field (Bytes.ofString "auth") ≠ none

variable (cfg : Config) (payload : Bytes)

/-- The payload can be encrypted for the subscription. -/
def Usable (sub : Json) : Prop :=
  ∃ endpoint p256dh auth body, sub.field (Bytes.ofString "endpoint") = some (.string endpoint) ∧
    sub.field (Bytes.ofString "p256dh") = some (.string p256dh) ∧
    sub.field (Bytes.ofString "auth") = some (.string auth) ∧
    cfg.encryptPayload payload p256dh auth = some body

/-- A post to the subscription can be put together, and is tried. -/
structure Sendable (sub : Json) : Prop where
  id : ∃ s, sub.field (Bytes.ofString "_id") = some (.string s)
  keys : Usable cfg payload sub
  vapid : ∀ endpoint, sub.field (Bytes.ofString "endpoint") = some (.string endpoint) →
    cfg.vapidAuth endpoint ≠ none
  tried : 0 ≤ cfg.maxRetries

/-- What has happened to one subscription, with these answers of the service to come. -/
structure Treated (sub : Json) (answers : ℕ → ℤ) (part : List Event) : Prop where
  /-- it is what happens to the subscription if it is the only one -/
  alone : (deliverAll cfg payload [sub] 0).run (outside []) ⟨answers, []⟩ =
    (some (if (statuses part).any accepted then 1 else 0),
      ⟨fun k => answers (k + (statuses part).length), part⟩)
  answered : statuses part = (List.range (statuses part).length).map answers
  posted : Usable cfg payload sub →
    1 ≤ (statuses part).length ∧ ((statuses part).length : ℤ) ≤ cfg.maxRetries + 1
  endpoint : ∀ url headers body status, Event.post url headers body status ∈ part →
    sub.field (Bytes.ofString "endpoint") = some (.string url)
  /-- a subscription that is gone is deleted by its id, and nothing else is -/
  deleted : if 410 ∈ statuses part then
      ∃ id filter, sub.field (Bytes.ofString "_id") = some id ∧
        Json.parse filter = some (.object [(Bytes.ofString "_id", id)]) ∧
        deletions part = [(Bytes.ofString "push_subscriptions", filter)]
    else deletions part = []

/-- Each subscription is treated by itself, one after the other, and the number is the one of the
subscriptions with a post that was accepted. -/
inductive FannedOut : (ℕ → ℤ) → List Json → ℕ → List Event → Prop where
  | nil (answers : ℕ → ℤ) : FannedOut answers [] 0 []
  | cons {answers : ℕ → ℤ} {sub : Json} {subs : List Json} {part log : List Event} {n : ℕ} :
    Treated cfg payload sub answers part →
    FannedOut (fun k => answers (k + (statuses part).length)) subs n log →
    FannedOut answers (sub :: subs) ((if (statuses part).any accepted then 1 else 0) + n)
      (part ++ log)

section

variable {cfg payload} {sub : Json} {subs : List Json} {answers : ℕ → ℤ} {s : Outside}
  {raw : Bytes} {n : ℕ} {log : List Event}

lemma FannedOut.treated (h : FannedOut cfg payload answers subs n log) :
    ∀ sub ∈ subs, ∃ answers part, Treated cfg payload sub answers part := by
  induction h with
  | nil answers => simp
  | cons htreated _ ih =>
    rw [List.forall_mem_cons]
    exact ⟨⟨_, _, htreated⟩, ih⟩

/-- A subscription that is not complete is skipped. -/
lemma delivery_of_not_complete (h : ¬ Complete sub) : delivery cfg payload sub = some none := by
  rw [Complete] at h
  unfold delivery
  split
  · rename_i hendpoint hp256dh hauth
    simp [hendpoint, hp256dh, hauth] at h
  · rename_i hendpoint hp256dh hauth
    simp [hendpoint, hp256dh, hauth] at h
  · rfl

/-- A complete one is sent, or throws. -/
lemma delivery_of_complete (h : Complete sub) {r : Option Delivery}
    (hr : delivery cfg payload sub = some r) :
    ∃ endpoint p256dh auth subId body vapidAuth,
      sub.field (Bytes.ofString "endpoint") = some (.string endpoint) ∧
      sub.field (Bytes.ofString "p256dh") = some (.string p256dh) ∧
      sub.field (Bytes.ofString "auth") = some (.string auth) ∧
      valueOr sub "_id" = some subId ∧
      cfg.encryptPayload payload p256dh auth = some body ∧
      cfg.vapidAuth endpoint = some vapidAuth ∧
      ∃ d, r = some d ∧ d.endpoint = endpoint ∧ d.subId = subId := by
  unfold delivery at hr
  split at hr
  · rename_i endpoint p256dh auth hendpoint hp256dh hauth
    simp only [Option.bind_eq_bind, Option.bind_eq_some_iff] at hr
    obtain ⟨subId, hid, body, hbody, vapidAuth, hvapid, heq⟩ := hr
    exact ⟨endpoint, p256dh, auth, subId, body, vapidAuth, hendpoint, hp256dh, hauth, hid, hbody,
      hvapid, _, (Option.some.inj heq).symm, rfl, rfl⟩
  · cases hr
  · rename_i hnone
    obtain ⟨hendpoint, hp256dh, hauth⟩ := h
    obtain ⟨_, hendpoint⟩ := Option.ne_none_iff_exists'.mp hendpoint
    obtain ⟨_, hp256dh⟩ := Option.ne_none_iff_exists'.mp hp256dh
    obtain ⟨_, hauth⟩ := Option.ne_none_iff_exists'.mp hauth
    exact absurd hauth (hnone _ _ _ hendpoint hp256dh)

/-- An id that is there is a string. -/
lemma valueOr_id {id : Json} {subId : Bytes} (hid : sub.field (Bytes.ofString "_id") = some id)
    (h : valueOr sub "_id" = some subId) : id = .string subId := by
  rw [valueOr, hid] at h
  split_ifs at h
  cases id <;> simp_all

lemma sendable_of_delivery (hstored : Stored sub) (h : Complete sub) (htried : 0 ≤ cfg.maxRetries)
    {r : Option Delivery} (hr : delivery cfg payload sub = some r) : Sendable cfg payload sub := by
  obtain ⟨endpoint, p256dh, auth, subId, body, vapidAuth, hendpoint, hp256dh, hauth, hid, hbody,
    hvapid, -⟩ := delivery_of_complete h hr
  obtain ⟨id, hfield, -⟩ := hstored
  rw [valueOr_id hfield hid] at hfield
  refine ⟨⟨subId, hfield⟩, ⟨endpoint, p256dh, auth, body, hendpoint, hp256dh, hauth, hbody⟩, ?_,
    htried⟩
  intro endpoint' hendpoint'
  rw [hendpoint] at hendpoint'
  cases hendpoint'
  rw [hvapid]
  exact Option.some_ne_none _

/-- What is delivered to a subscription, and under which id. -/
structure Delivers (cfg : Config) (payload : Bytes) (sub : Json) (d : Delivery) : Prop where
  delivery : delivery cfg payload sub = some (some d)
  endpoint : sub.field (Bytes.ofString "endpoint") = some (.string d.endpoint)
  id : sub.field (Bytes.ofString "_id") = some (.string d.subId)
  ne_nil : d.subId ≠ []
  plain : Plain d.subId

lemma Sendable.delivers (hstored : Stored sub) (h : Sendable cfg payload sub) :
    ∃ d, Delivers cfg payload sub d := by
  obtain ⟨endpoint, p256dh, auth, body, hendpoint, hp256dh, hauth, hbody⟩ := h.keys
  obtain ⟨vapidAuth, hvapid⟩ := Option.ne_none_iff_exists'.mp (h.vapid endpoint hendpoint)
  obtain ⟨subId, hid⟩ := h.id
  obtain ⟨id, hfield, hform⟩ := hstored
  obtain rfl := Option.some.inj (hid.symm.trans hfield)
  have hvalue : valueOr sub "_id" = some subId := by
    rw [valueOr, hid, if_pos]
    cases sub with
    | object ms => rfl
    | _ => cases hid
  rcases hform with ⟨ms, hms⟩ | ⟨s, hs, hne, hplain⟩
  · cases hms
  · cases hs
    obtain ⟨d, hd, rfl, rfl⟩ : ∃ d : Delivery, delivery cfg payload sub = some (some d) ∧
        d.endpoint = endpoint ∧ d.subId = subId := by
      rw [delivery, hendpoint, hp256dh, hauth]
      simp only [hvalue, hbody, hvapid, Option.bind_eq_bind, Option.bind_some]
      exact ⟨_, rfl, rfl, rfl⟩
    exact ⟨d, hd, hendpoint, hid, hne, hplain⟩

/-- What a subscription leaves in the log. -/
def partOf (cfg : Config) (payload : Bytes) (sub : Json) (answers : ℕ → ℤ) : List Event :=
  match delivery cfg payload sub with
  | some (some d) => d.events (answersTo (cfg.maxRetries + 1).toNat answers)
  | _             => []

/-- The loop goes on after a subscription that is skipped or sent. -/
lemma run_deliverAll_cons (h : Complete sub → ∃ d, Delivers cfg payload sub d) (subs : List Json)
    (n : ℕ) (raw : Bytes) (s : Outside) :
    (deliverAll cfg payload (sub :: subs) n).run (outside raw) s =
      (deliverAll cfg payload subs
        (n + if (statuses (partOf cfg payload sub s.answers)).any accepted then 1 else 0)).run
          (outside raw) (s.after (statuses (partOf cfg payload sub s.answers)).length
            (partOf cfg payload sub s.answers)) := by
  rw [deliverAll, Program.run_bind, Program.run_ofOption, partOf]
  by_cases hcomplete : Complete sub
  · obtain ⟨d, hd⟩ := h hcomplete
    rw [hd.delivery]
    dsimp only
    rw [Program.run_bind, run_attempts hd.ne_nil, statuses_events]
    dsimp only
    cases (answersTo (cfg.maxRetries + 1).toNat s.answers).any accepted <;> rfl
  · rw [delivery_of_not_complete hcomplete]
    simp [statuses]

lemma treated_partOf (h : Complete sub → Sendable cfg payload sub) (hstored : Stored sub)
    (answers : ℕ → ℤ) : Treated cfg payload sub answers (partOf cfg payload sub answers) := by
  have hdelivers : Complete sub → ∃ d, Delivers cfg payload sub d := fun hcomplete =>
    (h hcomplete).delivers hstored
  have halone := run_deliverAll_cons hdelivers [] 0 [] ⟨answers, []⟩
  rw [deliverAll, Program.run_pure, Nat.zero_add] at halone
  by_cases hcomplete : Complete sub
  · obtain ⟨d, hd⟩ := hdelivers hcomplete
    have hpart : partOf cfg payload sub answers =
        d.events (answersTo (cfg.maxRetries + 1).toNat answers) := by rw [partOf, hd.delivery]
    have htried := (h hcomplete).tried
    refine ⟨halone, ?_, fun _ => ?_, ?_, ?_⟩
    · rw [hpart, statuses_events]
      exact answersTo_eq
    · have hlen : (answersTo (cfg.maxRetries + 1).toNat answers).length ≤
          (cfg.maxRetries + 1).toNat := length_answersTo_le
      rw [hpart, statuses_events]
      obtain ⟨k, hk⟩ := Int.eq_ofNat_of_zero_le htried
      have hk' : (cfg.maxRetries + 1).toNat = k + 1 := by omega
      rw [hk'] at hlen ⊢
      refine ⟨?_, by omega⟩
      rw [answersTo, List.length_cons]
      exact Nat.succ_pos _
    · intro url headers body status hmem
      rw [hpart, Delivery.events, List.mem_append, List.mem_map] at hmem
      rcases hmem with ⟨_, -, heq⟩ | hmem
      · cases heq
        exact hd.endpoint
      · split_ifs at hmem
        · cases List.mem_singleton.mp hmem
        · cases hmem
    · rw [hpart, statuses_events, deletions_events]
      split_ifs
      · refine ⟨_, _, hd.id, ?_, rfl⟩
        exact parse_concatText_of_plain (List.cons_ne_nil _ _)
          (List.forall_mem_singleton.mpr ⟨plain_id, hd.plain⟩)
      · rfl
  · have hpart : partOf cfg payload sub answers = [] := by
      rw [partOf, delivery_of_not_complete hcomplete]
    refine ⟨halone, ?_, ?_, ?_, ?_⟩
    · rw [hpart]
      rfl
    · rintro ⟨endpoint, p256dh, auth, body, hendpoint, hp256dh, hauth, -⟩
      refine absurd ⟨?_, ?_, ?_⟩ hcomplete
      · rw [hendpoint]; exact Option.some_ne_none _
      · rw [hp256dh]; exact Option.some_ne_none _
      · rw [hauth]; exact Option.some_ne_none _
    · rw [hpart]
      exact fun _ _ _ _ hmem => absurd hmem List.not_mem_nil
    · rw [hpart]
      exact rfl

/-! ### The whole fan-out -/

/-- The loop returns only if no delivery throws. -/
lemma delivery_of_run_some {m : ℕ} (h : ((deliverAll cfg payload subs n).run (outside raw) s).1 =
    some m) : ∀ sub ∈ subs, ∃ r, delivery cfg payload sub = some r := by
  induction subs generalizing n s with
  | nil => simp
  | cons sub subs ih =>
    rw [deliverAll, Program.run_bind, Program.run_ofOption] at h
    rw [List.forall_mem_cons]
    cases hr : delivery cfg payload sub with
    | none =>
      rw [hr] at h
      cases h
    | some r =>
      rw [hr] at h
      refine ⟨⟨r, rfl⟩, ?_⟩
      cases r with
      | none => exact ih h
      | some d =>
        dsimp only at h
        rw [Program.run_bind] at h
        split at h
        · cases h
        · exact ih h

lemma run_deliverAll (hsubs : ∀ sub ∈ subs, Complete sub → Sendable cfg payload sub)
    (hstored : ∀ sub ∈ subs, Stored sub) (n : ℕ) (raw : Bytes) (s : Outside) :
    ∃ m log, (deliverAll cfg payload subs n).run (outside raw) s =
        (some (n + m), s.after (statuses log).length log) ∧
      FannedOut cfg payload s.answers subs m log := by
  induction subs generalizing n s with
  | nil => exact ⟨0, [], by simp [deliverAll, statuses], FannedOut.nil s.answers⟩
  | cons sub subs ih =>
    obtain ⟨hsub, hsubs⟩ := List.forall_mem_cons.mp hsubs
    obtain ⟨hid, hids⟩ := List.forall_mem_cons.mp hstored
    have htreated := treated_partOf hsub hid s.answers
    obtain ⟨m, log, hrun, hlog⟩ := ih hsubs hids _ (s.after _ _)
    refine ⟨_, _, ?_, FannedOut.cons htreated hlog⟩
    rw [run_deliverAll_cons (fun hcomplete => (hsub hcomplete).delivers hid) subs n raw s, hrun,
      after_after, statuses_append, List.length_append, Nat.add_assoc]

lemma run_notify {subs : List Json} (hraw : Json.parse raw = some (.array subs))
    (subscriberId : Bytes) :
    (notify cfg subscriberId payload).run (outside raw) s =
      (deliverAll cfg payload subs 0).run (outside raw) s := by
  have hsubs : subscriptions raw = subs := by rw [subscriptions, hraw]
  rw [← hsubs]
  rfl

end

/-- The sender returns, and has treated each subscription by itself. -/
def FansOut (cfg : Config) (subscriberId payload raw : Bytes) (subs : List Json)
    (answers : ℕ → ℤ) : Prop :=
  ∃ n s, (notify cfg subscriberId payload).run (outside raw) ⟨answers, []⟩ = (some n, s) ∧
    FannedOut cfg payload answers subs n s.log

/-- The payload goes to all subscriptions, whatever the push service answers, exactly if a post can
be put together for each one with an endpoint and keys. -/
theorem fansOut_iff (cfg : Config) (subscriberId payload : Bytes) {raw : Bytes} {subs : List Json}
    (hraw : Json.parse raw = some (.array subs)) (hstored : ∀ sub ∈ subs, Stored sub)
    (answers : ℕ → ℤ) :
    FansOut cfg subscriberId payload raw subs answers ↔
      ∀ sub ∈ subs, Complete sub → Sendable cfg payload sub := by
  rw [FansOut, run_notify hraw]
  constructor
  · rintro ⟨n, s, hrun, hlog⟩ sub hsub hcomplete
    obtain ⟨r, hr⟩ := delivery_of_run_some (congrArg Prod.fst hrun) sub hsub
    obtain ⟨answers', part, htreated⟩ := hlog.treated sub hsub
    obtain ⟨endpoint, p256dh, auth, -, body, -, hendpoint, hp256dh, hauth, -, hbody, -⟩ :=
      delivery_of_complete hcomplete hr
    obtain ⟨hone, hle⟩ :=
      htreated.posted ⟨endpoint, p256dh, auth, body, hendpoint, hp256dh, hauth, hbody⟩
    exact sendable_of_delivery (hstored sub hsub) hcomplete (by omega) hr
  · intro hsubs
    obtain ⟨m, log, hrun, hlog⟩ := run_deliverAll hsubs hstored 0 raw ⟨answers, []⟩
    refine ⟨m, ⟨fun k => answers (k + (statuses log).length), log⟩, hrun.trans ?_, hlog⟩
    rw [Nat.zero_add]
    rfl

/-- Keys and signatures that always work. -/
def plainConfig : Config where
  encryptPayload payload _ _ := some payload
  vapidAuth endpoint := some endpoint

/-- A subscription with this id. -/
def subscription (id : Json) : Json :=
  .object [(Bytes.ofString "_id", id), member "endpoint" (Bytes.ofString "e"),
    member "p256dh" (Bytes.ofString "p"), member "auth" (Bytes.ofString "a")]

/-- An ObjectId, as the database renders it. -/
def objectId : Json := .object [member "$oid" (Bytes.ofString "64a")]

/-- A subscription with a string for its id, and a document without keys. -/
def twoSubscriptions : List Json :=
  [subscription (.string (Bytes.ofString "64a")), .object [(Bytes.ofString "_id", objectId)]]

lemma parse_twoSubscriptions :
    Json.parse (Json.array twoSubscriptions).dump = some (.array twoSubscriptions) :=
  Json.parse_dump (by decide)

lemma stored_twoSubscriptions : ∀ sub ∈ twoSubscriptions, Stored sub := by
  rw [twoSubscriptions, List.forall_mem_cons, List.forall_mem_singleton]
  have hplain : Plain (Bytes.ofString "64a") := plain_of_ascii (by simp [Bytes.ofString])
  exact ⟨⟨_, rfl, Or.inr ⟨_, rfl, by decide, hplain⟩⟩, ⟨_, rfl, Or.inl ⟨_, rfl⟩⟩⟩

theorem fansOut_iff_twoSubscriptions :
    (Json.parse (Json.array twoSubscriptions).dump = some (.array twoSubscriptions) ∧
      ∀ sub ∈ twoSubscriptions, Stored sub) ∧
    (FansOut plainConfig (Bytes.ofString "u") (Bytes.ofString "call")
        (Json.array twoSubscriptions).dump twoSubscriptions (fun _ => 410) ↔
      ∀ sub ∈ twoSubscriptions, Complete sub →
        Sendable plainConfig (Bytes.ofString "call") sub) :=
  ⟨⟨parse_twoSubscriptions, stored_twoSubscriptions⟩,
    fansOut_iff plainConfig (Bytes.ofString "u") (Bytes.ofString "call") parse_twoSubscriptions
      stored_twoSubscriptions fun _ => 410⟩

/-- A subscription with an ObjectId ends the sender with an exception. -/
theorem objectId_ends_fan_out :
    ¬ ∀ (cfg : Config) (subscriberId payload raw : Bytes) (subs : List Json) (answers : ℕ → ℤ),
      Json.parse raw = some (.array subs) →
      (∀ sub ∈ subs, ∃ ms, sub.field (Bytes.ofString "_id") = some (.object ms)) →
      FansOut cfg subscriberId payload raw subs answers := by
  intro hclaim
  have hparse : Json.parse (Json.array [subscription objectId]).dump =
      some (.array [subscription objectId]) := Json.parse_dump (by decide)
  obtain ⟨n, s, hrun, -⟩ := hclaim plainConfig [] [] _ _ (fun _ => 201) hparse
    (List.forall_mem_singleton.mpr ⟨_, rfl⟩)
  rw [run_notify hparse] at hrun
  obtain ⟨r, hr⟩ := delivery_of_run_some (congrArg Prod.fst hrun) _ List.mem_cons_self
  have hnone : delivery plainConfig [] (subscription objectId) = none := rfl
  rw [hnone] at hr
  cases hr

end PushSender
