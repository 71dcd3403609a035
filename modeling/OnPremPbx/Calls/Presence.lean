import OnPremPbx.Calls.AriClient

/-!
# Who is registered

The client publishes a flag for a subscriber with every `ContactStatusChange` of its endpoint, and
the cloud keeps the latest flag of each subscriber (`presence_cache.hpp`). Several contacts of a
subscriber can be bound at once, and the client does not look at which of them an event is about.
-/

/-- The cache of the cloud, by society and user name. -/
structure InMemoryPresenceCache where
  state : AList fun _ : String => Bool := ∅

namespace InMemoryPresenceCache

def key (societyId sipUsername : String) : String := societyId ++ "\x00" ++ sipUsername

def set (societyId sipUsername : String) (online : Bool) (c : InMemoryPresenceCache) :
    InMemoryPresenceCache :=
  { c with state := c.state.insert (key societyId sipUsername) online }

def isOnline (societyId sipUsername : String) (c : InMemoryPresenceCache) : Bool :=
  (c.state.lookup (key societyId sipUsername)).getD false

/-- The cache after the flags of a society. -/
def ofPublished (societyId : String) (flags : List (String × Bool)) : InMemoryPresenceCache :=
  flags.foldl (fun c flag => c.set societyId flag.1 flag.2) {}

lemma key_inj {societyId a b : String} (h : key societyId a = key societyId b) : a = b := by
  have hlist := congrArg String.toList h
  simp only [key, String.toList_append] at hlist
  exact String.toList_inj.mp (List.append_cancel_left hlist)

lemma isOnline_set_self (societyId user : String) (online : Bool) (c : InMemoryPresenceCache) :
    (c.set societyId user online).isOnline societyId user = online := by
  simp [isOnline, set, AList.lookup_insert]

lemma isOnline_set_of_ne {societyId user other : String} (h : user ≠ other) (online : Bool)
    (c : InMemoryPresenceCache) :
    (c.set societyId other online).isOnline societyId user = c.isOnline societyId user := by
  have hkey : key societyId user ≠ key societyId other := fun heq => h (key_inj heq)
  simp [isOnline, set, AList.lookup_insert_ne hkey]

lemma ofPublished_concat (societyId : String) (flags : List (String × Bool))
    (flag : String × Bool) :
    ofPublished societyId (flags ++ [flag]) =
      (ofPublished societyId flags).set societyId flag.1 flag.2 := by
  simp [ofPublished]

end InMemoryPresenceCache

/-- A `ContactStatusChange` of a subscriber's endpoint, with the contact it is about. -/
structure ContactEvent where
  subscriber : String
  contact : String
  status : String
  deriving DecidableEq, Repr

namespace ContactEvent

/-- What the client looks at. -/
def toAri (e : ContactEvent) : AriEvent :=
  .contactStatusChange (some { technology := .text "PJSIP", resource := .text e.subscriber })
    (some (.text e.status))

/-- The contacts of the subscriber after an event. -/
def bind (user : String) (contacts : Finset String) (e : ContactEvent) : Finset String :=
  if e.subscriber = user then
    if e.status = "Created" then insert e.contact contacts
    else if e.status = "Removed" then contacts.erase e.contact
    else contacts
  else contacts

/-- The contacts of the subscriber that were created and not yet removed. -/
def bound (user : String) (es : List ContactEvent) : Finset String := es.foldl (bind user) ∅

/-- The latest event of the subscriber. -/
def latest (user : String) (es : List ContactEvent) : Option ContactEvent :=
  (es.filter fun e => e.subscriber = user).getLast?

/-- The latest event of the subscriber tells whether a contact of it is bound: it created one, it
removed the last one, or it reports what happens to be so. -/
def Telling (user : String) (es : List ContactEvent) : Prop :=
  match latest user es with
  | none   => True
  | some e =>
    if e.status = "Created" then True
    else if e.status = "Reachable" ∨ e.status = "NonQualified" then (bound user es).Nonempty
    else bound user es = ∅

instance (user : String) (es : List ContactEvent) : Decidable (Telling user es) := by
  unfold Telling
  split <;> infer_instance

lemma latest_concat (user : String) (es : List ContactEvent) (e : ContactEvent) :
    latest user (es ++ [e]) = if e.subscriber = user then some e else latest user es := by
  rw [latest, List.filter_append]
  split_ifs with h
  · simp [h]
  · simp [h, latest]

lemma bound_concat (user : String) (es : List ContactEvent) (e : ContactEvent) :
    bound user (es ++ [e]) = bind user (bound user es) e := by simp [bound]

/-- Without an event no contact is bound. -/
lemma bound_of_latest_none {user : String} {es : List ContactEvent} (h : latest user es = none) :
    bound user es = ∅ := by
  induction es using List.reverseRecOn with
  | nil => rfl
  | append_singleton es e ih =>
    rw [latest_concat] at h
    split_ifs at h with hsub
    rw [bound_concat, bind, if_neg hsub]
    exact ih h

/-- The contact that the latest event created is bound. -/
lemma mem_bound_of_latest {user : String} {es : List ContactEvent} {e : ContactEvent}
    (h : latest user es = some e) (hcreated : e.status = "Created") :
    e.contact ∈ bound user es := by
  induction es using List.reverseRecOn with
  | nil => cases h
  | append_singleton es e' ih =>
    rw [latest_concat] at h
    rw [bound_concat, bind]
    split_ifs at h with hsub
    · obtain rfl := Option.some.inj h
      rw [if_pos hsub, if_pos hcreated]
      exact Finset.mem_insert_self _ _
    · rw [if_neg hsub]
      exact ih h

end ContactEvent

namespace AriClient

open InMemoryPresenceCache ContactEvent

lemma published_onEvent_toAri {s : AriClient} (hhandler : s.hasRegisterStateHandler = true)
    {e : ContactEvent} (hsub : e.subscriber ≠ "") :
    (s.onEvent e.toAri).published = s.published ++ [(e.subscriber, isBound e.status)] := by
  have hsubscriber : AriEndpoint.subscriber
      { technology := .text "PJSIP", resource := .text e.subscriber } = some e.subscriber := by
    simp [AriEndpoint.subscriber, JsonField.value, Option.filter, hsub]
  simp [onEvent, toAri, handleContactStatusChange, hhandler, hsubscriber, JsonField.value, publish]

lemma published_onEvent_of_empty {s : AriClient} {e : ContactEvent} (hsub : e.subscriber = "") :
    (s.onEvent e.toAri).published = s.published := by
  have hsubscriber : AriEndpoint.subscriber
      { technology := .text "PJSIP", resource := .text e.subscriber } = none := by
    simp [AriEndpoint.subscriber, JsonField.value, hsub]
  simp [onEvent, toAri, handleContactStatusChange, hsubscriber]

lemma handler_onEvent_toAri (s : AriClient) (e : ContactEvent) :
    (s.onEvent e.toAri).hasRegisterStateHandler = s.hasRegisterStateHandler := by
  simp only [onEvent, toAri, handleContactStatusChange, publish]
  split_ifs <;> (try split) <;> rfl

/-- The inputs of a sequence of contact events. -/
def contactInputs (is : List (ContactEvent × Script)) : List Input :=
  is.map fun i => (i.1.toAri, i.2)

/-- The cloud shows what the latest event of the subscriber says. -/
lemma isOnline_run (cfg : Config) (appName : String) (is : List (ContactEvent × Script))
    {user : String} (huser : user ≠ "") :
    let s := (init cfg appName).run (contactInputs is)
    s.hasRegisterStateHandler = true ∧
      (ofPublished cfg.societyId s.published).isOnline cfg.societyId user =
        (latest user (is.map Prod.fst)).any fun e => isBound e.status := by
  induction is using List.reverseRecOn with
  | nil => exact ⟨rfl, rfl⟩
  | append_singleton is i ih =>
    obtain ⟨hhandler, honline⟩ := ih
    obtain ⟨e, script⟩ := i
    set s := (init cfg appName).run (contactInputs is)
    have hstep : (init cfg appName).run (contactInputs (is ++ [(e, script)])) =
        (s.setScript script).onEvent e.toAri := by
      simp [s, run, contactInputs, step]
    have hhandler' : (s.setScript script).hasRegisterStateHandler = true := hhandler
    have hpublished : (s.setScript script).published = s.published := rfl
    rw [hstep]
    refine ⟨(handler_onEvent_toAri _ e).trans hhandler', ?_⟩
    rw [List.map_append, List.map_singleton, latest_concat]
    by_cases hempty : e.subscriber = ""
    · rw [published_onEvent_of_empty hempty, hpublished, honline, if_neg]
      rw [hempty]
      exact Ne.symm huser
    · rw [published_onEvent_toAri hhandler' hempty, hpublished, ofPublished_concat]
      by_cases hsub : e.subscriber = user
      · simp only [hsub, if_true, Option.any_some]
        exact isOnline_set_self _ _ _ _
      · rw [if_neg hsub, ← honline]
        exact isOnline_set_of_ne (Ne.symm hsub) _ _

/-- The cloud shows a subscriber online exactly while a contact of it is bound, if and only if the
latest event of the subscriber tells so. -/
theorem presence_follows_contacts_iff (cfg : Config) (appName : String)
    (is : List (ContactEvent × Script)) (user : String) (huser : user ≠ "") :
    let s := (init cfg appName).run (contactInputs is)
    let es := is.map Prod.fst
    ((ofPublished cfg.societyId s.published).isOnline cfg.societyId user = true ↔
      (bound user es).Nonempty) ↔ Telling user es := by
  intro s es
  obtain ⟨-, honline⟩ := isOnline_run cfg appName is huser
  rw [honline, Telling]
  rcases hlatest : latest user es with _ | e
  · have hnone : bound user es = ∅ := bound_of_latest_none hlatest
    simp [hnone]
  · by_cases hcreated : e.status = "Created"
    · have hbound : (bound user es).Nonempty := ⟨_, mem_bound_of_latest hlatest hcreated⟩
      simp [hcreated, hbound, isBound]
    · by_cases hstays : e.status = "Reachable" ∨ e.status = "NonQualified"
      · have hshown : isBound e.status = true := by simpa [isBound, hcreated] using hstays
        simp [hcreated, hstays, hshown]
      · have hhidden : isBound e.status = false := by simpa [isBound, hcreated] using hstays
        simp [hcreated, hstays, hhidden, Finset.not_nonempty_iff_eq_empty]

/-- A phone registers and unregisters. -/
theorem presence_follows_contacts_iff_unregistered :
    let s := (init {} "pbx").run (contactInputs [(⟨"a", "sip:1", "Created"⟩, {}),
      (⟨"a", "sip:1", "Removed"⟩, {})])
    (ofPublished "" s.published).isOnline "" "a" = true ↔
      (bound "a" [⟨"a", "sip:1", "Created"⟩, ⟨"a", "sip:1", "Removed"⟩]).Nonempty :=
  (presence_follows_contacts_iff {} "pbx" [(⟨"a", "sip:1", "Created"⟩, {}),
    (⟨"a", "sip:1", "Removed"⟩, {})] "a" (by decide)).mpr (by decide +kernel)

/-- Two phones of one subscriber register, and one of them unregisters. -/
theorem offline_with_bound_contact :
    let s := (init {} "pbx").run (contactInputs [(⟨"a", "sip:1", "Created"⟩, {}),
      (⟨"a", "sip:2", "Created"⟩, {}), (⟨"a", "sip:1", "Removed"⟩, {})])
    (ofPublished "" s.published).isOnline "" "a" = false ∧
      bound "a" [⟨"a", "sip:1", "Created"⟩, ⟨"a", "sip:2", "Created"⟩,
        ⟨"a", "sip:1", "Removed"⟩] = {"sip:2"} := by
  decide +kernel

end AriClient
