import Mathlib.Data.List.AList
import OnPremPbx.Provisioning.Provisioner

/-!
# The subscriber watcher

`SubscriberWatcher` (`subscriber_watcher.cpp`) keeps the endpoints in Asterisk in step with the
`subscribers` collection: a scan of the collection first, then the events of its change stream, one
with each tick. The functions are given what the database answers; a cursor is of any type.

Documents have the fields that are read here, which are strings where they are there. The record
`applied` of the events that were handled is read by no function.
-/

/-- A document of the `subscribers` collection. -/
structure Subscriber where
  id : String
  societyId : Option String := none
  sipUsername : Option String := none
  status : Option String := none
  deriving DecidableEq, Repr

namespace Subscriber

/-- `value("status", "active")` is `active`. -/
def isActive (d : Subscriber) : Bool := d.status.getD "active" = "active"

/-- `value("sipUsername", "")`. -/
def sipUser (d : Subscriber) : String := d.sipUsername.getD ""

/-- The document has the society. -/
def isOf (d : Subscriber) (societyId : String) : Bool := d.societyId.getD "" = societyId

end Subscriber

/-- The `_id` of a change event. The server can go on after the event it names. -/
abbrev ResumeToken := ℕ

inductive OperationType where
  | insert
  | update
  | replace
  | delete
  | other
  deriving DecidableEq, Repr

/-- An event of the change stream. -/
structure ChangeEvent where
  resumeToken : Option ResumeToken := none
  operationType : OperationType
  /-- the `_id` in `documentKey` -/
  documentKey : Option String := none
  fullDocument : Option Subscriber := none
  deriving DecidableEq, Repr

/-- What the database answers. -/
structure ChangeStreams (σ : Type*) where
  /-- `watch_collection` with the token, or without one; null for `none` -/
  watchCollection : Option ResumeToken → Option σ
  /-- `try_next`: it throws, or there is no event, or there is one -/
  tryNext : σ → Option (Option ChangeEvent × σ)

structure SubscriberWatcher (σ : Type*) where
  societyId : String
  stream : Option σ := none
  idToSipuser : AList fun _ : String => String := ∅
  resumeToken : Option ResumeToken := none
  reopenSkipTicks : ℕ := 0
  requests : List ConfigRequest := []
  applied : List ChangeEvent := []

namespace SubscriberWatcher

variable {σ : Type*}

def provision (user : String) (w : SubscriberWatcher σ) : SubscriberWatcher σ :=
  { w with requests := w.requests ++ PjsipProvisioner.provision user }

def deprovision (user : String) (w : SubscriberWatcher σ) : SubscriberWatcher σ :=
  { w with requests := w.requests ++ PjsipProvisioner.deprovision user }

/-- What a row of the scan and a document of the society in an event lead to. -/
def sync (d : Subscriber) (w : SubscriberWatcher σ) : SubscriberWatcher σ :=
  if d.sipUser = "" then w
  else
    let w := { w with idToSipuser := w.idToSipuser.insert d.id d.sipUser }
    if d.isActive then w.provision d.sipUser else w.deprovision d.sipUser

/-- `run_full_scan` with the documents of the society. The result is empty as well when the database
fails. -/
def runFullScan (rows : List Subscriber) (w : SubscriberWatcher σ) : SubscriberWatcher σ :=
  rows.foldl (fun w row => w.sync row) w

def resync (rows : List Subscriber) (w : SubscriberWatcher σ) : SubscriberWatcher σ :=
  w.runFullScan rows

def openStream (db : ChangeStreams σ) (w : SubscriberWatcher σ) : SubscriberWatcher σ :=
  { w with stream := db.watchCollection w.resumeToken }

/-- What `handle_event` does with a deletion. -/
def handleDelete (documentKey : Option String) (w : SubscriberWatcher σ) : SubscriberWatcher σ :=
  match documentKey with
  | none    => w
  | some id =>
    match w.idToSipuser.lookup id with
    | none      => w
    | some user => { w.deprovision user with idToSipuser := w.idToSipuser.erase id }

def handleEvent (e : ChangeEvent) (w : SubscriberWatcher σ) : SubscriberWatcher σ :=
  let w := { w with
    resumeToken := e.resumeToken.or w.resumeToken
    applied := w.applied ++ [e] }
  if e.operationType = .delete then w.handleDelete e.documentKey
  else
    match e.fullDocument with
    | none   => w
    | some d => if d.isOf w.societyId then w.sync d else w

/-- The ticks that are skipped after a reopen that failed. -/
def kReopenSkipTicks : ℕ := 5

def tick (db : ChangeStreams σ) (w : SubscriberWatcher σ) : SubscriberWatcher σ :=
  match w.stream with
  | none        =>
    if 0 < w.reopenSkipTicks then { w with reopenSkipTicks := w.reopenSkipTicks - 1 }
    else
      let w := w.openStream db
      if w.stream.isNone then { w with reopenSkipTicks := kReopenSkipTicks } else w
  | some cursor =>
    match db.tryNext cursor with
    | none                   => { w with stream := none, reopenSkipTicks := 0 }
    | some (none, cursor)    => { w with stream := some cursor }
    | some (some e, cursor)  => { w with stream := some cursor }.handleEvent e

/-! ### What an event leads to -/

/-- The document of an event, if it is one of the society with a user name. -/
def member (e : ChangeEvent) (w : SubscriberWatcher σ) : Option Subscriber :=
  match e.fullDocument with
  | none   => none
  | some d => if d.isOf w.societyId ∧ d.sipUser ≠ "" then some d else none

/-- The name that the watcher knows the deleted document by. -/
def known (key : Option String) (w : SubscriberWatcher σ) : Option String :=
  match key.bind w.idToSipuser.lookup with
  | none      => none
  | some user => if user = "" then none else some user

/-- What an event does to an endpoint: which one, and whether it is there then. -/
def touch (e : ChangeEvent) (w : SubscriberWatcher σ) : Option (String × Bool) :=
  if e.operationType = .delete then (w.known e.documentKey).map (·, false)
  else (w.member e).map fun d => (d.sipUser, d.isActive)

/-- What an event does to the cache: the name that a document is known by then. -/
def learn (e : ChangeEvent) (w : SubscriberWatcher σ) : Option (String × Option String) :=
  if e.operationType = .delete then e.documentKey.map (·, none)
  else (w.member e).map fun d => (d.id, some d.sipUser)

/-- The value at a key once a change is made. -/
def put {β : Type*} (change : Option (String × β)) (key : String) (old : β) : β :=
  match change with
  | none        => old
  | some (k, v) => if key = k then v else old

@[simp] lemma put_none {β : Type*} (key : String) (old : β) : put none key old = old := rfl

@[simp] lemma put_some {β : Type*} (k : String) (v : β) (key : String) (old : β) :
    put (some (k, v)) key old = if key = k then v else old := rfl

/-- The endpoint is there, after what the watcher has requested. -/
def present (objects : Asterisk) (w : SubscriberWatcher σ) (user : String) : Bool :=
  (.endpoint, user) ∈ objects.after w.requests

lemma present_sync (objects : Asterisk) {d : Subscriber} (hd : d.sipUser ≠ "")
    (w : SubscriberWatcher σ) (user : String) :
    (w.sync d).present objects user =
      if user = d.sipUser then d.isActive else w.present objects user := by
  simp only [sync, if_neg hd, present]
  split_ifs with hactive huser huser
  · simp [provision, Asterisk.after_append, Asterisk.mem_after_provision hd, huser, hactive]
  · simp [provision, Asterisk.after_append, Asterisk.mem_after_provision hd, huser]
  · simp [deprovision, Asterisk.after_append, Asterisk.mem_after_deprovision hd, huser,
      hactive]
  · simp [deprovision, Asterisk.after_append, Asterisk.mem_after_deprovision hd, huser]

lemma lookup_sync {d : Subscriber} (hd : d.sipUser ≠ "") (w : SubscriberWatcher σ) (id : String) :
    (w.sync d).idToSipuser.lookup id =
      if id = d.id then some d.sipUser else w.idToSipuser.lookup id := by
  have hcache : (w.sync d).idToSipuser = w.idToSipuser.insert d.id d.sipUser := by
    simp only [sync, if_neg hd]
    split_ifs <;> rfl
  rw [hcache]
  split_ifs with hid
  · rw [hid, AList.lookup_insert]
  · rw [AList.lookup_insert_ne hid]

lemma sync_of_empty {d : Subscriber} (hd : d.sipUser = "") (w : SubscriberWatcher σ) :
    w.sync d = w := if_pos hd

@[simp] lemma societyId_sync (d : Subscriber) (w : SubscriberWatcher σ) :
    (w.sync d).societyId = w.societyId := by
  rw [sync]
  split_ifs <;> rfl

@[simp] lemma societyId_handleEvent (e : ChangeEvent) (w : SubscriberWatcher σ) :
    (w.handleEvent e).societyId = w.societyId := by
  simp only [handleEvent, handleDelete]
  split_ifs
  · split
    · rfl
    · split <;> rfl
  · split
    · rfl
    · split_ifs
      · rw [societyId_sync]
      · rfl

lemma present_handleDelete (objects : Asterisk) (key : Option String) (w : SubscriberWatcher σ)
    (user : String) :
    (w.handleDelete key).present objects user =
      put ((w.known key).map (·, false)) user (w.present objects user) := by
  rcases key with _ | id
  · rfl
  · rcases hlookup : w.idToSipuser.lookup id with _ | known
    · simp [handleDelete, hlookup, SubscriberWatcher.known]
    · by_cases hempty : known = ""
      · simp [handleDelete, hlookup, SubscriberWatcher.known, hempty, present, deprovision,
          PjsipProvisioner.deprovision]
      · simp only [handleDelete, hlookup, SubscriberWatcher.known, present, deprovision,
          Asterisk.after_append, Asterisk.mem_after_deprovision hempty, Option.bind_some, hempty,
          if_false, Option.map_some, put_some]
        by_cases huser : user = known <;> simp [huser]

lemma lookup_handleDelete (key : Option String) (w : SubscriberWatcher σ) (id : String) :
    (w.handleDelete key).idToSipuser.lookup id =
      put (key.map (·, none)) id (w.idToSipuser.lookup id) := by
  rcases key with _ | k
  · rfl
  · simp only [handleDelete, Option.map_some, put_some]
    split_ifs with hid
    · subst hid
      rcases hlookup : w.idToSipuser.lookup id with _ | known
      · exact hlookup
      · exact AList.lookup_erase _ _
    · rcases hlookup : w.idToSipuser.lookup k with _ | known
      · rfl
      · exact AList.lookup_erase_ne hid

/-- An event makes or removes the endpoint it touches, and no other. -/
lemma present_handleEvent (objects : Asterisk) (e : ChangeEvent) (w : SubscriberWatcher σ)
    (user : String) :
    (w.handleEvent e).present objects user = put (w.touch e) user (w.present objects user) := by
  simp only [handleEvent, touch, member]
  split_ifs with hdelete
  · exact present_handleDelete objects e.documentKey _ user
  · rcases e.fullDocument with _ | d
    · rfl
    · by_cases hof : d.isOf w.societyId = true
      · by_cases hempty : d.sipUser = ""
        · simp [hof, sync_of_empty hempty, hempty, present]
        · simp only [hof, if_true, hempty, ne_eq, not_false_eq_true, and_self, Option.map_some,
            put_some]
          exact present_sync objects hempty _ user
      · simp [hof, present]

/-- An event tells the name of one document at most. -/
lemma lookup_handleEvent (e : ChangeEvent) (w : SubscriberWatcher σ) (id : String) :
    (w.handleEvent e).idToSipuser.lookup id =
      put (w.learn e) id (w.idToSipuser.lookup id) := by
  simp only [handleEvent, learn, member]
  split_ifs with hdelete
  · exact lookup_handleDelete e.documentKey _ id
  · rcases e.fullDocument with _ | d
    · rfl
    · by_cases hof : d.isOf w.societyId = true
      · by_cases hempty : d.sipUser = ""
        · simp [hof, sync_of_empty hempty, hempty]
        · simp only [hof, if_true, hempty, ne_eq, not_false_eq_true, and_self, Option.map_some,
            put_some]
          exact lookup_sync hempty _ id
      · simp [hof]

/-! ### Scans -/

@[simp] lemma societyId_runFullScan (rows : List Subscriber) (w : SubscriberWatcher σ) :
    (w.runFullScan rows).societyId = w.societyId := by
  induction rows generalizing w with
  | nil => rfl
  | cons row rows ih => exact (ih (w.sync row)).trans (societyId_sync row w)

lemma runFullScan_concat (rows : List Subscriber) (row : Subscriber) (w : SubscriberWatcher σ) :
    w.runFullScan (rows ++ [row]) = (w.runFullScan rows).sync row := by
  simp [runFullScan]

/-- A scan does not touch an endpoint that has the name of no row. -/
lemma present_runFullScan_of_forall {rows : List Subscriber} {user : String}
    (h : ∀ d ∈ rows, d.sipUser = user → user = "") (objects : Asterisk)
    (w : SubscriberWatcher σ) :
    (w.runFullScan rows).present objects user = w.present objects user := by
  induction rows using List.reverseRecOn with
  | nil => rfl
  | append_singleton rows row ih =>
    rw [runFullScan_concat]
    have hrest := ih fun d hd => h d (List.mem_append_left _ hd)
    by_cases hempty : row.sipUser = ""
    · rw [sync_of_empty hempty, hrest]
    · rw [present_sync objects hempty, if_neg, hrest]
      intro huser
      exact hempty (huser ▸ h row (by simp) huser.symm)

/-- A scan makes and removes the endpoints of its rows, if rows of one name agree. -/
lemma present_runFullScan_of_mem {rows : List Subscriber} (hagree : ∀ d ∈ rows, ∀ d' ∈ rows,
      d.sipUser = d'.sipUser → d.sipUser ≠ "" → d.isActive = d'.isActive)
    {d : Subscriber} (hd : d ∈ rows) (hne : d.sipUser ≠ "") (objects : Asterisk)
    (w : SubscriberWatcher σ) :
    (w.runFullScan rows).present objects d.sipUser = d.isActive := by
  induction rows using List.reverseRecOn with
  | nil => cases hd
  | append_singleton rows row ih =>
    rw [runFullScan_concat]
    have hrest : d ∈ rows → (w.runFullScan rows).present objects d.sipUser = d.isActive :=
      ih fun a ha b hb => hagree a (List.mem_append_left _ ha) b (List.mem_append_left _ hb)
    by_cases hempty : row.sipUser = ""
    · rw [sync_of_empty hempty]
      obtain hd | hd := List.mem_append.mp hd
      · exact hrest hd
      · rw [List.mem_singleton.mp hd] at hne
        exact absurd hempty hne
    · rw [present_sync objects hempty]
      split_ifs with huser
      · exact (hagree d hd row (by simp) huser hne).symm
      · obtain hd | hd := List.mem_append.mp hd
        · exact hrest hd
        · rw [List.mem_singleton.mp hd] at huser
          exact absurd rfl huser

/-- A scan does not change the name of a document that is in no row. -/
lemma lookup_runFullScan_of_forall {rows : List Subscriber} {id : String}
    (h : ∀ d ∈ rows, d.id = id → d.sipUser = "") (w : SubscriberWatcher σ) :
    (w.runFullScan rows).idToSipuser.lookup id = w.idToSipuser.lookup id := by
  induction rows using List.reverseRecOn with
  | nil => rfl
  | append_singleton rows row ih =>
    rw [runFullScan_concat]
    have hrest := ih fun d hd => h d (List.mem_append_left _ hd)
    by_cases hempty : row.sipUser = ""
    · rw [sync_of_empty hempty, hrest]
    · rw [lookup_sync hempty, if_neg, hrest]
      intro hid
      exact hempty (h row (by simp) hid.symm)

/-- A scan learns the names of its rows. -/
lemma lookup_runFullScan_of_mem {rows : List Subscriber}
    (hid : ∀ d ∈ rows, ∀ d' ∈ rows, d.id = d'.id → d = d')
    {d : Subscriber} (hd : d ∈ rows) (hne : d.sipUser ≠ "") (w : SubscriberWatcher σ) :
    (w.runFullScan rows).idToSipuser.lookup d.id = some d.sipUser := by
  induction rows using List.reverseRecOn with
  | nil => cases hd
  | append_singleton rows row ih =>
    rw [runFullScan_concat]
    have hrest : d ∈ rows → (w.runFullScan rows).idToSipuser.lookup d.id = some d.sipUser :=
      ih fun a ha b hb => hid a (List.mem_append_left _ ha) b (List.mem_append_left _ hb)
    by_cases hempty : row.sipUser = ""
    · rw [sync_of_empty hempty]
      obtain hd | hd := List.mem_append.mp hd
      · exact hrest hd
      · rw [List.mem_singleton.mp hd] at hne
        exact absurd hempty hne
    · rw [lookup_sync hempty]
      split_ifs with heq
      · rw [hid d hd row (by simp) heq]
      · obtain hd | hd := List.mem_append.mp hd
        · exact hrest hd
        · rw [List.mem_singleton.mp hd] at heq
          exact absurd rfl heq

/-! ### The same events in two states -/

/-- From `a` and `b` to `a'` and `b'`, both changed to the same or neither changed. -/
def Alike {β : Type*} (a b a' b' : β) : Prop := a' = b' ∨ a' = a ∧ b' = b

lemma Alike.trans {β : Type*} {a b a' b' a'' b'' : β} (h : Alike a b a' b')
    (h' : Alike a' b' a'' b'') : Alike a b a'' b'' := by
  obtain h' | ⟨ha, hb⟩ := h'
  · exact Or.inl h'
  · rw [Alike, ha, hb]
    exact h

lemma alike_put {β : Type*} (change : Option (String × β)) (key : String) (a b : β) :
    Alike a b (put change key a) (put change key b) := by
  rcases change with _ | ⟨k, v⟩
  · exact Or.inr ⟨rfl, rfl⟩
  · rw [put_some, put_some]
    split_ifs
    · exact Or.inl rfl
    · exact Or.inr ⟨rfl, rfl⟩

/-- The state after the events. -/
def handleAll (es : List ChangeEvent) (w : SubscriberWatcher σ) : SubscriberWatcher σ :=
  es.foldl (fun w e => w.handleEvent e) w

@[simp] lemma societyId_handleAll (es : List ChangeEvent) (w : SubscriberWatcher σ) :
    (w.handleAll es).societyId = w.societyId := by
  induction es generalizing w with
  | nil => rfl
  | cons e es ih => exact (ih (w.handleEvent e)).trans (societyId_handleEvent e w)

lemma handleAll_concat (es : List ChangeEvent) (e : ChangeEvent) (w : SubscriberWatcher σ) :
    w.handleAll (es ++ [e]) = (w.handleAll es).handleEvent e := by simp [handleAll]

lemma touch_congr {w v : SubscriberWatcher σ} (hsoc : v.societyId = w.societyId)
    {e : ChangeEvent} (h : e.operationType = .delete → ∀ id, e.documentKey = some id →
      v.idToSipuser.lookup id = w.idToSipuser.lookup id) : v.touch e = w.touch e := by
  simp only [touch, member, hsoc]
  split_ifs with hdelete
  · rcases hkey : e.documentKey with _ | id
    · rfl
    · simp [known, h hdelete id hkey]
  · rfl

lemma learn_congr {w v : SubscriberWatcher σ} (hsoc : v.societyId = w.societyId)
    (e : ChangeEvent) : v.learn e = w.learn e := by simp only [learn, member, hsoc]

/-- Two watchers that know the documents which the events delete by the same names end up alike. -/
theorem alike_handleAll (objects : Asterisk) (es : List ChangeEvent) {w v : SubscriberWatcher σ}
    (hsoc : v.societyId = w.societyId)
    (h : ∀ e ∈ es, e.operationType = .delete → ∀ id, e.documentKey = some id →
      v.idToSipuser.lookup id = w.idToSipuser.lookup id) :
    (∀ user, Alike (w.present objects user) (v.present objects user)
      ((w.handleAll es).present objects user) ((v.handleAll es).present objects user)) ∧
    ∀ id, Alike (w.idToSipuser.lookup id) (v.idToSipuser.lookup id)
      ((w.handleAll es).idToSipuser.lookup id) ((v.handleAll es).idToSipuser.lookup id) := by
  induction es generalizing w v with
  | nil => exact ⟨fun _ => Or.inr ⟨rfl, rfl⟩, fun _ => Or.inr ⟨rfl, rfl⟩⟩
  | cons e es ih =>
    have htouch : v.touch e = w.touch e := touch_congr hsoc (h e List.mem_cons_self)
    have hlearn : v.learn e = w.learn e := learn_congr hsoc e
    have hpresent : ∀ user, Alike (w.present objects user) (v.present objects user)
        ((w.handleEvent e).present objects user) ((v.handleEvent e).present objects user) := by
      intro user
      rw [present_handleEvent, present_handleEvent, htouch]
      exact alike_put _ _ _ _
    have hlookup : ∀ id, Alike (w.idToSipuser.lookup id) (v.idToSipuser.lookup id)
        ((w.handleEvent e).idToSipuser.lookup id) ((v.handleEvent e).idToSipuser.lookup id) := by
      intro id
      rw [lookup_handleEvent, lookup_handleEvent, hlearn]
      exact alike_put _ _ _ _
    have hnext := ih (by simpa using hsoc) (w := w.handleEvent e) (v := v.handleEvent e) ?_
    · exact ⟨fun user => (hpresent user).trans (hnext.1 user),
        fun id => (hlookup id).trans (hnext.2 id)⟩
    · intro e' he' hdelete id hkey
      have hsame := h e' (List.mem_cons_of_mem _ he') hdelete id hkey
      rw [lookup_handleEvent, lookup_handleEvent, hlearn, hsame]

end SubscriberWatcher
