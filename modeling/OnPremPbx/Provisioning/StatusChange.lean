import OnPremPbx.Calls.AriClient
import OnPremPbx.Provisioning.Watcher

/-!
# From the admin's request to the endpoint

An admin disables a subscriber, or enables it again, with a request that
`handle_subscriber_status_PUT` (`microservice_pbx.cpp`) turns into a `$set` of the status in the
`subscribers` collection (`MongodbClient::update_collection`). The watcher hears of it through the
cursor that `MongodbClient::watch_collection` opens (`mongodbc.cpp`). What an event of the change
stream holds depends on the options of the cursor.
-/

/-! ### The request -/

structure HttpResponse where
  code : ℕ
  reason : String
  body : String
  deriving DecidableEq, Repr

def responseError (code : ℕ) (reason cause : String) : HttpResponse where
  code := code
  reason := reason
  body := "\x7b\"status\":\"failure\",\"error\":" ++ toString code ++ ",\"cause\":\"" ++ cause ++
    "\"\x7d"

/-- What is read of a request: the end of the path, the society in the query, and the status in the
body if it is JSON. -/
structure StatusRequest where
  sipUsername : String
  societyId : String
  status : Option JsonField

/-- What the handler writes. -/
inductive LifecycleWrite where
  /-- the status of the documents of that society and name is set -/
  | setStatus (societyId sipUsername status : String)
  | deleteSessions (societyId sipUsername : String)
  | revoke (societyId sipUsername : String)
  deriving DecidableEq, Repr

/-- The filter of the society and the name. -/
def Subscriber.isAt (societyId sipUsername : String) (d : Subscriber) : Bool :=
  d.societyId = some societyId && d.sipUsername = some sipUsername

/-- `resolve_lifecycle_target`: the error, if there is one. -/
def resolveLifecycleTarget (req : StatusRequest) (docs : List Subscriber) : Option HttpResponse :=
  if req.sipUsername = "" then
    some (responseError 400 "Bad Request" "Missing subscriber sipUsername in path")
  else if req.societyId = "" then
    some (responseError 400 "Bad Request" "Missing required query param: societyId")
  else if docs.any (Subscriber.isAt req.societyId req.sipUsername) then none
  else some (responseError 404 "Not Found" "Unknown subscriber")

def statusSuccess (sipUsername status : String) : HttpResponse where
  code := 200
  reason := "OK"
  body := "\x7b\"sipUsername\":\"" ++ sipUsername ++
    "\",\"status\":\"success\",\"subscriberStatus\":\"" ++ status ++ "\"\x7d"

/-- `handle_subscriber_status_PUT`, with what it writes in order. -/
def handleSubscriberStatusPut (req : StatusRequest) (docs : List Subscriber) :
    HttpResponse × List LifecycleWrite :=
  match resolveLifecycleTarget req docs with
  | some err => (err, [])
  | none     =>
    match req.status with
    | none        => (responseError 400 "Bad Request" "Invalid JSON body", [])
    | some status =>
      match status.string? with
      | none        => (responseError 400 "Bad Request" "Missing field: status", [])
      | some status =>
        if status = "active" ∨ status = "disabled" then
          (statusSuccess req.sipUsername status,
            .setStatus req.societyId req.sipUsername status ::
              if status = "disabled" then
                [.deleteSessions req.societyId req.sipUsername,
                  .revoke req.societyId req.sipUsername]
              else [])
        else (responseError 400 "Bad Request" "status must be \"active\" or \"disabled\"", [])

/-! ### The change stream -/

/-- Whether an `update` event comes with the document. -/
inductive FullDocument where
  | default
  | updateLookup
  deriving DecidableEq, Repr

structure ChangeStreamOptions where
  resumeAfter : Option ResumeToken := none
  fullDocument : FullDocument := .default
  deriving DecidableEq, Repr

/-- The options that `MongoChangeStreamCursor` opens its stream with. -/
def mongoChangeStreamCursor (resumeToken : Option ResumeToken) : ChangeStreamOptions :=
  match resumeToken with
  | none       => {}
  | some token => { resumeAfter := some token }

/-- The event of an update, as the server sends it to a cursor with these options. -/
def updateEvent (opts : ChangeStreamOptions) (token : ResumeToken) (post : Subscriber) :
    ChangeEvent where
  resumeToken := some token
  operationType := .update
  documentKey := some post.id
  fullDocument :=
    match opts.fullDocument with
    | .default      => none
    | .updateLookup => some post

/-- The documents that a `$set` of the status changes, as they are then. One that has the status is
not changed, and there is no event for it. -/
def setStatus (societyId sipUsername status : String) (docs : List Subscriber) :
    List Subscriber :=
  (docs.filter fun d => d.isAt societyId sipUsername && d.status ≠ some status).map fun d =>
    { d with status := some status }

/-- The events that a cursor opened by `watch_collection` delivers for what the handler writes. -/
def statusEvents (resumeToken : Option ResumeToken) (token : ResumeToken) (docs : List Subscriber)
    (writes : List LifecycleWrite) : List ChangeEvent :=
  writes.flatMap fun
    | .setStatus societyId sipUsername status =>
      (setStatus societyId sipUsername status docs).map
        (updateEvent (mongoChangeStreamCursor resumeToken) token)
    | _ => []

namespace SubscriberWatcher

variable {σ : Type*}

/-- What the watcher has to do for a subscriber with the status. -/
def statusRequests (sipUsername status : String) : List ConfigRequest :=
  if status = "active" then PjsipProvisioner.provision sipUsername
  else PjsipProvisioner.deprovision sipUsername

lemma statusRequests_ne_nil {sipUsername : String} (h : sipUsername ≠ "") (status : String) :
    statusRequests sipUsername status ≠ [] := by
  rw [statusRequests]
  split_ifs <;> simp [PjsipProvisioner.provision, PjsipProvisioner.deprovision, h]

/-- The cursor asks for no documents. -/
lemma fullDocument_of_mem {resumeToken : Option ResumeToken} {token : ResumeToken}
    {docs : List Subscriber} {writes : List LifecycleWrite} {e : ChangeEvent}
    (he : e ∈ statusEvents resumeToken token docs writes) :
    e.operationType = .update ∧ e.fullDocument = none := by
  obtain ⟨w, -, he⟩ := List.mem_flatMap.mp he
  cases w with
  | setStatus societyId sipUsername status =>
    obtain ⟨d, -, rfl⟩ := List.mem_map.mp he
    cases resumeToken <;> exact ⟨rfl, rfl⟩
  | deleteSessions societyId sipUsername => cases he
  | revoke societyId sipUsername => cases he

lemma requests_handleEvent_of_none {e : ChangeEvent} (hop : e.operationType ≠ .delete)
    (hdoc : e.fullDocument = none) (w : SubscriberWatcher σ) :
    (w.handleEvent e).requests = w.requests := by
  simp [handleEvent, hop, hdoc]

/-- No change of status that an admin makes has an event that makes the watcher provision the
subscriber or deprovision it. -/
theorem status_change_not_applied (req : StatusRequest) (docs : List Subscriber)
    (w : SubscriberWatcher σ) (token : ResumeToken) (status : String) (e : ChangeEvent)
    (hstatus : .setStatus req.societyId req.sipUsername status ∈
      (handleSubscriberStatusPut req docs).2)
    (he : e ∈ statusEvents w.resumeToken token docs (handleSubscriberStatusPut req docs).2) :
    (w.handleEvent e).requests ≠ w.requests ++ statusRequests req.sipUsername status := by
  have huser : req.sipUsername ≠ "" := by
    intro hempty
    simp [handleSubscriberStatusPut, resolveLifecycleTarget, hempty] at hstatus
  obtain ⟨hop, hdoc⟩ := fullDocument_of_mem he
  rw [requests_handleEvent_of_none (by rw [hop]; decide) hdoc]
  intro heq
  exact statusRequests_ne_nil huser status (List.self_eq_append_right.mp heq)

/-- The subscriber whose status is changed below. -/
def amy : Subscriber where
  id := "1"
  societyId := some "s"
  sipUsername := some "amy"
  status := some "active"

/-- The request that disables her. -/
def disableAmy : StatusRequest where
  sipUsername := "amy"
  societyId := "s"
  status := some (.text "disabled")

/-- The event that comes of it. -/
def amyUpdated : ChangeEvent where
  resumeToken := some 7
  operationType := .update
  documentKey := some "1"

theorem status_change_not_applied_disabled :
    amyUpdated ∈ statusEvents none 7 [amy] (handleSubscriberStatusPut disableAmy [amy]).2 ∧
      (({ societyId := "s" } : SubscriberWatcher ℕ).handleEvent amyUpdated).requests ≠
        [] ++ statusRequests "amy" "disabled" :=
  ⟨by decide, status_change_not_applied disableAmy [amy] { societyId := "s" } 7 "disabled"
    amyUpdated (by decide) (by decide)⟩

/-- The admin is told that the subscriber is disabled, and her endpoint stays. -/
theorem disabled_subscriber_stays :
    handleSubscriberStatusPut disableAmy [amy] =
        (statusSuccess "amy" "disabled",
          [.setStatus "s" "amy" "disabled", .deleteSessions "s" "amy", .revoke "s" "amy"]) ∧
      statusEvents none 7 [amy] [.setStatus "s" "amy" "disabled"] = [amyUpdated] ∧
      ¬ (({ societyId := "s" } : SubscriberWatcher ℕ).handleEvent amyUpdated).requests =
        statusRequests "amy" "disabled" := by
  refine ⟨by decide, by decide, ?_⟩
  decide

end SubscriberWatcher
