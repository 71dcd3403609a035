import OnPremPbx.Pbx.Environment

/-!
# Handlers

The handlers of `microservice_pbx.cpp` for societies, subscribers, the directory and call records,
each as the program that makes its response. A handler that throws has no response.
-/

open Text

namespace MicroServicePbx

variable (env : Env)

/-- The `Missing required query param` response. -/
def missingSocietyId : Bytes :=
  responseError 400 "Bad Request" (Bytes.ofString "Missing required query param: societyId")

def emptyList : Bytes := httpResponse 200 "OK" (Bytes.ofString "[]")

def invalidBody : Bytes := responseError 400 "Bad Request" (Bytes.ofString "Invalid JSON body")

/-- The parameter `societyId` of the raw request line. -/
def societyIdOf (req : Bytes) : Bytes :=
  queryParam (rawUriWithQuery req) (Bytes.ofString "societyId")

/-! ### Societies -/

def handleSocietyPOST (req : Bytes) : Prog Bytes := do
  let parsed ← .ofOption (Http.ofBytes env.decompress req)
  match Json.parse parsed.body with
  | none      => pure invalidBody
  | some body =>
    match requiredText body "name", requiredText body "code" with
    | none, _           =>
      pure (responseError 400 "Bad Request" (Bytes.ofString "Missing field: name"))
    | some _, none      =>
      pure (responseError 400 "Bad Request" (Bytes.ofString "Missing field: code"))
    | some _, some code => do
      let existing ← getDocument "societies" (.concat [(Bytes.ofString "code", code)])
      if existing ≠ [] then
        pure (responseError 409 "Conflict" (Bytes.ofString "Society code already exists"))
      else do
        let doc := body
          |>.insert (Bytes.ofString "sipRealm") (.string (code ++ Bytes.ofString ".pbx.local"))
          |>.insert (Bytes.ofString "turnSharedSecret") (.string (env.randomAlnum 0 32))
          |>.insert (Bytes.ofString "maxConcurrentCalls") (.number (ofNat 5))
          |>.insert (Bytes.ofString "ringTimeoutSec") (.number (ofNat 30))
        let text ← env.dumped doc
        let inserted ← createDocument env.database "societies" text
        pure (httpResponse 201 "Created" (if inserted = [] then text else inserted))

/-- The rows of an answer, if it is a JSON array. -/
def rowsOf (raw : Bytes) : Option (List Json) :=
  match Json.parse raw with
  | some (.array rows) => some rows
  | _                  => none

/-- The response to an answer of the database, with `none` for an exception in either. -/
def societiesResponse (answer : Option Bytes) : Option Bytes :=
  match answer.bind rowsOf with
  | none      => some emptyList
  | some rows =>
    (env.dump (.array (rows.map fun row => row.erase (Bytes.ofString "turnSharedSecret")))).map
      (httpResponse 200 "OK")

def handleSocietiesGET (_req : Bytes) : Prog Bytes :=
  if env.dbAvailable then do
    let answer ← (getDocumentsAll "societies").attempt
    .ofOption (societiesResponse env answer)
  else pure emptyList

def handleSocietyDetailGET (req : Bytes) : Prog Bytes :=
  let id := pathSuffix req (Bytes.ofString "/api/v1/society/")
  if id = [] then
    pure (responseError 400 "Bad Request" (Bytes.ofString "Missing society id in path"))
  else if env.dbAvailable then do
    let query ← env.filter [(Bytes.ofString "_id", id)]
    let doc ← getDocument "societies" query
    if doc = [] then
      pure (responseError 404 "Not Found" (Bytes.ofString "Unknown society id"))
    else pure (httpResponse 200 "OK" doc)
  else pure (responseError 503 "Service Unavailable" (Bytes.ofString "DB not configured"))

/-! ### The administration -/

/-- A row of the list: without the fields of the server, and with the state of the phone. -/
def adminRow (societyId : Bytes) (row : Json) : Option Json :=
  let row' := (row.erase (Bytes.ofString "portalPasswordHash")).erase (Bytes.ofString "sipHa1")
  match env.isOnline with
  | none          => some row'
  | some isOnline =>
    if row.isObject then
      (valueOr row' "sipUsername").map fun sipUser =>
        row'.insert (Bytes.ofString "online") (.bool (sipUser ≠ [] && isOnline societyId sipUser))
    else some row'

def adminResponse (societyId : Bytes) (answer : Option Bytes) : Option Bytes :=
  match answer.bind rowsOf with
  | none      => some emptyList
  | some rows => do
    let rows ← rows.mapM (adminRow env societyId)
    let text ← env.dump (.array rows)
    some (httpResponse 200 "OK" text)

def handleAdminSubscribersGET (req : Bytes) : Prog Bytes :=
  let societyId := societyIdOf req
  if societyId = [] then pure missingSocietyId
  else if env.dbAvailable then do
    let answer ← Program.attempt do
      let query ← env.filter [(Bytes.ofString "societyId", societyId)]
      getDocuments "subscribers" query
    .ofOption (adminResponse env societyId answer)
  else pure emptyList

/-- The database answers by way of its agent. -/
def mongoConnected : Prog Bool :=
  if env.remoteDisconnected.1 then pure false
  else do
    let awb ← (nextAwbno "HEALTHCHK").attempt
    pure (awb.getD [] ≠ [] : Bool)

def handleAdminConnectivityGET (_req : Bytes) : Prog Bytes := do
  let mongo ← mongoConnected env
  let connected (b : Bool) : Json := .object [(Bytes.ofString "connected", .bool b)]
  let text ← env.dumped (.object
    [(Bytes.ofString "agent", connected env.agentConnected),
      (Bytes.ofString "wsdbagent", connected !env.remoteDisconnected.2),
      (Bytes.ofString "mongo", connected mongo),
      (Bytes.ofString "asterisk", connected env.asteriskConnected)])
  pure (httpResponse 200 "OK" text)

/-! ### The import of subscribers -/

/-- A field of a row, by the column of the header. -/
def column (header row : List Bytes) (col : String) : Bytes :=
  ((header.idxOf? (Bytes.ofString col)).bind fun i => row[i]?).getD []

def roleOf (header row : List Bytes) : Bytes :=
  if column header row "role" = [] then Bytes.ofString "resident" else column header row "role"

/-- The row has the required fields. -/
def complete (header row : List Bytes) : Bool :=
  column header row "flat_number" ≠ [] ∧ column header row "name" ≠ [] ∧
    column header row "email" ≠ []

/-- A line of the response. -/
def csvLine (fields : List Bytes) : Bytes :=
  List.intercalate [0x2C] fields ++ CRLF

/-- The subscriber of a row. -/
def subscriberOf (societyId flatId sipUsername sipHa1 portalHash : Bytes)
    (header row : List Bytes) : List (Bytes × Json) :=
  [member "societyId" societyId, member "flatId" flatId,
    member "flatNumber" (column header row "flat_number"),
    member "name" (column header row "name"), member "email" (column header row "email"),
    member "phone" (column header row "phone"), member "role" (roleOf header row),
    member "status" (Bytes.ofString "active"), (Bytes.ofString "autoAnswer", .bool false),
    member "sipUsername" sipUsername, member "sipHa1" sipHa1,
    member "portalPasswordHash" portalHash]

/-- The response after the last row. -/
def importResponse (outCsv : Bytes) (created skipped : ℕ) : Bytes :=
  Bytes.ofString "HTTP/1.1 200 OK\r\n" ++
    Bytes.ofString "Connection: keep-alive\r\nAccess-Control-Allow-Origin: *\r\n" ++
    Bytes.ofString "X-Import-Created: " ++ ofNat created ++ CRLF ++
    Bytes.ofString "X-Import-Skipped: " ++ ofNat skipped ++ CRLF ++
    Bytes.ofString "Content-Length: " ++ ofNat outCsv.length ++ CRLF ++
    Bytes.ofString "Content-Type: text/csv\r\n" ++
    Bytes.ofString
      "Content-Disposition: attachment; filename=\"subscriber_credentials.csv\"\r\n\r\n" ++
    outCsv

def rowError (r : ℕ) (cause : Bytes) : Bytes :=
  responseError 400 "Bad Request" (Bytes.ofString "Row " ++ ofNat r ++ cause)

/-- The flat of a resident, with the response where it is unknown. -/
def findFlat (societyId : Bytes) (header row : List Bytes) : Prog (Option Bytes) :=
  if roleOf header row = Bytes.ofString "resident" then do
    let flatDoc ← getDocument "flats" (.concat
      [(Bytes.ofString "societyId", societyId),
        (Bytes.ofString "number", column header row "flat_number")])
    if flatDoc = [] then pure none
    else pure (some (((Json.parse flatDoc).bind (·.text (Bytes.ofString "_id"))).getD []))
  else pure (some [])

/-- A row without a subscriber yet: the credentials are drawn, and the line tells them. -/
def createSubscriber (societyId realm flatId : Bytes) (header row : List Bytes) (r : ℕ) :
    Prog Bytes := do
  let sipUsername := Bytes.ofString "u_" ++ env.randomAlnum (3 * r) 10
  let sipPassword := env.randomAlnum (3 * r + 1) 16
  let portalPassword := env.randomAlnum (3 * r + 2) 16
  let sipHa1 := env.md5Hex
    (sipUsername ++ Bytes.ofString ":" ++ realm ++ Bytes.ofString ":" ++ sipPassword)
  let portalHash := env.hashPassword r portalPassword
  let text ← env.dumped
    (.object (subscriberOf societyId flatId sipUsername sipHa1 portalHash header row))
  let _ ← createDocument env.database "subscribers" text
  pure (csvLine [csvEscape (column header row "flat_number"), csvEscape (column header row "name"),
    csvEscape (column header row "email"), sipUsername, sipPassword, portalPassword,
    Bytes.ofString "created"])

/-- The loop over the rows after the header; `r` is the number of the next one. -/
def importRows (societyId realm : Bytes) (header : List Bytes) :
    ℕ → List (List Bytes) → (outCsv : Bytes) → (created skipped : ℕ) → Prog Bytes
  | _, [], outCsv, created, skipped          => pure (importResponse outCsv created skipped)
  | r, row :: rows, outCsv, created, skipped =>
    if complete header row then do
      match ← findFlat societyId header row with
      | none        =>
        pure (rowError r (Bytes.ofString ": unknown flat_number '" ++
          column header row "flat_number" ++ Bytes.ofString "'"))
      | some flatId => do
        let existing ← getDocument "subscribers" (.concat
          [(Bytes.ofString "societyId", societyId),
            (Bytes.ofString "email", column header row "email")])
        if existing ≠ [] then
          importRows societyId realm header (r + 1) rows
            (outCsv ++ csvLine [csvEscape (column header row "flat_number"),
              csvEscape (column header row "name"), csvEscape (column header row "email"),
              [], [], [], Bytes.ofString "skipped"])
            created (skipped + 1)
        else do
          let line ← createSubscriber env societyId realm flatId header row r
          importRows societyId realm header (r + 1) rows (outCsv ++ line) (created + 1) skipped
    else pure (rowError r (Bytes.ofString ": missing required field"))

/-- The header of a table and its rows, or the response where there is a problem. -/
def tableOf (csv : Bytes) : Except Bytes (List Bytes × List (List Bytes)) :=
  match csvRows csv with
  | header :: row :: rows =>
    if header.contains (Bytes.ofString "flat_number") ∧ header.contains (Bytes.ofString "name") ∧
        header.contains (Bytes.ofString "email") then .ok (header, row :: rows)
    else .error (responseError 400 "Bad Request"
      (Bytes.ofString "CSV header must include flat_number, name, email"))
  | _                     => .error (responseError 400 "Bad Request"
      (Bytes.ofString "CSV must contain a header row and at least one data row"))

def importTable (societyId realm : Bytes) (csv : Bytes) : Prog Bytes :=
  match tableOf csv with
  | .error err          => pure err
  | .ok (header, rows) =>
    importRows env societyId realm header 1 rows
      (Bytes.ofString "flat_number,name,email,sipUsername,sipPassword,portalPassword,status\r\n")
      0 0

def handleSubscriberImportPOST (req : Bytes) : Prog Bytes := do
  let parsed ← .ofOption (Http.ofBytes env.decompress req)
  let societyId := societyIdOf req
  if societyId = [] then pure missingSocietyId
  else do
    let societyDoc ← getDocument "societies" (.concat [(Bytes.ofString "_id", societyId)])
    if societyDoc = [] then
      pure (responseError 404 "Not Found" (Bytes.ofString "Unknown societyId"))
    else
      match (Json.parse societyDoc).bind (·.text (Bytes.ofString "sipRealm")) with
      | none       =>
        pure (responseError 500 "Internal Server Error"
          (Bytes.ofString "Society document missing sipRealm"))
      | some realm => importTable env societyId realm parsed.body

/-! ### Call records and the directory -/

def cdrResponse : Option Bytes → Bytes
  | none        => emptyList
  | some result => httpResponse 200 "OK" (if result = [] then Bytes.ofString "[]" else result)

def handleCdrGET (req : Bytes) : Prog Bytes :=
  let societyId := societyIdOf req
  if societyId = [] then pure missingSocietyId
  else if env.dbAvailable then do
    let answer ← (getDocuments "cdr" (.concat [(Bytes.ofString "societyId", societyId)])).attempt
    pure (cdrResponse answer)
  else pure emptyList

/-- The entry of a row, where `some none` is a row that is skipped and `none` an exception. -/
def directoryEntry (societyId flatPrefix : Bytes) (row : Json) : Option (Option Json) :=
  match row.text (Bytes.ofString "flatNumber") with
  | none      => some none
  | some flat =>
    if startsWith flatPrefix flat then do
      let sipUser ← valueOr row "sipUsername"
      let online := match env.isOnline with
        | none          => false
        | some isOnline => sipUser ≠ [] && isOnline societyId sipUser
      let name ← valueOr row "name"
      some (some (.object
        [member "flatNumber" flat, member "displayName" name,
          member "sipUri" (Bytes.ofString "sip:" ++ flat ++ Bytes.ofString "@pbx.local"),
          (Bytes.ofString "online", .bool online)]))
    else some none

def directoryResponse (societyId flatPrefix : Bytes) (answer : Option Bytes) : Option Bytes :=
  match answer with
  | none        => some emptyList
  | some result =>
    if result = [] then some emptyList
    else do
      let entries ← ((rowsOf result).getD []).mapM (directoryEntry env societyId flatPrefix)
      let text ← env.dump (.array (entries.filterMap id))
      some (httpResponse 200 "OK" text)

def handleDirectoryGET (req : Bytes) : Prog Bytes :=
  let societyId := societyIdOf req
  let flatPrefix := queryParam (rawUriWithQuery req) (Bytes.ofString "flatPrefix")
  if societyId = [] then pure missingSocietyId
  else if env.dbAvailable then do
    let answer ← (getDocuments "subscribers" (.concat
      [(Bytes.ofString "societyId", societyId)])).attempt
    .ofOption (directoryResponse env societyId flatPrefix answer)
  else pure emptyList

/-! ### The lifecycle of subscribers -/

/-- `resolve_lifecycle_target`, with the response where there is a problem. -/
def resolveLifecycleTarget (req : Bytes) : Prog (Except Bytes (Bytes × Bytes × Filter)) :=
  let sipUsername := pathSuffix req (Bytes.ofString "/api/v1/subscriber/")
  let societyId := societyIdOf req
  if sipUsername = [] then
    pure (.error (responseError 400 "Bad Request"
      (Bytes.ofString "Missing subscriber sipUsername in path")))
  else if societyId = [] then pure (.error missingSocietyId)
  else do
    let filter ← env.filter
      [(Bytes.ofString "societyId", societyId), (Bytes.ofString "sipUsername", sipUsername)]
    let found ← getDocument "subscribers" filter
    if found = [] then
      pure (.error (responseError 404 "Not Found" (Bytes.ofString "Unknown subscriber")))
    else pure (.ok (sipUsername, societyId, filter))

/-- The signal to the agent, where there is a sink. -/
def revokeOf (societyId sipUsername : Bytes) : Prog Unit :=
  if env.revocations then Program.perform (Op.revoke societyId sipUsername) else pure ()

/-- The status that a body asks for, or the response where it does not. -/
def statusOf (body : Option Json) : Except Bytes Bytes :=
  match body with
  | none      => .error invalidBody
  | some body =>
    match body.text (Bytes.ofString "status") with
    | none        =>
      .error (responseError 400 "Bad Request" (Bytes.ofString "Missing field: status"))
    | some status =>
      if status = Bytes.ofString "active" ∨ status = Bytes.ofString "disabled" then .ok status
      else .error (responseError 400 "Bad Request"
        (Bytes.ofString "status must be \"active\" or \"disabled\""))

def handleSubscriberStatusPUT (req : Bytes) : Prog Bytes := do
  match ← resolveLifecycleTarget env req with
  | .error err                          => pure err
  | .ok (sipUsername, societyId, filter) => do
    let parsed ← .ofOption (Http.ofBytes env.decompress req)
    match statusOf (Json.parse parsed.body) with
    | .error err => pure err
    | .ok status => do
      let update ← env.dumped
        (.object [(Bytes.ofString "$set", .object [member "status" status])])
      updateCollection "subscribers" filter update
      if status = Bytes.ofString "disabled" then do
        deleteDocument "sessions" filter
        revokeOf env societyId sipUsername
      let text ← env.dumped (.object
        [member "status" (Bytes.ofString "success"), member "sipUsername" sipUsername,
          member "subscriberStatus" status])
      pure (httpResponse 200 "OK" text)

def handleSubscriberDELETE (req : Bytes) : Prog Bytes := do
  match ← resolveLifecycleTarget env req with
  | .error err                          => pure err
  | .ok (sipUsername, societyId, filter) => do
    deleteDocument "subscribers" filter
    deleteDocument "sessions" filter
    revokeOf env societyId sipUsername
    let text ← env.dumped (.object
      [member "status" (Bytes.ofString "success"), member "sipUsername" sipUsername,
        (Bytes.ofString "removed", .bool true)])
    pure (httpResponse 200 "OK" text)

end MicroServicePbx
