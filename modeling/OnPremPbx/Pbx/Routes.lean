import OnPremPbx.Pbx.Handlers

/-!
# Routes

`MicroService::dispatch_pbx_routes` (`webservice.cpp`) and the session that the routes of the
administration ask for, `resolve_admin_session` (`microservice_pbx.cpp`). The handlers that ask for
no such session and are not modelled are parameters.
-/

open Json

namespace MicroServicePbx

/-! ### Sessions -/

structure AdminSession where
  error : Bytes := []
  societyId : Bytes := []
  sipUsername : Bytes := []
  role : Bytes := []
  deriving DecidableEq

/-- The field `expiresAt` is a number in the future. -/
def isLive (env : Env) (session : Json) : Bool :=
  match session.field (Bytes.ofString "expiresAt") with
  | some (.number t) => env.now < env.toLong t
  | _                => false

def unauthorized (cause : String) : AdminSession :=
  { error := responseError 401 "Unauthorized" (Bytes.ofString cause) }

/-- The session of a live record. -/
def adminOf (session : Json) : Option AdminSession := do
  let role ← valueOr session "role"
  if role = Bytes.ofString "admin" then do
    let societyId ← valueOr session "societyId"
    let sipUsername ← valueOr session "sipUsername"
    some { societyId := societyId, sipUsername := sipUsername, role := role }
  else some { error := responseError 403 "Forbidden" (Bytes.ofString "Admin role required") }

def resolveAdminSession (env : Env) (req : Bytes) : Prog AdminSession := do
  let token ← .ofOption (extractSessionToken env.decompress req)
  if token = [] then pure (unauthorized "Missing or invalid session")
  else do
    let query ← env.filter [(Bytes.ofString "token", token)]
    let record ← getDocument "sessions" query
    if record = [] then pure (unauthorized "Missing or invalid session")
    else
      match Json.parse record with
      | none         =>
        pure { error := responseError 500 "Internal Server Error"
                 (Bytes.ofString "session record is not valid JSON") }
      | some session =>
        if isLive env session then .ofOption (adminOf session)
        else do
          -- the row of an expired session is dropped, and whether that works makes no difference
          let _ ← (deleteDocument "sessions" query).attempt
          pure (unauthorized "Session expired")

/-! ### Routes -/

inductive Route where
  | subscriberLogin
  | importTemplateXlsx
  | importTemplate
  | subscriberImport
  | subscriberStatus
  | subscriberDelete
  | directory
  | society
  | societies
  | societyDetail
  | adminSubscribers
  | adminConnectivity
  | cdr
  | pushVapidKey
  | pushSubscribe
  | turnCredentials
  | ping
  /-- no route of the PBX -/
  | other
  deriving DecidableEq, Repr

/-- The route of a request, in the order in which they are tried. -/
def routeOf (method uri : Bytes) : Route :=
  let GET := method = Bytes.ofString "GET"
  let POST := method = Bytes.ofString "POST"
  let is (path : String) := uri = Bytes.ofString path
  let startsWith (path : String) := Bytes.ofString path <+: uri
  if POST ∧ is "/api/v1/subscriber/login" then .subscriberLogin
  else if GET ∧ is "/api/v1/subscriber/import/template.xlsx" then .importTemplateXlsx
  else if GET ∧ is "/api/v1/subscriber/import/template" then .importTemplate
  else if POST ∧ startsWith "/api/v1/subscriber/import" then .subscriberImport
  else if method = Bytes.ofString "PUT" ∧ startsWith "/api/v1/subscriber/" then .subscriberStatus
  else if method = Bytes.ofString "DELETE" ∧ startsWith "/api/v1/subscriber/" then .subscriberDelete
  else if GET ∧ startsWith "/api/v1/subscriber" then .directory
  else if POST ∧ is "/api/v1/society" then .society
  else if GET ∧ is "/api/v1/societies" then .societies
  else if GET ∧ startsWith "/api/v1/society/" then .societyDetail
  else if GET ∧ is "/api/v1/admin/subscribers" then .adminSubscribers
  else if GET ∧ is "/api/v1/admin/connectivity" then .adminConnectivity
  else if GET ∧ startsWith "/api/v1/cdr" then .cdr
  else if GET ∧ is "/api/v1/push-vapid-key" then .pushVapidKey
  else if POST ∧ (is "/api/v1/push-subscribe" ∨ is "/api/v1/push/subscribe") then .pushSubscribe
  else if GET ∧ is "/api/v1/turn-credentials" then .turnCredentials
  else if GET ∧ is "/api/v1/ping" then .ping
  else .other

/-- The routes behind `resolve_admin_session`. -/
def Route.needsAdmin : Route → Bool
  | .subscriberImport | .subscriberStatus | .subscriberDelete | .society | .societies
  | .societyDetail | .adminSubscribers | .adminConnectivity => true
  | _                                                       => false

/-- The routes whose handlers work on the society that the query names. -/
def Route.namesSociety : Route → Bool
  | .subscriberImport | .subscriberStatus | .subscriberDelete | .adminSubscribers => true
  | _                                                                             => false

/-- The handlers of the other routes. -/
structure OtherHandlers where
  subscriberLoginPOST : Bytes → Prog Bytes
  importTemplateXlsxGET : Bytes → Prog Bytes
  importTemplateGET : Bytes → Prog Bytes
  pushVapidKeyGET : Bytes → Prog Bytes
  pushSubscribePOST : Bytes → Prog Bytes
  turnCredentialsGET : Bytes → Prog Bytes
  pingGET : Bytes → Prog Bytes

variable (env : Env) (other : OtherHandlers)

def Route.handler (req : Bytes) : Route → Prog Bytes
  | .subscriberLogin    => other.subscriberLoginPOST req
  | .importTemplateXlsx => other.importTemplateXlsxGET req
  | .importTemplate     => other.importTemplateGET req
  | .subscriberImport   => handleSubscriberImportPOST env req
  | .subscriberStatus   => handleSubscriberStatusPUT env req
  | .subscriberDelete   => handleSubscriberDELETE env req
  | .directory          => handleDirectoryGET env req
  | .society            => handleSocietyPOST env req
  | .societies          => handleSocietiesGET env req
  | .societyDetail      => handleSocietyDetailGET env req
  | .adminSubscribers   => handleAdminSubscribersGET env req
  | .adminConnectivity  => handleAdminConnectivityGET env req
  | .cdr                => handleCdrGET env req
  | .pushVapidKey       => other.pushVapidKeyGET req
  | .pushSubscribe      => other.pushSubscribePOST req
  | .turnCredentials    => other.turnCredentialsGET req
  | .ping               => other.pingGET req
  | .other              => pure []

/-- A handler behind the session of an administrator. -/
def behindAdmin (req : Bytes) (handler : Prog Bytes) : Prog Bytes := do
  let check ← resolveAdminSession env req
  if check.error ≠ [] then pure check.error else handler

def dispatchPbxRoutes (req : Bytes) : Prog Bytes := do
  let http ← .ofOption (Http.ofBytes env.decompress req)
  let route := routeOf http.method http.uriName
  if route.needsAdmin then behindAdmin env req (route.handler env other req)
  else route.handler env other req

end MicroServicePbx
