import OnPremPbx.Pbx.Routes
import OnPremPbx.Text.Decimal

/-!
# Sessions

The handlers of `microservice_pbx.cpp` that issue a session, refresh it and look at it: the log-in,
the ping and the upgrade of `/sip-ws`.
-/

open Decimal (ofInt)

namespace MicroServicePbx

/-- What these handlers use besides. -/
structure SessionEnv extends Env where
  /-- `PBX_AUTH_STRICT` is 1 -/
  strict : Bool
  /-- the bytes of `RAND_bytes`, unless it fails -/
  randBytes : Option Bytes
  /-- `MongodbClient::verify_password`, of a password and a hash -/
  verifyPassword : Bytes → Bytes → Bool
  /-- the clock of the ping, in milliseconds -/
  nowMs : ℤ

variable (env : SessionEnv)

def kSessionTtlSec : ℤ := 24 * 60 * 60

def kSessionTtlGuardSec : ℤ := 7 * 24 * 60 * 60

def ttlSecForRole (role : Bytes) : ℤ :=
  if role = Bytes.ofString "guard" then kSessionTtlGuardSec else kSessionTtlSec

/-- The role of a session, resident where it has none; an exception where it is no string. -/
def sessionRole (session : Json) : Option Bytes :=
  valueOr session "role" (Bytes.ofString "resident")

/-- `{"token": token}`. -/
def tokenFilter (token : Bytes) : Prog Filter :=
  env.filter [(Bytes.ofString "token", token)]

/-- The update that moves the end of a session. -/
def expiryUpdate (expiresAt : ℤ) : Json :=
  .object [(Bytes.ofString "$set",
    .object [(Bytes.ofString "expiresAt", .number (ofInt expiresAt))])]

/-- The write of a refresh; whether it works makes no difference. -/
def slideExpiry (token : Bytes) (expiresAt : ℤ) : Prog Unit := do
  let _ ← Program.attempt do
    let filter ← tokenFilter env token
    let update ← env.dumped (expiryUpdate expiresAt)
    updateCollection "sessions" filter update
  pure ()

def refreshSessionExpiry (token : Bytes) : Prog Unit :=
  if token = [] then pure ()
  else do
    let record ← Program.attempt do
      let filter ← tokenFilter env token
      getDocument "sessions" filter
    match (record.filter (· ≠ [])).bind Json.parse with
    | none         => pure ()
    | some session =>
      if isLive env.toEnv session then do
        let role ← .ofOption (sessionRole session)
        slideExpiry env token (env.now + ttlSecForRole role)
      else pure ()

/-! ### The log-in -/

def hexChar (n : ℕ) : UInt8 := if n < 10 then UInt8.ofNat (0x30 + n) else UInt8.ofNat (0x57 + n)

def hexEncode (bytes : Bytes) : Bytes :=
  bytes.flatMap fun b => [hexChar (b.toNat / 16), hexChar (b.toNat % 16)]

/-- `mint_bearer_token`, empty where there are no random bytes. -/
def mintBearerToken : Bytes := (env.randBytes.map hexEncode).getD []

/-- Who logs in: what `finish_login` is given. -/
structure Identity where
  subscriber : Json
  email : Bytes
  societyId : Bytes
  sipUsername : Bytes
  role : Bytes

/-- The document of a new session. -/
def sessionDoc (token : Bytes) (who : Identity) : List (Bytes × Json) :=
  [member "token" token, member "email" who.email, member "societyId" who.societyId,
    member "sipUsername" who.sipUsername, member "role" who.role,
    (Bytes.ofString "createdAt", .number (ofInt env.now)),
    (Bytes.ofString "expiresAt", .number (ofInt (env.now + ttlSecForRole who.role)))]

/-- The session is stored. -/
def storeSession (token : Bytes) (who : Identity) : Prog Unit := do
  let text ← env.dumped (.object (sessionDoc env token who))
  let _ ← createDocument env.database "sessions" text

def loginResponse (token : Bytes) (who : Identity) : Prog Bytes := do
  let setCookie := Bytes.ofString "Set-Cookie: session=" ++ token ++
    Bytes.ofString "; HttpOnly; Secure; SameSite=Strict; Path=/; Max-Age=" ++
    ofInt (ttlSecForRole who.role) ++ CRLF
  let rsp ← env.dumped
    (.object [member "token" token, (Bytes.ofString "subscriber", who.subscriber)])
  pure (httpResponse 200 "OK" rsp (Bytes.ofString "application/json") setCookie)

def finishLogin (who : Identity) : Prog Bytes :=
  let token := mintBearerToken env
  if token = [] then
    pure (responseError 500 "Internal Server Error" (Bytes.ofString "RAND_bytes failed"))
  else do
    storeSession env token who
    loginResponse env token who

/-- The first member that the body of a log-in lacks. -/
def missingMember (body : Json) (required : List String) : Option String :=
  required.find? fun key => (requiredText body key).isNone

def invalidCredentials : Bytes :=
  responseError 401 "Unauthorized" (Bytes.ofString "Invalid credentials")

/-- The hash of the subscriber's password fits. -/
def authenticates (password : Bytes) (subscriber : Json) : Bool :=
  (subscriber.text (Bytes.ofString "portalPasswordHash")).any (env.verifyPassword password)

/-- There is a status, and it is not `active`. -/
def isDisabled (subscriber : Json) : Bool :=
  (subscriber.text (Bytes.ofString "status")).any (· ≠ Bytes.ofString "active")

/-- `value` of a member that is true or false. -/
def boolOr (j : Json) (key : String) (default : Bool) : Option Bool :=
  if j.isObject then
    match j.field (Bytes.ofString key) with
    | none           => some default
    | some (.bool b) => some b
    | some _         => none
  else none

/-- What a subscriber logs in as; an exception where a member has another type. -/
def identityOf (societyId : Bytes) (subscriber : Json) : Option Identity := do
  let sipUsername ← valueOr subscriber "sipUsername"
  let role ← valueOr subscriber "role" (Bytes.ofString "resident")
  let email ← valueOr subscriber "email"
  let flatNumber ← valueOr subscriber "flatNumber"
  let name ← valueOr subscriber "name"
  let autoAnswer ← boolOr subscriber "autoAnswer" false
  some
    { subscriber := .object
        [member "societyId" societyId, member "flatNumber" flatNumber, member "displayName" name,
          member "sipUser" sipUsername, member "role" role,
          (Bytes.ofString "autoAnswer", .bool autoAnswer)]
      email := email
      societyId := societyId
      sipUsername := sipUsername
      role := role }

/-- Who a subscriber is, with the members that the profile has. -/
lemma identityOf_eq_some {societyId : Bytes} {subscriber : Json} {who : Identity}
    (h : identityOf societyId subscriber = some who) :
    valueOr subscriber "sipUsername" = some who.sipUsername ∧ who.societyId = societyId ∧
      ∃ role flatNumber name autoAnswer, who.subscriber = .object
        [member "societyId" societyId, member "flatNumber" flatNumber, member "displayName" name,
          member "sipUser" who.sipUsername, member "role" role,
          (Bytes.ofString "autoAnswer", .bool autoAnswer)] := by
  obtain ⟨sipUsername, hsip, h⟩ := Option.bind_eq_some_iff.mp h
  obtain ⟨role, -, h⟩ := Option.bind_eq_some_iff.mp h
  obtain ⟨email, -, h⟩ := Option.bind_eq_some_iff.mp h
  obtain ⟨flatNumber, -, h⟩ := Option.bind_eq_some_iff.mp h
  obtain ⟨name, -, h⟩ := Option.bind_eq_some_iff.mp h
  obtain ⟨autoAnswer, -, h⟩ := Option.bind_eq_some_iff.mp h
  cases h
  exact ⟨hsip, rfl, _, _, _, _, rfl⟩

/-- The society of a code, or the response where there is a problem. -/
def findSociety (societyCode : Bytes) : Prog (Except Bytes Bytes) := do
  let query ← env.filter [(Bytes.ofString "code", societyCode)]
  let societyDoc ← getDocument "societies" query
  if societyDoc = [] then pure (.error invalidCredentials)
  else
    match (Json.parse societyDoc).bind (valueOr · "_id") with
    | none           =>
      pure (.error (responseError 500 "Internal Server Error"
        (Bytes.ofString "society record is not valid JSON")))
    | some []        =>
      pure (.error (responseError 500 "Internal Server Error"
        (Bytes.ofString "society record missing _id")))
    | some societyId => pure (.ok societyId)

/-- The log-in of a subscriber of a society. -/
def findSubscriber (societyId flatNumber password : Bytes) : Prog (Except Bytes Identity) := do
  let query ← env.filter
    [(Bytes.ofString "societyId", societyId), (Bytes.ofString "flatNumber", flatNumber)]
  let record ← getDocument "subscribers" query
  if record = [] then pure (.error invalidCredentials)
  else
    match Json.parse record with
    | none            =>
      pure (.error (responseError 500 "Internal Server Error"
        (Bytes.ofString "subscriber record is not valid JSON")))
    | some subscriber =>
      if authenticates env password subscriber then
        if isDisabled subscriber then
          pure (.error (responseError 403 "Forbidden" (Bytes.ofString "Account disabled")))
        else do
          let who ← .ofOption (identityOf societyId subscriber)
          pure (.ok who)
      else pure (.error invalidCredentials)

/-- Who logs in where nothing is checked. -/
def devIdentity (societyCode flatNumber : Bytes) : Identity where
  subscriber := .object
    [member "societyId" societyCode, member "flatNumber" flatNumber,
      member "displayName" flatNumber, member "sipUser" flatNumber,
      member "role" (Bytes.ofString "resident"), (Bytes.ofString "autoAnswer", .bool false)]
  email := []
  societyId := societyCode
  sipUsername := flatNumber
  role := Bytes.ofString "resident"

/-- The checks of a log-in: who it is, or the response where there is a problem. -/
def checkLogin (req : Bytes) : Prog (Except Bytes Identity) := do
  let parsed ← .ofOption (Http.ofBytes env.decompress req)
  match Json.parse parsed.body with
  | none      => pure (.error invalidBody)
  | some body =>
    match missingMember body ["societyCode", "flatNumber", "password"] with
    | some key =>
      pure (.error (responseError 400 "Bad Request" (Bytes.ofString ("Missing field: " ++ key))))
    | none     =>
      let societyCode := (body.text (Bytes.ofString "societyCode")).getD []
      let flatNumber := (body.text (Bytes.ofString "flatNumber")).getD []
      let password := (body.text (Bytes.ofString "password")).getD []
      if env.remoteDisconnected.1 then
        pure (.error (responseError 503 "Service Unavailable"
          (Bytes.ofString "On-prem agent not connected to cloud")))
      else if env.strict then do
        match ← findSociety env societyCode with
        | .error err    => pure (.error err)
        | .ok societyId => findSubscriber env societyId flatNumber password
      else pure (.ok (devIdentity societyCode flatNumber))

def handleSubscriberLoginPOST (req : Bytes) : Prog Bytes := do
  match ← checkLogin env req with
  | .error err => pure err
  | .ok who    => finishLogin env who

/-! ### The ping -/

def handlePingGET (req : Bytes) : Prog Bytes := do
  let token ← .ofOption (extractSessionToken env.decompress req)
  refreshSessionExpiry env token
  let text ← env.dumped (.object
    [(Bytes.ofString "ok", .bool true), (Bytes.ofString "ts", .number (ofInt env.nowMs))])
  pure (httpResponse 200 "OK" text)

/-! ### The upgrade -/

structure SipWsUpgrade where
  error : Bytes := []
  openMetaJson : Bytes := []
  deriving DecidableEq

/-- The token of an upgrade, which looks at the request before its first line. -/
def upgradeToken (req : Bytes) : Option Bytes :=
  (Http.ofBytes env.decompress req).map fun parsed =>
    let tok := queryParam (rawUriWithQuery req) (Bytes.ofString "token")
    if tok = [] then
      cookieValue (parsed.getElement (Bytes.ofString "Cookie")) (Bytes.ofString "session")
    else tok

/-- The response to the record of the subscriber in strict mode, where it is gone or disabled. -/
def gateOf (record : Bytes) : Option Bytes :=
  if record = [] then
    some (responseError 403 "Forbidden" (Bytes.ofString "subscriber no longer exists"))
  else if isDisabled ((Json.parse record).getD (.object [])) then
    some (responseError 403 "Forbidden" (Bytes.ofString "subscriber account is disabled"))
  else none

/-- The gate of the strict mode. -/
def subscriberGate (session : Json) : Prog (Option Bytes) := do
  let societyId ← .ofOption (valueOr session "societyId")
  let sipUsername ← .ofOption (valueOr session "sipUsername")
  let query ← env.filter
    [(Bytes.ofString "societyId", societyId), (Bytes.ofString "sipUsername", sipUsername)]
  let record ← getDocument "subscribers" query
  pure (gateOf record)

def unknownSession : Bytes :=
  responseError 401 "Unauthorized" (Bytes.ofString "unknown or expired portal session")

/-- The live session of a record, or the response where there is none. -/
def sessionOf (record : Bytes) : Except Bytes Json :=
  if record = [] then .error unknownSession
  else
    match Json.parse record with
    | none         => .error (responseError 500 "Internal Server Error"
        (Bytes.ofString "session record is not valid JSON"))
    | some session => if isLive env.toEnv session then .ok session else .error unknownSession

/-- A live session, behind the gate where the mode is strict. -/
def gatedSession (session : Json) : Prog (Except Bytes Json) :=
  if env.strict then do
    let gate ← subscriberGate env session
    pure (gate.elim (.ok session) .error)
  else pure (.ok session)

/-- The checks of an upgrade: the session of the token, or the response where there is a problem. -/
def upgradeSession (token : Bytes) : Prog (Except Bytes Json) :=
  if token = [] then
    pure (.error (responseError 401 "Unauthorized" (Bytes.ofString
      "SIP-WS upgrade requires ?token=<bearer> or a session= cookie tied to a portal login")))
  else do
    let query ← tokenFilter env token
    let record ← getDocument "sessions" query
    match sessionOf env record with
    | .error err  => pure (.error err)
    | .ok session => gatedSession env session

/-- The metadata of the stream that is opened. -/
def openMeta (req : Bytes) (session : Json) : Prog Bytes := do
  let parsed ← .ofOption (Http.ofBytes env.decompress req)
  let societyId ← .ofOption (valueOr session "societyId")
  let sipUsername ← .ofOption (valueOr session "sipUsername")
  env.dumped (.object
    [member "societyId" societyId, member "sipUsername" sipUsername,
      member "clientUA" (parsed.getElement (Bytes.ofString "User-Agent"))])

def handleSipwsUpgrade (req : Bytes) : Prog SipWsUpgrade := do
  let token ← .ofOption (upgradeToken env req)
  match ← upgradeSession env token with
  | .error err  => pure { error := err }
  | .ok session => do
    let role ← .ofOption (sessionRole session)
    slideExpiry env token (env.now + ttlSecForRole role)
    let text ← openMeta env req session
    pure { openMetaJson := text }

end MicroServicePbx
