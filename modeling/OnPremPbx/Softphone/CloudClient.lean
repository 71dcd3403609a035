import OnPremPbx.Pbx.JsonStore

/-!
# The log-in of the mobile app

`CloudClient.login` (`cloudClient.ts`), the transport under it (`http.ts`) and the options that
`createSipEnv` gives to the user agent, with `handleSubscriberLoginPOST` on the other side. A value
of the app is a value of JSON, and `none` where it is undefined; texts are in UTF-8.
-/

open MicroServicePbx

namespace CloudClient

/-! ### The app -/

/-- What the app takes from its platform. -/
structure Platform where
  stringify : Json → Bytes
  /-- `JSON.parse`, which raises for `none` -/
  parse : Bytes → Option Json
  encodeURIComponent : Bytes → Bytes
  /-- the text of a value in a template, which is no string -/
  toText : Json → Bytes
  /-- the number is zero -/
  isZero : Bytes → Bool

inductive ApiErrorCode
  | invalidCredentials | unknownSociety | duplicate | rateLimited | network | server
  deriving DecidableEq, Repr

structure HttpResponse where
  status : ℕ
  body : Option Json

variable (p : Platform)

/-- The body that `FetchTransport.request` takes from the text of a response. -/
def responseBody (text : Bytes) : Option Json :=
  if text = [] then none else some ((p.parse text).getD (.string text))

/-- The body of `login`. -/
def loginRequest (societyName flatNumber password : Bytes) : Json :=
  .object [member "societyName" societyName, member "flatNumber" flatNumber,
    member "password" password]

def isOk (res : HttpResponse) : Bool := 200 ≤ res.status ∧ res.status < 300

def errorFor (res : HttpResponse) : ApiErrorCode :=
  if res.status = 401 then .invalidCredentials
  else if res.status = 404 then .unknownSociety
  else if res.status = 409 then .duplicate
  else if res.status = 429 then .rateLimited
  else .server

/-- A value counts as true in a condition. -/
def truthy : Json → Bool
  | .null         => false
  | .bool b       => b
  | .number t     => !p.isZero t
  | .string s     => s ≠ []
  | .array _      => true
  | .object _     => true

/-- `sessionFrom`; the session is the body. -/
def sessionFrom (res : HttpResponse) : Except ApiErrorCode Json :=
  if isOk res then
    match res.body with
    | none   => .error .server
    | some s =>
      if (s.text (Bytes.ofString "token")).isSome ∧
          (s.field (Bytes.ofString "subscriber")).any (truthy p) then .ok s
      else .error .server
  else .error (errorFor res)

/-! ### The user agent -/

/-- A value in a template. -/
def template : Option Json → Bytes
  | none             => Bytes.ofString "undefined"
  | some (.string s) => s
  | some v           => p.toText v

/-- A member of the subscriber of a session. -/
def subscriberField (session : Json) (key : String) : Option Json :=
  (session.field (Bytes.ofString "subscriber")).bind (·.field (Bytes.ofString key))

/-- An origin whose scheme is that of a WebSocket. -/
def httpToWs (origin : Bytes) : Bytes :=
  if Bytes.ofString "http://" <+: origin then
    Bytes.ofString "ws://" ++ origin.drop (Bytes.ofString "http://").length
  else if Bytes.ofString "https://" <+: origin then
    Bytes.ofString "wss://" ++ origin.drop (Bytes.ofString "https://").length
  else origin

def sipRealmFor (session : Json) : Bytes :=
  template p (subscriberField session "societyId") ++ Bytes.ofString ".pbx.local"

structure UaOptions where
  uri : Bytes
  wsUrl : Bytes
  authUser : Option Json
  displayName : Option Json

/-- What `createSipEnv` gives to the factory of user agents. -/
def uaOptions (cloudBaseUrl : Bytes) (session : Json) : UaOptions where
  uri := Bytes.ofString "sip:" ++ template p (subscriberField session "sipUsername") ++
    Bytes.ofString "@" ++ sipRealmFor p session
  wsUrl := httpToWs cloudBaseUrl ++ Bytes.ofString "/sip-ws?token=" ++
    p.encodeURIComponent (template p (session.field (Bytes.ofString "token")))
  authUser := subscriberField session "sipUsername"
  displayName := subscriberField session "displayName"

/-! ### The responses of the log-in -/

/-- The subscriber of a response, as both modes of the server write it. -/
def profile (societyId flatNumber displayName sipUser role : Bytes) (autoAnswer : Bool) : Json :=
  .object [member "societyId" societyId, member "flatNumber" flatNumber,
    member "displayName" displayName, member "sipUser" sipUser, member "role" role,
    (Bytes.ofString "autoAnswer", .bool autoAnswer)]

def IsProfile (who : Identity) : Prop :=
  ∃ societyId flatNumber displayName role autoAnswer,
    who.subscriber = profile societyId flatNumber displayName who.sipUsername role autoAnswer

lemma isProfile_devIdentity (societyCode flatNumber : Bytes) :
    IsProfile (devIdentity societyCode flatNumber) := ⟨_, _, _, _, _, rfl⟩

lemma isProfile_identityOf {societyId : Bytes} {subscriber : Json} {who : Identity}
    (h : identityOf societyId subscriber = some who) : IsProfile who := by
  obtain ⟨-, -, role, flatNumber, name, autoAnswer, hwho⟩ := identityOf_eq_some h
  exact ⟨_, _, _, _, _, hwho⟩

variable (env : SessionEnv)

/-- The session in the body of a response. -/
def sentSession (token : Bytes) (who : Identity) : Json :=
  .object [member "token" token, (Bytes.ofString "subscriber", who.subscriber)]

/-- An error, or a session with 200. -/
inductive LoginResponse : Bytes → Prop
  | refused (code : ℕ) (reason : String) (cause : Bytes) (hcode : 400 ≤ code) :
    LoginResponse (MicroServicePbx.responseError code reason cause)
  | accepted {token body setCookie : Bytes} {who : Identity} (hwho : IsProfile who)
      (hbody : env.dump (sentSession token who) = some body) :
    LoginResponse (httpResponse 200 "OK" body (Bytes.ofString "application/json") setCookie)

/-- A refusal, or one who is written as a profile. -/
def Checked : Except Bytes Identity → Prop
  | .error err => LoginResponse env err
  | .ok who    => IsProfile who

lemma checked_error (code : ℕ) (reason : String) (cause : Bytes) (hcode : 400 ≤ code) :
    Checked env (.error (MicroServicePbx.responseError code reason cause)) :=
  .refused code reason cause hcode

lemma yields_findSubscriber (societyId flatNumber password : Bytes) :
    (findSubscriber env societyId flatNumber password).Yields Anything (Checked env) := by
  rw [findSubscriber]
  refine Program.yields_bind fun query => Program.yields_bind fun record => ?_
  split_ifs
  · exact Program.yields_pure (checked_error env _ _ _ (by decide))
  · cases Json.parse record with
    | none => exact Program.yields_pure (checked_error env _ _ _ (by decide))
    | some subscriber =>
      dsimp only
      split_ifs
      · exact Program.yields_pure (checked_error env _ _ _ (by decide))
      · exact Program.yields_ofOption_bind fun who hwho =>
          Program.yields_pure (isProfile_identityOf hwho)
      · exact Program.yields_pure (checked_error env _ _ _ (by decide))

/-- The society, or a refusal. -/
def CheckedSociety : Except Bytes Bytes → Prop
  | .error err => LoginResponse env err
  | .ok _      => True

lemma yields_findSociety (societyCode : Bytes) :
    (findSociety env societyCode).Yields Anything (CheckedSociety env) := by
  have herror : ∀ code reason cause, 400 ≤ code →
      CheckedSociety env (.error (MicroServicePbx.responseError code reason cause)) :=
    fun code reason cause hcode => .refused code reason cause hcode
  rw [findSociety]
  refine Program.yields_bind fun query => Program.yields_bind fun record => ?_
  split_ifs
  · exact Program.yields_pure (herror _ _ _ (by decide))
  · split
    · exact Program.yields_pure (herror _ _ _ (by decide))
    · exact Program.yields_pure (herror _ _ _ (by decide))
    · exact Program.yields_pure trivial

lemma yields_checkLogin (req : Bytes) : (checkLogin env req).Yields Anything (Checked env) := by
  rw [checkLogin]
  refine Program.yields_ofOption_bind fun parsed _ => ?_
  cases Json.parse parsed.body with
  | none => exact Program.yields_pure (checked_error env _ _ _ (by decide))
  | some body =>
    dsimp only
    split
    · exact Program.yields_pure (checked_error env _ _ _ (by decide))
    · split_ifs
      · exact Program.yields_pure (checked_error env _ _ _ (by decide))
      · refine (yields_findSociety env _).bind fun society hsociety => ?_
        cases society with
        | error err => exact Program.yields_pure hsociety
        | ok societyId => exact yields_findSubscriber env _ _ _
      · exact Program.yields_pure (isProfile_devIdentity _ _)

/-- What the handler of the log-in responds. -/
lemma yields_login (req : Bytes) :
    (handleSubscriberLoginPOST env req).Yields Anything (LoginResponse env) := by
  rw [handleSubscriberLoginPOST]
  refine (yields_checkLogin env req).bind fun check hcheck => ?_
  cases check with
  | error err => exact Program.yields_pure hcheck
  | ok who =>
    dsimp only
    rw [finishLogin]
    split_ifs
    · exact Program.yields_pure (.refused _ _ _ (by decide))
    · refine Program.yields_bind fun _ => ?_
      exact Program.yields_ofOption_bind fun body hbody =>
        Program.yields_pure (.accepted hcheck hbody)

/-! ### The exchange -/

/-- The platform writes the body of a request such that it is read as it was, or not at all, and
reads what the server writes. -/
structure Platform.Understands (dump : Json → Option Bytes) : Prop where
  request : ∀ j v, Json.parse (p.stringify j) = some v → v = j
  response : ∀ j text, dump j = some text → p.parse text = some j
  nonempty : ∀ j, dump j ≠ some []

variable {p env}

/-- The society of the app has another name in the handler. -/
lemma missingMember_loginRequest (societyName flatNumber password : Bytes) :
    missingMember (loginRequest societyName flatNumber password)
      ["societyCode", "flatNumber", "password"] = some "societyCode" := rfl

def missingSociety : Bytes := Bytes.ofString "Missing field: societyCode"

/-- The checks refuse the request of the app, without a look at the database. -/
lemma checkLogin_loginRequest {req societyName flatNumber password : Bytes} {parsed : Http}
    (hparsed : Http.ofBytes env.decompress req = some parsed)
    (hjson : Json.parse parsed.body = some (loginRequest societyName flatNumber password)) :
    checkLogin env req =
      pure (.error (MicroServicePbx.responseError 400 "Bad Request" missingSociety)) := by
  have hret : (Program.ofOption (some parsed) : Prog _) = pure parsed := rfl
  rw [checkLogin, hparsed, hret, pure_bind, hjson]
  dsimp only
  rw [missingMember_loginRequest]
  rfl

lemma checkLogin_of_not_json {req : Bytes} {parsed : Http}
    (hparsed : Http.ofBytes env.decompress req = some parsed)
    (hjson : Json.parse parsed.body = none) : checkLogin env req = pure (.error invalidBody) := by
  have hret : (Program.ofOption (some parsed) : Prog _) = pure parsed := rfl
  rw [checkLogin, hparsed, hret, pure_bind, hjson]

/-- The session of the app is the one that was sent, and its user is undefined. -/
lemma sessionFrom_sentSession (hp : p.Understands env.dump) {token body : Bytes} {who : Identity}
    (hwho : IsProfile who) (hbody : env.dump (sentSession token who) = some body) :
    sessionFrom p ⟨200, responseBody p body⟩ = .ok (sentSession token who) ∧
      subscriberField (sentSession token who) "sipUser" = some (.string who.sipUsername) ∧
      subscriberField (sentSession token who) "sipUsername" = none := by
  obtain ⟨societyId, flatNumber, displayName, role, autoAnswer, hwho⟩ := hwho
  have hne : body ≠ [] := fun hempty => hp.nonempty _ (hempty ▸ hbody)
  rw [responseBody, if_neg hne, hp.response _ _ hbody, sentSession, hwho]
  exact ⟨rfl, rfl, rfl⟩

/-- The handler never accepts the request of the app. Whatever request it accepts, the session that
the app builds has no user, and the user agent registers an undefined one. -/
theorem login_disagrees (p : Platform) (env : SessionEnv) (hp : p.Understands env.dump)
    (req : Bytes) :
    (∀ societyName flatNumber password,
      (Http.ofBytes env.decompress req).map (·.body) =
        some (p.stringify (loginRequest societyName flatNumber password)) →
      ∃ cause ∈ [Bytes.ofString "Invalid JSON body", missingSociety],
        handleSubscriberLoginPOST env req =
          pure (MicroServicePbx.responseError 400 "Bad Request" cause)) ∧
    (handleSubscriberLoginPOST env req).Yields Anything fun rsp =>
      (∃ code ≥ 400, ∃ reason cause, rsp = MicroServicePbx.responseError code reason cause) ∨
      ∃ body setCookie session user,
        rsp = httpResponse 200 "OK" body (Bytes.ofString "application/json") setCookie ∧
        sessionFrom p ⟨200, responseBody p body⟩ = .ok session ∧
        subscriberField session "sipUser" = some (.string user) ∧
        ∀ cloudBaseUrl, (uaOptions p cloudBaseUrl session).authUser = none ∧
          (uaOptions p cloudBaseUrl session).uri =
            Bytes.ofString "sip:undefined@" ++ sipRealmFor p session := by
  constructor
  · intro societyName flatNumber password hreq
    obtain ⟨parsed, hparsed, hbody⟩ := Option.map_eq_some_iff.mp hreq
    rw [handleSubscriberLoginPOST]
    cases hjson : Json.parse parsed.body with
    | none =>
      rw [checkLogin_of_not_json hparsed hjson, pure_bind]
      exact ⟨_, List.mem_cons_self, rfl⟩
    | some body =>
      obtain rfl := hp.request _ _ (hbody ▸ hjson)
      rw [checkLogin_loginRequest hparsed hjson, pure_bind]
      exact ⟨_, List.mem_cons_of_mem _ List.mem_cons_self, rfl⟩
  · refine (yields_login env req).mono fun rsp hrsp => ?_
    cases hrsp with
    | refused code reason cause hcode => exact .inl ⟨code, hcode, reason, cause, rfl⟩
    | @accepted token body setCookie who hwho hbody =>
      obtain ⟨hsession, hsent, hread⟩ := sessionFrom_sentSession hp hwho hbody
      refine .inr ⟨body, setCookie, _, who.sipUsername, rfl, hsession, hsent, fun base => ?_⟩
      refine ⟨hread, ?_⟩
      rw [uaOptions, hread]
      rfl

/-! ### A subscriber who logs in -/

/-- A platform that writes JSON as the server does. -/
def plainPlatform : Platform where
  stringify j := (Json.dumped j).getD []
  parse := Json.parse
  encodeURIComponent := id
  toText := Json.dump
  isZero t := t = Bytes.ofString "0"

lemma understands_plainPlatform : plainPlatform.Understands Json.dumped where
  request j v h := by
    have hparse : Json.parse ((Json.dumped j).getD []) = some v := h
    cases hj : Json.dumped j with
    | none =>
      rw [hj] at hparse
      cases hparse
    | some text =>
      rw [hj, Option.getD_some, Json.parse_dumped hj] at hparse
      exact (Option.some.inj hparse).symm
  response _ _ h := Json.parse_dumped h
  nonempty j h := by
    have hparse := Json.parse_dumped h
    cases hparse

/-- A server in strict mode, where the password fits. -/
def strictEnv : SessionEnv where
  toEnv := { bareEnv with dump := Json.dumped, toLong := Decimal.toInt, now := 1000 }
  strict := true
  randBytes := some [0xA1, 0x0F]
  verifyPassword := fun _ _ => true
  nowMs := 1000000

def society : Json :=
  .object [member "_id" (Bytes.ofString "s1"), member "code" (Bytes.ofString "gm")]

def subscriber : Json :=
  .object [member "societyId" (Bytes.ofString "s1"), member "flatNumber" (Bytes.ofString "A-101"),
    member "sipUsername" (Bytes.ofString "a101"), member "portalPasswordHash" (Bytes.ofString "h")]

lemma writable_society : society.writable = true := by decide

lemma writable_subscriber : subscriber.writable = true := by decide

/-- A database with the subscriber. -/
def oneSubscriber : JsonStore where
  rows := [(Bytes.ofString "societies", ⟨society, writable_society⟩),
    (Bytes.ofString "subscribers", ⟨subscriber, writable_subscriber⟩)]

/-- What the app sends for the subscriber. -/
def mobileRequest : Bytes :=
  Bytes.ofString "POST /api/v1/subscriber/login HTTP/1.1\r\nContent-Length: 59\r\n\r\n" ++
    plainPlatform.stringify
      (loginRequest (Bytes.ofString "gm") (Bytes.ofString "A-101") (Bytes.ofString "pw"))

lemma body_mobileRequest : (Http.ofBytes strictEnv.decompress mobileRequest).map (·.body) =
    some (plainPlatform.stringify
      (loginRequest (Bytes.ofString "gm") (Bytes.ofString "A-101") (Bytes.ofString "pw"))) := by
  decide +kernel

/-- The log-in of the subscriber is refused. -/
theorem login_disagrees_mobile :
    ∃ cause, handleSubscriberLoginPOST strictEnv mobileRequest =
      pure (MicroServicePbx.responseError 400 "Bad Request" cause) := by
  have h := (login_disagrees plainPlatform strictEnv understands_plainPlatform mobileRequest).1
    _ _ _ body_mobileRequest
  obtain ⟨cause, -, hcause⟩ := h
  exact ⟨cause, hcause⟩

/-- The subscriber is in the database, who logs in as `a101` if the password fits. The request of
the app is refused, and a session of the subscriber has no user for the app. -/
theorem known_subscriber_refused :
    oneSubscriber.docs (Bytes.ofString "subscribers") = [subscriber] ∧
    authenticates strictEnv (Bytes.ofString "pw") subscriber = true ∧
    (∃ who, identityOf (Bytes.ofString "s1") subscriber = some who ∧
      who.sipUsername = Bytes.ofString "a101" ∧
      (uaOptions plainPlatform [] (sentSession (Bytes.ofString "t") who)).uri =
        Bytes.ofString "sip:undefined@s1.pbx.local") ∧
    ((handleSubscriberLoginPOST strictEnv mobileRequest).run JsonStore.handler oneSubscriber).1 =
      some (MicroServicePbx.responseError 400 "Bad Request" missingSociety) := by
  refine ⟨rfl, rfl, ⟨_, rfl, rfl, rfl⟩, ?_⟩
  obtain ⟨parsed, hparsed, hbody⟩ := Option.map_eq_some_iff.mp body_mobileRequest
  have hwritable : (loginRequest (Bytes.ofString "gm") (Bytes.ofString "A-101")
      (Bytes.ofString "pw")).writable = true := by decide
  have hjson : Json.parse parsed.body = some (loginRequest (Bytes.ofString "gm")
      (Bytes.ofString "A-101") (Bytes.ofString "pw")) := by
    have hdumped : Json.dumped _ = some _ := if_pos hwritable
    rw [hbody, plainPlatform]
    dsimp only
    rw [hdumped]
    exact Json.parse_dump hwritable
  rw [handleSubscriberLoginPOST, checkLogin_loginRequest hparsed hjson, pure_bind]
  rfl

end CloudClient
