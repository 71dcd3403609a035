import OnPremPbx.Database.Remote
import OnPremPbx.Http.Parser
import OnPremPbx.Text.Dump
import OnPremPbx.Transition.Program

/-!
# The handlers of accounts

`handle_DELETE` and `handle_account_PUT` (`webservice.cpp`) as programs over the methods of
`IMongodbClient`. The one puts its filter together with quotes around the text of the request, the
other writes it with the JSON library.
-/

open Text

namespace MicroService

/-! ### Responses -/

def httpBuildOk (body contentType : Bytes) (cacheControl : Bytes := []) : Bytes :=
  Bytes.ofString "HTTP/1.1 200 OK\r\nConnection: keep-alive\r\n" ++
    Bytes.ofString "Keep-Alive: timeout=5, max=100\r\nAccess-Control-Allow-Origin: *\r\n" ++
    (if body ≠ [] then
      Bytes.ofString "Content-Length: " ++ Bytes.ofString (toString body.length) ++ CRLF ++
        Bytes.ofString "Content-Type: " ++ contentType ++ CRLF
    else Bytes.ofString "Content-Length: 0\r\n") ++
    (if cacheControl ≠ [] then Bytes.ofString "Cache-Control: " ++ cacheControl ++ CRLF else []) ++
    CRLF ++ body

def httpBuildError (body : Bytes) (status : String) : Bytes :=
  Bytes.ofString "HTTP/1.1 " ++ Bytes.ofString status ++
    Bytes.ofString " \r\nConnection: keep-alive\r\n" ++
    Bytes.ofString "Keep-Alive: timeout=5, max=100\r\nAccess-Control-Allow-Origin: *\r\n" ++
    if body ≠ [] then
      Bytes.ofString "Content-Length: " ++ Bytes.ofString (toString body.length) ++ CRLF ++
        Bytes.ofString "Content-Type: application/json\r\n\r\n" ++ body
    else Bytes.ofString "Content-Length: 0\r\n\r\n"

def buildResponseOK (httpBody : String) : Bytes :=
  httpBuildOk (Bytes.ofString httpBody) (Bytes.ofString "application/json")

def buildResponseERROR (httpBody error : String) : Bytes :=
  httpBuildError (Bytes.ofString httpBody) error

/-! ### Programs -/

/-- What the handlers use from other code. -/
structure Env where
  /-- the decompressor of `Http` -/
  decompress : Bytes → Bytes → Bytes
  /-- `json::dump` -/
  dump : Json → Option Bytes
  /-- `MongodbClient::hash_password` -/
  hashPassword : Bytes → Bytes

abbrev Prog := Program fun _ : DbCall => DbValue

/-- A method that returns a `bool`. -/
def flagOf (c : DbCall) : Prog Bool := do
  match (← Program.perform c : DbValue) with
  | .flag b => pure b
  | _       => .throw

def deleteDocument (coll : String) (doc : Bytes) : Prog Bool :=
  flagOf (.deleteDocument (Bytes.ofString coll) doc)

def updateCollection (coll : String) (filter document : Bytes) : Prog Bool :=
  flagOf (.updateCollection (Bytes.ofString coll) filter document)

/-- The path of the code of an account. -/
def codePath : Bytes := Bytes.ofString "loginCredentials.accountCode"

/-! ### Deletions -/

/-- The filter for the shipments of a list, or of the days between two dates. -/
def shipmentFilter (awbNo startDate endDate : Bytes) : Option Bytes :=
  if awbNo ≠ [] then
    some (Bytes.ofString "\x7b\"shipmentNo\": \x7b\"$in\" : [" ++
      List.intercalate [0x2C] ((awbNo.splitOn 0x2C).map Json.quote) ++
      Bytes.ofString "]\x7d\x7d")
  else if startDate ≠ [] ∧ endDate ≠ [] then
    some (Bytes.ofString "\x7b\"createdOn\": \x7b\"$gte\" : " ++ Json.quote startDate ++
      Bytes.ofString ",\"$lte\" :" ++ Json.quote endDate ++ Bytes.ofString "\x7d\x7d")
  else none

def invalidAwb : Bytes :=
  buildResponseERROR
    "\x7b\"status\" : \"faiure\", \"cause\" : \"Invalid AWB Bill No.\", \"error\" : 400\x7d"
    "400 Bad Request"

/-- The filter of `handle_DELETE` for an account. -/
def accountFilter (accCode : Bytes) : Bytes := Json.concatText [(codePath, accCode)]

def handleDELETE (env : Env) (req : Bytes) : Prog Bytes := do
  let http ← Program.ofOption (Http.ofBytes env.decompress req)
  if http.uriName = Bytes.ofString "/api/v1/shipment/awblist" then
    let awbNo := http.getElement (Bytes.ofString "awbList")
    let startDate := http.getElement (Bytes.ofString "startDate")
    let endDate := http.getElement (Bytes.ofString "endDate")
    match shipmentFilter awbNo startDate endDate with
    | none          => pure invalidAwb
    | some document =>
      if ← deleteDocument "shipping" document then
        pure (buildResponseOK "\x7b\"status\": \"success\"\x7d")
      else pure invalidAwb
  else if http.uriName = Bytes.ofString "/api/v1/account/account" then
    let accCode := http.getElement (Bytes.ofString "accountCode")
    if accCode = [] then
      pure (buildResponseERROR
        "\x7b\"status\":\"failure\",\"cause\":\"Missing accountCode\",\"error\":400\x7d"
        "400 Bad Request")
    else if ← deleteDocument "account" (accountFilter accCode) then
      pure (buildResponseOK "\x7b\"status\":\"success\"\x7d")
    else
      pure (buildResponseERROR ("\x7b\"status\":\"failure\"," ++
        "\"cause\":\"Account not found or delete failed\",\"error\":404\x7d") "404 Not Found")
  else pure invalidAwb

/-! ### Updates -/

/-- The body with the digest of the password in place of the password. -/
def hashed (env : Env) (body : Json) : Json :=
  match body.field (Bytes.ofString "loginCredentials") with
  | some (.object ms) =>
    match (Json.object ms).text (Bytes.ofString "accountPassword") with
    | none       => body
    | some plain =>
      let lc := (Json.object ms).insert (Bytes.ofString "passwordHash")
        (.string (env.hashPassword plain))
      body.insert (Bytes.ofString "loginCredentials")
        (lc.erase (Bytes.ofString "accountPassword"))
  | _                 => body

/-- The filter of `handle_account_PUT`. -/
def accountQuery (accCode : Bytes) : Json :=
  .object (if accCode = [] then [] else Json.strings [(codePath, accCode)])

def setDocument (body : Json) : Json := .object [(Bytes.ofString "$set", body)]

def handleAccountPUT (env : Env) (req : Bytes) : Prog Bytes := do
  let http ← Program.ofOption (Http.ofBytes env.decompress req)
  if http.uriName ≠ Bytes.ofString "/api/v1/account/account" then pure []
  else
    let accCode := http.getElement (Bytes.ofString "userId")
    let body ← Program.ofOption (Json.parse http.body)
    let doc ← Program.ofOption (env.dump (setDocument (hashed env body)))
    let query ← Program.ofOption (env.dump (accountQuery accCode))
    if ← updateCollection "account" query doc then
      pure (buildResponseOK "\x7b\"status\":\"success\"\x7d")
    else
      pure (buildResponseERROR
        "\x7b\"cause\":\"Account Update Failed\",\"error\":400,\"status\":\"failure\"\x7d"
        "400 Bad Request")

end MicroService
