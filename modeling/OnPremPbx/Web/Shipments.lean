import OnPremPbx.Accounts.LogRedaction
import OnPremPbx.Accounts.Migration
import OnPremPbx.Pbx.Sessions
import OnPremPbx.Text.SortedMembers

/-!
# Shipments

`handle_shipment_POST` (`webservice.cpp`) stores one shipment or several, and gives those that ask
for it a new AWB number. Whatever is thrown on the way to the numbers is caught, and what was sent
is stored as it is.
-/

open Json

namespace MicroService

open MicroServicePbx (boolOr valueOr)

/-- What the handler uses from other code. -/
structure ShipmentEnv where
  /-- the decompressor of `Http` -/
  decompress : Bytes → Bytes → Bytes
  json : JsonLibrary
  /-- `get_database` -/
  database : Bytes
  /-- what the exchange with `ajoul.com` leads to, with `none` for an exception -/
  ajoul : Bytes → Option Bytes

/-- A method that returns a string. -/
def textOf (c : DbCall) : Prog Bytes := do
  match (← Program.perform c : DbValue) with
  | .text s => pure s
  | _       => .throw

/-- A method that returns a number. -/
def countOf (c : DbCall) : Prog ℤ := do
  match (← Program.perform c : DbValue) with
  | .count n => pure n
  | _        => .throw

def shipmentName : Bytes := Bytes.ofString "shipment"
def awbName : Bytes := Bytes.ofString "awbno"
def shippingColl : Bytes := Bytes.ofString "shipping"

/-- The prefix where the account has none. -/
def defaultPrefix : Bytes := Bytes.ofString "AWB"

namespace ShipmentEnv

variable (env : ShipmentEnv)

/-! ### Numbers -/

/-- The prefix of the account with the code. -/
def awbPrefix (accNo : Bytes) : Prog Bytes := do
  let query ← Program.ofOption (env.json.dump (accountQuery accNo))
  let ad ← textOf (.getDocument accountColl query
    (Bytes.ofString "\x7b\"_id\":false,\"awbPrefix\":true\x7d"))
  if ad = [] then pure defaultPrefix
  else
    let ja ← Program.ofOption (env.json.parse ad)
    match ja.text (Bytes.ofString "awbPrefix") with
    | none   => pure defaultPrefix
    | some p => pure (if p = [] then defaultPrefix else p)

/-- The prefix for a shipment. The inner `try` leaves it as it was. -/
def prefixOf (shipment : Json) : Prog Bytes := do
  match shipment.field (Bytes.ofString "senderInformation") with
  | none        => pure defaultPrefix
  | some sender =>
    let found ← (do
      let accNo ← Program.ofOption (valueOr sender "accountNo")
      if accNo = [] then pure defaultPrefix else awbPrefix env accNo : Prog Bytes).attempt
    pure (found.getD defaultPrefix)

/-- The number of a shipment, and the shipment with it if it is a new one. -/
def numberShipment (shipment : Json) : Prog (Bytes × Option Json) := do
  if ← Program.ofOption (boolOr shipment "isAutoGenerate" false) then
    let awbno ← textOf (.nextAwbno (← prefixOf env shipment))
    pure (awbno, some (shipment.assign awbName (.string awbno)))
  else
    let awbno ← Program.ofOption (valueOr shipment "awbno")
    pure (awbno, none)

/-! ### One shipment -/

/-- The number of a document, and the document if the number is new. -/
def numberDocument (content : Bytes) : Prog (Bytes × Option Json) := do
  let doc ← Program.ofOption (env.json.parse content)
  match doc.field shipmentName with
  | none          => pure ([], none)
  | some shipment =>
    let (awbno, numbered) ← numberShipment env shipment
    pure (awbno, numbered.map (doc.assign shipmentName))

/-- The number, and what is stored. -/
def numberSingle (content : Bytes) : Prog (Bytes × Bytes) := do
  match ← (numberDocument env content).attempt with
  | none                     => pure ([], content)
  | some (awbno, none)       => pure (awbno, content)
  | some (awbno, some doc) => pure (awbno, (env.json.dump doc).getD content)

def singleResponse (oid awbno : Bytes) : Prog Bytes := do
  let rsp ← Program.ofOption (env.json.dump
    (.object (strings [(awbName, awbno), (Bytes.ofString "oid", oid)])))
  pure (httpBuildOk rsp (Bytes.ofString "application/json"))

def shippingPOST (content : Bytes) : Prog Bytes := do
  if content = [] then pure []
  else
    let (awbno, content) ← numberSingle env content
    let record ← textOf (.createDocument env.database shippingColl content)
    if record = [] then pure [] else singleResponse env record awbno

/-! ### Several shipments -/

/-- What `items` goes through: the members of an object, in the order in which the library has them,
the elements of an array, and any other value but `null` itself. -/
def items : Json → List Json
  | .object ms => ms.map (·.2)
  | .array es  => es
  | .null      => []
  | j          => [j]

/-- The value with other items. -/
def setItems : Json → List Json → Json
  | .object ms, docs => .object ((ms.map (·.1)).zip docs)
  | .array _, docs   => .array docs
  | j, _             => j

/-- The loop: the numbers so far, and unless something was thrown the items as they are then and
whether one of them was modified. -/
def numberItems : List Json → Prog (List Bytes × Option (Bool × List Json))
  | []          => pure ([], some (false, []))
  | doc :: docs =>
    match doc.field shipmentName with
    | none          => do
      let (numbers, rest) ← numberItems docs
      pure (numbers, rest.map fun (modified, docs) => (modified, doc :: docs))
    | some shipment => do
      match ← (numberShipment env shipment).attempt with
      | none                   => pure ([], none)
      | some (awbno, none)     =>
        let (numbers, rest) ← numberItems docs
        pure (awbno :: numbers, rest.map fun (modified, docs) => (modified, doc :: docs))
      | some (awbno, some new) =>
        let (numbers, rest) ← numberItems docs
        pure (awbno :: numbers,
          rest.map fun (_, docs) => (true, doc.assign shipmentName new :: docs))

/-- The numbers, and what is stored. -/
def numberBulk (content : Bytes) : Prog (List Bytes × Bytes) :=
  match env.json.parse content with
  | none      => pure ([], content)
  | some body => do
    let (numbers, rest) ← numberItems env (items body)
    match rest with
    | some (true, docs) => pure (numbers, (env.json.dump (setItems body docs)).getD content)
    | _                 => pure (numbers, content)

def bulkResponse (cnt : ℤ) (numbers : List Bytes) : Prog Bytes := do
  let rsp ← Program.ofOption (env.json.dump (.object
    [(Bytes.ofString "awbNumbers", .array (numbers.map .string)),
      (Bytes.ofString "createdShipments", .number (Decimal.ofInt cnt))]))
  pure (httpBuildOk rsp (Bytes.ofString "application/json"))

def bulkShippingPOST (content : Bytes) : Prog Bytes := do
  if content = [] then pure []
  else
    let (numbers, content) ← numberBulk env content
    let cnt ← countOf (.createBulkDocument env.database shippingColl content)
    if cnt ≠ 0 then bulkResponse env cnt numbers
    else pure (buildResponseERROR ("\x7b\"cause\":\"Bulk Shipment Creation Failed\"," ++
      "\"error\":400,\"status\":\"failure\"\x7d") "400 Bad Request")

def handleShipmentPOST (req : Bytes) : Prog Bytes := do
  let http ← Program.ofOption (Http.ofBytes env.decompress req)
  if http.uriName = Bytes.ofString "/api/v1/shipment/shipping" then shippingPOST env http.body
  else if http.uriName = Bytes.ofString "/api/v1/shipment/bulk/shipping" then
    bulkShippingPOST env http.body
  else if http.uriName = Bytes.ofString "/api/v1/shipment/thirdparty/ajoul" then
    Program.ofOption (env.ajoul req)
  else pure []

end ShipmentEnv

end MicroService
