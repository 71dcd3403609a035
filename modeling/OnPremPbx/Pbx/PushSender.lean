import OnPremPbx.Pbx.Environment

/-!
# Push notifications

`PushSender::notify` (`push_sender.cpp`): the subscriptions of a subscriber are looked up, each gets
the payload, and a subscription that the push service has given up is deleted. What the encryption
and the signature make is a parameter.
-/

namespace PushSender

open MicroServicePbx

/-- What the sender uses; a function that throws gives `none`. -/
structure Config where
  maxRetries : ℤ := 3
  /-- `encrypt_payload`, of the payload and the two keys -/
  encryptPayload : Bytes → Bytes → Bytes → Option Bytes
  /-- `build_vapid_auth` for the origin of an endpoint -/
  vapidAuth : Bytes → Option Bytes

variable (cfg : Config)

/-- What is sent to a subscription. -/
structure Delivery where
  endpoint : Bytes
  subId : Bytes
  headers : List (Bytes × Bytes)
  body : Bytes

/-- The delivery to a subscription; `some none` is one that is skipped, and `none` an exception. -/
def delivery (payload : Bytes) (sub : Json) : Option (Option Delivery) :=
  match sub.field (Bytes.ofString "endpoint"), sub.field (Bytes.ofString "p256dh"),
      sub.field (Bytes.ofString "auth") with
  | some (.string endpoint), some (.string p256dh), some (.string auth) => do
    let subId ← valueOr sub "_id"
    let body ← cfg.encryptPayload payload p256dh auth
    let vapidAuth ← cfg.vapidAuth endpoint
    let headers :=
      [(Bytes.ofString "Authorization", vapidAuth),
        (Bytes.ofString "Content-Encoding", Bytes.ofString "aes128gcm"),
        (Bytes.ofString "Content-Type", Bytes.ofString "application/octet-stream"),
        (Bytes.ofString "TTL", Bytes.ofString "60")]
    some (some ⟨endpoint, subId, headers, body⟩)
  | some _, some _, some _                                              => none
  | _, _, _                                                             => some none

/-- The attempts at a delivery, with the number of those that are left: whether it went through. -/
def attempts (d : Delivery) : ℕ → Prog Bool
  | 0     => pure false
  | n + 1 => do
    let status ← Program.perform (Op.post d.endpoint d.headers d.body)
    if 200 ≤ status ∧ status < 300 then pure true
    else if status = 410 then
      if d.subId = [] then pure false
      else do
        deleteDocument "push_subscriptions" (.concat [(Bytes.ofString "_id", d.subId)])
        pure false
    else if status = 503 ∧ n ≠ 0 then attempts d n
    else pure false

/-- The loop over the subscriptions, and how many deliveries went through. -/
def deliverAll (payload : Bytes) : List Json → (delivered : ℕ) → Prog ℕ
  | [], delivered          => pure delivered
  | sub :: subs, delivered => do
    match ← .ofOption (delivery cfg payload sub) with
    | none   => deliverAll payload subs delivered
    | some d => do
      let sent ← attempts d (cfg.maxRetries + 1).toNat
      deliverAll payload subs (if sent then delivered + 1 else delivered)

/-- The subscriptions that an answer of the database has. -/
def subscriptions (raw : Bytes) : List Json :=
  match Json.parse raw with
  | some (.array subs) => subs
  | _                  => []

def notify (subscriberId payload : Bytes) : Prog ℕ := do
  let raw ← getDocuments "push_subscriptions"
    (.concat [(Bytes.ofString "subscriberId", subscriberId)])
  deliverAll cfg payload (subscriptions raw) 0

end PushSender
