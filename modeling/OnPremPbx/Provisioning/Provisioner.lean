import Mathlib.Data.Finset.Insert
import Mathlib.Tactic

/-!
# Endpoints in Asterisk

`PjsipProvisioner` (`pjsip_provisioner.cpp`) makes the objects of a subscriber in Asterisk, and
removes them, by requests to the dynamic configuration of `res_pjsip`. It only logs what the
responses say. `Asterisk` is the other side, where every request succeeds.
-/

/-- The classes of objects of `res_pjsip` that subscribers have. -/
inductive ConfigType where
  | auth
  | aor
  | endpoint
  deriving DecidableEq, Repr

/-- A request to the dynamic configuration. -/
inductive ConfigRequest where
  | create (type : ConfigType) (id : String) (fields : List (String × String))
  | delete (type : ConfigType) (id : String)
  deriving DecidableEq, Repr

namespace PjsipProvisioner

def aorFields : List (String × String) :=
  [("type", "aor"), ("max_contacts", "5"), ("remove_existing", "yes")]

def endpointFields (aorId : String) : List (String × String) :=
  [("type", "endpoint"), ("context", "pbx"), ("from_domain", "pbx.local"), ("disallow", "all"),
    ("allow", "opus,ulaw,alaw"), ("direct_media", "no"), ("rtcp_mux", "yes"),
    ("ice_support", "yes"), ("use_avpf", "yes"), ("force_avp", "yes"),
    ("media_use_received_transport", "yes"), ("rewrite_contact", "yes"), ("rtp_symmetric", "yes"),
    ("transport", "transport-ws"), ("webrtc", "yes"), ("media_encryption", "dtls"),
    ("dtls_verify", "fingerprint"), ("dtls_setup", "actpass"),
    ("dtls_cert_file", "/etc/asterisk/keys/pbx.crt"),
    ("dtls_private_key", "/etc/asterisk/keys/pbx.key"), ("dtls_rekey", "0"), ("aors", aorId)]

/-- The requests of `provision`. The digest of the subscriber is not used any more. -/
def provision (sipUsername : String) : List ConfigRequest :=
  if sipUsername = "" then []
  else
    [.delete .auth (sipUsername ++ "-auth"), .create .aor sipUsername aorFields,
      .create .endpoint sipUsername (endpointFields sipUsername)]

/-- The requests of `deprovision`. -/
def deprovision (sipUsername : String) : List ConfigRequest :=
  if sipUsername = "" then []
  else
    [.delete .endpoint sipUsername, .delete .auth (sipUsername ++ "-auth"),
      .delete .aor sipUsername, .delete .aor (sipUsername ++ "-aor")]

end PjsipProvisioner

/-- The objects in Asterisk. -/
abbrev Asterisk := Finset (ConfigType × String)

namespace Asterisk

def apply (objects : Asterisk) : ConfigRequest → Asterisk
  | .create type id _ => insert (type, id) objects
  | .delete type id   => objects.erase (type, id)

/-- The objects after the requests. -/
def after (objects : Asterisk) (rs : List ConfigRequest) : Asterisk := rs.foldl apply objects

lemma after_append (objects : Asterisk) (rs rs' : List ConfigRequest) :
    objects.after (rs ++ rs') = (objects.after rs).after rs' := List.foldl_append

/-- Provisioning makes the endpoint. -/
lemma mem_after_provision {objects : Asterisk} {user v : String} (huser : user ≠ "") :
    (.endpoint, v) ∈ objects.after (PjsipProvisioner.provision user) ↔
      v = user ∨ (.endpoint, v) ∈ objects := by
  simp [after, apply, PjsipProvisioner.provision, huser]

/-- Deprovisioning removes the endpoint. -/
lemma mem_after_deprovision {objects : Asterisk} {user v : String} (huser : user ≠ "") :
    (.endpoint, v) ∈ objects.after (PjsipProvisioner.deprovision user) ↔
      v ≠ user ∧ (.endpoint, v) ∈ objects := by
  simp [after, apply, PjsipProvisioner.deprovision, huser]

end Asterisk
