import OnPremPbx.Database.Remote
import OnPremPbx.Pbx.Requests
import OnPremPbx.Text.Concat
import OnPremPbx.Transition.Program

/-!
# What the handlers call

The handlers of the PBX are programs over the methods of `IMongodbClient`, the HTTP client of
`PushSender` and the sink of revocations. An operation on the database also has the strings that its
filter is meant to ask for; no handler reads them. `Env` has what the code takes from elsewhere.
-/

namespace MicroServicePbx

/-! ### Operations -/

inductive Op where
  /-- a method of the database client, and the members that its filter is meant to have -/
  | db (c : DbCall) (members : List (Bytes × Bytes))
  /-- `IHttpClient::post` -/
  | post (url : Bytes) (headers : List (Bytes × Bytes)) (body : Bytes)
  /-- `IRevocationSink::revoke` -/
  | revoke (societyId sipUsername : Bytes)

/-- What an operation answers; of a response of the HTTP client it is the status. -/
abbrev Answer : Op → Type
  | .db ..     => DbValue
  | .post ..   => ℤ
  | .revoke .. => Unit

abbrev Prog := Program Answer

/-- The text of a filter, and the strings that it is made from. -/
structure Filter where
  text : Bytes
  members : List (Bytes × Bytes)

/-- A filter that is put together with quotes around the strings. -/
def Filter.concat (ms : List (Bytes × Bytes)) : Filter := ⟨Json.concatText ms, ms⟩

/-- The empty object. -/
def braces : Bytes := Bytes.ofString "\x7b\x7d"

/-- An operation of the database that answers with a text. -/
def textOf (c : DbCall) (members : List (Bytes × Bytes)) : Prog Bytes := do
  match (← Program.perform (.db c members) : DbValue) with
  | .text s => pure s
  | _       => .throw

def getDocument (coll : String) (query : Filter) : Prog Bytes :=
  textOf (.getDocument (Bytes.ofString coll) query.text braces) query.members

def getDocuments (coll : String) (query : Filter) : Prog Bytes :=
  textOf (.getDocumentsQueried (Bytes.ofString coll) query.text braces) query.members

def getDocumentsAll (coll : String) : Prog Bytes :=
  textOf (.getDocumentsAll (Bytes.ofString coll) braces) []

def createDocument (dbName : Bytes) (coll : String) (doc : Bytes) : Prog Bytes :=
  textOf (.createDocument dbName (Bytes.ofString coll) doc) []

def nextAwbno (awb : String) : Prog Bytes := textOf (.nextAwbno (Bytes.ofString awb)) []

def updateCollection (coll : String) (filter : Filter) (document : Bytes) : Prog Unit := do
  let _ ← Program.perform
    (.db (.updateCollection (Bytes.ofString coll) filter.text document) filter.members)

def deleteDocument (coll : String) (doc : Filter) : Prog Unit := do
  let _ ← Program.perform (.db (.deleteDocument (Bytes.ofString coll) doc.text) doc.members)

/-- Nothing is known about the answers. -/
def Anything (o : Op) (_ : Option (Answer o)) : Prop := True

/-- A text may be any, and the operation may throw. -/
lemma all_textOf {P : Op → Prop} {Q : Option Bytes → Prop} (c : DbCall)
    (ms : List (Bytes × Bytes)) : (textOf c ms).All Anything P Q ↔ P (.db c ms) ∧ ∀ r, Q r := by
  rw [textOf, Program.all_bind, Program.all_perform]
  refine and_congr_right fun _ => ⟨fun h r => ?_, fun h a _ => ?_⟩
  · cases r with
    | none => exact h none trivial
    | some s => exact h (some (.text s)) trivial
  · rcases a with _ | ⟨s⟩ | _ | _ | _
    · exact h none
    · exact h (some s)
    all_goals exact h none

/-! ### The environment -/

/-- What the handlers use from other code and from the process. A function that throws gives
`none`. -/
structure Env where
  /-- `db_available` -/
  dbAvailable : Bool
  /-- `db.get_database()` -/
  database : Bytes
  /-- `db.is_remote_disconnected()`, at its first and at its second call -/
  remoteDisconnected : Bool × Bool
  /-- the decompressor of `Http` -/
  decompress : Bytes → Bytes → Bytes
  /-- `json::dump` -/
  dump : Json → Option Bytes
  /-- `get<long>()` of a number -/
  toLong : Bytes → ℤ
  /-- the draw with this index in `random_alnum`, and its length -/
  randomAlnum : ℕ → ℕ → Bytes
  md5Hex : Bytes → Bytes
  /-- `MongodbClient::hash_password` at the draw with this index -/
  hashPassword : ℕ → Bytes → Bytes
  /-- `is_online` of the presence cache, if there is one -/
  isOnline : Option (Bytes → Bytes → Bool)
  /-- whether there is a sink of revocations -/
  revocations : Bool
  /-- `has_agent`, `asterisk_connected` -/
  agentConnected : Bool
  asteriskConnected : Bool
  /-- `time(nullptr)` -/
  now : ℤ

/-- An environment with a database and nothing else. -/
def bareEnv : Env where
  dbAvailable := true
  database := Bytes.ofString "pbx"
  remoteDisconnected := (false, false)
  decompress := fun _ body => body
  dump := fun _ => none
  toLong := fun _ => 0
  randomAlnum := fun _ n => List.replicate n 0x41
  md5Hex := fun _ => []
  hashPassword := fun _ _ => []
  isOnline := none
  revocations := false
  agentConnected := false
  asteriskConnected := false
  now := 0

namespace Env

variable (env : Env)

/-- A filter that the JSON library writes. -/
def filter (ms : List (Bytes × Bytes)) : Prog Filter :=
  .ofOption ((env.dump (.object (Json.strings ms))).map fun text => ⟨text, ms⟩)

def dumped (j : Json) : Prog Bytes := .ofOption (env.dump j)

end Env

/-! ### Texts of JSON -/

/-- A member with a name and a string. -/
def member (key : String) (value : Bytes) : Bytes × Json := (Bytes.ofString key, .string value)

/-- `contains`, `is_string` and not empty: the string of a required member. -/
def requiredText (body : Json) (key : String) : Option Bytes :=
  (body.text (Bytes.ofString key)).filter (· ≠ [])

/-- `value(key, std::string{})`, which throws where there is no object, or no string in it. -/
def valueOr (j : Json) (key : String) (default : Bytes := []) : Option Bytes :=
  if j.isObject then
    match j.field (Bytes.ofString key) with
    | none             => some default
    | some (.string s) => some s
    | some _           => none
  else none

/-- `std::tolower` on two texts: one is the beginning of the other. -/
def startsWith (flatPrefix flat : Bytes) : Bool := toLower flatPrefix <+: toLower flat

end MicroServicePbx
