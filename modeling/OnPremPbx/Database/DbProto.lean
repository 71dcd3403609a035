import OnPremPbx.Tunnel.SipFrame

/-!
# Requests and responses to the database

The envelopes of `dbproto.cpp`: BSON documents with the fields of a request or of a response, where
a field that is empty is left out. A document is the list of its fields. The parsers take the fields
in order, keep what they have read if one has the wrong type, and accept a document without any of
them; bytes that are no BSON have no field that can be found.
-/

/-- A value in an envelope. -/
inductive BsonValue where
  | int32 (n : ℤ)
  | bool (b : Bool)
  | utf8 (s : Bytes)
  | binary (b : Bytes)
  | other
  deriving DecidableEq, Repr

namespace BsonValue

def getInt32 : BsonValue → Option ℤ
  | .int32 n => some n
  | _        => none

def getBool : BsonValue → Option Bool
  | .bool b => some b
  | _       => none

def getUtf8 : BsonValue → Option Bytes
  | .utf8 s => some s
  | _       => none

def getBinary : BsonValue → Option Bytes
  | .binary b => some b
  | _         => none

end BsonValue

/-- The fields of a document. -/
abbrev BsonDocument := List (String × BsonValue)

/-- The bytes of an envelope, with `none` for no bytes at all. -/
abbrev Envelope := Option BsonDocument

inductive DbOp where
  | createDocument
  | createBulkDocument
  | updateCollection
  | updateBulkDocument
  | deleteDocument
  | getDocument
  | getDocumentsQueried
  | getDocumentsAll
  | nextAwbno
  | storeFile
  | fetchFile
  | fetchFileById
  | deleteFile
  /-- a number that is none of these -/
  | unknown (n : ℤ)
  deriving DecidableEq, Repr

namespace DbOp

def code : DbOp → ℤ
  | .createDocument      => 0
  | .createBulkDocument  => 1
  | .updateCollection    => 2
  | .updateBulkDocument  => 3
  | .deleteDocument      => 4
  | .getDocument         => 5
  | .getDocumentsQueried => 6
  | .getDocumentsAll     => 7
  | .nextAwbno           => 8
  | .storeFile           => 9
  | .fetchFile           => 10
  | .fetchFileById       => 11
  | .deleteFile          => 12
  | .unknown n           => n

/-- The operations that have a name, in the order of their numbers. -/
def named : List DbOp :=
  [.createDocument, .createBulkDocument, .updateCollection, .updateBulkDocument, .deleteDocument,
    .getDocument, .getDocumentsQueried, .getDocumentsAll, .nextAwbno, .storeFile, .fetchFile,
    .fetchFileById, .deleteFile]

def ofCode (n : ℤ) : DbOp := (named.find? fun op => op.code = n).getD (.unknown n)

lemma ofCode_code {op : DbOp} (h : op ∈ named) : ofCode op.code = op := by
  revert op
  decide

/-- The number of an operation is kept, whether it has a name or not. -/
lemma code_ofCode (n : ℤ) : (ofCode n).code = n := by
  rw [ofCode]
  cases hfind : named.find? fun op => op.code = n with
  | none => rfl
  | some op =>
    have hcode := List.find?_some hfind
    exact of_decide_eq_true hcode

end DbOp

namespace Dbproto

structure DbRequest where
  reqid : ℤ := -1
  op : DbOp := .getDocument
  db : Bytes := []
  coll : Bytes := []
  doc : Bytes := []
  doc2 : Bytes := []
  sval : Bytes := []
  deriving DecidableEq, Repr

structure DbResponse where
  reqid : ℤ := -1
  ok : Bool := false
  sval : Bytes := []
  ival : ℤ := 0
  bval : Bool := false
  data : Bytes := []
  errmsg : Bytes := []
  deriving DecidableEq, Repr

/-- A field that is appended only if it is not empty. -/
def appendUnless {α : Type*} [DecidableEq α] (empty : α) (name : String) (value : α → BsonValue)
    (a : α) : BsonDocument :=
  if a = empty then [] else [(name, value a)]

/-- `build_request` with the number it has drawn. -/
def buildRequest (reqid : ℤ) (op : DbOp) (db coll doc doc2 sval : Bytes) : BsonDocument :=
  [("reqid", .int32 reqid), ("op", .int32 op.code)] ++ appendUnless [] "db" .utf8 db ++
    appendUnless [] "coll" .utf8 coll ++ appendUnless [] "doc" .binary doc ++
    appendUnless [] "doc2" .binary doc2 ++ appendUnless [] "sval" .utf8 sval

def buildResponse (rsp : DbResponse) : BsonDocument :=
  [("reqid", .int32 rsp.reqid), ("ok", .bool rsp.ok)] ++ appendUnless [] "sval" .utf8 rsp.sval ++
    appendUnless 0 "ival" .int32 rsp.ival ++ appendUnless false "bval" .bool rsp.bval ++
    appendUnless [] "data" .binary rsp.data ++ appendUnless [] "errmsg" .utf8 rsp.errmsg

def makeErrorResponse (reqid : ℤ) (errmsg : String) : BsonDocument :=
  buildResponse { reqid := reqid, errmsg := Bytes.ofString errmsg }

/-- One field is read into `out`, if nothing was thrown before. -/
def readField {α ρ : Type*} (v : BsonDocument) (name : String) (get : BsonValue → Option α)
    (set : α → ρ → ρ) (out : Bool × ρ) : Bool × ρ :=
  if out.1 then
    match v.lookup name with
    | none   => out
    | some e =>
      match get e with
      | none   => (false, out.2)
      | some a => (true, set a out.2)
  else out

/-- Whether the request was parsed, and what was read of it. -/
def parseRequest (bytes : Envelope) : Bool × DbRequest :=
  match bytes with
  | none   => (false, {})
  | some v =>
    readField v "doc2" BsonValue.getBinary (fun a r => { r with doc2 := a }) <|
    readField v "doc" BsonValue.getBinary (fun a r => { r with doc := a }) <|
    readField v "sval" BsonValue.getUtf8 (fun a r => { r with sval := a }) <|
    readField v "coll" BsonValue.getUtf8 (fun a r => { r with coll := a }) <|
    readField v "db" BsonValue.getUtf8 (fun a r => { r with db := a }) <|
    readField v "op" BsonValue.getInt32 (fun a r => { r with op := DbOp.ofCode a }) <|
    readField v "reqid" BsonValue.getInt32 (fun a r => { r with reqid := a }) (true, {})

/-- Whether the response was parsed, and what was read of it. -/
def parseResponse (bytes : Envelope) : Bool × DbResponse :=
  match bytes with
  | none   => (false, {})
  | some v =>
    readField v "data" BsonValue.getBinary (fun a r => { r with data := a }) <|
    readField v "errmsg" BsonValue.getUtf8 (fun a r => { r with errmsg := a }) <|
    readField v "bval" BsonValue.getBool (fun a r => { r with bval := a }) <|
    readField v "ival" BsonValue.getInt32 (fun a r => { r with ival := a }) <|
    readField v "sval" BsonValue.getUtf8 (fun a r => { r with sval := a }) <|
    readField v "ok" BsonValue.getBool (fun a r => { r with ok := a }) <|
    readField v "reqid" BsonValue.getInt32 (fun a r => { r with reqid := a }) (true, {})

/-! ### Round trips -/

lemma readField_none {α ρ : Type*} {v : BsonDocument} {name : String}
    (h : v.lookup name = none) (get : BsonValue → Option α) (set : α → ρ → ρ) (r : ρ) :
    readField v name get set (true, r) = (true, r) := by
  rw [readField, if_pos rfl, h]

lemma readField_some {α ρ : Type*} {v : BsonDocument} {name : String} {e : BsonValue} {a : α}
    {get : BsonValue → Option α} (h : v.lookup name = some e) (hget : get e = some a)
    (set : α → ρ → ρ) (r : ρ) : readField v name get set (true, r) = (true, set a r) := by
  rw [readField, if_pos rfl, h]
  simp only [hget]

/-- What is found of a field that was appended unless it is empty. -/
lemma lookup_append_appendUnless {α : Type*} [DecidableEq α] (empty : α) (name key : String)
    (value : α → BsonValue) (a : α) (v : BsonDocument) :
    (v ++ appendUnless empty name value a).lookup key =
      (v.lookup key).or (if key = name ∧ a ≠ empty then some (value a) else none) := by
  rw [List.lookup_append, appendUnless]
  by_cases ha : a = empty
  · simp [ha]
  · by_cases hkey : key = name
    · simp [ha, hkey]
    · have hne : (key == name) = false := by simpa using hkey
      simp [ha, hkey, List.lookup_cons, hne]

/-- A field that was appended unless it is empty is read, where `r` has it empty. -/
lemma readField_appended {α ρ : Type*} [DecidableEq α] (empty a : α) (value : α → BsonValue)
    {v : BsonDocument} {name : String} {get : BsonValue → Option α} {set : α → ρ → ρ} {r : ρ}
    (h : v.lookup name = if a ≠ empty then some (value a) else none)
    (hget : get (value a) = some a) (hset : set empty r = r) :
    readField v name get set (true, r) = (true, set a r) := by
  by_cases ha : a = empty
  · rw [if_neg (not_not_intro ha)] at h
    rw [readField_none h, ha, hset]
  · rw [if_pos ha] at h
    exact readField_some h hget set r

/-- A request is parsed as it was built, where its operation is the one of its number. -/
lemma parseRequest_of_ofCode (reqid : ℤ) {op : DbOp} (hop : DbOp.ofCode op.code = op)
    (db coll doc doc2 sval : Bytes) :
    parseRequest (some (buildRequest reqid op db coll doc doc2 sval)) =
      (true, { reqid := reqid, op := op, db := db, coll := coll, doc := doc, doc2 := doc2,
               sval := sval }) := by
  have hlookup : ∀ key, (buildRequest reqid op db coll doc doc2 sval).lookup key =
      (((((([("reqid", .int32 reqid), ("op", .int32 op.code)] : BsonDocument).lookup key).or
        (if key = "db" ∧ db ≠ [] then some (.utf8 db) else none)).or
        (if key = "coll" ∧ coll ≠ [] then some (.utf8 coll) else none)).or
        (if key = "doc" ∧ doc ≠ [] then some (.binary doc) else none)).or
        (if key = "doc2" ∧ doc2 ≠ [] then some (.binary doc2) else none)).or
        (if key = "sval" ∧ sval ≠ [] then some (.utf8 sval) else none) := by
    intro key
    simp only [buildRequest, lookup_append_appendUnless]
  rw [parseRequest, readField_some (e := .int32 reqid) (by rfl) (by rfl),
    readField_some (e := .int32 op.code) (by rfl) (by rfl), hop,
    readField_appended [] db .utf8 (by simp [hlookup, List.lookup_cons]) (by rfl) (by rfl),
    readField_appended [] coll .utf8 (by simp [hlookup, List.lookup_cons]) (by rfl) (by rfl),
    readField_appended [] sval .utf8 (by simp [hlookup, List.lookup_cons]) (by rfl) (by rfl),
    readField_appended [] doc .binary (by simp [hlookup, List.lookup_cons]) (by rfl) (by rfl),
    readField_appended [] doc2 .binary (by simp [hlookup, List.lookup_cons]) (by rfl) (by rfl)]

/-- The request is parsed as it was built. -/
theorem parseRequest_buildRequest (reqid : ℤ) {op : DbOp} (hop : op ∈ DbOp.named)
    (db coll doc doc2 sval : Bytes) :
    parseRequest (some (buildRequest reqid op db coll doc doc2 sval)) =
      (true, { reqid := reqid, op := op, db := db, coll := coll, doc := doc, doc2 := doc2,
               sval := sval }) :=
  parseRequest_of_ofCode reqid (DbOp.ofCode_code hop) db coll doc doc2 sval

/-- The response is parsed as it was built. -/
theorem parseResponse_buildResponse (rsp : DbResponse) :
    parseResponse (some (buildResponse rsp)) = (true, rsp) := by
  have hlookup : ∀ key, (buildResponse rsp).lookup key =
      (((((([("reqid", .int32 rsp.reqid), ("ok", .bool rsp.ok)] : BsonDocument).lookup key).or
        (if key = "sval" ∧ rsp.sval ≠ [] then some (.utf8 rsp.sval) else none)).or
        (if key = "ival" ∧ rsp.ival ≠ 0 then some (.int32 rsp.ival) else none)).or
        (if key = "bval" ∧ rsp.bval ≠ false then some (.bool rsp.bval) else none)).or
        (if key = "data" ∧ rsp.data ≠ [] then some (.binary rsp.data) else none)).or
        (if key = "errmsg" ∧ rsp.errmsg ≠ [] then some (.utf8 rsp.errmsg) else none) := by
    intro key
    simp only [buildResponse, lookup_append_appendUnless]
  rw [parseResponse, readField_some (e := .int32 rsp.reqid) (by rfl) (by rfl),
    readField_some (e := .bool rsp.ok) (by rfl) (by rfl),
    readField_appended [] rsp.sval .utf8 (by simp [hlookup, List.lookup_cons]) (by rfl) (by rfl),
    readField_appended 0 rsp.ival .int32 (by simp [hlookup, List.lookup_cons]) (by rfl) (by rfl),
    readField_appended false rsp.bval .bool (by simp [hlookup, List.lookup_cons]) (by rfl) (by rfl),
    readField_appended [] rsp.errmsg .utf8 (by simp [hlookup, List.lookup_cons]) (by rfl) (by rfl),
    readField_appended [] rsp.data .binary (by simp [hlookup, List.lookup_cons]) (by rfl) (by rfl)]

/-- `build_request` draws its number from the counter, which goes on in 32 bits; the number is
returned beside the envelope. -/
def drawRequest (counter : ℤ) (op : DbOp) (db coll doc doc2 sval : Bytes) :
    (ℤ × BsonDocument) × ℤ :=
  ((counter, buildRequest counter op db coll doc doc2 sval), Int.bmod (counter + 1) (2 ^ 32))

/-- Envelopes are parsed as they were built: a request with any number for its operation and with
the number that was returned, and a response, their omitted fields at the defaults. -/
theorem envelope_round_trip :
    (∀ (counter n : ℤ) (db coll doc doc2 sval : Bytes),
      let (reqid, envelope) := (drawRequest counter (DbOp.ofCode n) db coll doc doc2 sval).1
      parseRequest (some envelope) =
        (true, { reqid := reqid, op := DbOp.ofCode n, db := db, coll := coll, doc := doc,
                 doc2 := doc2, sval := sval })) ∧
    ∀ rsp : DbResponse, parseResponse (some (buildResponse rsp)) = (true, rsp) := by
  refine ⟨fun counter n db coll doc doc2 sval => ?_, parseResponse_buildResponse⟩
  exact parseRequest_of_ofCode counter (by rw [DbOp.code_ofCode]) db coll doc doc2 sval

/-- A request without a collection and with empty bytes. -/
example :
    parseRequest (some (buildRequest 7 .fetchFile [0x70] [] [] [0] [])) =
      (true, { reqid := 7, op := .fetchFile, db := [0x70], doc2 := [0] }) := by decide

end Dbproto
