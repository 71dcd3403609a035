import OnPremPbx.Database.DbProto

/-!
# The remote database

`WsMongodbProxy` (`wsdbproxy.cpp`) has the methods of `MongodbClient` (`mongodbc.cpp`) and sends
each call to an agent, where `WsDbAgent::dispatch` (`wsdbagent.cpp`) makes it of a `MongodbClient`.
The arguments go through the envelope of `dbproto`: JSON as the bytes of its document, or as it is,
and two names in one field.

What the drivers do is a parameter: `Driver` has the conversions of `bsoncxx` and of
`nlohmann::json`, and `Engine` what MongoDB does with a request, on states of any type. `Undefined`
has what the language leaves open.
-/

open Dbproto

/-- The conversions. A function that throws gives `none`. -/
structure Driver where
  /-- `bsoncxx::from_json`, with the bytes of the document -/
  fromJson : Bytes → Option Bytes
  /-- `bsoncxx::to_json` of a view of the bytes -/
  toJson : Bytes → Option Bytes
  /-- the bytes of the empty document -/
  empty : Bytes
  /-- `json::parse`, and the dumps of the elements that are objects -/
  elements : Bytes → Option (List Bytes)
  /-- `dump` of a vector of strings -/
  dump : List Bytes → Option Bytes
  /-- `json::parse(s).get<std::vector<std::string>>()` -/
  strings : Bytes → Option (List Bytes)
  /-- the text of an exception -/
  what : Bytes

/-- What MongoDB does, for the database of the client where it is not named. -/
structure Engine (Db : Type) where
  acquire : Db → Bool
  insertOne : (dbName coll doc : Bytes) → Db → Option Bytes × Db
  insertMany : (dbName coll : Bytes) → (docs : List Bytes) → Db → Option ℕ × Db
  /-- whether a document matched -/
  updateMany : (coll filter update : Bytes) → Db → Option Bool × Db
  updateOnes : (coll : Bytes) → (updates : List (Bytes × Bytes)) → Db → Option ℕ × Db
  deleteMany : (coll filter : Bytes) → Db → Option Bool × Db
  findFirst : (coll filter projection : Bytes) → Db → Option Bytes
  findAll : (coll filter projection : Bytes) → Db → Option Bytes
  nextAwbno : (awb : Bytes) → Db → Bytes × Db
  storeFile : (filename contentType data : Bytes) → Db → Bytes × Db
  fetchFile : (filename : Bytes) → Db → Bytes
  fetchFileById : (oid : Bytes) → Db → Bytes
  deleteFile : (oid : Bytes) → Db → Bool × Db

/-- What has no meaning in the language: a vector made from the begin of a temporary string and the
end of another one with the same text, and an element past the end of a vector. -/
structure Undefined where
  range : Bytes → Bytes
  past : Bytes

/-- What a `const char *` shows of a string. -/
def cStr (s : Bytes) : Bytes := s.takeWhile (· ≠ 0)

/-! ### `MongodbClient` -/

namespace MongodbClient

variable {Db α : Type} (d : Driver) (e : Engine Db) (u : Undefined)

/-- `from_json(s.c_str())`, and then the rest. -/
def withJson (s : Bytes) (k : Bytes → Db → Option α × Db) (db : Db) : Option α × Db :=
  match d.fromJson (cStr s) with
  | none     => (none, db)
  | some doc => k doc db

/-- `m_pool->acquire()`, and then the rest. -/
def withClient (failure : α) (k : Db → Option α × Db) (db : Db) : Option α × Db :=
  if e.acquire db then k db else (some failure, db)

def createDocument (dbName coll doc : Bytes) : Db → Option Bytes × Db :=
  withJson d doc fun doc => withClient e [] (e.insertOne (cStr dbName) (cStr coll) doc)

/-- The documents of a bulk, if all of them can be parsed. -/
def bulkDocs (doc : Bytes) : Option (List Bytes) :=
  (d.elements doc).bind fun elems => elems.mapM d.fromJson

def createBulkDocument (dbName coll doc : Bytes) : Db → Option ℕ × Db :=
  withClient e 0 fun db =>
    match bulkDocs d doc with
    | none      => (some 0, db)
    | some []   => (some 0, db)
    | some docs => e.insertMany (cStr dbName) (cStr coll) docs db

def updateCollection (coll filter document : Bytes) : Db → Option Bool × Db :=
  withJson d document fun update => withJson d filter fun filter =>
    withClient e false (e.updateMany (cStr coll) filter update)

/-- The updates of a bulk. -/
def bulkUpdates (filter value : List Bytes) : Option (List (Bytes × Bytes)) :=
  filter.zipIdx.mapM fun (f, i) =>
    (d.fromJson (cStr f)).bind fun f =>
      (d.fromJson (cStr (value.getD i u.past))).map fun v => (f, v)

def updateBulkDocument (coll : Bytes) (filter value : List Bytes) : Db → Option ℕ × Db :=
  withClient e 0 fun db =>
    match bulkUpdates d u filter value with
    | none         => (none, db)
    | some updates => e.updateOnes (cStr coll) updates db

def deleteDocument (coll doc : Bytes) : Db → Option Bool × Db :=
  withJson d doc fun filter => withClient e false (e.deleteMany (cStr coll) filter)

def getDocument (coll query projection : Bytes) : Db → Option Bytes × Db :=
  withClient e [] <| withJson d projection fun projection => withJson d query fun query db =>
    (e.findFirst (cStr coll) query projection db, db)

def getDocuments (coll query projection : Bytes) : Db → Option Bytes × Db :=
  withClient e [] <| withJson d projection fun projection => withJson d query fun query db =>
    (e.findAll (cStr coll) query projection db, db)

def getDocumentsAll (coll projection : Bytes) : Db → Option Bytes × Db :=
  getDocuments d e coll (Bytes.ofString "\x7b\x7d") projection

def nextAwbno (awb : Bytes) : Db → Option Bytes × Db :=
  withClient e [] fun db => ((e.nextAwbno awb db).1, (e.nextAwbno awb db).2)

def storeFile (filename contentType data : Bytes) : Db → Option Bytes × Db :=
  withClient e [] fun db =>
    ((e.storeFile filename contentType data db).1, (e.storeFile filename contentType data db).2)

def fetchFile (filename : Bytes) : Db → Option Bytes × Db :=
  withClient e [] fun db => (e.fetchFile filename db, db)

def fetchFileById (oid : Bytes) : Db → Option Bytes × Db :=
  withClient e [] fun db => (e.fetchFileById oid db, db)

def deleteFile (oid : Bytes) : Db → Option Bool × Db :=
  withClient e false fun db => ((e.deleteFile oid db).1, (e.deleteFile oid db).2)

end MongodbClient

/-- A call of one of the methods. -/
inductive DbCall where
  | createDocument (dbName coll doc : Bytes)
  | createBulkDocument (dbName coll doc : Bytes)
  | updateCollection (coll filter document : Bytes)
  | updateBulkDocument (coll : Bytes) (filter value : List Bytes)
  | deleteDocument (coll doc : Bytes)
  | getDocument (coll query projection : Bytes)
  | getDocumentsQueried (coll query projection : Bytes)
  | getDocumentsAll (coll projection : Bytes)
  | nextAwbno (awb : Bytes)
  | storeFile (filename contentType data : Bytes)
  | fetchFile (filename : Bytes)
  | fetchFileById (oid : Bytes)
  | deleteFile (oid : Bytes)
  deriving DecidableEq, Repr

/-- What a call returns. -/
inductive DbValue where
  | text (s : Bytes)
  | count (n : ℤ)
  | flag (b : Bool)
  | data (b : Bytes)
  deriving DecidableEq, Repr

/-- The value of a result that is there, and what became of the database. -/
def valueOf {Db α : Type} (f : α → DbValue) (r : Option α × Db) : Option DbValue × Db :=
  (r.1.map f, r.2)

/-- The call of a `MongodbClient`. -/
def MongodbClient.exec {Db : Type} (d : Driver) (e : Engine Db) (u : Undefined) (db : Db) :
    DbCall → Option DbValue × Db
  | .createDocument dbName coll doc => valueOf .text (createDocument d e dbName coll doc db)
  | .createBulkDocument dbName coll doc =>
    valueOf (fun n : ℕ => .count n) (createBulkDocument d e dbName coll doc db)
  | .updateCollection coll filter document =>
    valueOf .flag (updateCollection d e coll filter document db)
  | .updateBulkDocument coll filter value =>
    valueOf (fun n : ℕ => .count n) (updateBulkDocument d e u coll filter value db)
  | .deleteDocument coll doc => valueOf .flag (deleteDocument d e coll doc db)
  | .getDocument coll query projection => valueOf .text (getDocument d e coll query projection db)
  | .getDocumentsQueried coll query projection =>
    valueOf .text (getDocuments d e coll query projection db)
  | .getDocumentsAll coll projection => valueOf .text (getDocumentsAll d e coll projection db)
  | .nextAwbno awb => valueOf .text (nextAwbno e awb db)
  | .storeFile filename contentType data => valueOf .text (storeFile e filename contentType data db)
  | .fetchFile filename => valueOf .data (fetchFile e filename db)
  | .fetchFileById oid => valueOf .data (fetchFileById e oid db)
  | .deleteFile oid => valueOf .flag (deleteFile e oid db)

/-! ### `WsDbAgent` -/

namespace WsDbAgent

open MongodbClient

variable {Db α : Type} (d : Driver) (e : Engine Db) (u : Undefined) (dbName : Bytes)

def bsonToJson (bson : Bytes) : Bytes :=
  if bson = [] then Bytes.ofString "\x7b\x7d"
  else (d.toJson bson).getD (Bytes.ofString "\x7b\x7d")

/-- The response for a result, or for what was thrown. -/
def respond (reqid : ℤ) (r : Option α × Db) (f : α → DbResponse) : DbResponse × Db :=
  match r.1 with
  | none   => ({ reqid := reqid, errmsg := d.what }, r.2)
  | some a => (f a, r.2)

/-- The file name and the content type of a `sval`. -/
def splitBar (sval : Bytes) : Bytes × Bytes :=
  (sval.takeWhile (· ≠ 124), (sval.dropWhile (· ≠ 124)).tail)

def dispatch (req : DbRequest) (db : Db) : DbResponse × Db :=
  let rsp : DbResponse := { reqid := req.reqid }
  match req.op with
  | .createDocument =>
    respond d req.reqid (createDocument d e dbName req.coll (bsonToJson d req.doc) db) fun sval =>
      { rsp with sval := sval, ok := sval ≠ [] }
  | .createBulkDocument =>
    respond d req.reqid (createBulkDocument d e dbName req.coll req.doc db) fun ival =>
      { rsp with ival := ival, ok := 0 ≤ ival }
  | .updateCollection =>
    respond d req.reqid
      (updateCollection d e req.coll (bsonToJson d req.doc) (bsonToJson d req.doc2) db) fun bval =>
      { rsp with bval := bval, ok := true }
  | .updateBulkDocument =>
    match d.strings req.doc, d.strings req.doc2 with
    | some fa, some va =>
      respond d req.reqid (updateBulkDocument d e u req.coll fa va db) fun ival =>
        { rsp with ival := ival, ok := 0 ≤ ival }
    | _, _ => ({ rsp with errmsg := d.what }, db)
  | .deleteDocument =>
    respond d req.reqid (deleteDocument d e req.coll (bsonToJson d req.doc) db) fun bval =>
      { rsp with bval := bval, ok := true }
  | .getDocument =>
    respond d req.reqid
      (getDocument d e req.coll (bsonToJson d req.doc) (bsonToJson d req.doc2) db) fun sval =>
      { rsp with sval := sval, ok := sval ≠ [] }
  | .getDocumentsQueried =>
    respond d req.reqid
      (getDocuments d e req.coll (bsonToJson d req.doc) (bsonToJson d req.doc2) db) fun sval =>
      { rsp with sval := sval, ok := true }
  | .getDocumentsAll =>
    respond d req.reqid (getDocumentsAll d e req.coll (bsonToJson d req.doc2) db) fun sval =>
      { rsp with sval := sval, ok := true }
  | .nextAwbno =>
    respond d req.reqid (nextAwbno e req.sval db) fun sval =>
      { rsp with sval := sval, ok := sval ≠ [] }
  | .storeFile =>
    respond d req.reqid
      (storeFile e (splitBar req.sval).1 (splitBar req.sval).2 req.doc db) fun sval =>
      { rsp with sval := sval, ok := sval ≠ [] }
  | .fetchFile =>
    respond d req.reqid (fetchFile e req.sval db) fun data =>
      { rsp with data := data, ok := data ≠ [] }
  | .fetchFileById =>
    respond d req.reqid (fetchFileById e req.sval db) fun data =>
      { rsp with data := data, ok := data ≠ [] }
  | .deleteFile =>
    respond d req.reqid (deleteFile e req.sval db) fun bval => { rsp with bval := bval, ok := true }
  | .unknown _ => ({ rsp with errmsg := Bytes.ofString "unknown op" }, db)

end WsDbAgent

/-! ### `WsMongodbProxy` -/

namespace WsMongodbProxy

variable {Db : Type} (d : Driver) (e : Engine Db) (u : Undefined) (dbName : Bytes)

def jsonToBson (json : Bytes) : Bytes :=
  if json = [] then [] else (d.fromJson json).getD []

/-- The request of a call, unless `dump` throws. -/
def request (reqid : ℤ) : DbCall → Option BsonDocument
  | .createDocument _ coll doc =>
    buildRequest reqid .createDocument [] coll (jsonToBson d doc) [] []
  | .createBulkDocument _ coll doc => buildRequest reqid .createBulkDocument [] coll doc [] []
  | .updateCollection coll filter document =>
    buildRequest reqid .updateCollection [] coll (jsonToBson d filter) (jsonToBson d document) []
  | .updateBulkDocument coll filter value =>
    (d.dump filter).bind fun fa => (d.dump value).map fun va =>
      buildRequest reqid .updateBulkDocument [] coll (u.range fa) (u.range va) []
  | .deleteDocument coll doc => buildRequest reqid .deleteDocument [] coll (jsonToBson d doc) [] []
  | .getDocument coll query projection =>
    buildRequest reqid .getDocument [] coll (jsonToBson d query) (jsonToBson d projection) []
  | .getDocumentsQueried coll query projection =>
    buildRequest reqid .getDocumentsQueried [] coll (jsonToBson d query) (jsonToBson d projection)
      []
  | .getDocumentsAll coll projection =>
    buildRequest reqid .getDocumentsAll [] coll [] (jsonToBson d projection) []
  | .nextAwbno awb => buildRequest reqid .nextAwbno [] [] [] [] awb
  | .storeFile filename contentType data =>
    buildRequest reqid .storeFile [] [] data [] (filename ++ [124] ++ contentType)
  | .fetchFile filename => buildRequest reqid .fetchFile [] [] [] [] filename
  | .fetchFileById oid => buildRequest reqid .fetchFileById [] [] [] [] oid
  | .deleteFile oid => buildRequest reqid .deleteFile [] [] [] [] oid

/-- What the method makes of the response. -/
def value (rsp : DbResponse) : DbCall → DbValue
  | .createDocument .. | .getDocument .. | .getDocumentsQueried .. | .getDocumentsAll ..
  | .nextAwbno _ | .storeFile .. => .text (if rsp.ok then rsp.sval else [])
  | .createBulkDocument .. | .updateBulkDocument .. => .count (if rsp.ok then rsp.ival else 0)
  | .updateCollection .. | .deleteDocument .. | .deleteFile _ => .flag (rsp.ok && rsp.bval)
  | .fetchFile _ | .fetchFileById _ => .data (if rsp.ok then rsp.data else [])

/-- What `roundtrip` takes the bytes for. -/
def roundtrip (bytes : Envelope) : DbResponse :=
  match parseResponse bytes with
  | (true, rsp)  => rsp
  | (false, rsp) => { rsp with ok := false, errmsg := Bytes.ofString "malformed response" }

/-- The call by way of the agent, with `none` for what is thrown here. A request that the agent
cannot parse has no response, and `dispatch` then makes an error of its own. -/
def exec (reqid : ℤ) (db : Db) (c : DbCall) : Option DbValue × Db :=
  match request d u reqid c with
  | none       => (none, db)
  | some bytes =>
    match parseRequest (some bytes) with
    | (true, req) =>
      let r := WsDbAgent.dispatch d e u dbName req db
      (value (roundtrip (some (buildResponse r.1))) c, r.2)
    | (false, _)  => (value (roundtrip (some (makeErrorResponse reqid "dispatch timeout"))) c, db)

end WsMongodbProxy
