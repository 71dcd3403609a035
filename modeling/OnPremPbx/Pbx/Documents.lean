import OnPremPbx.Pbx.Handlers

/-!
# Documents in the database

What the handlers rely on in MongoDB and in the conversions between texts and documents: which
documents a collection has, which of them a filter selects, and what a query shows of them. The
handlers run over a `MongodbClient`.
-/

open Json

namespace MicroServicePbx

/-- The operations over a `MongodbClient`. A request posts nothing. -/
def client {Db : Type} (d : Driver) (e : Engine Db) (u : Undefined) : Program.Handler Answer Db
  | .db c _, db    => MongodbClient.exec d e u db c
  | .post .., db   => (none, db)
  | .revoke .., db => (some (), db)

/-! ### Documents and filters -/

/-- The name of an operator at the top of a filter, as `$or` or `$where`. -/
def isOperator (name : Bytes) : Bool := name.head? = some 0x24

/-- The field of the document that a path starts from. -/
def rootOf (path : Bytes) : Bytes := path.takeWhile (· ≠ 0x2E)

/-- What a database holds and what filters mean. -/
structure Mongo {Db : Type} (d : Driver) (e : Engine Db) where
  /-- the documents of a collection, in the order in which they are found -/
  docs : Db → Bytes → List Json
  /-- the JSON of the bytes of a document -/
  value : Bytes → Json
  /-- a filter that the server refuses -/
  rejects : Bytes → Bool
  selects : Bytes → Json → Bool
  /-- the text of the documents that are found -/
  render : List Json → Bytes

namespace Mongo

variable {Db : Type} {d : Driver} {e : Engine Db} (m : Mongo d e)

/-- The documents that a filter selects. -/
def selected (db : Db) (coll filter : Bytes) : List Json :=
  (m.docs db coll).filter (m.selects filter)

/-- How documents are found and shown. -/
structure Shows (dump : Json → Option Bytes) : Prop where
  /-- the empty object is a document without fields -/
  fromJson_braces : d.fromJson braces = some d.empty
  value_empty : ∀ name, (m.value d.empty).field name = none
  /-- a filter that the library writes is read as it was written -/
  dumped : ∀ {ms text filter}, dump (.object (strings ms)) = some text →
    d.fromJson (cStr text) = some filter →
    ∀ name, (m.value filter).field name = (Json.object (strings ms)).field name
  /-- a query finds what its filter selects -/
  findAll : ∀ coll filter db, e.findAll coll filter d.empty db =
    if m.rejects filter then none else some (m.render (m.selected db coll filter))
  /-- no documents have no text, and others the text of an array; nobody lists sessions -/
  render_nil : m.render [] = []
  parse_render : ∀ db coll filter, coll ≠ Bytes.ofString "sessions" →
    m.selected db coll filter ≠ [] →
    parse (m.render (m.selected db coll filter)) = some (.array (m.selected db coll filter))
  /-- a filter without operators is about the fields that its paths start from -/
  selects_congr : ∀ {filter r r'},
    (∀ name, (m.value filter).field name ≠ none →
      ¬ isOperator name ∧ r.field (rootOf name) = r'.field (rootOf name)) →
    m.selects filter r = m.selects filter r'

/-- The update sets these fields and does nothing else. -/
def SetsOnly (update : Bytes) (ms : List (Bytes × Bytes)) : Prop :=
  (m.value update).field (Bytes.ofString "$set") = some (.object (strings ms)) ∧
    ∀ name ≠ Bytes.ofString "$set", (m.value update).field name = none

/-- How documents are written, with the database named or not. -/
structure Writes (dump : Json → Option Bytes) : Prop where
  /-- the strings of an object that the library writes are read as they were -/
  dumped_text : ∀ {ms text doc}, dump (.object ms) = some text →
    d.fromJson (cStr text) = some doc → ∀ {name s}, (Json.object ms).field name = some (.string s) →
      (m.value doc).field name = some (.string s)
  dumped_set : ∀ {ms text update},
    dump (.object [(Bytes.ofString "$set", .object (strings ms))]) = some text →
      d.fromJson (cStr text) = some update → m.SetsOnly update ms
  /-- a document that is inserted has the fields that it had, and perhaps an identifier -/
  insertOne : ∀ dbName coll doc db coll',
    m.docs (e.insertOne dbName coll doc db).2 coll' = m.docs db coll' ∨
    coll' = coll ∧ ∃ row,
      m.docs (e.insertOne dbName coll doc db).2 coll' = m.docs db coll' ++ [row] ∧
      ∀ name ≠ Bytes.ofString "_id", row.field name = (m.value doc).field name
  /-- an update changes the fields that it sets, in the documents that its filter selects -/
  updateMany : ∀ coll filter update ms db coll', m.SetsOnly update ms →
    m.docs (e.updateMany coll filter update db).2 coll' = m.docs db coll' ∨
    coll' = coll ∧ ∃ f : Json → Json,
      (∀ r, ∀ name ∉ ms.map Prod.fst, (f r).field name = r.field name) ∧
      m.docs (e.updateMany coll filter update db).2 coll' =
        (m.docs db coll').map fun r => if m.selects filter r then f r else r
  /-- the documents that a filter selects are deleted -/
  deleteMany : ∀ coll filter db coll',
    m.docs (e.deleteMany coll filter db).2 coll' = m.docs db coll' ∨
    coll' = coll ∧ m.docs (e.deleteMany coll filter db).2 coll' =
      (m.docs db coll').filter fun r => !m.selects filter r
  nextAwbno : ∀ awb db coll', coll' ≠ Bytes.ofString "counters" →
    m.docs (e.nextAwbno awb db).2 coll' = m.docs db coll'
  /-- a filter that asks for a string selects no document that has another one there -/
  selects_text : ∀ {filter name a r b}, ¬ isOperator name → rootOf name = name →
    (m.value filter).field name = some (.string a) → m.selects filter r →
    r.field name = some (.string b) → a = b

end Mongo

/-! ### Queries -/

section

variable {Db : Type} {d : Driver} {e : Engine Db} (u : Undefined) {m : Mongo d e}
  {dump : Json → Option Bytes}

/-- What a query of a collection answers. -/
def answerOf (m : Mongo d e) (db : Db) (coll text : Bytes) : Option Bytes :=
  if e.acquire db then
    match d.fromJson (cStr text) with
    | none        => none
    | some filter =>
      if m.rejects filter then none else some (m.render (m.selected db coll filter))
  else some []

lemma run_textOf (c : DbCall) (ms : List (Bytes × Bytes)) (db : Db) {s : Option Bytes} {db' : Db}
    (h : MongodbClient.exec d e u db c = (s.map .text, db')) :
    (textOf c ms).run (client d e u) db = (s, db') := by
  rw [textOf, Program.run_bind, Program.run_perform, client, h]
  cases s <;> rfl

lemma client_getDocuments (hm : m.Shows dump) (coll text : Bytes) (db : Db) :
    MongodbClient.getDocuments d e coll text braces db =
      (answerOf m db (cStr coll) text, db) := by
  have hbraces : cStr braces = braces := by decide
  rw [MongodbClient.getDocuments, MongodbClient.withClient, MongodbClient.withJson, hbraces,
    hm.fromJson_braces, answerOf]
  split_ifs
  · dsimp only
    rw [MongodbClient.withJson]
    cases d.fromJson (cStr text) with
    | none => rfl
    | some filter =>
      dsimp only
      rw [hm.findAll]
  · rfl

lemma run_getDocuments (hm : m.Shows dump) (coll : String) (query : Filter) (db : Db) :
    (getDocuments coll query).run (client d e u) db =
      (answerOf m db (cStr (Bytes.ofString coll)) query.text, db) := by
  refine run_textOf u _ _ db ?_
  rw [MongodbClient.exec, client_getDocuments hm, valueOf]

lemma run_getDocumentsAll (hm : m.Shows dump) (coll : String) (db : Db) :
    (getDocumentsAll coll).run (client d e u) db =
      (answerOf m db (cStr (Bytes.ofString coll)) braces, db) := by
  refine run_textOf u _ _ db ?_
  rw [MongodbClient.exec, MongodbClient.getDocumentsAll, valueOf]
  exact congrArg (fun r => (Option.map DbValue.text r.1, r.2)) (client_getDocuments hm _ braces db)

end

end MicroServicePbx
