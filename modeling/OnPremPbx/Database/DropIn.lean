import Mathlib.Data.List.TakeWhile
import OnPremPbx.Database.Remote

/-!
# The proxy in place of the client

A call by way of the agent is a call of the client with the arguments that arrive there. JSON
arrives as the text of its document, or as the text of the empty document if it has none; so the
proxy can stand in for the client where the arguments that arrive have the documents of those that
were given.
-/

open Dbproto

/-- What the code relies on: JSON that was parsed has a text that is parsed as the same document, up
to a null byte as well. -/
structure Driver.Faithful (d : Driver) : Prop where
  fromJson_nil : d.fromJson [] = none
  fromJson_empty : d.fromJson (Bytes.ofString "\x7b\x7d") = some d.empty
  ne_nil : ∀ {json doc}, d.fromJson json = some doc → doc ≠ []
  toJson : ∀ {json doc}, d.fromJson json = some doc →
    ∃ text, d.toJson doc = some text ∧ d.fromJson (cStr text) = some doc
  strings_nil : d.strings [] = none
  strings_one : d.strings (Bytes.ofString "[\"\x7b\x7d\"]") = some [Bytes.ofString "\x7b\x7d"]

/-- What the method of the proxy returns where the method of the client throws. -/
def DbCall.failure : DbCall → DbValue
  | .createDocument .. | .getDocument .. | .getDocumentsQueried .. | .getDocumentsAll ..
  | .nextAwbno _ | .storeFile .. => .text []
  | .createBulkDocument .. | .updateBulkDocument .. => .count 0
  | .updateCollection .. | .deleteDocument .. | .deleteFile _ => .flag false
  | .fetchFile _ | .fetchFileById _ => .data []

/-- The operation that a call is sent as. -/
def DbCall.op : DbCall → DbOp
  | .createDocument ..      => .createDocument
  | .createBulkDocument ..  => .createBulkDocument
  | .updateCollection ..    => .updateCollection
  | .updateBulkDocument ..  => .updateBulkDocument
  | .deleteDocument ..      => .deleteDocument
  | .getDocument ..         => .getDocument
  | .getDocumentsQueried .. => .getDocumentsQueried
  | .getDocumentsAll ..     => .getDocumentsAll
  | .nextAwbno _            => .nextAwbno
  | .storeFile ..           => .storeFile
  | .fetchFile _            => .fetchFile
  | .fetchFileById _        => .fetchFileById
  | .deleteFile _           => .deleteFile

lemma DbCall.op_mem_named (c : DbCall) : c.op ∈ DbOp.named := by
  cases c <;> simp [DbCall.op, DbOp.named]

namespace WsMongodbProxy

open WsDbAgent MongodbClient

/-- The call does the same by way of an agent with the database `dbName`, whatever MongoDB does and
whatever the language leaves open. -/
def Agrees (d : Driver) (dbName : Bytes) (c : DbCall) : Prop :=
  ∀ (Db : Type) (e : Engine Db) (u : Undefined) (reqid : ℤ) (db : Db),
    exec d e u dbName reqid db c =
      (some ((MongodbClient.exec d e u db c).1.getD c.failure), (MongodbClient.exec d e u db c).2)

/-- The text up to its first null byte is JSON, and the whole text has the same document or is no
JSON, if that document is empty. -/
def JsonArg (d : Driver) (s : Bytes) : Prop :=
  ∃ doc, d.fromJson (cStr s) = some doc ∧
    (d.fromJson s = some doc ∨ d.fromJson s = none ∧ doc = d.empty)

/-- The arguments with which the proxy can be called in place of the client. -/
def Portable (d : Driver) (dbName : Bytes) : DbCall → Prop
  | .createDocument dbName' _ doc => cStr dbName' = cStr dbName ∧ JsonArg d doc
  | .createBulkDocument dbName' _ doc =>
    cStr dbName' = cStr dbName ∨ bulkDocs d doc = none ∨ bulkDocs d doc = some []
  | .updateCollection _ filter document => JsonArg d filter ∧ JsonArg d document
  | .updateBulkDocument .. => False
  | .deleteDocument _ doc => JsonArg d doc
  | .getDocument _ query projection => JsonArg d query ∧ JsonArg d projection
  | .getDocumentsQueried _ query projection => JsonArg d query ∧ JsonArg d projection
  | .getDocumentsAll _ projection => JsonArg d projection
  | .storeFile filename _ _ => 124 ∉ filename
  | .nextAwbno _ | .fetchFile _ | .fetchFileById _ | .deleteFile _ => True

/-! ### What arrives -/

section

variable (d : Driver)

/-- The document that arrives for a text. -/
def arrived (s : Bytes) : Bytes := (d.fromJson s).getD d.empty

/-- The text that arrives for a text. -/
def arrivedText (s : Bytes) : Bytes := bsonToJson d (jsonToBson d s)

lemma fromJson_arrivedText {d : Driver} (hd : d.Faithful) (s : Bytes) :
    d.fromJson (cStr (arrivedText d s)) = some (arrived d s) := by
  cases hs : d.fromJson s with
  | none =>
    have hbson : jsonToBson d s = [] := by simp [jsonToBson, hs]
    rw [arrivedText, hbson, arrived, hs]
    exact hd.fromJson_empty
  | some doc =>
    have hbson : jsonToBson d s = doc := by
      have hne : s ≠ [] := by
        rintro rfl
        simp [hd.fromJson_nil] at hs
      simp [jsonToBson, hs, hne]
    obtain ⟨text, htext, hdoc⟩ := hd.toJson hs
    rw [arrivedText, hbson, arrived, hs, bsonToJson, if_neg (hd.ne_nil hs), htext]
    exact hdoc

lemma jsonArg_iff (s : Bytes) : JsonArg d s ↔ d.fromJson (cStr s) = some (arrived d s) := by
  rw [JsonArg, arrived]
  cases hs : d.fromJson s with
  | none     => simp
  | some doc => simp

/-- The call that the agent makes, where it does not depend on what the language leaves open. -/
def arrivedCall (dbName : Bytes) : DbCall → Option DbCall
  | .createDocument _ coll doc => some (.createDocument dbName coll (arrivedText d doc))
  | .createBulkDocument _ coll doc => some (.createBulkDocument dbName coll doc)
  | .updateCollection coll filter document =>
    some (.updateCollection coll (arrivedText d filter) (arrivedText d document))
  | .updateBulkDocument .. => none
  | .deleteDocument coll doc => some (.deleteDocument coll (arrivedText d doc))
  | .getDocument coll query projection =>
    some (.getDocument coll (arrivedText d query) (arrivedText d projection))
  | .getDocumentsQueried coll query projection =>
    some (.getDocumentsQueried coll (arrivedText d query) (arrivedText d projection))
  | .getDocumentsAll coll projection => some (.getDocumentsAll coll (arrivedText d projection))
  | .nextAwbno awb => some (.nextAwbno awb)
  | .storeFile filename contentType data =>
    let sval := filename ++ [124] ++ contentType
    some (.storeFile (splitBar sval).1 (splitBar sval).2 data)
  | .fetchFile filename => some (.fetchFile filename)
  | .fetchFileById oid => some (.fetchFileById oid)
  | .deleteFile oid => some (.deleteFile oid)

end

section

variable {Db α : Type} (d : Driver) (e : Engine Db) (u : Undefined) (dbName : Bytes)

@[simp] lemma roundtrip_buildResponse (rsp : DbResponse) :
    roundtrip (some (buildResponse rsp)) = rsp := by
  rw [roundtrip, parseResponse_buildResponse]

lemma respond_snd (reqid : ℤ) (r : Option α × Db) (f : α → DbResponse) :
    (respond d reqid r f).2 = r.2 := by
  obtain ⟨a, db⟩ := r
  cases a <;> rfl

lemma value_error (reqid : ℤ) (errmsg : Bytes) (c : DbCall) :
    value { reqid := reqid, errmsg := errmsg } c = c.failure := by
  cases c <;> rfl

/-- A call for which the agent responds with a result has the value of the result, if the method of
the proxy reads it so. -/
lemma exec_eq_respond {reqid : ℤ} {c : DbCall} {coll doc doc2 sval : Bytes} {db : Db}
    {r : Option α × Db} {f : α → DbResponse} {g : α → DbValue}
    (hreq : request d u reqid c = some (buildRequest reqid c.op [] coll doc doc2 sval))
    (hrsp : dispatch d e u dbName
      { reqid := reqid, op := c.op, coll := coll, doc := doc, doc2 := doc2, sval := sval } db =
        respond d reqid r f)
    (hf : ∀ a, value (f a) c = g a) :
    exec d e u dbName reqid db c =
      (some ((valueOf g r).1.getD c.failure), (valueOf g r).2) := by
  rw [exec, hreq]
  simp only [parseRequest_buildRequest reqid c.op_mem_named, roundtrip_buildResponse, hrsp]
  obtain ⟨a, db⟩ := r
  cases a with
  | none   => simp [respond, valueOf, value_error]
  | some a => simp [respond, valueOf, hf]

/-- The call by way of the agent is the call that the agent makes. -/
theorem exec_eq_arrivedCall {c c' : DbCall} (h : arrivedCall d dbName c = some c') (reqid : ℤ)
    (db : Db) :
    exec d e u dbName reqid db c =
      (some ((MongodbClient.exec d e u db c').1.getD c.failure),
        (MongodbClient.exec d e u db c').2) := by
  cases c with
  | updateBulkDocument => cases h
  -- an empty result is an error on the way, and is read as an empty result
  | createDocument | getDocument | nextAwbno | storeFile | fetchFile | fetchFileById =>
    cases h
    apply exec_eq_respond d e u dbName rfl rfl
    intro result
    cases result <;> rfl
  | createBulkDocument =>
    cases h
    apply exec_eq_respond d e u dbName rfl rfl
    intro ival
    simp [value]
  | updateCollection | deleteDocument | getDocumentsQueried | getDocumentsAll | deleteFile =>
    cases h
    apply exec_eq_respond d e u dbName rfl rfl
    intro result
    rfl

end

/-! ### When the arguments arrive -/

section

variable {d : Driver} {dbName : Bytes} {c c' : DbCall}

lemma agrees_of_exec_eq (h : arrivedCall d dbName c = some c')
    (heq : ∀ (Db : Type) (e : Engine Db) (u : Undefined) (db : Db),
      MongodbClient.exec d e u db c' = MongodbClient.exec d e u db c) :
    Agrees d dbName c := by
  intro Db e u reqid db
  rw [exec_eq_arrivedCall d e u dbName h, heq]

/-- JSON that arrives is parsed as it is without the way. -/
lemma withJson_arrivedText (hd : d.Faithful) {Db α : Type} {s : Bytes} (h : JsonArg d s)
    (k : Bytes → Db → Option α × Db) : withJson d (arrivedText d s) k = withJson d s k := by
  have hjson : d.fromJson (cStr (arrivedText d s)) = d.fromJson (cStr s) :=
    (fromJson_arrivedText hd s).trans ((jsonArg_iff d s).mp h).symm
  funext db
  rw [withJson, withJson, hjson]

/-- A name without the separator arrives, and so does the content type. -/
lemma splitBar_of_notMem {filename : Bytes} (h : 124 ∉ filename) (contentType : Bytes) :
    splitBar (filename ++ [124] ++ contentType) = (filename, contentType) := by
  have hpos : ∀ b ∈ filename, decide (b ≠ 124) = true := by
    intro b hb
    exact decide_eq_true (ne_of_mem_of_not_mem hb h)
  rw [splitBar, List.append_assoc, List.takeWhile_append_of_pos hpos,
    List.dropWhile_append_of_pos hpos]
  simp

/-- A name with the separator arrives up to it. -/
lemma notMem_splitBar (s : Bytes) : 124 ∉ (splitBar s).1 := by
  intro h
  have := List.mem_takeWhile_imp h
  simp at this

lemma agrees_of_portable (hd : d.Faithful) (h : Portable d dbName c) : Agrees d dbName c := by
  cases c with
  | createDocument dbName' coll doc =>
    apply agrees_of_exec_eq rfl
    intro Db e u db
    simp only [MongodbClient.exec, createDocument, withJson_arrivedText hd h.2, h.1]
  | createBulkDocument dbName' coll doc =>
    apply agrees_of_exec_eq rfl
    intro Db e u db
    simp only [MongodbClient.exec, createBulkDocument]
    obtain h | h | h := h
    · rw [h]
    · rw [h]
    · rw [h]
  | updateCollection coll filter document =>
    apply agrees_of_exec_eq rfl
    intro Db e u db
    simp only [MongodbClient.exec, updateCollection, withJson_arrivedText hd h.1,
      withJson_arrivedText hd h.2]
  | updateBulkDocument coll filter value => exact h.elim
  | deleteDocument coll doc =>
    apply agrees_of_exec_eq rfl
    intro Db e u db
    simp only [MongodbClient.exec, deleteDocument, withJson_arrivedText hd h]
  | getDocument coll query projection =>
    apply agrees_of_exec_eq rfl
    intro Db e u db
    simp only [MongodbClient.exec, getDocument, withJson_arrivedText hd h.1,
      withJson_arrivedText hd h.2]
  | getDocumentsQueried coll query projection =>
    apply agrees_of_exec_eq rfl
    intro Db e u db
    simp only [MongodbClient.exec, getDocuments, withJson_arrivedText hd h.1,
      withJson_arrivedText hd h.2]
  | getDocumentsAll coll projection =>
    apply agrees_of_exec_eq rfl
    intro Db e u db
    simp only [MongodbClient.exec, getDocumentsAll, getDocuments, withJson_arrivedText hd h]
  | storeFile filename contentType data =>
    apply agrees_of_exec_eq rfl
    intro Db e u db
    rw [splitBar_of_notMem h]
  | nextAwbno | fetchFile | fetchFileById | deleteFile =>
    apply agrees_of_exec_eq rfl
    intro Db e u db
    rfl

end

/-! ### When they do not -/

/-- A database that records the arguments of what is written, and that finds something for arguments
which it has recorded. -/
def recorder : Engine (List (List Bytes)) where
  acquire _ := true
  insertOne dbName coll doc log := (some [1], [dbName, coll, doc] :: log)
  insertMany dbName coll docs log := (docs.length, (dbName :: coll :: docs) :: log)
  updateMany coll filter update log := (some true, [coll, filter, update] :: log)
  updateOnes coll updates log :=
    (updates.length, (coll :: updates.flatMap fun u => [u.1, u.2]) :: log)
  deleteMany coll filter log := (some true, [coll, filter] :: log)
  findFirst _ filter projection log := some (if [filter, projection] ∈ log then [1] else [])
  findAll _ filter projection log := some (if [filter, projection] ∈ log then [1] else [])
  nextAwbno awb log := ([1], [awb] :: log)
  storeFile filename contentType data log := ([1], [filename, contentType, data] :: log)
  fetchFile _ _ := []
  fetchFileById _ _ := []
  deleteFile oid log := (true, [oid] :: log)

section

variable {d : Driver} {dbName : Bytes} {c c' : DbCall}

lemma Agrees.recorded (hc : Agrees d dbName c) (h : arrivedCall d dbName c = some c')
    (u : Undefined) (log : List (List Bytes)) :
    ((MongodbClient.exec d recorder u log c').1.getD c.failure,
        (MongodbClient.exec d recorder u log c').2) =
      ((MongodbClient.exec d recorder u log c).1.getD c.failure,
        (MongodbClient.exec d recorder u log c).2) := by
  have heq := hc _ recorder u 0 log
  rw [exec_eq_arrivedCall d recorder u dbName h] at heq
  simpa using heq

lemma withClient_recorder {α : Type} (f : α)
    (k : List (List Bytes) → Option α × List (List Bytes)) :
    withClient recorder f k = k := rfl

lemma withJson_arrived (hd : d.Faithful) {Db α : Type} (s : Bytes) (k : Bytes → Db → Option α × Db)
    (db : Db) : withJson d (arrivedText d s) k db = k (arrived d s) db := by
  rw [withJson, fromJson_arrivedText hd]

/-- What is observed of a call with JSON that is not what is observed of a failure was done with a
document. -/
lemma exists_of_eq_withJson {Db α γ : Type} {s : Bytes} {k : Bytes → Db → Option α × Db} {db : Db}
    (out : Option α × Db → γ) {r : γ} (hr : r ≠ out (none, db)) (h : r = out (withJson d s k db)) :
    ∃ doc, d.fromJson (cStr s) = some doc ∧ r = out (k doc db) := by
  rw [withJson] at h
  cases hs : d.fromJson (cStr s) with
  | none =>
    rw [hs] at h
    exact absurd h hr
  | some doc =>
    rw [hs] at h
    exact ⟨doc, rfl, h⟩

/-- The value of a text, or of its failure. -/
def textOf {Db : Type} (r : Option Bytes × Db) : DbValue := (r.1.map DbValue.text).getD (.text [])

/-- The recorder finds something for the arguments alone that it has recorded. -/
lemma eq_of_found {Db : Type} {db : Db} (coll : Bytes) {f p f' p' : Bytes}
    (h : textOf (recorder.findFirst coll f' p' [[f', p']], db) =
      textOf (recorder.findFirst coll f p [[f', p']], db)) : f' = f ∧ p' = p := by
  by_cases hmem : [f, p] ∈ [[f', p']]
  · simpa [eq_comm] using hmem
  · simp [textOf, recorder, hmem] at h

lemma jsonArg_of_found (hd : d.Faithful) (coll : Bytes) {query projection : Bytes}
    (h : textOf (getDocument d recorder coll (arrivedText d query) (arrivedText d projection)
        [[arrived d query, arrived d projection]]) =
      textOf (getDocument d recorder coll query projection
        [[arrived d query, arrived d projection]])) :
    JsonArg d query ∧ JsonArg d projection := by
  simp only [getDocument, withClient_recorder, withJson_arrived hd] at h
  obtain ⟨a, ha, h⟩ := exists_of_eq_withJson textOf (by simp [recorder, textOf]) h
  obtain ⟨b, hb, h⟩ := exists_of_eq_withJson textOf (by simp [recorder, textOf]) h
  obtain ⟨hquery, hprojection⟩ := eq_of_found (cStr coll) h
  rw [jsonArg_iff, jsonArg_iff, ha, hb, hquery, hprojection]
  exact ⟨rfl, rfl⟩

lemma updateBulkDocument_of_none {u : Undefined} {filter value : List Bytes}
    (h : bulkUpdates d u filter value = none) (coll : Bytes) (log : List (List Bytes)) :
    (updateBulkDocument d recorder u coll filter value log).2 = log := by
  rw [updateBulkDocument, withClient_recorder, h]

lemma updateBulkDocument_of_some {u : Undefined} {filter value : List Bytes}
    {updates : List (Bytes × Bytes)} (h : bulkUpdates d u filter value = some updates)
    (coll : Bytes) (log : List (List Bytes)) :
    (updateBulkDocument d recorder u coll filter value log).2 ≠ log := by
  rw [updateBulkDocument, withClient_recorder, h]
  simp [recorder]

lemma exec_updateBulkDocument {Db : Type} {e : Engine Db} {u : Undefined}
    {filter value : List Bytes} {fa va : Bytes} (hfa : d.dump filter = some fa)
    (hva : d.dump value = some va) (coll : Bytes) (reqid : ℤ) (db : Db) :
    (exec d e u dbName reqid db (.updateBulkDocument coll filter value)).2 =
      (dispatch d e u dbName { reqid := reqid, op := .updateBulkDocument, coll := coll,
                               doc := u.range fa, doc2 := u.range va } db).2 := by
  have hop := (DbCall.updateBulkDocument coll filter value).op_mem_named
  rw [DbCall.op] at hop
  simp only [exec, request, hfa, hva, Option.bind_some, Option.map_some,
    parseRequest_buildRequest reqid hop]

/-- The strings of a bulk need not arrive: the agent may do nothing where the client updates, and
may update where the client throws. -/
lemma not_agrees_updateBulkDocument (hd : d.Faithful) (dbName coll : Bytes)
    (filter value : List Bytes) : ¬ Agrees d dbName (.updateBulkDocument coll filter value) := by
  intro hc
  cases hfa : d.dump filter with
  | none =>
    have h := hc _ recorder ⟨id, []⟩ 0 []
    simp [exec, request, hfa] at h
  | some fa =>
  cases hva : d.dump value with
  | none =>
    have h := hc _ recorder ⟨id, []⟩ 0 []
    simp [exec, request, hfa, hva] at h
  | some va =>
  cases hups : bulkUpdates d ⟨id, []⟩ filter value with
  | none =>
    let u : Undefined := ⟨fun _ => Bytes.ofString "[\"\x7b\x7d\"]", []⟩
    have hone : bulkUpdates d u [Bytes.ofString "\x7b\x7d"] [Bytes.ofString "\x7b\x7d"] =
        some [(d.empty, d.empty)] := by
      have hjson : d.fromJson (cStr (Bytes.ofString "\x7b\x7d")) = some d.empty := hd.fromJson_empty
      simp [bulkUpdates, hjson]
    have h := congrArg Prod.snd (hc _ recorder u 0 [])
    rw [exec_updateBulkDocument hfa hva] at h
    simp only [dispatch, u, hd.strings_one, respond_snd] at h
    apply updateBulkDocument_of_some hone coll []
    exact h.trans (updateBulkDocument_of_none hups coll [])
  | some updates =>
    let u : Undefined := ⟨fun _ => [], []⟩
    have h := congrArg Prod.snd (hc _ recorder u 0 [])
    rw [exec_updateBulkDocument hfa hva] at h
    simp only [dispatch, u, hd.strings_nil] at h
    exact updateBulkDocument_of_some hups coll [] h.symm

lemma portable_of_agrees (hd : d.Faithful) (hc : Agrees d dbName c) : Portable d dbName c := by
  have u : Undefined := ⟨id, []⟩
  cases c with
  | createDocument dbName' coll doc =>
    have h := congrArg Prod.snd (hc.recorded rfl u [])
    simp only [MongodbClient.exec, valueOf, createDocument, withClient_recorder,
      withJson_arrived hd] at h
    obtain ⟨a, ha, h⟩ := exists_of_eq_withJson Prod.snd (by simp [recorder]) h
    simp only [recorder, List.cons.injEq, and_true] at h
    rw [Portable, jsonArg_iff, ha, h.2.2]
    exact ⟨h.1.symm, rfl⟩
  | createBulkDocument dbName' coll doc =>
    have h := congrArg Prod.snd (hc.recorded rfl u [])
    simp only [MongodbClient.exec, valueOf, createBulkDocument, withClient_recorder] at h
    rw [Portable]
    cases hdocs : bulkDocs d doc with
    | none => exact .inr (.inl rfl)
    | some docs =>
      cases docs with
      | nil => exact .inr (.inr rfl)
      | cons doc' docs =>
        rw [hdocs] at h
        simp only [recorder, List.cons.injEq, and_true] at h
        exact .inl h.symm
  | updateCollection coll filter document =>
    have h := congrArg Prod.snd (hc.recorded rfl u [])
    simp only [MongodbClient.exec, valueOf, updateCollection, withClient_recorder,
      withJson_arrived hd] at h
    obtain ⟨a, ha, h⟩ := exists_of_eq_withJson Prod.snd (by simp [recorder]) h
    obtain ⟨b, hb, h⟩ := exists_of_eq_withJson Prod.snd (by simp [recorder]) h
    simp only [recorder, List.cons.injEq, and_true, true_and] at h
    rw [Portable, jsonArg_iff, jsonArg_iff, ha, hb, h.1, h.2]
    exact ⟨rfl, rfl⟩
  | updateBulkDocument coll filter value =>
    exact not_agrees_updateBulkDocument hd dbName coll filter value hc
  | deleteDocument coll doc =>
    have h := congrArg Prod.snd (hc.recorded rfl u [])
    simp only [MongodbClient.exec, valueOf, deleteDocument, withClient_recorder,
      withJson_arrived hd] at h
    obtain ⟨a, ha, h⟩ := exists_of_eq_withJson Prod.snd (by simp [recorder]) h
    simp only [recorder, List.cons.injEq, and_true, true_and] at h
    rw [Portable, jsonArg_iff, ha, h]
  | getDocument coll query projection =>
    exact jsonArg_of_found hd coll (congrArg Prod.fst (hc.recorded rfl u _))
  | getDocumentsQueried coll query projection =>
    exact jsonArg_of_found hd coll (congrArg Prod.fst (hc.recorded rfl u _))
  | getDocumentsAll coll projection =>
    have hquery : d.fromJson (cStr (Bytes.ofString "\x7b\x7d")) = some d.empty := hd.fromJson_empty
    have h := congrArg Prod.fst (hc.recorded rfl u [[d.empty, arrived d projection]])
    simp only [MongodbClient.exec, valueOf, getDocumentsAll, getDocuments, withClient_recorder,
      withJson_arrived hd] at h
    obtain ⟨a, ha, h⟩ :=
      exists_of_eq_withJson textOf (by simp [withJson, hquery, recorder, textOf]) h
    simp only [withJson, hquery] at h
    rw [Portable, jsonArg_iff, ha, (eq_of_found (cStr coll) h).2]
  | storeFile filename contentType data =>
    have h := congrArg Prod.snd (hc.recorded rfl u [])
    simp only [MongodbClient.exec, valueOf, storeFile, withClient_recorder] at h
    simp only [recorder, List.cons.injEq, and_true] at h
    rw [Portable, ← h.1]
    exact notMem_splitBar _
  | nextAwbno | fetchFile | fetchFileById | deleteFile => trivial

/-- Exactly with these arguments does the proxy do what the client does. -/
theorem exec_eq_client_iff (d : Driver) (hd : d.Faithful) (dbName : Bytes) (c : DbCall) :
    Agrees d dbName c ↔ Portable d dbName c :=
  ⟨portable_of_agrees hd, agrees_of_portable hd⟩

end

/-! ### A filter that is no JSON -/

/-- The conversions of two documents, each with the text that `to_json` has for it. -/
def sampleDriver : Driver where
  fromJson s :=
    if s ∈ [Bytes.ofString "\x7b\x7d", Bytes.ofString "\x7b \x7d"] then some [5, 0, 0, 0, 0]
    else if s ∈ [Bytes.ofString "\x7b\"a\":1\x7d", Bytes.ofString "\x7b \"a\" : 1 \x7d"] then
      some [12, 0, 0, 0, 16, 97, 0, 1, 0, 0, 0, 0]
    else none
  toJson doc :=
    if doc = [5, 0, 0, 0, 0] then some (Bytes.ofString "\x7b \x7d")
    else if doc = [12, 0, 0, 0, 16, 97, 0, 1, 0, 0, 0, 0] then
      some (Bytes.ofString "\x7b \"a\" : 1 \x7d")
    else none
  empty := [5, 0, 0, 0, 0]
  elements _ := none
  dump l := if l = [Bytes.ofString "\x7b\x7d"] then some (Bytes.ofString "[\"\x7b\x7d\"]") else none
  strings s :=
    if s = Bytes.ofString "[\"\x7b\x7d\"]" then some [Bytes.ofString "\x7b\x7d"] else none
  what := []

lemma sampleDriver_faithful : sampleDriver.Faithful where
  fromJson_nil := rfl
  fromJson_empty := rfl
  ne_nil := by
    intro json doc h
    simp only [sampleDriver] at h
    split at h
    · cases h
      simp
    · split at h
      · cases h
        simp
      · cases h
  toJson := by
    intro json doc h
    simp only [sampleDriver] at h
    split at h
    · cases h
      exact ⟨Bytes.ofString "\x7b \x7d", rfl, rfl⟩
    · split at h
      · cases h
        exact ⟨Bytes.ofString "\x7b \"a\" : 1 \x7d", rfl, rfl⟩
      · cases h
  strings_nil := rfl
  strings_one := rfl

theorem exec_eq_client_iff_deleteDocument :
    Agrees sampleDriver [100] (.deleteDocument [99] (Bytes.ofString "\x7b\"a\":1\x7d")) ∧
      ¬ Agrees sampleDriver [100] (.deleteDocument [99] (Bytes.ofString "a=1")) := by
  constructor
  · rw [exec_eq_client_iff sampleDriver sampleDriver_faithful, Portable, jsonArg_iff]
    decide
  · rw [exec_eq_client_iff sampleDriver sampleDriver_faithful, Portable, jsonArg_iff]
    decide

/-- The documents with their collections, in a database where nothing is done but deleting. A filter
matches a document that is the same, and the empty one matches all of them. -/
def deleting : Engine (List (Bytes × Bytes)) where
  acquire _ := true
  insertOne _ _ _ db := (none, db)
  insertMany _ _ _ db := (none, db)
  updateMany _ _ _ db := (none, db)
  updateOnes _ _ db := (none, db)
  deleteMany coll filter db :=
    (some true,
      db.filter fun doc => ¬ (doc.1 = coll ∧ (filter = sampleDriver.empty ∨ doc.2 = filter)))
  findFirst _ _ _ _ := none
  findAll _ _ _ _ := none
  nextAwbno _ db := ([], db)
  storeFile _ _ _ db := ([], db)
  fetchFile _ _ := []
  fetchFileById _ _ := []
  deleteFile _ db := (false, db)

/-- The client throws for a filter that is no JSON. By way of the agent every document of the
collection is deleted. -/
theorem unparsed_filter_deletes_all :
    sampleDriver.Faithful ∧
    MongodbClient.exec sampleDriver deleting ⟨id, []⟩ [([99], [1]), ([99], [2])]
        (.deleteDocument [99] (Bytes.ofString "a=1")) =
      (none, [([99], [1]), ([99], [2])]) ∧
    exec sampleDriver deleting ⟨id, []⟩ [100] 1 [([99], [1]), ([99], [2])]
        (.deleteDocument [99] (Bytes.ofString "a=1")) = (some (.flag true), []) :=
  ⟨sampleDriver_faithful, by decide, by decide⟩

end WsMongodbProxy
