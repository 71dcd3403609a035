import OnPremPbx.Accounts.NamedAccount
import OnPremPbx.Transition.Tickets
import OnPremPbx.Web.Shipments

/-!
# AWB numbers

The counter of the database gives each caller of `next_awbno` another number. What is stored for a
shipment that asks for a number is the one that was drawn for it, whatever other requests are handled
at the same time, unless something is thrown for an entry of a bulk: then all of them are stored as
they were sent.
-/

open Json

namespace MicroService

open MicroServicePbx (boolOr valueOr)

/-! ### Automatic numbers -/

def autoName : Bytes := Bytes.ofString "isAutoGenerate"

/-- The shipment asks for a new number. -/
def isAuto (shipment : Json) : Bool :=
  match shipment.field autoName with
  | some (.bool b) => b
  | _              => false

/-- The number in a document whose shipment asks for a new one. -/
def autoNumber (doc : Json) : Option Bytes :=
  (doc.field shipmentName).bind fun shipment =>
    if isAuto shipment then (shipment.text awbName).filter (· ≠ []) else none

/-- Nothing is thrown for the shipment. -/
def WellTyped (shipment : Json) : Prop :=
  ∃ auto, boolOr shipment "isAutoGenerate" false = some auto ∧
    (auto = false → (valueOr shipment "awbno").isSome)

instance (shipment : Json) : Decidable (WellTyped shipment) :=
  inferInstanceAs (Decidable (∃ _ : Bool, _))

/-- Nothing is thrown for the shipments of the documents. -/
def AllWellTyped (docs : List Json) : Prop :=
  ∀ doc ∈ docs, ∀ shipment ∈ doc.field shipmentName, WellTyped shipment

instance (docs : List Json) : Decidable (AllWellTyped docs) :=
  inferInstanceAs (Decidable (∀ doc ∈ docs, _))

/-- A number as a ticket; an empty text is none. -/
def ticket (awbno : Bytes) : Multiset Bytes := if awbno = [] then 0 else {awbno}

/-- The number that a call draws. -/
def drawn : DbCall → Option DbValue → Multiset Bytes
  | .nextAwbno _, some (.text awbno) => ticket awbno
  | _, _                             => 0

namespace ShipmentEnv

variable (env : ShipmentEnv)

/-- The automatic numbers in what a call stores as shipments. -/
def autoNumbers : DbCall → Multiset Bytes
  | .createDocument _ coll doc     =>
    if coll = shippingColl then ↑((env.json.parse doc).toList.filterMap autoNumber) else 0
  | .createBulkDocument _ coll doc =>
    if coll = shippingColl then
      ↑(((env.json.parse doc).elim [] items).filterMap autoNumber)
    else 0
  | _                              => 0

def till : Program.Till DbCall (fun _ => DbValue) Bytes := ⟨drawn, env.autoNumbers⟩

/-- In a bulk nothing is thrown, or no entry that asks for a number comes with one. -/
def Orderly (req : Bytes) : Prop :=
  ∀ http ∈ Http.ofBytes env.decompress req,
    http.uriName = Bytes.ofString "/api/v1/shipment/bulk/shipping" →
      ∀ body ∈ env.json.parse http.body,
        AllWellTyped (items body) ∨ ∀ doc ∈ items body, autoNumber doc = none

instance (req : Bytes) : Decidable (env.Orderly req) :=
  inferInstanceAs (Decidable (∀ http ∈ Http.ofBytes env.decompress req, _))

end ShipmentEnv

/-- The library assigns members as it keeps them, and its strings are texts. -/
structure JsonLibrary.Assigns (lib : JsonLibrary) : Prop extends lib.Lawful where
  valid : ∀ s, lib.isNode (.string s) = true → Utf8.Valid s
  put : ∀ key (v : Json) ms, Utf8.Valid key → lib.isNode (.object (ms.map (·.1))) = true →
    lib.isNode (.object ((put key v ms).map (·.1))) = true

/-! ### The counter -/

/-- The collection is not the one of the counter. -/
def Leaves (coll : Bytes) : Prop := cStr coll ≠ Bytes.ofString "counters"

instance (coll : Bytes) : Decidable (Leaves coll) := inferInstanceAs (Decidable (_ ≠ _))

/-- The call does not write the counter but to draw a number. -/
def Counts : DbCall → Prop
  | .createDocument _ coll _      => Leaves coll
  | .createBulkDocument _ coll _  => Leaves coll
  | .updateCollection coll _ _    => Leaves coll
  | .updateBulkDocument _ _ _     => False
  | .deleteDocument coll _        => Leaves coll
  | _                             => True

/-- `find_one_and_update` counts up, and the number that it returns is that of its caller alone; it
may fail. Nothing else that is done to other collections moves the counter. -/
structure Counter {Db : Type} (e : Engine Db) (seq : Db → ℕ) : Prop where
  next : ∀ awb db, seq db ≤ seq (e.nextAwbno awb db).2 ∧
    ((e.nextAwbno awb db).1 = [] ∨
      seq db < seq (e.nextAwbno awb db).2 ∧
        (e.nextAwbno awb db).1 = awb ++ Decimal.padded 9 (seq (e.nextAwbno awb db).2))
  insertOne : ∀ dbName coll doc db, coll ≠ Bytes.ofString "counters" →
    seq db ≤ seq (e.insertOne dbName coll doc db).2
  insertMany : ∀ dbName coll docs db, coll ≠ Bytes.ofString "counters" →
    seq db ≤ seq (e.insertMany dbName coll docs db).2
  updateMany : ∀ coll filter update db, coll ≠ Bytes.ofString "counters" →
    seq db ≤ seq (e.updateMany coll filter update db).2
  deleteMany : ∀ coll filter db, coll ≠ Bytes.ofString "counters" →
    seq db ≤ seq (e.deleteMany coll filter db).2
  storeFile : ∀ filename contentType data db,
    seq db ≤ seq (e.storeFile filename contentType data db).2
  deleteFile : ∀ oid db, seq db ≤ seq (e.deleteFile oid db).2

/-- `next_awbno` returns a text, which is UTF-8 if the prefix is. -/
def AwbText : DbCall → Option DbValue → Prop
  | .nextAwbno awb, a => ∃ awbno, a = some (.text awbno) ∧ (Utf8.Valid awb → Utf8.Valid awbno)
  | _, _              => True

/-- A request that is handled: one for shipments, or another one. -/
inductive AwbRequest where
  | shipment (req : Bytes)
  | other (handler : Prog Bytes)

def AwbRequest.code (env : ShipmentEnv) : AwbRequest → Prog Bytes
  | .shipment req  => env.handleShipmentPOST req
  | .other handler => handler

/-- What is asked of a request: a bulk is orderly, and another request neither stores automatic
numbers nor writes the counter. -/
def AwbRequest.Fits (env : ShipmentEnv) : AwbRequest → Prop
  | .shipment req  => env.Orderly req
  | .other handler => handler.All AwbText (fun o => Counts o ∧ env.autoNumbers o = 0)
      fun _ => True

/-! ### The database -/

section

variable {Db : Type} {d : Driver} {e : Engine Db} {seq : Db → ℕ}

variable (seq) in
/-- The counter goes up, or stays. -/
def Rises {α : Type} (m : Db → Option α × Db) : Prop := ∀ db, seq db ≤ seq (m db).2

lemma rises_pure {α : Type} (f : Db → Option α) : Rises seq fun db => (f db, db) := fun _ => le_rfl

lemma rises_withClient {α : Type} {failure : α} {k : Db → Option α × Db} (h : Rises seq k) :
    Rises seq (MongodbClient.withClient e failure k) := by
  intro db
  rw [MongodbClient.withClient]
  split_ifs
  · exact h db
  · exact le_rfl

lemma rises_withJson {α : Type} {s : Bytes} {k : Bytes → Db → Option α × Db}
    (h : ∀ doc, Rises seq (k doc)) : Rises seq (MongodbClient.withJson d s k) := by
  intro db
  rw [MongodbClient.withJson]
  split
  · exact le_rfl
  · exact h _ db

lemma rises_getDocument {coll query projection : Bytes} :
    Rises seq (MongodbClient.getDocument d e coll query projection) :=
  rises_withClient (rises_withJson fun _ => rises_withJson fun _ => rises_pure _)

lemma rises_getDocuments {coll query projection : Bytes} :
    Rises seq (MongodbClient.getDocuments d e coll query projection) :=
  rises_withClient (rises_withJson fun _ => rises_withJson fun _ => rises_pure _)

lemma Counter.rises (he : Counter e seq) (u : Undefined) {o : DbCall} (ho : Counts o) :
    Rises seq fun db => MongodbClient.exec d e u db o := by
  cases o with
  | createDocument dbName coll doc =>
    have h : Rises seq (MongodbClient.createDocument d e dbName coll doc) :=
      rises_withJson fun _ => rises_withClient fun db => he.insertOne _ _ _ db ho
    exact h
  | createBulkDocument dbName coll doc =>
    have h : Rises seq (MongodbClient.createBulkDocument d e dbName coll doc) := by
      refine rises_withClient fun db => ?_
      split
      · exact le_rfl
      · exact le_rfl
      · exact he.insertMany _ _ _ db ho
    exact h
  | updateCollection coll filter document =>
    have h : Rises seq (MongodbClient.updateCollection d e coll filter document) :=
      rises_withJson fun _ => rises_withJson fun _ => rises_withClient fun db =>
        he.updateMany _ _ _ db ho
    exact h
  | updateBulkDocument coll filter value => exact ho.elim
  | deleteDocument coll doc =>
    have h : Rises seq (MongodbClient.deleteDocument d e coll doc) :=
      rises_withJson fun _ => rises_withClient fun db => he.deleteMany _ _ db ho
    exact h
  | getDocument coll query projection =>
    have h : Rises seq (MongodbClient.getDocument d e coll query projection) := rises_getDocument
    exact h
  | getDocumentsQueried coll query projection =>
    have h : Rises seq (MongodbClient.getDocuments d e coll query projection) := rises_getDocuments
    exact h
  | getDocumentsAll coll projection =>
    have h : Rises seq (MongodbClient.getDocumentsAll d e coll projection) := rises_getDocuments
    exact h
  | nextAwbno awb =>
    have h : Rises seq (MongodbClient.nextAwbno e awb) :=
      rises_withClient fun db => (he.next awb db).1
    exact h
  | storeFile filename contentType data =>
    have h : Rises seq (MongodbClient.storeFile e filename contentType data) :=
      rises_withClient fun db => he.storeFile _ _ _ db
    exact h
  | fetchFile filename =>
    have h : Rises seq (MongodbClient.fetchFile e filename) := rises_withClient (rises_pure _)
    exact h
  | fetchFileById oid =>
    have h : Rises seq (MongodbClient.fetchFileById e oid) := rises_withClient (rises_pure _)
    exact h
  | deleteFile oid =>
    have h : Rises seq (MongodbClient.deleteFile e oid) :=
      rises_withClient fun db => he.deleteFile _ db
    exact h

/-- The call that reaches the database behind a proxy writes the same collection. -/
lemma counts_arrivedCall (dbName : Bytes) {o : DbCall} (ho : Counts o) :
    ∃ o', WsMongodbProxy.arrivedCall d dbName o = some o' ∧ Counts o' := by
  cases o with
  | updateBulkDocument coll filter value => exact ho.elim
  | _ => exact ⟨_, rfl, ho⟩

lemma Counter.rises_handler (he : Counter e seq) (u : Undefined) (st : Store) {o : DbCall}
    (ho : Counts o) : Rises seq fun db => st.handler d e u o db := by
  cases st with
  | client => exact he.rises u ho
  | proxy dbName reqid =>
    obtain ⟨o', harrived, ho'⟩ := counts_arrivedCall (d := d) dbName ho
    intro db
    change seq db ≤ seq (WsMongodbProxy.exec d e u dbName reqid db o).2
    rw [WsMongodbProxy.exec_eq_arrivedCall d e u dbName harrived]
    exact he.rises u ho' db

/-- What a caller of `next_awbno` gets. -/
lemma Counter.next_handler (he : Counter e seq) (u : Undefined) (st : Store) (awb : Bytes) (db : Db) :
    ∃ awbno, (st.handler d e u (.nextAwbno awb) db).1 = some (.text awbno) ∧
      (awbno = [] ∨ seq db < seq (st.handler d e u (.nextAwbno awb) db).2 ∧
        awbno = awb ++ Decimal.padded 9 (seq (st.handler d e u (.nextAwbno awb) db).2)) := by
  have hclient : ∃ awbno, (MongodbClient.exec d e u db (.nextAwbno awb)).1 = some (.text awbno) ∧
      (awbno = [] ∨ seq db < seq (MongodbClient.exec d e u db (.nextAwbno awb)).2 ∧
        awbno = awb ++ Decimal.padded 9 (seq (MongodbClient.exec d e u db (.nextAwbno awb)).2)) := by
    rw [MongodbClient.exec, MongodbClient.nextAwbno, MongodbClient.withClient]
    split_ifs
    · exact ⟨_, rfl, (he.next awb db).2⟩
    · exact ⟨_, rfl, .inl rfl⟩
  cases st with
  | client => exact hclient
  | proxy dbName reqid =>
    have harrived : WsMongodbProxy.arrivedCall d dbName (.nextAwbno awb) = some (.nextAwbno awb) :=
      rfl
    have hproxy := WsMongodbProxy.exec_eq_arrivedCall d e u dbName harrived reqid db
    obtain ⟨awbno, htext, hnext⟩ := hclient
    rw [show (Store.proxy dbName reqid).handler d e u (.nextAwbno awb) db = _ from hproxy]
    exact ⟨awbno, by rw [htext]; rfl, hnext⟩

/-- The numbers with a sequence number that the counter has passed, whatever their prefix. -/
def issued (seq : Db → ℕ) (db : Db) : Set Bytes :=
  {t | ∃ awb n, n ≤ seq db ∧ t = awb ++ Decimal.padded 9 n}

/-- While the sequence numbers have nine digits, the counter draws numbers that are new. -/
lemma Counter.fresh (he : Counter e seq) (u : Undefined) (st : Store) (env : ShipmentEnv) :
    env.till.Fresh (st.handler d e u) AwbText Counts (fun db => seq db < 10 ^ 9) (issued seq) where
  answers o db _ := by
    cases o with
    | nextAwbno awb =>
      obtain ⟨awbno, htext, hnext⟩ := he.next_handler (d := d) u st awb db
      refine ⟨awbno, htext, fun hawb => ?_⟩
      rcases hnext with rfl | ⟨-, rfl⟩
      · exact Utf8.valid_nil
      · cases htext' : Decimal.padded 9 (seq (st.handler d e u (.nextAwbno awb) db).2) with
        | nil => rwa [List.append_nil]
        | cons c s =>
          have hascii : ∀ b ∈ c :: s, b < 0x80 := fun b hb =>
            Decimal.ascii_padded (htext' ▸ hb)
          refine (Utf8.valid_append_ascii (hascii c List.mem_cons_self)).mpr ⟨hawb, ?_⟩
          exact valid_of_ascii fun b hb => hascii b (List.mem_cons_of_mem _ hb)
    | _ => trivial
  kept o db ho := by
    rintro t ⟨awb, n, hn, rfl⟩
    exact ⟨awb, n, hn.trans (he.rises_handler u st ho db), rfl⟩
  nodup o db _ _ := by
    cases o with
    | nextAwbno awb =>
      obtain ⟨awbno, htext, -⟩ := he.next_handler (d := d) u st awb db
      rw [htext]
      change (ticket awbno).Nodup
      rw [ticket]
      split_ifs
      · exact Multiset.nodup_zero
      · exact Multiset.nodup_singleton _
    | _ => exact Multiset.nodup_zero
  fresh o db _ hlt t ht := by
    cases o with
    | nextAwbno awb =>
      obtain ⟨awbno, htext, hnext⟩ := he.next_handler (d := d) u st awb db
      rw [htext] at ht
      change t ∈ ticket awbno at ht
      rw [ticket] at ht
      split_ifs at ht with hnil
      · exact absurd ht (Multiset.notMem_zero t)
      · obtain ⟨hseq, rfl⟩ := hnext.resolve_left hnil
        obtain rfl := Multiset.mem_singleton.mp ht
        refine ⟨?_, awb, _, le_rfl, rfl⟩
        rintro ⟨awb', n, hn, heq⟩
        have hsame := Decimal.padded_inj (by decide) hlt (by omega) heq
        omega
    | _ => exact absurd ht (Multiset.notMem_zero t)

end

/-! ### One shipment -/

section

variable {env : ShipmentEnv} {ts : Multiset Bytes}

lemma all_textOf {A : DbCall → Option DbValue → Prop} {P : DbCall → Prop} {Q : Option Bytes → Prop}
    {c : DbCall} (hc : P c) (hnone : Q none) (htext : ∀ s, Q (some s)) :
    (textOf c).All A P Q := by
  refine ⟨hc, fun a _ => ?_⟩
  cases a with
  | none => exact hnone
  | some v =>
    cases v with
    | text s => exact htext s
    | _ => exact hnone

/-- The call reads documents. -/
def Reads (o : DbCall) : Prop := ∃ coll query projection, o = .getDocument coll query projection

lemma valid_of_text (hlib : env.json.Assigns) {j : Json} {key s : Bytes}
    (hj : j.all env.json.isNode = true) (h : j.text key = some s) : Utf8.Valid s := by
  have hfield := text_eq_some.mp h
  cases j with
  | object ms => exact hlib.valid s ((all_object.mp hj).2 _ (mem_of_field hfield))
  | _ => cases hfield

lemma awbPrefix_all (hlib : env.json.Assigns) (accNo : Bytes) :
    (env.awbPrefix accNo).All AwbText Reads fun r => ∀ awb ∈ r, Utf8.Valid awb := by
  have hdefault : Utf8.Valid defaultPrefix := by decide
  rw [ShipmentEnv.awbPrefix, Program.all_bind, Program.all_ofOption]
  cases env.json.dump (accountQuery accNo) with
  | none => rintro _ ⟨⟩
  | some query =>
    dsimp only
    rw [Program.all_bind]
    refine all_textOf ⟨_, _, _, rfl⟩ (by rintro _ ⟨⟩) fun ad => ?_
    dsimp only
    split_ifs
    · rintro _ ⟨⟩
      exact hdefault
    · rw [Program.all_bind, Program.all_ofOption]
      cases hja : env.json.parse ad with
      | none => rintro _ ⟨⟩
      | some ja =>
        dsimp only
        split
        · rintro _ ⟨⟩
          exact hdefault
        · rename_i p hp
          rintro _ ⟨⟩
          split_ifs
          · exact hdefault
          · exact valid_of_text hlib (hlib.parse ad ja hja) hp

/-- There is a prefix, whatever is thrown. -/
lemma prefixOf_all (hlib : env.json.Assigns) (shipment : Json) :
    (env.prefixOf shipment).All AwbText Reads fun r => ∃ awb, r = some awb ∧ Utf8.Valid awb := by
  have hdefault : Utf8.Valid defaultPrefix := by decide
  rw [ShipmentEnv.prefixOf]
  split
  · exact ⟨_, rfl, hdefault⟩
  · rename_i sender _
    have hvalid : (do
        let accNo ← Program.ofOption (valueOr sender "accountNo")
        if accNo = [] then pure defaultPrefix else env.awbPrefix accNo : Prog Bytes).All AwbText
          Reads fun r => ∀ awb ∈ r, Utf8.Valid awb := by
      rw [Program.all_bind, Program.all_ofOption]
      cases valueOr sender "accountNo" with
      | none => rintro _ ⟨⟩
      | some accNo =>
        dsimp only
        split_ifs
        · rintro _ ⟨⟩
          exact hdefault
        · exact awbPrefix_all hlib accNo
    rw [Program.all_bind, Program.all_attempt]
    refine hvalid.mono fun r hr => ?_
    cases r with
    | none => exact ⟨_, rfl, hdefault⟩
    | some awb => exact ⟨_, rfl, hr awb rfl⟩

lemma pays_of_reads {α : Type} {Q : Option α → Multiset Bytes → Prop} {R : Option α → Prop}
    {p : Prog α} (hp : p.All AwbText Reads R) (hQ : ∀ r, R r → Q r ts) :
    p.Pays AwbText Counts env.till Q ts := by
  refine hp.pays ?_ hQ
  rintro _ ⟨coll, query, projection, rfl⟩
  exact ⟨trivial, rfl, fun _ => rfl⟩

lemma pays_nextAwbno {Q : Option Bytes → Multiset Bytes → Prop} {awb : Bytes} (hawb : Utf8.Valid awb)
    (hQ : ∀ awbno, Utf8.Valid awbno → Q (some awbno) (ticket awbno + ts)) :
    (textOf (.nextAwbno awb)).Pays AwbText Counts env.till Q ts := by
  refine ⟨⟨trivial, Multiset.zero_le _⟩, ?_⟩
  rintro _ ⟨awbno, rfl, hvalid⟩
  have h := hQ awbno (hvalid hawb)
  rwa [← Multiset.sub_zero ts] at h

lemma boolOr_auto {shipment : Json} {auto : Bool}
    (h : boolOr shipment "isAutoGenerate" false = some auto) : isAuto shipment = auto := by
  rw [boolOr] at h
  rw [isAuto, autoName]
  split_ifs at h
  cases hfield : shipment.field (Bytes.ofString "isAutoGenerate") with
  | none =>
    rw [hfield] at h
    exact Option.some.inj h
  | some v =>
    rw [hfield] at h
    cases v with
    | bool b => exact Option.some.inj h
    | _ => cases h

lemma isAuto_of_boolOr_none {shipment : Json} (h : boolOr shipment "isAutoGenerate" false = none) :
    isAuto shipment = false := by
  rw [boolOr] at h
  rw [isAuto, autoName]
  split_ifs at h with hobject
  · cases hfield : shipment.field (Bytes.ofString "isAutoGenerate") with
    | none => rfl
    | some v =>
      rw [hfield] at h
      cases v with
      | bool b => cases h
      | _ => rfl
  · cases shipment with
    | object ms => exact absurd rfl hobject
    | _ => rfl

/-- A shipment that asks for a number gets the one that is drawn, and no other shipment gets any.
Where something is thrown, none was asked for. -/
lemma numberShipment_pays (hlib : env.json.Assigns) (shipment : Json)
    {Q : Option (Bytes × Option Json) → Multiset Bytes → Prop}
    (hnew : ∀ awbno, isAuto shipment = true → Utf8.Valid awbno →
      Q (some (awbno, some (shipment.assign awbName (.string awbno)))) (ticket awbno + ts))
    (hold : ∀ awbno, isAuto shipment = false → Q (some (awbno, none)) ts)
    (hnone : isAuto shipment = false → ¬ WellTyped shipment → Q none ts) :
    (env.numberShipment shipment).Pays AwbText Counts env.till Q ts := by
  rw [ShipmentEnv.numberShipment, Program.pays_bind, Program.pays_ofOption]
  cases hauto : boolOr shipment "isAutoGenerate" false with
  | none =>
    refine hnone (isAuto_of_boolOr_none hauto) ?_
    rintro ⟨auto, hsome, -⟩
    rw [hauto] at hsome
    cases hsome
  | some auto =>
    dsimp only
    cases auto with
    | true =>
      rw [if_pos rfl, Program.pays_bind]
      refine pays_of_reads (prefixOf_all hlib shipment) ?_
      rintro _ ⟨awb, rfl, hawb⟩
      dsimp only
      rw [Program.pays_bind]
      exact pays_nextAwbno hawb fun awbno hvalid => hnew awbno (boolOr_auto hauto) hvalid
    | false =>
      rw [if_neg Bool.false_ne_true, Program.pays_bind, Program.pays_ofOption]
      cases hawb : valueOr shipment "awbno" with
      | none =>
        refine hnone (boolOr_auto hauto) ?_
        rintro ⟨auto, hsome, hawbno⟩
        rw [hauto] at hsome
        rw [hawb] at hawbno
        exact absurd (hawbno (Option.some.inj hsome).symm) (by simp)
      | some awbno => exact hold awbno (boolOr_auto hauto)

lemma JsonLibrary.Assigns.assign {lib : JsonLibrary} (hlib : lib.Assigns) {j v : Json} {key : Bytes}
    (hobject : j.isObject = true) (hj : j.all lib.isNode = true) (hkey : Utf8.Valid key)
    (hv : v.all lib.isNode = true) : (j.assign key v).all lib.isNode = true ∧
      (j.assign key v).field key = some v ∧
        ∀ key', key' ≠ key → (j.assign key v).field key' = j.field key' := by
  cases j with
  | object ms =>
    have hnode := (all_object.mp hj).1
    have hput := hlib.put key v ms hkey hnode
    exact ⟨all_assign hj hv hput, field_assign_self (hlib.nodup _ hput), fun key' hne =>
      field_assign_of_ne (hlib.nodup _ hnode) (hlib.nodup _ hput) hne⟩
  | _ => cases hobject

lemma isObject_of_field {j v : Json} {key : Bytes} (h : j.field key = some v) :
    j.isObject = true := by
  cases j with
  | object ms => rfl
  | _ => cases h

lemma isObject_of_isAuto {shipment : Json} (h : isAuto shipment = true) :
    shipment.isObject = true := by
  cases shipment with
  | object ms => rfl
  | _ => cases h

/-- A document with a new number shows it. -/
lemma autoNumber_assign (hlib : env.json.Assigns) {doc shipment : Json} {awbno : Bytes}
    (hdoc : doc.all env.json.isNode = true) (hfield : doc.field shipmentName = some shipment)
    (hauto : isAuto shipment = true) (hawbno : Utf8.Valid awbno) :
    (doc.assign shipmentName (shipment.assign awbName (.string awbno))).all env.json.isNode = true ∧
      (autoNumber (doc.assign shipmentName
        (shipment.assign awbName (.string awbno)))).toList = ticket awbno := by
  have hshipment : shipment.all env.json.isNode = true := by
    cases doc with
    | object ms => exact (all_object.mp hdoc).2 _ (mem_of_field hfield)
    | _ => cases hfield
  have hstring : (Json.string awbno).all env.json.isNode = true := hlib.string awbno hawbno
  obtain ⟨hall, hself, hothers⟩ := hlib.assign (isObject_of_isAuto hauto) hshipment
    (show Utf8.Valid awbName by decide) hstring
  obtain ⟨hall', hself', -⟩ := hlib.assign (isObject_of_field hfield) hdoc
    (show Utf8.Valid shipmentName by decide) hall
  refine ⟨hall', ?_⟩
  have hauto' : isAuto (shipment.assign awbName (.string awbno)) = true := by
    rw [isAuto, hothers autoName (by decide)]
    exact hauto
  have htext : (shipment.assign awbName (.string awbno)).text awbName = some awbno :=
    text_eq_some.mpr hself
  rw [autoNumber, hself', Option.bind_some, if_pos hauto', htext, ticket, Option.filter_some]
  split_ifs with hnil <;> simp_all

/-- The number that is drawn is in the document, and a document without a new number shows none. -/
lemma numberDocument_pays (hlib : env.json.Assigns) (content : Bytes)
    {Q : Option (Bytes × Option Json) → Multiset Bytes → Prop}
    (hnew : ∀ awbno doc, doc.all env.json.isNode = true → (autoNumber doc).toList = ticket awbno →
      Q (some (awbno, some doc)) (ticket awbno + ts))
    (hold : (env.json.parse content).bind autoNumber = none → ∀ awbno, Q (some (awbno, none)) ts)
    (hnone : (env.json.parse content).bind autoNumber = none → Q none ts) :
    (env.numberDocument content).Pays AwbText Counts env.till Q ts := by
  rw [ShipmentEnv.numberDocument, Program.pays_bind, Program.pays_ofOption]
  cases hparse : env.json.parse content with
  | none => exact hnone (by rw [hparse]; rfl)
  | some doc =>
    rw [hparse, Option.bind_some] at hold hnone
    dsimp only
    cases hfield : doc.field shipmentName with
    | none => exact hold (by rw [autoNumber, hfield]; rfl) []
    | some shipment =>
      have hnumber : isAuto shipment = false → autoNumber doc = none := by
        intro hauto
        rw [autoNumber, hfield, Option.bind_some, hauto]
        rfl
      dsimp only
      rw [Program.pays_bind]
      refine numberShipment_pays hlib shipment (fun awbno hauto hvalid => ?_)
        (fun awbno hauto => hold (hnumber hauto) awbno) fun hauto _ => hnone (hnumber hauto)
      obtain ⟨hall, hshows⟩ := autoNumber_assign hlib (hlib.parse content doc hparse) hfield hauto
        hvalid
      exact hnew awbno _ hall hshows

variable (env ts) in
/-- The program spends no more than it has, and nothing is said about what it returns. -/
abbrev Paid {α : Type} (p : Prog α) : Prop :=
  p.Pays AwbText Counts env.till (fun _ _ => True) ts

lemma leaves_shippingColl : Leaves shippingColl := by decide

lemma pays_store {α : Type} {Q : Option α → Multiset Bytes → Prop} {c : DbCall}
    {k : Option DbValue → Prog α} (hc : Counts c) (hspends : env.autoNumbers c ≤ ts)
    (hk : ∀ a ts, (k a).Pays AwbText Counts env.till Q ts) :
    (Program.call c k).Pays AwbText Counts env.till Q ts :=
  ⟨⟨hc, hspends⟩, fun a _ => hk a _⟩

lemma paid_ofOption_bind {α β : Type} {o : Option α} {f : α → Prog β}
    (hf : ∀ a ts, Paid env ts (f a)) : Paid env ts (Program.ofOption o >>= f) := by
  cases o with
  | none => trivial
  | some a => exact hf a ts

lemma paid_textOf_bind {β : Type} {c : DbCall} {f : Bytes → Prog β} (hc : Counts c)
    (hspends : env.autoNumbers c ≤ ts) (hf : ∀ a ts, Paid env ts (f a)) :
    Paid env ts (textOf c >>= f) := by
  rw [Paid, Program.pays_bind]
  refine pays_store hc hspends fun a ts => ?_
  cases a with
  | none => trivial
  | some v =>
    cases v with
    | text s => exact hf s ts
    | _ => trivial

lemma paid_countOf_bind {β : Type} {c : DbCall} {f : ℤ → Prog β} (hc : Counts c)
    (hspends : env.autoNumbers c ≤ ts) (hf : ∀ a ts, Paid env ts (f a)) :
    Paid env ts (countOf c >>= f) := by
  rw [Paid, Program.pays_bind]
  refine pays_store hc hspends fun a ts => ?_
  cases a with
  | none => trivial
  | some v =>
    cases v with
    | count n => exact hf n ts
    | _ => trivial

/-- What is stored for one shipment. -/
lemma autoNumbers_createDocument (dbName content : Bytes) :
    env.autoNumbers (.createDocument dbName shippingColl content) =
      ((env.json.parse content).bind autoNumber).toList := by
  rw [ShipmentEnv.autoNumbers, if_pos rfl]
  cases env.json.parse content with
  | none => rfl
  | some doc =>
    rw [Option.toList_some, Option.bind_some, List.filterMap_cons, List.filterMap_nil]
    cases autoNumber doc <;> rfl

lemma shippingPOST_paid (hlib : env.json.Assigns) (content : Bytes) :
    Paid env ts (env.shippingPOST content) := by
  rw [ShipmentEnv.shippingPOST]
  split_ifs
  · trivial
  · -- what comes after the number
    have hstore : ∀ awbno stored ts,
        ↑((env.json.parse stored).bind autoNumber).toList ≤ ts → Paid env ts (do
          let record ← textOf (.createDocument env.database shippingColl stored)
          if record = [] then pure [] else env.singleResponse record awbno) := by
      intro awbno stored ts hspends
      refine paid_textOf_bind leaves_shippingColl ?_ fun record ts => ?_
      · rwa [autoNumbers_createDocument]
      · split_ifs
        · trivial
        · exact paid_ofOption_bind fun _ _ => trivial
    rw [Paid, Program.pays_bind, ShipmentEnv.numberSingle, Program.pays_bind, Program.pays_attempt]
    refine numberDocument_pays hlib content (fun awbno doc hall hshows => ?_)
      (fun hcontent awbno => ?_) fun hcontent => ?_
    · obtain ⟨text, hdump, hparse⟩ := hlib.dump doc hall
      refine hstore awbno _ _ ?_
      rw [hdump, Option.getD_some, hparse, Option.bind_some, hshows]
      exact Multiset.le_add_right _ _
    · exact hstore awbno content ts (by rw [hcontent]; exact Multiset.zero_le _)
    · exact hstore [] content ts (by rw [hcontent]; exact Multiset.zero_le _)

/-! ### Several shipments -/

open ShipmentEnv (items setItems)

lemma filterMap_cons_ticket {doc : Json} {docs : List Json} {awbno : Bytes}
    (h : (autoNumber doc).toList = ticket awbno) :
    ((doc :: docs).filterMap autoNumber : Multiset Bytes) + ts =
      (docs.filterMap autoNumber : Multiset Bytes) + (ticket awbno + ts) := by
  rw [← h, List.filterMap_cons]
  cases autoNumber doc with
  | none => simp
  | some a =>
    rw [Option.toList_some, ← Multiset.cons_coe, Multiset.coe_singleton, Multiset.cons_add,
      Multiset.singleton_add, Multiset.add_cons]

lemma filterMap_cons_none {doc : Json} {docs : List Json} (h : autoNumber doc = none) :
    (doc :: docs).filterMap autoNumber = docs.filterMap autoNumber := by
  rw [List.filterMap_cons, h]

/-- If the loop comes to its end, the items show the numbers that it has drawn. -/
lemma numberItems_pays (hlib : env.json.Assigns) (docs : List Json)
    (hdocs : ∀ doc ∈ docs, doc.all env.json.isNode = true)
    {Q : Option (List Bytes × Option (Bool × List Json)) → Multiset Bytes → Prop}
    (hdone : ∀ numbers modified (docs' : List Json), docs'.length = docs.length →
      (∀ doc ∈ docs', doc.all env.json.isNode = true) →
      (modified = true → ∃ doc ∈ docs, (doc.field shipmentName).isSome) →
      (modified = false → docs' = docs) →
      Q (some (numbers, some (modified, docs'))) (docs'.filterMap autoNumber + ts))
    (hthrown : ∀ numbers ts, ¬ AllWellTyped docs → Q (some (numbers, none)) ts) :
    (env.numberItems docs).Pays AwbText Counts env.till Q ts := by
  induction docs generalizing ts Q with
  | nil =>
    have h := hdone [] false [] rfl (by simp) (by simp) fun _ => rfl
    rwa [List.filterMap_nil, Multiset.coe_nil, zero_add] at h
  | cons doc docs ih =>
    rw [List.forall_mem_cons] at hdocs
    have hrest : ¬ AllWellTyped docs → ¬ AllWellTyped (doc :: docs) :=
      mt fun h doc hdoc => h doc (List.mem_cons_of_mem _ hdoc)
    -- the first item has become `doc'`, and the loop goes on
    have hcont : ∀ (doc' : Json) (awbno : Bytes) (f : List Bytes → List Bytes) (g : Bool → Bool),
        doc'.all env.json.isNode = true → (autoNumber doc').toList = ticket awbno →
        ((∀ m, g m = m) ∧ doc' = doc ∨ (∀ m, g m = true) ∧ (doc.field shipmentName).isSome) →
        (env.numberItems docs >>= fun r => pure (f r.1, r.2.map fun x => (g x.1, doc' :: x.2)) :
          Prog _).Pays AwbText Counts env.till Q (ticket awbno + ts) := by
      intro doc' awbno f g hall hshows hg
      rw [Program.pays_bind]
      refine ih hdocs.2 (fun numbers modified docs' hlength hall' hmodified hsame => ?_)
        fun numbers ts h => hthrown _ ts (hrest h)
      dsimp only
      rw [Program.pays_pure, Option.map_some, ← filterMap_cons_ticket hshows]
      refine hdone _ _ _ (by simp [hlength]) (List.forall_mem_cons.mpr ⟨hall, hall'⟩)
        (fun hmod => ?_) fun hmod => ?_
      · rcases hg with ⟨hid, -⟩ | ⟨-, hdoc⟩
        · obtain ⟨doc'', hmem, hdoc''⟩ := hmodified ((hid modified).symm.trans hmod)
          exact ⟨doc'', List.mem_cons_of_mem _ hmem, hdoc''⟩
        · exact ⟨doc, List.mem_cons_self, hdoc⟩
      · rcases hg with ⟨hid, rfl⟩ | ⟨htrue, -⟩
        · rw [hsame ((hid modified).symm.trans hmod)]
        · rw [htrue] at hmod
          cases hmod
    have hkept : ∀ f : List Bytes → List Bytes, autoNumber doc = none →
        (env.numberItems docs >>= fun r => pure (f r.1, r.2.map fun x => (x.1, doc :: x.2)) :
          Prog _).Pays AwbText Counts env.till Q ts := by
      intro f hnumber
      have h := hcont doc [] f (fun m => m) hdocs.1 (by rw [hnumber]; rfl) (.inl ⟨fun _ => rfl, rfl⟩)
      rwa [show ticket [] = 0 from rfl, zero_add] at h
    rw [ShipmentEnv.numberItems]
    cases hfield : doc.field shipmentName with
    | none => exact hkept (fun numbers => numbers) (by rw [autoNumber, hfield]; rfl)
    | some shipment =>
      have hnumber : isAuto shipment = false → autoNumber doc = none := by
        intro hauto
        rw [autoNumber, hfield, Option.bind_some, hauto]
        rfl
      dsimp only
      rw [Program.pays_bind, Program.pays_attempt]
      refine numberShipment_pays hlib shipment (fun awbno hauto hvalid => ?_)
        (fun awbno hauto => hkept (awbno :: ·) (hnumber hauto)) fun _ htyped => ?_
      · obtain ⟨hall, hshows⟩ := autoNumber_assign hlib hdocs.1 hfield hauto hvalid
        exact hcont _ awbno (awbno :: ·) (fun _ => true) hall hshows
          (.inr ⟨fun _ => rfl, by rw [hfield]; rfl⟩)
      · exact hthrown [] ts fun h => htyped (h doc List.mem_cons_self shipment hfield)

lemma items_setItems {body : Json} {docs : List Json} (hlength : docs.length = (items body).length)
    (hfield : ∃ doc ∈ items body, (doc.field shipmentName).isSome) :
    items (setItems body docs) = docs := by
  cases body with
  | object ms =>
    rw [setItems, items, List.map_snd_zip]
    rw [hlength, items, List.length_map, List.length_map]
  | array es => rfl
  | null =>
    obtain ⟨doc, hmem, -⟩ := hfield
    cases hmem
  | _ =>
    obtain ⟨doc, hmem, hdoc⟩ := hfield
    obtain rfl := List.mem_singleton.mp hmem
    cases hdoc

lemma all_items {p : Node → Bool} {body : Json} (h : body.all p = true) :
    ∀ doc ∈ items body, doc.all p = true := by
  cases body with
  | object ms =>
    rw [items, List.forall_mem_map]
    exact (all_object.mp h).2
  | array es => exact (all_array.mp h).2
  | null => exact fun _ hmem => absurd hmem List.not_mem_nil
  | _ => exact List.forall_mem_singleton.mpr h

lemma all_setItems {p : Node → Bool} {body : Json} {docs : List Json} (h : body.all p = true)
    (hlength : docs.length = (items body).length) (hdocs : ∀ doc ∈ docs, doc.all p = true) :
    (setItems body docs).all p = true := by
  cases body with
  | object ms =>
    have hlength' : docs.length = ms.length := by rwa [items, List.length_map] at hlength
    rw [setItems, all_object, List.map_fst_zip (by rw [List.length_map, hlength'])]
    exact ⟨(all_object.mp h).1, fun m hm => hdocs _ (List.of_mem_zip hm).2⟩
  | array es =>
    rw [setItems, all_array, show docs.length = es.length from hlength]
    exact ⟨(all_array.mp h).1, hdocs⟩
  | _ => exact h

/-- What is stored for a bulk. -/
lemma autoNumbers_createBulkDocument (dbName content : Bytes) :
    env.autoNumbers (.createBulkDocument dbName shippingColl content) =
      ((env.json.parse content).elim [] items).filterMap autoNumber := by
  rw [ShipmentEnv.autoNumbers, if_pos rfl]

lemma bulkShippingPOST_paid (hlib : env.json.Assigns) (content : Bytes)
    (horderly : ∀ body ∈ env.json.parse content,
      AllWellTyped (items body) ∨ ∀ doc ∈ items body, autoNumber doc = none) :
    Paid env ts (env.bulkShippingPOST content) := by
  rw [ShipmentEnv.bulkShippingPOST]
  split_ifs
  · trivial
  · -- what comes after the numbers
    have hstore : ∀ numbers stored ts,
        env.autoNumbers (.createBulkDocument env.database shippingColl stored) ≤ ts →
        Paid env ts (do
          let cnt ← countOf (.createBulkDocument env.database shippingColl stored)
          if cnt ≠ 0 then env.bulkResponse cnt numbers
          else pure (buildResponseERROR ("\x7b\"cause\":\"Bulk Shipment Creation Failed\"," ++
            "\"error\":400,\"status\":\"failure\"\x7d") "400 Bad Request")) := by
      intro numbers stored ts hspends
      refine paid_countOf_bind leaves_shippingColl hspends fun cnt ts => ?_
      split_ifs
      · exact paid_ofOption_bind fun _ _ => trivial
      · trivial
    rw [Paid, Program.pays_bind, ShipmentEnv.numberBulk]
    cases hparse : env.json.parse content with
    | none =>
      refine hstore [] content ts ?_
      rw [autoNumbers_createBulkDocument, hparse]
      exact Multiset.zero_le _
    | some body =>
      have hcontent : env.autoNumbers (.createBulkDocument env.database shippingColl content) =
          (items body).filterMap autoNumber := by
        rw [autoNumbers_createBulkDocument, hparse]
        rfl
      have hbody := hlib.parse content body hparse
      dsimp only
      rw [Program.pays_bind]
      refine numberItems_pays hlib (items body) (all_items hbody)
        (fun numbers modified docs hlength hall hmodified hsame => ?_) fun numbers ts hthrown => ?_
      · cases modified with
        | false =>
          refine hstore numbers content _ ?_
          rw [hcontent, hsame rfl]
          exact Multiset.le_add_right _ _
        | true =>
          obtain ⟨text, hdump, hread⟩ := hlib.dump _ (all_setItems hbody hlength hall)
          refine hstore numbers _ _ ?_
          rw [hdump, Option.getD_some, autoNumbers_createBulkDocument, hread]
          dsimp only [Option.elim]
          rw [items_setItems hlength (hmodified rfl)]
          exact Multiset.le_add_right _ _
      · refine hstore numbers content ts ?_
        rw [hcontent, List.filterMap_eq_nil_iff.mpr
          ((horderly body hparse).resolve_left hthrown)]
        exact Multiset.zero_le _

/-! ### All requests -/

lemma handleShipmentPOST_paid (hlib : env.json.Assigns) {req : Bytes} (horderly : env.Orderly req) :
    Paid env ts (env.handleShipmentPOST req) := by
  rw [ShipmentEnv.handleShipmentPOST, Paid, Program.pays_bind, Program.pays_ofOption]
  cases hhttp : Http.ofBytes env.decompress req with
  | none => trivial
  | some http =>
    dsimp only
    split_ifs with hsingle hbulk
    · exact shippingPOST_paid hlib http.body
    · exact bulkShippingPOST_paid hlib http.body (horderly http hhttp hbulk)
    · rw [Program.pays_ofOption]
      trivial
    · trivial

lemma AwbRequest.Fits.paid (hlib : env.json.Assigns) {r : AwbRequest} (hr : r.Fits env) :
    Paid env ts (r.code env) := by
  cases r with
  | shipment req => exact handleShipmentPOST_paid hlib hr
  | other handler =>
    exact Program.All.pays_of_spends hr (fun _ ho => ho) fun _ _ _ => trivial

variable {Db : Type} {d : Driver} {e : Engine Db} {seq : Db → ℕ}

/-- Whatever the order of the calls in a run of requests, no automatic number is stored twice, and
each one that is stored is a number that the counter has come to in the run. -/
theorem awb_numbers_unique (he : Counter e seq) (u : Undefined) (st : Store)
    (hlib : env.json.Assigns) (x : Program.Pool Db AwbRequest (fun _ : DbCall => DbValue) Bytes)
    (hx : x.jobs = []) (es : List (Program.Event AwbRequest))
    (hfits : ∀ r, .start r ∈ es → r.Fits env)
    (hseq : ∀ first, first <+: es →
      seq (x.run (st.handler d e u) (AwbRequest.code env) first).store < 10 ^ 9) :
    ∀ awbno, (x.spentIn (st.handler d e u) (AwbRequest.code env) env.till es).count awbno ≤ 1 ∧
      (awbno ∈ x.spentIn (st.handler d e u) (AwbRequest.code env) env.till es →
        awbno ∈ issued seq (x.run (st.handler d e u) (AwbRequest.code env) es).store ∧
          awbno ∉ issued seq x.store) := by
  obtain ⟨hnodup, hissued⟩ := Program.Pool.nodup_spentIn (he.fresh u st env) hx
    (fun r hr => (hfits r hr).paid hlib) hseq
  exact fun awbno => ⟨Multiset.nodup_iff_count_le_one.mp hnodup awbno, hissued awbno⟩

end

/-! ### Two shipments at once -/

/-- A library that keeps the members of an object in the order of their names. -/
def sortedNode (n : Node) : Bool :=
  plainNode n &&
    match n with
    | .object names => decide (names.Pairwise (· < ·))
    | _             => true

lemma sortedNode_object {names : List Bytes} : sortedNode (.object names) = true ↔
    (∀ k ∈ names, Utf8.Valid k) ∧ names.Pairwise (· < ·) := by
  simp only [sortedNode, plainNode, Bool.and_eq_true, List.all_eq_true, decide_eq_true_eq]
  exact ⟨fun h => ⟨h.1.2, h.2⟩, fun h => ⟨⟨nodup_of_sorted h.2, h.1⟩, h.2⟩⟩

def sortedLibrary : JsonLibrary where
  parse s := (Json.parse s).filter fun j => j.all sortedNode
  dump := Json.dumped
  isNode := sortedNode

lemma sortedLibrary_assigns : sortedLibrary.Assigns where
  nodup names h := nodup_of_sorted (sortedNode_object.mp h).2
  string s h := by
    change (decide (Utf8.Valid s) && true) = true
    rw [Bool.and_true]
    exact decide_eq_true h
  parse s j h := (Option.filter_eq_some_iff.mp h).2
  dump j h := by
    have hplain : ∀ n, sortedNode n = true → plainNode n = true := by
      intro n hn
      exact (Bool.and_eq_true _ _ ▸ hn).1
    have hwritable := writable_of_all j (all_mono hplain j h)
    refine ⟨j.dump, if_pos hwritable, ?_⟩
    exact Option.filter_eq_some_iff.mpr ⟨parse_dump hwritable, h⟩
  valid s h := by
    change (decide (Utf8.Valid s) && true) = true at h
    rw [Bool.and_true] at h
    exact of_decide_eq_true h
  put key v ms hkey h := by
    obtain ⟨hvalid, hsorted⟩ := sortedNode_object.mp h
    refine sortedNode_object.mpr ⟨?_, sorted_put hsorted⟩
    rw [List.forall_mem_map] at hvalid ⊢
    intro m hm
    rcases mem_of_mem_put hm with rfl | hm
    · exact hkey
    · exact hvalid m hm

/-- A database with a counter, and the shipments in it. -/
structure Shelf where
  seq : ℕ := 0
  shipments : List Bytes := []

def Shelf.engine : Engine Shelf where
  acquire _ := true
  insertOne _ _ doc db := (some [0x31], { db with shipments := db.shipments ++ [doc] })
  insertMany _ _ docs db := (some docs.length, { db with shipments := db.shipments ++ docs })
  updateMany _ _ _ db := (some false, db)
  updateOnes _ _ db := (some 0, db)
  deleteMany _ _ db := (some false, db)
  findFirst _ _ _ _ := some []
  findAll _ _ _ _ := some []
  nextAwbno awb db := (awb ++ Decimal.padded 9 (db.seq + 1), { db with seq := db.seq + 1 })
  storeFile _ _ _ db := ([], db)
  fetchFile _ _ := []
  fetchFileById _ _ := []
  deleteFile _ db := (false, db)

lemma Shelf.counter : Counter Shelf.engine Shelf.seq where
  next _ _ := ⟨Nat.le_succ _, .inr ⟨Nat.lt_succ_self _, rfl⟩⟩
  insertOne _ _ _ _ _ := le_rfl
  insertMany _ _ _ _ _ := le_rfl
  updateMany _ _ _ _ _ := le_rfl
  deleteMany _ _ _ _ := le_rfl
  storeFile _ _ _ _ := le_rfl
  deleteFile _ _ := le_rfl

/-- The text of an object is its own document. -/
def shelfDriver : Driver where
  fromJson s := (parse s).bind fun j => if j.isObject then some s else none
  toJson := some
  empty := Bytes.ofString "\x7b\x7d"
  elements s := (parse s).map fun j => ((ShipmentEnv.items j).filter isObject).map Json.dump
  dump _ := none
  strings _ := none
  what := []

def shelfEnv : ShipmentEnv where
  decompress _ body := body
  json := sortedLibrary
  database := Bytes.ofString "pbx"
  ajoul _ := none

/-- A shipment that asks for a number, and comes with one. -/
def shipmentRequest : Bytes :=
  Bytes.ofString "POST /api/v1/shipment/shipping HTTP/1.1\r\nContent-Length: 48\r\n\r\n" ++
    Bytes.ofString "\x7b\"shipment\":\x7b\"awbno\":\"X\",\"isAutoGenerate\":true\x7d\x7d"

def bulkRequest : Bytes :=
  Bytes.ofString "POST /api/v1/shipment/bulk/shipping HTTP/1.1\r\nContent-Length: 38\r\n\r\n" ++
    Bytes.ofString "[\x7b\"shipment\":\x7b\"isAutoGenerate\":true\x7d\x7d]"

/-- A shipment as it is stored. -/
def numbered (awbno : String) : Bytes :=
  Bytes.ofString "\x7b\"shipment\":\x7b\"awbno\":\"" ++ Bytes.ofString awbno ++
    Bytes.ofString "\",\"isAutoGenerate\":true\x7d\x7d"

def emptyShelf : Program.Pool Shelf AwbRequest (fun _ : DbCall => DbValue) Bytes := ⟨{}, []⟩

/-- The calls of two shipments and of a bulk come between each other. -/
def atOnce : List (Program.Event AwbRequest) :=
  [.start (.shipment shipmentRequest), .start (.shipment bulkRequest),
    .start (.shipment shipmentRequest), .step 1, .step 0, .step 2, .step 2, .step 1, .step 0]

theorem awb_numbers_unique_three :
    (emptyShelf.run (Store.client.handler shelfDriver Shelf.engine ⟨id, []⟩)
        (AwbRequest.code shelfEnv) atOnce).store.shipments =
      [numbered "AWB000000003", numbered "AWB000000001", numbered "AWB000000002"] ∧
    ∀ awbno, (emptyShelf.spentIn (Store.client.handler shelfDriver Shelf.engine ⟨id, []⟩)
      (AwbRequest.code shelfEnv) shelfEnv.till atOnce).count awbno ≤ 1 := by
  have hsingle : shelfEnv.Orderly shipmentRequest := by decide +kernel
  have hbulk : shelfEnv.Orderly bulkRequest := by decide +kernel
  have hfits : ∀ r, .start r ∈ atOnce → r.Fits shelfEnv := by
    intro r hr
    have hcases : r = .shipment shipmentRequest ∨ r = .shipment bulkRequest ∨
        r = .shipment shipmentRequest := by simpa [atOnce] using hr
    rcases hcases with rfl | rfl | rfl
    · exact hsingle
    · exact hbulk
    · exact hsingle
  have hseq : ∀ first ∈ atOnce.inits,
      (emptyShelf.run (Store.client.handler shelfDriver Shelf.engine ⟨id, []⟩)
        (AwbRequest.code shelfEnv) first).store.seq < 10 ^ 9 := by
    decide +kernel
  have hseq' : ∀ first, first <+: atOnce →
      (emptyShelf.run (Store.client.handler shelfDriver Shelf.engine ⟨id, []⟩)
        (AwbRequest.code shelfEnv) first).store.seq < 10 ^ 9 :=
    fun first hfirst => hseq first ((List.mem_inits _ _).mpr hfirst)
  refine ⟨by decide +kernel, fun awbno => ?_⟩
  exact (awb_numbers_unique (d := shelfDriver) Shelf.counter ⟨id, []⟩ .client sortedLibrary_assigns
    emptyShelf rfl atOnce hfits hseq' awbno).1

end MicroService
