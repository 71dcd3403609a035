import OnPremPbx.Pbx.PlainStore
import OnPremPbx.Pbx.Routes
import OnPremPbx.Transition.Run

/-!
# Societies as tenants

The session of an administrator belongs to a society, and the society that a request works on is the
one that its query names. A request touches and shows subscribers and sessions of the society of the
session alone, where the two are the same.
-/

open Json Transition

namespace MicroServicePbx

/-! ### Operations of a society -/

section

variable {Db : Type} {d : Driver} {e : Engine Db} (m : Mongo d e)

def subscribersColl : Bytes := Bytes.ofString "subscribers"

def sessionsColl : Bytes := Bytes.ofString "sessions"

/-- The society of a document. -/
def societyOfDoc (r : Json) : Option Bytes := r.text (Bytes.ofString "societyId")

/-- The documents of a society. -/
def ofSociety (db : Db) (coll society : Bytes) : List Json :=
  (m.docs db coll).filter fun r => societyOfDoc r = some society

/-- The filter asks for documents of the society. -/
def BoundTo (society text : Bytes) : Prop :=
  ∀ filter, d.fromJson (cStr text) = some filter →
    (m.value filter).field (Bytes.ofString "societyId") = some (.string society)

/-- The update leaves the society of a document. -/
def KeepsSociety (text : Bytes) : Prop :=
  ∀ update, d.fromJson (cStr text) = some update →
    ∃ ms, m.SetsOnly update ms ∧ Bytes.ofString "societyId" ∉ ms.map Prod.fst

/-- The collection holds documents of societies. -/
def IsTenants (coll : Bytes) : Prop := cStr coll = subscribersColl ∨ cStr coll = sessionsColl

/-- Of subscribers and sessions the operation writes those of the society alone. -/
def Within (society : Bytes) : Op → Prop
  | .db (.createDocument _ coll doc) _         => IsTenants coll → BoundTo m society doc
  | .db (.updateCollection coll filter doc) _  =>
    KeepsSociety m doc ∧ (IsTenants coll → BoundTo m society filter)
  | .db (.deleteDocument coll filter) _        => IsTenants coll → BoundTo m society filter
  | .db (.createBulkDocument ..) _             => False
  | .db (.updateBulkDocument ..) _             => False
  | .db (.storeFile ..) _                      => False
  | .db (.deleteFile _) _                      => False
  | _                                          => True

/-- The documents of the other societies are the same. -/
def OthersKept (society : Bytes) (db db' : Db) : Prop :=
  ∀ other ≠ society, ∀ coll, coll = subscribersColl ∨ coll = sessionsColl →
    ofSociety m db' coll other = ofSociety m db coll other

variable {m} {dump : Json → Option Bytes} {society : Bytes}

lemma OthersKept.refl (db : Db) : OthersKept m society db db := fun _ _ _ _ => rfl

lemma OthersKept.trans {db₁ db₂ db₃ : Db} (h : OthersKept m society db₁ db₂)
    (h' : OthersKept m society db₂ db₃) : OthersKept m society db₁ db₃ :=
  fun other hne coll hcoll => (h' other hne coll hcoll).trans (h other hne coll hcoll)

/-- A filter of the society selects no document of another one. -/
lemma not_selects (hm : m.Writes dump) {text filter : Bytes} (hbound : BoundTo m society text)
    (hfilter : d.fromJson (cStr text) = some filter) {r : Json} {other : Bytes}
    (hne : other ≠ society) (hr : societyOfDoc r = some other) : m.selects filter r = false := by
  by_contra hsel
  rw [Bool.not_eq_false] at hsel
  exact hne (hm.selects_text (by decide) (by decide) (hbound filter hfilter) hsel
    (text_eq_some.mp hr)).symm

lemma ofSociety_append (db db' : Db) {coll other : Bytes} {row : Json}
    (hdocs : m.docs db' coll = m.docs db coll ++ [row]) (hrow : societyOfDoc row ≠ some other) :
    ofSociety m db' coll other = ofSociety m db coll other := by
  rw [ofSociety, hdocs, List.filter_append, List.filter_cons_of_neg (by simpa using hrow),
    List.filter_nil, List.append_nil]
  rfl

/-- Inserting a document of the society. -/
lemma othersKept_insertOne (hm : m.Writes dump) {text doc : Bytes} (dbName coll : Bytes)
    (hdoc : d.fromJson (cStr text) = some doc) (hbound : IsTenants coll → BoundTo m society text)
    (db : Db) : OthersKept m society db (e.insertOne dbName (cStr coll) doc db).2 := by
  intro other hne coll' hcoll'
  rcases hm.insertOne dbName (cStr coll) doc db coll' with hsame | ⟨rfl, row, hrow, hfields⟩
  · rw [ofSociety, hsame]
    rfl
  · refine ofSociety_append db _ hrow fun hother => hne ?_
    have hfield := hbound hcoll' doc hdoc
    rw [societyOfDoc, text_eq_some, hfields _ (by decide), hfield] at hother
    cases hother
    rfl

/-- An update of documents of the society that leaves their society. -/
lemma othersKept_updateMany (hm : m.Writes dump) {text filter doc update : Bytes} (coll : Bytes)
    (hfilter : d.fromJson (cStr text) = some filter) (hupdate : d.fromJson (cStr doc) = some update)
    (hbound : IsTenants coll → BoundTo m society text) (hkeeps : KeepsSociety m doc) (db : Db) :
    OthersKept m society db (e.updateMany (cStr coll) filter update db).2 := by
  intro other hne coll' hcoll'
  obtain ⟨ms, hsets, hms⟩ := hkeeps update hupdate
  rcases hm.updateMany (cStr coll) filter update ms db coll' hsets with hsame | ⟨rfl, f, hf, hdocs⟩
  · rw [ofSociety, hsame]
    rfl
  · have hsociety : ∀ r, societyOfDoc (f r) = societyOfDoc r := fun r => by
      rw [societyOfDoc, societyOfDoc, Json.text, Json.text, hf r _ hms]
    have hkept : ∀ r, societyOfDoc r = some other → m.selects filter r = false := fun r hr =>
      not_selects hm (hbound hcoll') hfilter hne hr
    rw [ofSociety, ofSociety, hdocs, List.filter_map]
    refine (List.map_congr_left fun r hr => ?_).trans ((List.map_id _).trans
      (List.filter_congr fun r _ => ?_))
    · have hr := (List.mem_filter.mp hr).2
      rw [Function.comp_apply, decide_eq_true_eq] at hr
      split_ifs at hr ⊢ with hsel
      · rw [hsociety] at hr
        exact absurd hsel (by rw [hkept r hr]; exact Bool.false_ne_true)
      · rfl
    · rw [Function.comp_apply]
      split_ifs
      · rw [hsociety]
      · rfl

/-- Deleting documents of the society. -/
lemma othersKept_deleteMany (hm : m.Writes dump) {text filter : Bytes} (coll : Bytes)
    (hfilter : d.fromJson (cStr text) = some filter)
    (hbound : IsTenants coll → BoundTo m society text) (db : Db) :
    OthersKept m society db (e.deleteMany (cStr coll) filter db).2 := by
  intro other hne coll' hcoll'
  rcases hm.deleteMany (cStr coll) filter db coll' with hsame | ⟨rfl, hdocs⟩
  · rw [ofSociety, hsame]
    rfl
  · rw [ofSociety, ofSociety, hdocs, List.filter_filter]
    refine List.filter_congr fun r _ => ?_
    by_cases hr : societyOfDoc r = some other
    · simp [hr, not_selects hm (hbound hcoll') hfilter hne hr]
    · simp [hr]

lemma OthersKept.withJson {α : Type} {text : Bytes} {k : Bytes → Db → Option α × Db} {db : Db}
    (h : ∀ doc, d.fromJson (cStr text) = some doc → OthersKept m society db (k doc db).2) :
    OthersKept m society db (MongodbClient.withJson d text k db).2 := by
  rw [MongodbClient.withJson]
  cases hdoc : d.fromJson (cStr text) with
  | none => exact .refl db
  | some doc => exact h doc hdoc

lemma OthersKept.withClient {α : Type} {failure : α} {k : Db → Option α × Db} {db : Db}
    (h : OthersKept m society db (k db).2) :
    OthersKept m society db (MongodbClient.withClient e failure k db).2 := by
  rw [MongodbClient.withClient]
  split_ifs
  · exact h
  · exact .refl db

lemma othersKept_find {coll query projection : Bytes} (db : Db)
    {find : Bytes → Bytes → Bytes → Db → Option Bytes} :
    OthersKept m society db (MongodbClient.withClient e []
      (MongodbClient.withJson d projection fun projection =>
        MongodbClient.withJson d query fun query db =>
          (find (cStr coll) query projection db, db)) db).2 :=
  .withClient (.withJson fun _ _ => .withJson fun _ _ => .refl db)

/-- An operation within the society keeps the documents of the others. -/
lemma othersKept_client (hm : m.Writes dump) (u : Undefined) {o : Op} (ho : Within m society o)
    (db : Db) : OthersKept m society db (client d e u o db).2 := by
  cases o with
  | post => exact .refl db
  | revoke => exact .refl db
  | db c members =>
    cases c with
    | createDocument dbName coll doc =>
      exact .withJson fun bytes hdoc => .withClient (othersKept_insertOne hm _ coll hdoc ho db)
    | updateCollection coll filter doc =>
      exact .withJson fun update hupdate => .withJson fun f hf =>
        .withClient (othersKept_updateMany hm coll hf hupdate ho.2 ho.1 db)
    | deleteDocument coll filter =>
      exact .withJson fun f hf => .withClient (othersKept_deleteMany hm coll hf ho db)
    | getDocument coll query projection => exact othersKept_find db
    | getDocumentsQueried coll query projection => exact othersKept_find db
    | getDocumentsAll coll projection => exact othersKept_find db
    | nextAwbno awb =>
      have hkept : OthersKept m society db (e.nextAwbno awb db).2 := by
        intro other _ coll hcoll
        have hne : coll ≠ Bytes.ofString "counters" := by
          rcases hcoll with rfl | rfl <;> decide
        rw [ofSociety, hm.nextAwbno awb db coll hne]
        rfl
      exact .withClient
        (k := fun db => (some (e.nextAwbno awb db).1, (e.nextAwbno awb db).2)) hkept
    | fetchFile name =>
      exact .withClient (k := fun db => (some (e.fetchFile name db), db)) (.refl db)
    | fetchFileById oid =>
      exact .withClient (k := fun db => (some (e.fetchFileById oid db), db)) (.refl db)
    | createBulkDocument => exact ho.elim
    | updateBulkDocument => exact ho.elim
    | storeFile => exact ho.elim
    | deleteFile => exact ho.elim

end

/-! ### Handlers of a society -/

section

variable {Db : Type} {d : Driver} {e : Engine Db} (m : Mongo d e) (society : Bytes) {α β : Type}

/-- The program writes subscribers and sessions of the society alone, whatever is answered. -/
def Stays (p : Prog α) : Prop := p.All Anything (Within m society) fun _ => True

variable {m society}

lemma stays_pure (a : α) : Stays m society (pure a : Prog α) := trivial

lemma stays_ofOption (o : Option α) : Stays m society (Program.ofOption o : Prog α) := by
  rw [Stays, Program.all_ofOption]
  trivial

lemma stays_ofOption_bind {o : Option α} {f : α → Prog β} (h : ∀ a ∈ o, Stays m society (f a)) :
    Stays m society (Program.ofOption o >>= f) := by
  rw [Stays, Program.all_bind, Program.all_ofOption]
  cases o with
  | none => trivial
  | some a => exact h a rfl

lemma stays_bind {p : Prog α} {f : α → Prog β} (hp : Stays m society p)
    (hf : ∀ a, Stays m society (f a)) : Stays m society (p >>= f) := by
  rw [Stays, Program.all_bind]
  refine hp.mono fun r _ => ?_
  cases r with
  | none => trivial
  | some a => exact hf a

lemma stays_attempt {p : Prog α} (hp : Stays m society p) : Stays m society p.attempt := by
  rw [Stays, Program.all_attempt]
  exact hp

lemma stays_textOf {c : DbCall} {ms : List (Bytes × Bytes)} (h : Within m society (.db c ms)) :
    Stays m society (textOf c ms) :=
  (all_textOf c ms).mpr ⟨h, fun _ => trivial⟩

lemma stays_getDocument (coll : String) (query : Filter) :
    Stays m society (getDocument coll query) := stays_textOf trivial

lemma stays_getDocuments (coll : String) (query : Filter) :
    Stays m society (getDocuments coll query) := stays_textOf trivial

lemma stays_perform {o : Op} (h : Within m society o) : Stays m society (Program.perform o) :=
  (Program.all_perform o).mpr ⟨h, fun _ _ => trivial⟩

lemma stays_updateCollection {coll : String} {filter : Filter} {document : Bytes}
    (hkeeps : KeepsSociety m document) (hbound : BoundTo m society filter.text) :
    Stays m society (updateCollection coll filter document) :=
  stays_bind (stays_perform ⟨hkeeps, fun _ => hbound⟩) fun _ => trivial

lemma stays_deleteDocument {coll : String} {doc : Filter} (hbound : BoundTo m society doc.text) :
    Stays m society (deleteDocument coll doc) :=
  stays_bind (stays_perform fun _ => hbound) fun _ => trivial

variable {env : Env}

lemma stays_society (req : Bytes) : Stays m society (handleSocietyPOST env req) := by
  refine stays_ofOption_bind fun parsed _ => ?_
  split
  · trivial
  · split
    · trivial
    · trivial
    · refine stays_bind (stays_getDocument _ _) fun existing => ?_
      split_ifs
      · trivial
      · refine stays_ofOption_bind fun text _ => ?_
        refine stays_bind (stays_textOf fun htenants => ?_) fun _ => trivial
        exact absurd htenants (by unfold IsTenants; decide)

lemma stays_societies (req : Bytes) : Stays m society (handleSocietiesGET env req) := by
  rw [handleSocietiesGET]
  split_ifs
  · exact stays_bind (stays_attempt (stays_textOf trivial)) fun _ => stays_ofOption _
  · trivial

lemma stays_societyDetail (req : Bytes) : Stays m society (handleSocietyDetailGET env req) := by
  rw [handleSocietyDetailGET]
  split_ifs
  · trivial
  · refine stays_ofOption_bind fun query _ => stays_bind (stays_getDocument _ _) fun doc => ?_
    split_ifs <;> trivial
  · trivial

lemma stays_adminSubscribers (req : Bytes) :
    Stays m society (handleAdminSubscribersGET env req) := by
  rw [handleAdminSubscribersGET]
  split_ifs
  · trivial
  · refine stays_bind (stays_attempt ?_) fun _ => stays_ofOption _
    exact stays_ofOption_bind fun query _ => stays_getDocuments _ _
  · trivial

lemma stays_connectivity (req : Bytes) :
    Stays m society (handleAdminConnectivityGET env req) := by
  refine stays_bind ?_ fun mongo => stays_ofOption_bind fun text _ => stays_pure _
  rw [mongoConnected]
  split_ifs
  · trivial
  · exact stays_bind (stays_attempt (stays_textOf trivial)) fun awb => stays_pure _

/-- An object of the library with the society in it. -/
lemma boundTo_dump (hm : m.Writes env.dump) {ms : List (Bytes × Json)} {text : Bytes}
    (hdump : env.dump (.object ms) = some text)
    (hfield : (Json.object ms).field (Bytes.ofString "societyId") = some (.string society)) :
    BoundTo m society text := fun _ hfilter => hm.dumped_text hdump hfilter hfield

lemma keepsSociety_status (hm : m.Writes env.dump) {status text : Bytes}
    (hdump : env.dump (.object [(Bytes.ofString "$set", .object [member "status" status])]) =
      some text) : KeepsSociety m text := fun update hupdate =>
  ⟨[(Bytes.ofString "status", status)], hm.dumped_set hdump hupdate, by
    rw [List.map_singleton, List.mem_singleton]
    exact (by decide : Bytes.ofString "societyId" ≠ Bytes.ofString "status")⟩

lemma stays_createSubscriber (hm : m.Writes env.dump) (realm flatId : Bytes)
    (header row : List Bytes) (r : ℕ) :
    Stays m society (createSubscriber env society realm flatId header row r) := by
  refine stays_ofOption_bind fun text hdump => ?_
  exact stays_bind (stays_textOf fun _ => boundTo_dump hm hdump rfl) fun _ => trivial

lemma stays_findFlat (society' : Bytes) (header row : List Bytes) :
    Stays m society (findFlat society' header row) := by
  rw [findFlat]
  split_ifs
  · refine stays_bind (stays_getDocument _ _) fun flatDoc => ?_
    split_ifs <;> trivial
  · trivial

/-- The import creates subscribers of its society. -/
lemma stays_importRows (hm : m.Writes env.dump) (realm : Bytes) (header : List Bytes)
    (rows : List (List Bytes)) (r : ℕ) (outCsv : Bytes) (created skipped : ℕ) :
    Stays m society (importRows env society realm header r rows outCsv created skipped) := by
  induction rows generalizing r outCsv created skipped with
  | nil => trivial
  | cons row rows ih =>
    rw [importRows]
    split_ifs
    · refine stays_bind (stays_findFlat _ _ _) fun flat => ?_
      cases flat with
      | none => trivial
      | some flatId =>
        refine stays_bind (stays_getDocument _ _) fun existing => ?_
        split_ifs
        · exact ih _ _ _ _
        · exact stays_bind (stays_createSubscriber hm _ _ _ _ _) fun line => ih _ _ _ _
    · trivial

lemma stays_import (hm : m.Writes env.dump) {req : Bytes}
    (hnamed : societyIdOf req = [] ∨ societyIdOf req = society) :
    Stays m society (handleSubscriberImportPOST env req) := by
  refine stays_ofOption_bind fun parsed _ => ?_
  dsimp only
  split_ifs with hempty
  · trivial
  · rw [hnamed.resolve_left hempty]
    refine stays_bind (stays_getDocument _ _) fun societyDoc => ?_
    split_ifs
    · trivial
    · split
      · trivial
      · rw [importTable]
        split
        · trivial
        · exact stays_importRows hm _ _ _ _ _ _ _

/-- The target of the lifecycle is in the society. -/
lemma all_resolveLifecycleTarget (hm : m.Writes env.dump) {req : Bytes}
    (hnamed : societyIdOf req = [] ∨ societyIdOf req = society) :
    (resolveLifecycleTarget env req).All Anything (Within m society) fun r =>
      ∀ target, r = some (Except.ok target) → BoundTo m society target.2.2.text := by
  rw [resolveLifecycleTarget]
  split_ifs with hpath hempty
  · exact fun _ h => by cases h
  · exact fun _ h => by cases h
  · rw [hnamed.resolve_left hempty, Program.all_bind, Env.filter, Program.all_ofOption]
    cases hdump : env.dump (.object (strings [(Bytes.ofString "societyId", society),
      (Bytes.ofString "sipUsername", pathSuffix req (Bytes.ofString "/api/v1/subscriber/"))])) with
    | none => exact fun _ h => by cases h
    | some text =>
      rw [Option.map_some]
      dsimp only
      rw [Program.all_bind, getDocument, all_textOf]
      refine ⟨trivial, fun found => ?_⟩
      cases found with
      | none => exact fun _ h => by cases h
      | some found =>
        dsimp only
        split_ifs
        · exact fun _ h => by cases h
        · rintro target heq
          cases heq
          exact boundTo_dump hm hdump rfl

/-- What comes after the target of the lifecycle is resolved. -/
lemma stays_lifecycle (hm : m.Writes env.dump) {req : Bytes}
    (hnamed : societyIdOf req = [] ∨ societyIdOf req = society)
    {k : Except Bytes (Bytes × Bytes × Filter) → Prog Bytes}
    (herror : ∀ err, Stays m society (k (.error err)))
    (hok : ∀ target, BoundTo m society target.2.2.text → Stays m society (k (.ok target))) :
    Stays m society (resolveLifecycleTarget env req >>= k) := by
  rw [Stays, Program.all_bind]
  refine (all_resolveLifecycleTarget hm hnamed).mono fun r hr => ?_
  rcases r with _ | err | target
  · trivial
  · exact herror err
  · exact hok target (hr target rfl)

lemma stays_revokeOf (societyId sipUsername : Bytes) :
    Stays m society (revokeOf env societyId sipUsername) := by
  rw [revokeOf]
  split_ifs
  · exact stays_perform trivial
  · trivial

lemma stays_status (hm : m.Writes env.dump) {req : Bytes}
    (hnamed : societyIdOf req = [] ∨ societyIdOf req = society) :
    Stays m society (handleSubscriberStatusPUT env req) := by
  refine stays_lifecycle hm hnamed (fun err => trivial) fun target hbound => ?_
  obtain ⟨sipUsername, societyId, filter⟩ := target
  refine stays_ofOption_bind fun parsed _ => ?_
  split
  · trivial
  · refine stays_ofOption_bind fun update hdump => ?_
    refine stays_bind (stays_updateCollection (keepsSociety_status hm hdump) hbound) fun _ => ?_
    dsimp only
    split_ifs
    · refine stays_bind (stays_deleteDocument hbound) fun _ => ?_
      refine stays_bind (stays_revokeOf _ _) fun _ => ?_
      exact stays_ofOption_bind fun text _ => stays_pure _
    · exact stays_ofOption_bind fun text _ => stays_pure _

lemma stays_delete (hm : m.Writes env.dump) {req : Bytes}
    (hnamed : societyIdOf req = [] ∨ societyIdOf req = society) :
    Stays m society (handleSubscriberDELETE env req) := by
  refine stays_lifecycle hm hnamed (fun err => trivial) fun target hbound => ?_
  obtain ⟨sipUsername, societyId, filter⟩ := target
  refine stays_bind (stays_deleteDocument hbound) fun _ => ?_
  refine stays_bind (stays_deleteDocument hbound) fun _ => ?_
  refine stays_bind (stays_revokeOf _ _) fun _ => ?_
  exact stays_ofOption_bind fun text _ => stays_pure _

/-- A handler of the administration stays in the society that its request names. -/
lemma stays_handler (hm : m.Writes env.dump) (other : OtherHandlers) {route : Route} {req : Bytes}
    (hadmin : route.needsAdmin)
    (hnamed : route.namesSociety → societyIdOf req = [] ∨ societyIdOf req = society) :
    Stays m society (route.handler env other req) := by
  cases route with
  | subscriberImport => exact stays_import hm (hnamed rfl)
  | subscriberStatus => exact stays_status hm (hnamed rfl)
  | subscriberDelete => exact stays_delete hm (hnamed rfl)
  | society => exact stays_society req
  | societies => exact stays_societies req
  | societyDetail => exact stays_societyDetail req
  | adminSubscribers => exact stays_adminSubscribers req
  | adminConnectivity => exact stays_connectivity req
  | _ => cases hadmin

end

end MicroServicePbx
