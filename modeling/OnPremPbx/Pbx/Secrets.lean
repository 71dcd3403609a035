import OnPremPbx.Pbx.Filters
import OnPremPbx.Pbx.PlainStore

/-!
# Secrets and public answers

The hashes of the subscribers and the secret of a society are in the documents that the lists read.
Two databases that differ in these fields alone have the same answers, where the filter of the
directory asks for nothing but other fields.
-/

open Json

namespace MicroServicePbx

/-! ### Documents that differ in secrets -/

/-- The secret fields of the documents of a collection. -/
def secrets (coll : Bytes) : List Bytes :=
  if coll = Bytes.ofString "subscribers" then
    [Bytes.ofString "portalPasswordHash", Bytes.ofString "sipHa1"]
  else if coll = Bytes.ofString "societies" then [Bytes.ofString "turnSharedSecret"]
  else []

/-- The document without these fields. -/
def without (names : List Bytes) (r : Json) : Json := names.foldl Json.erase r

lemma field_without {names : List Bytes} {name : Bytes} (h : name ∉ names) (r : Json) :
    (without names r).field name = r.field name := by
  induction names generalizing r with
  | nil => rfl
  | cons n names ih =>
    rw [List.mem_cons, not_or] at h
    exact (ih h.2 _).trans (field_erase (Ne.symm h.1))

lemma isObject_erase (r : Json) (name : Bytes) : (r.erase name).isObject = r.isObject := by
  cases r <;> rfl

lemma isObject_without (names : List Bytes) (r : Json) :
    (without names r).isObject = r.isObject := by
  induction names generalizing r with
  | nil => rfl
  | cons n names ih => exact (ih _).trans (isObject_erase r n)

/-- Two documents of a collection that differ in its secrets alone. -/
def SameRow (coll : Bytes) (r r' : Json) : Prop :=
  without (secrets coll) r = without (secrets coll) r'

namespace SameRow

variable {coll : Bytes} {r r' : Json}

lemma field (h : SameRow coll r r') {name : Bytes} (hname : name ∉ secrets coll) :
    r.field name = r'.field name := by
  rw [← field_without hname, h, field_without hname]

lemma isObject (h : SameRow coll r r') : r.isObject = r'.isObject := by
  rw [← isObject_without (secrets coll), h, isObject_without]

lemma text (h : SameRow coll r r') {name : Bytes} (hname : name ∉ secrets coll) :
    r.text name = r'.text name := by
  rw [Json.text, Json.text, h.field hname]

lemma valueOr (h : SameRow coll r r') {key : String} (hname : Bytes.ofString key ∉ secrets coll) :
    valueOr r key = valueOr r' key := by
  rw [MicroServicePbx.valueOr, MicroServicePbx.valueOr, h.isObject, h.field hname]

end SameRow

namespace Mongo

variable {Db : Type} {d : Driver} {e : Engine Db} (m : Mongo d e)

/-- Two databases that differ in the secret fields of their documents alone. -/
structure SameButSecrets (db db' : Db) : Prop where
  acquire : e.acquire db = e.acquire db'
  docs : ∀ coll, List.Forall₂ (SameRow coll) (m.docs db coll) (m.docs db' coll)

/-- The text is no filter, or one that names neither an operator nor a secret of the collection. -/
def AsksForOthers (coll text : Bytes) : Prop :=
  ∀ filter, d.fromJson (cStr text) = some filter →
    ∀ name, (m.value filter).field name ≠ none →
      ¬ isOperator name ∧ rootOf name ∉ secrets coll

end Mongo

/-! ### Answers -/

section

variable {Db : Type} {d : Driver} {e : Engine Db} {m : Mongo d e} {dump : Json → Option Bytes}
  {db db' : Db}

lemma forall₂_filter {α : Type*} {R : α → α → Prop} {p : α → Bool} {xs ys : List α}
    (h : List.Forall₂ R xs ys) (hp : ∀ x y, R x y → p x = p y) :
    List.Forall₂ R (xs.filter p) (ys.filter p) := by
  induction h with
  | nil => exact .nil
  | cons hxy _ ih =>
    rw [List.filter_cons, List.filter_cons, hp _ _ hxy]
    split_ifs
    · exact .cons hxy ih
    · exact ih

/-- Two answers that are no list, or lists of documents that differ in secrets alone. -/
def SameAnswer (coll : Bytes) (a a' : Option Bytes) : Prop :=
  a = a' ∨ ∃ s s' rows rows', a = some s ∧ a' = some s' ∧ parse s = some (.array rows) ∧
    parse s' = some (.array rows') ∧ List.Forall₂ (SameRow coll) rows rows'

lemma sameAnswer_answerOf (hm : m.Shows dump) (hsame : m.SameButSecrets db db') {coll text : Bytes}
    (hcoll : coll ≠ Bytes.ofString "sessions") (htext : m.AsksForOthers coll text) :
    SameAnswer coll (answerOf m db coll text) (answerOf m db' coll text) := by
  rw [answerOf, answerOf, ← hsame.acquire]
  split_ifs
  · cases hfilter : d.fromJson (cStr text) with
    | none => exact .inl rfl
    | some filter =>
      dsimp only
      split_ifs
      · exact .inl rfl
      · have hrows : List.Forall₂ (SameRow coll) (m.selected db coll filter)
            (m.selected db' coll filter) := by
          refine forall₂_filter (hsame.docs coll) fun r r' hr =>
            hm.selects_congr fun name hname => ?_
          obtain ⟨hop, hroot⟩ := htext filter hfilter name hname
          exact ⟨hop, hr.field hroot⟩
        by_cases hnil : m.selected db coll filter = []
        · rw [hnil] at hrows ⊢
          rw [List.forall₂_nil_left_iff.mp hrows]
          exact .inl rfl
        · have hnil' : m.selected db' coll filter ≠ [] := by
            intro h
            rw [h] at hrows
            exact hnil (List.forall₂_nil_right_iff.mp hrows)
          exact .inr ⟨_, _, _, _, rfl, rfl, hm.parse_render db coll filter hcoll hnil,
            hm.parse_render db' coll filter hcoll hnil', hrows⟩
  · exact .inl rfl

/-- The rows of two such answers. -/
lemma SameAnswer.rows {coll : Bytes} {a a' : Option Bytes} (h : SameAnswer coll a a') :
    a = a' ∨ ∃ s s' rows rows', a = some s ∧ a' = some s' ∧ s ≠ [] ∧ s' ≠ [] ∧
      rowsOf s = some rows ∧ rowsOf s' = some rows' ∧ List.Forall₂ (SameRow coll) rows rows' := by
  obtain rfl | ⟨s, s', rows, rows', rfl, rfl, hs, hs', hrows⟩ := h
  · exact .inl rfl
  · refine .inr ⟨s, s', rows, rows', rfl, rfl, ?_, ?_, ?_, ?_, hrows⟩
    · rintro rfl
      cases hs
    · rintro rfl
      cases hs'
    · rw [rowsOf, hs]
    · rw [rowsOf, hs']

end

/-! ### Responses -/

section

variable (env : Env)

lemma mapM_congr {α β : Type} {R : α → α → Prop} {f : α → Option β} {xs ys : List α}
    (h : List.Forall₂ R xs ys) (hf : ∀ x y, R x y → f x = f y) : xs.mapM f = ys.mapM f := by
  induction h with
  | nil => rfl
  | cons hxy _ ih => rw [List.mapM_cons, List.mapM_cons, hf _ _ hxy, ih]

lemma map_congr {α β : Type} {R : α → α → Prop} {f : α → β} {xs ys : List α}
    (h : List.Forall₂ R xs ys) (hf : ∀ x y, R x y → f x = f y) : xs.map f = ys.map f := by
  induction h with
  | nil => rfl
  | cons hxy _ ih => rw [List.map_cons, List.map_cons, hf _ _ hxy, ih]

/-- An entry of the directory has no secret. -/
lemma directoryEntry_eq {r r' : Json} (h : SameRow (Bytes.ofString "subscribers") r r')
    (societyId flatPrefix : Bytes) :
    directoryEntry env societyId flatPrefix r = directoryEntry env societyId flatPrefix r' := by
  rw [directoryEntry, directoryEntry, h.text (by decide), h.valueOr (by decide),
    h.valueOr (by decide)]

/-- A row of the list of the administration has no secret. -/
lemma adminRow_eq {r r' : Json} (h : SameRow (Bytes.ofString "subscribers") r r')
    (societyId : Bytes) : adminRow env societyId r = adminRow env societyId r' := by
  have herase : (r.erase (Bytes.ofString "portalPasswordHash")).erase (Bytes.ofString "sipHa1") =
      (r'.erase (Bytes.ofString "portalPasswordHash")).erase (Bytes.ofString "sipHa1") := h
  rw [adminRow, adminRow, herase, h.isObject]

/-- A row of the list of societies has no secret. -/
lemma erase_eq {r r' : Json} (h : SameRow (Bytes.ofString "societies") r r') :
    r.erase (Bytes.ofString "turnSharedSecret") = r'.erase (Bytes.ofString "turnSharedSecret") := h

variable {a a' : Option Bytes}

lemma directoryResponse_eq (h : SameAnswer (Bytes.ofString "subscribers") a a')
    (societyId flatPrefix : Bytes) :
    directoryResponse env societyId flatPrefix a =
      directoryResponse env societyId flatPrefix a' := by
  obtain rfl | ⟨s, s', rows, rows', rfl, rfl, hne, hne', hrows, hrows', hsame⟩ := h.rows
  · rfl
  · rw [directoryResponse, directoryResponse, if_neg hne, if_neg hne', hrows, hrows',
      Option.getD_some, Option.getD_some,
      mapM_congr hsame fun r r' hr => directoryEntry_eq env hr societyId flatPrefix]

lemma adminResponse_eq (h : SameAnswer (Bytes.ofString "subscribers") a a') (societyId : Bytes) :
    adminResponse env societyId a = adminResponse env societyId a' := by
  obtain rfl | ⟨s, s', rows, rows', rfl, rfl, -, -, hrows, hrows', hsame⟩ := h.rows
  · rfl
  · rw [adminResponse, adminResponse, Option.bind_some, Option.bind_some, hrows, hrows']
    dsimp only
    rw [mapM_congr hsame fun r r' hr => adminRow_eq env hr societyId]

lemma societiesResponse_eq (h : SameAnswer (Bytes.ofString "societies") a a') :
    societiesResponse env a = societiesResponse env a' := by
  obtain rfl | ⟨s, s', rows, rows', rfl, rfl, -, -, hrows, hrows', hsame⟩ := h.rows
  · rfl
  · rw [societiesResponse, societiesResponse, Option.bind_some, Option.bind_some, hrows, hrows']
    dsimp only
    rw [map_congr hsame fun r r' hr => erase_eq hr]

end

/-! ### Handlers -/

section

variable {Db : Type} {d : Driver} {e : Engine Db} (u : Undefined) {m : Mongo d e}
  {db db' : Db} (env : Env)

/-- The response of a handler, with `none` where it throws. -/
def response (d : Driver) (e : Engine Db) (u : Undefined) (p : Prog Bytes) (db : Db) :
    Option Bytes :=
  (p.run (client d e u) db).1

lemma response_directory (hm : m.Shows env.dump) (hsame : m.SameButSecrets db db') (req : Bytes)
    (hfilter : m.AsksForOthers (Bytes.ofString "subscribers")
      (Filter.concat [(Bytes.ofString "societyId", societyIdOf req)]).text) :
    response d e u (handleDirectoryGET env req) db =
      response d e u (handleDirectoryGET env req) db' := by
  have hcoll : cStr (Bytes.ofString "subscribers") = Bytes.ofString "subscribers" := by decide
  simp only [response, handleDirectoryGET]
  split_ifs
  · rfl
  · simp only [Program.run_bind, Program.run_attempt, run_getDocuments u hm, Program.run_ofOption,
      hcoll]
    exact directoryResponse_eq env (sameAnswer_answerOf hm hsame (by decide) hfilter) _ _
  · rfl

/-- The filter of the administration asks for the society alone. -/
lemma asksForOthers_dumped (hm : m.Shows env.dump) {id text : Bytes}
    (hdump : env.dump (.object (strings [(Bytes.ofString "societyId", id)])) = some text) :
    m.AsksForOthers (Bytes.ofString "subscribers") text := by
  intro filter hfilter name hname
  rw [hm.dumped hdump hfilter] at hname
  have hkey : name = Bytes.ofString "societyId" := by
    by_contra hne
    refine hname ?_
    simp only [strings, field, List.map_cons, List.map_nil, List.reverse_singleton]
    rw [List.find?_cons_of_neg (by simpa using Ne.symm hne), List.find?_nil, Option.map_none]
  rw [hkey]
  decide

lemma response_admin (hm : m.Shows env.dump) (hsame : m.SameButSecrets db db') (req : Bytes) :
    response d e u (handleAdminSubscribersGET env req) db =
      response d e u (handleAdminSubscribersGET env req) db' := by
  have hcoll : cStr (Bytes.ofString "subscribers") = Bytes.ofString "subscribers" := by decide
  simp only [response, handleAdminSubscribersGET]
  split_ifs
  · rfl
  · simp only [Program.run_bind, Program.run_attempt, Env.filter, Program.run_ofOption]
    cases hdump : env.dump (.object (strings [(Bytes.ofString "societyId", societyIdOf req)])) with
    | none => rfl
    | some text =>
      simp only [Option.map_some, run_getDocuments u hm, hcoll]
      exact adminResponse_eq env (sameAnswer_answerOf hm hsame (by decide)
        (asksForOthers_dumped env hm hdump)) _
  · rfl

lemma asksForOthers_braces (hm : m.Shows env.dump) (coll : Bytes) :
    m.AsksForOthers coll braces := by
  intro filter hfilter name hname
  rw [show cStr braces = braces by decide, hm.fromJson_braces] at hfilter
  cases hfilter
  exact absurd (hm.value_empty name) hname

lemma response_societies (hm : m.Shows env.dump) (hsame : m.SameButSecrets db db') (req : Bytes) :
    response d e u (handleSocietiesGET env req) db =
      response d e u (handleSocietiesGET env req) db' := by
  have hcoll : cStr (Bytes.ofString "societies") = Bytes.ofString "societies" := by decide
  simp only [response, handleSocietiesGET]
  split_ifs
  · simp only [Program.run_bind, Program.run_attempt, run_getDocumentsAll u hm,
      Program.run_ofOption, hcoll]
    exact societiesResponse_eq env
      (sameAnswer_answerOf hm hsame (by decide) (asksForOthers_braces env hm _))
  · rfl

/-- Without secrets the documents are the same. -/
lemma answerOf_eq (hsame : m.SameButSecrets db db') {coll : Bytes} (hcoll : secrets coll = [])
    (text : Bytes) : answerOf m db coll text = answerOf m db' coll text := by
  have hdocs : m.docs db coll = m.docs db' coll := by
    have h := hsame.docs coll
    have hrow : SameRow coll = Eq := by
      funext r r'
      rw [SameRow, hcoll]
      rfl
    rwa [hrow, List.forall₂_eq_eq_eq] at h
  simp only [answerOf, hsame.acquire, Mongo.selected, hdocs]

lemma response_cdr (hm : m.Shows env.dump) (hsame : m.SameButSecrets db db') (req : Bytes) :
    response d e u (handleCdrGET env req) db = response d e u (handleCdrGET env req) db' := by
  have hcoll : secrets (cStr (Bytes.ofString "cdr")) = [] := by decide
  simp only [response, handleCdrGET]
  split_ifs
  · rfl
  · simp only [Program.run_bind, Program.run_attempt, run_getDocuments u hm, Program.run_pure,
      answerOf_eq hsame hcoll]
  · rfl

/-- Secrets show in no public answer, where the filter of the directory asks for nothing but other
fields. -/
theorem secrets_do_not_show (hm : m.Shows env.dump) (hsame : m.SameButSecrets db db')
    (req : Bytes) :
    (m.AsksForOthers (Bytes.ofString "subscribers")
        (Filter.concat [(Bytes.ofString "societyId", societyIdOf req)]).text →
      response d e u (handleDirectoryGET env req) db =
        response d e u (handleDirectoryGET env req) db') ∧
    response d e u (handleAdminSubscribersGET env req) db =
      response d e u (handleAdminSubscribersGET env req) db' ∧
    response d e u (handleSocietiesGET env req) db =
      response d e u (handleSocietiesGET env req) db' ∧
    response d e u (handleCdrGET env req) db = response d e u (handleCdrGET env req) db' :=
  ⟨response_directory u env hm hsame req, response_admin u env hm hsame req,
    response_societies u env hm hsame req, response_cdr u env hm hsame req⟩

end

/-! ### A request that asks for a secret -/

def plainEnv : Env := { bareEnv with dump := plainDump }

/-- A subscriber with this hash. -/
def bob (sipHa1 : String) (h : Plain (Bytes.ofString sipHa1) := by decide +kernel) : PlainDoc where
  members :=
    [(Bytes.ofString "flatNumber", Bytes.ofString "A-1"),
      (Bytes.ofString "name", Bytes.ofString "Bob"),
      (Bytes.ofString "sipHa1", Bytes.ofString sipHa1),
      (Bytes.ofString "sipUsername", Bytes.ofString "u_1"),
      (Bytes.ofString "societyId", Bytes.ofString "s1")]
  ne_nil := List.cons_ne_nil _ _
  plain := by
    simp only [List.forall_mem_cons, h]
    decide +kernel

def bobStore (doc : PlainDoc) : PlainStore := { rows := [(Bytes.ofString "subscribers", doc)] }

lemma plain_0f : Plain (Bytes.ofString "0f") := plain_of_ascii (by simp [Bytes.ofString])

lemma plain_1f : Plain (Bytes.ofString "1f") := plain_of_ascii (by simp [Bytes.ofString])

lemma sameButSecrets_bob (h h' : String) (hp : Plain (Bytes.ofString h))
    (hp' : Plain (Bytes.ofString h')) :
    PlainStore.mongo.SameButSecrets (bobStore (bob h hp)) (bobStore (bob h' hp')) where
  acquire := rfl
  docs coll := by
    change List.Forall₂ _ (PlainStore.docs _ coll) (PlainStore.docs _ coll)
    rw [PlainStore.docs, PlainStore.docs]
    split_ifs with hsessions
    · exact .nil
    · by_cases hcoll : Bytes.ofString "subscribers" = coll
      · subst hcoll
        exact .cons rfl .nil
      · rw [bobStore, bobStore, List.filter_cons_of_neg (by simpa using hcoll),
          List.filter_cons_of_neg (by simpa using hcoll)]
        exact .nil

/-- The directory of the society of the subscriber. -/
def directoryRequest : Bytes :=
  Bytes.ofString "GET /api/v1/subscriber?societyId=s1 HTTP/1.1\r\nHost: pbx\r\n\r\n"

theorem secrets_do_not_show_bob :
    response plainDriver PlainStore.engine noUndefined
        (handleDirectoryGET plainEnv directoryRequest) (bobStore (bob "0f")) =
      response plainDriver PlainStore.engine noUndefined
        (handleDirectoryGET plainEnv directoryRequest) (bobStore (bob "1f")) := by
  have hid : societyIdOf directoryRequest = Bytes.ofString "s1" := by decide +kernel
  refine (secrets_do_not_show noUndefined plainEnv PlainStore.mongo_shows
    (sameButSecrets_bob "0f" "1f" plain_0f plain_1f) directoryRequest).1 ?_
  have hdump : plainEnv.dump
        (.object (strings [(Bytes.ofString "societyId", Bytes.ofString "s1")])) =
      some (Filter.concat [(Bytes.ofString "societyId", Bytes.ofString "s1")]).text := by
    decide +kernel
  rw [hid]
  exact asksForOthers_dumped plainEnv PlainStore.mongo_shows hdump

/-- The directory tells whether a secret has the value in the forged request. -/
theorem secret_shows :
    PlainStore.mongo.SameButSecrets (bobStore (bob "0f")) (bobStore (bob "1f")) ∧
    response plainDriver PlainStore.engine noUndefined (handleDirectoryGET plainEnv forgedRequest)
        (bobStore (bob "0f")) ≠
      response plainDriver PlainStore.engine noUndefined
        (handleDirectoryGET plainEnv forgedRequest) (bobStore (bob "1f")) := by
  refine ⟨sameButSecrets_bob "0f" "1f" plain_0f plain_1f, ?_⟩
  decide +kernel

end MicroServicePbx
