import OnPremPbx.Pbx.GrantSteps
import OnPremPbx.Pbx.ImportReport

/-!
# Credentials that were issued

A society is created, its subscribers are imported, and one of them logs in with what the report
tells. The log-in looks for a society by its code and for a subscriber by the flat, and takes the
first of each; every subscriber of a flat has a password of their own.
-/

open Json

namespace MicroServicePbx

/-! ### The log-in in strict mode -/

section

variable {σ : Type} {h : Program.Handler Answer σ} {st : DocumentStore h} {env : SessionEnv}
  {s s' : σ} {req code societyId flat password u : Bytes} {who : Identity}

/-- The society that a query for its code finds. -/
def DocumentStore.societyOf (st : DocumentStore h) (dump : Json → Option Bytes) (s : σ)
    (code : Bytes) : Option Json :=
  (dump (.object (strings [(Bytes.ofString "code", code)]))).bind (st.found s "societies")

/-- The subscriber that a query for a flat of a society finds. -/
def DocumentStore.subscriberOfFlat (st : DocumentStore h) (dump : Json → Option Bytes) (s : σ)
    (societyId flat : Bytes) : Option Json :=
  (dump (.object (strings
    [(Bytes.ofString "societyId", societyId), (Bytes.ofString "flatNumber", flat)]))).bind
      (st.found s "subscribers")

lemma valueOr_eq_some {d : Json} {key : String} {v : Bytes} (hv : v ≠ []) :
    valueOr d key = some v ↔ d.text (Bytes.ofString key) = some v := by
  refine ⟨fun hvalue => ?_, valueOr_of_text []⟩
  rw [valueOr] at hvalue
  split_ifs at hvalue
  rw [text_eq_some]
  split at hvalue
  · exact absurd (Option.some.inj hvalue).symm hv
  · rename_i hfield
    rw [hfield, Option.some.inj hvalue]
  · cases hvalue

/-- The society of a log-in is the first with the code, if it has a string for an identifier. -/
lemma findSociety_eq_ok (hst : st.Lawful env.dump) :
    (findSociety env code).run h s = (some (.ok societyId), s') ↔
      s' = s ∧ societyId ≠ [] ∧ ∃ d, st.societyOf env.dump s code = some d ∧
        d.text (Bytes.ofString "_id") = some societyId := by
  rw [findSociety, Env.filter, Program.run_bind, Program.run_ofOption, DocumentStore.societyOf]
  cases hquery : env.dump (.object (strings [(Bytes.ofString "code", code)])) with
  | none => simp
  | some query =>
    rw [Option.map_some, Option.bind_some]
    dsimp only
    rw [Program.run_bind, run_getDocument hst ⟨query, _⟩ hquery]
    dsimp only
    cases hd : st.found s "societies" query with
    | none => simp [Program.run_pure]
    | some d =>
      obtain ⟨hparse, hne⟩ := parse_found hst hd
      rw [Option.elim_some, if_neg hne, hparse, Option.bind_some]
      cases hid : valueOr d "_id" with
      | none =>
        refine iff_of_false (by simp [Program.run_pure]) ?_
        rintro ⟨-, hne, d', hd', htext⟩
        cases hd'
        rw [valueOr_of_text [] htext] at hid
        cases hid
      | some id =>
        cases id with
        | nil =>
          refine iff_of_false (by simp [Program.run_pure]) ?_
          rintro ⟨-, hne, d', hd', htext⟩
          cases hd'
          rw [valueOr_of_text [] htext] at hid
          exact hne (Option.some.inj hid)
        | cons b bs =>
          have htext := (valueOr_eq_some (List.cons_ne_nil b bs)).mp hid
          constructor
          · intro hrun
            cases hrun
            exact ⟨rfl, List.cons_ne_nil b bs, d, rfl, htext⟩
          · rintro ⟨rfl, -, d', hd', htext'⟩
            cases hd'
            rw [htext] at htext'
            cases htext'
            rfl

/-- The subscriber of a log-in is the first of the flat, and has to pass. -/
lemma findSubscriber_eq_ok (hst : st.Lawful env.dump) :
    (findSubscriber env societyId flat password).run h s = (some (.ok who), s') ↔
      s' = s ∧ ∃ d, st.subscriberOfFlat env.dump s societyId flat = some d ∧
        authenticates env password d = true ∧ isDisabled d = false ∧
        identityOf societyId d = some who := by
  rw [findSubscriber, Env.filter, Program.run_bind, Program.run_ofOption,
    DocumentStore.subscriberOfFlat]
  cases hquery : env.dump (.object (strings
      [(Bytes.ofString "societyId", societyId), (Bytes.ofString "flatNumber", flat)])) with
  | none => simp
  | some query =>
    rw [Option.map_some, Option.bind_some]
    dsimp only
    rw [Program.run_bind, run_getDocument hst ⟨query, _⟩ hquery]
    dsimp only
    cases hd : st.found s "subscribers" query with
    | none => simp [Program.run_pure]
    | some d =>
      obtain ⟨hparse, hne⟩ := parse_found hst hd
      rw [Option.elim_some, if_neg hne, hparse]
      dsimp only
      cases hauth : authenticates env password d with
      | false => simp [Program.run_pure, hauth]
      | true =>
        rw [if_pos rfl]
        cases hdisabled : isDisabled d with
        | true => simp [Program.run_pure, hdisabled]
        | false =>
          rw [if_neg Bool.false_ne_true, Program.run_bind, Program.run_ofOption]
          cases hwho : identityOf societyId d with
          | none => simp [hwho]
          | some who' =>
            constructor
            · intro hrun
              cases hrun
              exact ⟨rfl, d, rfl, hauth, hdisabled, hwho⟩
            · rintro ⟨rfl, d', hd', -, -, hwho'⟩
              cases hd'
              rw [hwho] at hwho'
              cases hwho'
              rfl

/-- The request asks for a log-in with these strings. -/
def IsLoginRequest (env : Env) (req code flat password : Bytes) : Prop :=
  ∃ parsed body, Http.ofBytes env.decompress req = some parsed ∧
    Json.parse parsed.body = some body ∧
    requiredText body "societyCode" = some code ∧
    requiredText body "flatNumber" = some flat ∧ requiredText body "password" = some password

lemma text_of_requiredText {body : Json} {key : String} {v : Bytes}
    (h : requiredText body key = some v) : body.text (Bytes.ofString key) = some v ∧ v ≠ [] := by
  obtain ⟨htext, hne⟩ := Option.filter_eq_some_iff.mp h
  exact ⟨htext, of_decide_eq_true hne⟩

/-- Who logs in is the first subscriber of the flat in the first society. -/
lemma checkLogin_eq_ok (hst : st.Lawful env.dump)
    (hreq : IsLoginRequest env.toEnv req code flat password) (hstrict : env.strict = true)
    (hconnected : env.remoteDisconnected.1 = false) :
    (checkLogin env req).run h s = (some (.ok who), s') ↔
      s' = s ∧ ∃ societyId,
        (findSociety env code).run h s = (some (.ok societyId), s) ∧
        (findSubscriber env societyId flat password).run h s = (some (.ok who), s) := by
  obtain ⟨parsed, body, hparsed, hbody, hcode, hflat, hpassword⟩ := hreq
  have hmissing : missingMember body ["societyCode", "flatNumber", "password"] = none := by
    simp [missingMember, hcode, hflat, hpassword]
  have hret : (Program.ofOption (some parsed) : Prog _) = pure parsed := rfl
  rw [checkLogin, hparsed, hret, pure_bind, hbody]
  dsimp only
  rw [hmissing]
  dsimp only
  rw [(text_of_requiredText hcode).1, (text_of_requiredText hflat).1,
    (text_of_requiredText hpassword).1, if_neg (by simp [hconnected]), if_pos hstrict,
    Program.run_bind]
  simp only [Option.getD_some]
  rcases hsociety : (findSociety env code).run h s with ⟨_ | err | societyId, s₁⟩
  · simp
  · simp [Program.run_pure]
  · obtain ⟨rfl, -⟩ := (findSociety_eq_ok hst).mp hsociety
    dsimp only
    constructor
    · intro hrun
      obtain ⟨rfl, -⟩ := (findSubscriber_eq_ok hst).mp hrun
      exact ⟨rfl, societyId, rfl, hrun⟩
    · rintro ⟨rfl, societyId', heq, hrun⟩
      cases heq
      exact hrun

variable (st) in
/-- The response is 200, and a session of the subscriber is stored. -/
def LogsIn (env : SessionEnv) (req : Bytes) (s : σ) (societyId u : Bytes) : Prop :=
  ∃ resp s' d, (handleSubscriberLoginPOST env req).run h s = (some resp, s') ∧ IsOk resp ∧
    st.sessions s' = st.sessions s ++ [d] ∧
    d.text (Bytes.ofString "societyId") = some societyId ∧
    d.text (Bytes.ofString "sipUsername") = some u

lemma isOk_httpResponse (body contentType headers : Bytes) :
    IsOk (httpResponse 200 "OK" body contentType headers) := by
  have hstatus : Bytes.ofString "HTTP/1.1 200 " =
      Bytes.ofString "HTTP/1.1 " ++ ofNat 200 ++ Bytes.ofString " " := by decide
  rw [IsOk, httpResponse, hstatus]
  simp only [List.append_assoc]
  exact (List.prefix_append_right_inj _).mpr ((List.prefix_append_right_inj _).mpr
    (List.prefix_append _ _))

/-- A log-in that stores a session has found who it is. -/
lemma found_of_logsIn (hst : st.Lawful env.dump) (htime : env.InTime)
    (hreq : IsLoginRequest env.toEnv req code flat password) (hstrict : env.strict = true)
    (hconnected : env.remoteDisconnected.1 = false) (hlogs : LogsIn st env req s societyId u) :
    ∃ who, (findSociety env code).run h s = (some (.ok societyId), s) ∧
      (findSubscriber env societyId flat password).run h s = (some (.ok who), s) ∧
      who.sipUsername = u := by
  obtain ⟨resp, s', d, hrun, -, hsessions, hsociety, hsip⟩ := hlogs
  have hnothing : st.sessions s' ≠ st.sessions s := by
    rw [hsessions]
    simp
  have hread := docs_of_reads hst (@reads_checkLogin env req) s (Bytes.ofString "sessions")
  rw [handleSubscriberLoginPOST, Program.run_bind] at hrun
  rcases hcheck : (checkLogin env req).run h s with ⟨_ | err | who, s₁⟩
  · rw [hcheck] at hrun
    cases hrun
  · rw [hcheck] at hrun hread
    cases hrun
    exact absurd hread hnothing
  obtain ⟨rfl, societyId', hfound, hsubscriber⟩ :=
    (checkLogin_eq_ok hst hreq hstrict hconnected).mp hcheck
  rw [hcheck] at hrun
  dsimp only at hrun
  rw [finishLogin] at hrun
  split_ifs at hrun with htoken
  · cases hrun
    exact absurd rfl hnothing
  rw [Program.run_bind] at hrun
  cases hdoc : env.dump (.object (sessionDoc env (mintBearerToken env) who)) with
  | none =>
    rw [storeSession, Env.dumped, hdoc] at hrun
    cases hrun
  | some doc =>
    obtain ⟨s₂, d', hstored, hdocs, hfield⟩ := run_storeSession hst htime hdoc _
    rw [hstored] at hrun
    dsimp only at hrun
    have hs' : s' = s₂ := by
      have hstate : ((loginResponse env (mintBearerToken env) who).run h s₂).2 = s₂ :=
        snd_of_silent (performs_ofOption_bind fun _ _ => performs_pure _) s₂
      rw [hrun] at hstate
      exact hstate
    rw [hs', hdocs, List.append_cancel_left_eq, List.singleton_inj] at hsessions
    subst hsessions
    obtain ⟨-, -, hsociety', hsip', -⟩ := @field_sessionDoc env (mintBearerToken env) who
    rw [text_eq_some, hfield _ (by decide), hsociety'] at hsociety
    rw [text_eq_some, hfield _ (by decide), hsip'] at hsip
    cases hsociety
    cases hsip
    obtain ⟨-, d, hd, hauth, hdisabled, hwho⟩ := (findSubscriber_eq_ok hst).mp hsubscriber
    rw [(identityOf_eq_some hwho).2.1]
    exact ⟨who, hfound, hsubscriber, rfl⟩

/-- One who is found is logged in, if the session and the response can be written. -/
lemma logsIn_of_found (hst : st.Lawful env.dump) (htime : env.InTime)
    (hreq : IsLoginRequest env.toEnv req code flat password) (hstrict : env.strict = true)
    (hconnected : env.remoteDisconnected.1 = false) (htoken : mintBearerToken env ≠ [])
    (hsociety : (findSociety env code).run h s = (some (.ok societyId), s))
    (hsubscriber : (findSubscriber env societyId flat password).run h s = (some (.ok who), s))
    {doc rsp : Bytes}
    (hdoc : env.dump (.object (sessionDoc env (mintBearerToken env) who)) = some doc)
    (hrsp : env.dump (.object [member "token" (mintBearerToken env),
      (Bytes.ofString "subscriber", who.subscriber)]) = some rsp) :
    LogsIn st env req s societyId who.sipUsername := by
  have hcheck := (checkLogin_eq_ok hst hreq hstrict hconnected).mpr
    ⟨rfl, societyId, hsociety, hsubscriber⟩
  obtain ⟨s', d, hstored, hdocs, hfield⟩ := run_storeSession hst htime hdoc s
  obtain ⟨-, d', -, -, -, hwho⟩ := (findSubscriber_eq_ok hst).mp hsubscriber
  obtain ⟨-, -, hsociety', hsip, -⟩ := @field_sessionDoc env (mintBearerToken env) who
  have hresponse : ∃ headers, (loginResponse env (mintBearerToken env) who).run h s' =
      (some (httpResponse 200 "OK" rsp (Bytes.ofString "application/json") headers), s') := by
    rw [loginResponse, Env.dumped, Program.run_bind, Program.run_ofOption, hrsp]
    exact ⟨_, rfl⟩
  obtain ⟨headers, hresponse⟩ := hresponse
  refine ⟨_, s', d, ?_, isOk_httpResponse rsp (Bytes.ofString "application/json") headers, hdocs,
    ?_, ?_⟩
  · rw [handleSubscriberLoginPOST, Program.run_bind, hcheck]
    dsimp only
    rw [finishLogin, if_neg htoken, Program.run_bind, hstored]
    exact hresponse
  · rw [text_eq_some, hfield _ (by decide), hsociety', (identityOf_eq_some hwho).2.1]
  · rw [text_eq_some, hfield _ (by decide), hsip]

end

/-! ### The stores -/

section

variable {σ : Type} {h : Program.Handler Answer σ}

/-- The societies of a store. -/
def DocumentStore.societies (st : DocumentStore h) (s : σ) : List Json :=
  st.docs s (Bytes.ofString "societies")

/-- A store in which documents may bring identifiers of their own, and in which strings are looked
for in lists as well. -/
structure DocumentStore.Issues (st : DocumentStore h) (dump : Json → Option Bytes) : Prop
    extends st.Lawful dump, st.Appends where
  /-- a filter of strings selects documents with these strings -/
  selects_text : ∀ {ms query}, dump (.object (strings ms)) = some query →
    (∀ m ∈ ms, IsFieldName m.1) → ∀ {d}, st.selects query d = true → ∀ m ∈ ms, HasText d m.1 m.2
  /-- a document that is stored has the fields that it was given -/
  stored : ∀ {ms doc}, dump (.object ms) = some doc → ∀ {dbName coll members s d},
    st.docs (h (.db (.createDocument dbName coll doc) members) s).2 coll = st.docs s coll ++ [d] →
      ∀ name ≠ Bytes.ofString "_id", d.field name = (Json.object ms).field name

/-- The identifier of a society, and the unique index on the user names of a society. -/
structure Indexed (st : DocumentStore h) (s : σ) : Prop where
  id : ∀ d ∈ st.societies s, ∀ d' ∈ st.societies s, ∀ id,
    d.text (Bytes.ofString "_id") = some id → d'.text (Bytes.ofString "_id") = some id → d = d'
  sipUsername : ∀ d ∈ st.subscribers s, ∀ d' ∈ st.subscribers s, ∀ societyId u,
    HasText d (Bytes.ofString "societyId") societyId →
    HasText d' (Bytes.ofString "societyId") societyId →
    HasText d (Bytes.ofString "sipUsername") u →
    HasText d' (Bytes.ofString "sipUsername") u → d = d'

variable {st : DocumentStore h} {env : Env} {s s' : σ} {req societyId realm : Bytes}
  {header : List Bytes} {d : Json}

/-! ### The society -/

/-- A society that a request has created. -/
structure CreatedSociety (st : DocumentStore h) (env : Env) (req : Bytes) (s s' : σ)
    (code : Bytes) (d : Json) : Prop where
  code : societyCode env req = some code
  run : ((handleSocietyPOST env req).run h s).2 = s'
  created : st.societies s' = st.societies s ++ [d]

/-- The society has its code, which can be written. -/
lemma CreatedSociety.text_code {toLong : Bytes → ℤ} {code : Bytes}
    (hlib : JsonLibrary env.dump toLong) (hst : st.Issues env.dump)
    (hcreated : CreatedSociety st env req s s' code d) :
    d.text (Bytes.ofString "code") = some code ∧ Utf8.Valid code := by
  obtain ⟨hcode, hrun, hdocs⟩ := hcreated
  have hnothing : s' ≠ s := by
    rintro rfl
    simp at hdocs
  obtain ⟨parsed, hparsed, hcode⟩ := Option.bind_eq_some_iff.mp hcode
  obtain ⟨body, hbody, hcode⟩ := Option.bind_eq_some_iff.mp hcode
  obtain ⟨name, hname, hcode⟩ := Option.bind_eq_some_iff.mp hcode
  obtain ⟨htext, -⟩ := text_of_requiredText hcode
  obtain ⟨ms, rfl⟩ : ∃ ms, body = .object ms := by
    cases body with
    | object ms => exact ⟨ms, rfl⟩
    | _ => cases htext
  rw [handleSocietyPOST, Program.run_bind, Program.run_ofOption, hparsed] at hrun
  dsimp only at hrun
  rw [hbody] at hrun
  dsimp only at hrun
  rw [hname, hcode] at hrun
  dsimp only at hrun
  rw [Program.run_bind, getDocument_state hst.toAppends] at hrun
  cases hexisting : ((getDocument "societies"
      (.concat [(Bytes.ofString "code", code)])).run h s).1 with
  | none =>
    rw [hexisting] at hrun
    exact absurd hrun.symm hnothing
  | some existing =>
    rw [hexisting] at hrun
    dsimp only at hrun
    split_ifs at hrun with hnone
    · exact absurd hrun.symm hnothing
    rw [Env.dumped, Program.run_bind, Program.run_ofOption] at hrun
    split at hrun
    · exact absurd hrun.symm hnothing
    · rename_i text hdump
      have hstate : ((createDocument env.database "societies" text).run h s).2 = s' := by
        rw [← hrun, Program.run_bind]
        cases ((createDocument env.database "societies" text).run h s).1 <;> rfl
      subst hstate
      rw [DocumentStore.societies, createDocument, run_textOf_state] at hdocs
      have hfield : ∀ v, (Json.object ms).field (Bytes.ofString "code") = some v →
          (((((Json.object ms).insert (Bytes.ofString "sipRealm")
            (string (code ++ Bytes.ofString ".pbx.local"))).insert
              (Bytes.ofString "turnSharedSecret") (string (env.randomAlnum 0 32))).insert
                (Bytes.ofString "maxConcurrentCalls") (number (ofNat 5))).insert
                  (Bytes.ofString "ringTimeoutSec") (number (ofNat 30))).field
                    (Bytes.ofString "code") = some v := by
        intro v hv
        rw [field_insert_of_ne (by decide), field_insert_of_ne (by decide),
          field_insert_of_ne (by decide), field_insert_of_ne (by decide), hv]
      have hcode' := hfield _ (text_eq_some.mp htext)
      refine ⟨?_, ?_⟩
      · rw [text_eq_some, hst.stored hdump hdocs _ (by decide)]
        exact hcode'
      · have hwritable := (hlib.dump_isSome _).mp (Option.isSome_of_eq_some hdump)
        exact of_decide_eq_true (writable_of_field hwritable hcode')

/-! ### The import -/

/-- The subscriber of a row of an import, with the fields of its line. -/
def IsSubscriber (env : Env) (societyId realm : Bytes) (fields : List Bytes) (d : Json) : Prop :=
  ∃ r row header flatId text, fields = createdFields header row (userOf env r)
      (sipPasswordOf env r) (portalPasswordOf env r) ∧
    env.dump (.object (subscriberMembers env societyId realm flatId header row r)) = some text ∧
    ∀ name ≠ Bytes.ofString "_id", d.field name =
      (Json.object (subscriberMembers env societyId realm flatId header row r)).field name

lemma scalars_subscriberMembers (flatId : Bytes) (row : List Bytes) (r : ℕ) :
    ∀ m ∈ subscriberMembers env societyId realm flatId header row r,
      m.1 ≠ Bytes.ofString "_id" ∧ IsFieldName m.1 ∧ IsScalar m.2 := by
  have hnames : ∀ name ∈ ["societyId", "flatId", "flatNumber", "name", "email", "phone", "role",
      "status", "autoAnswer", "sipUsername", "sipHa1", "portalPasswordHash"].map Bytes.ofString,
      name ≠ Bytes.ofString "_id" ∧ IsFieldName name := by
    decide
  have hvalues : ∀ m ∈ subscriberMembers env societyId realm flatId header row r,
      IsScalar m.2 := by
    simp [subscriberMembers, subscriberOf, member, IsScalar]
  intro m hm
  obtain ⟨hid, hname⟩ := hnames m.1 (List.mem_map_of_mem (f := Prod.fst) hm)
  exact ⟨hid, hname, hvalues m hm⟩

/-- The rest of an import adds lines, and each line of one that was created is that of a
subscriber. -/
lemma created_importRows {c : MongodbClient.Passwords} (hst : st.Issues env.dump)
    (henv : env.Draws c) {r created skipped : ℕ} {rows : List (List Bytes)} {outCsv resp : Bytes}
    (hok : IsOk resp)
    (hrun : (importRows env societyId realm header r rows outCsv created skipped).run h s =
      (some resp, s')) :
    (st.societies s' = st.societies s ∧ st.subscribers s <+: st.subscribers s') ∧
      ∃ lines : List (List Bytes), (∃ created' skipped', resp = importResponse
        (outCsv ++ (lines.map lineText).flatten) created' skipped') ∧
      (∀ l ∈ lines, l ≠ []) ∧ ∀ l ∈ lines, isCreated l = true →
        ∃ d ∈ st.subscribers s', IsSubscriber env societyId realm l d := by
  induction rows generalizing r created skipped outCsv s with
  | nil =>
    cases hrun
    exact ⟨⟨rfl, List.prefix_rfl⟩, [], ⟨created, skipped, by simp⟩, by simp, by simp⟩
  | cons row rows ih =>
    cases hrun ▸ rowStep hst.toAppends r row rows outCsv created skipped s with
    | refused resp' _ hresp heq =>
      cases heq
      exact absurd hok hresp
    | skipped text _ _ _ heq =>
      obtain ⟨hkept, lines, ⟨created', skipped', hresp⟩, hne, hcreated⟩ := ih heq.symm
      refine ⟨hkept, skippedFields header row :: lines, ⟨created', skipped', ?_⟩, ?_, ?_⟩
      · rw [hresp, skippedLine_eq, List.map_cons, List.flatten_cons, List.append_assoc]
      · exact List.forall_mem_cons.mpr ⟨List.cons_ne_nil _ _, hne⟩
      · refine List.forall_mem_cons.mpr ⟨fun hl => ?_, hcreated⟩
        rw [isCreated_skippedFields] at hl
        cases hl
    | created flatId line s₁ _ _ hcreate heq =>
      obtain ⟨⟨hsocieties, hprefix⟩, lines, ⟨created', skipped', hresp⟩, hne, hcreated⟩ :=
        ih heq.symm
      obtain ⟨text, htext, rfl, rfl, -⟩ := run_createSubscriber st hcreate
      obtain ⟨oid, d, -, hd, -, hfield⟩ := hst.createDocument htext
        (scalars_subscriberMembers flatId row r) env.database (Bytes.ofString "subscribers") [] s
      have hd' : st.subscribers (h (creation env text) s).2 = st.subscribers s ++ [d] := hd
      rw [hd'] at hprefix
      have hframe := hst.frame (creation env text) s (Bytes.ofString "societies")
        (by simp only [creation, Op.target]; decide)
      refine ⟨⟨hsocieties.trans hframe, (List.prefix_append _ _).trans hprefix⟩,
        createdFields header row (userOf env r) (sipPasswordOf env r) (portalPasswordOf env r) ::
          lines, ⟨created', skipped', ?_⟩, ?_, ?_⟩
      · rw [hresp, createdLine_eq henv, List.map_cons, List.flatten_cons, List.append_assoc]
      · exact List.forall_mem_cons.mpr ⟨List.cons_ne_nil _ _, hne⟩
      · refine List.forall_mem_cons.mpr ⟨fun _ => ⟨d, hprefix.subset (by simp), ?_⟩, hcreated⟩
        exact ⟨r, row, header, flatId, text, rfl, htext, hfield⟩
    | thrown s₁ heq => cases heq

/-! ### Lines of a report -/

/-- A line of the report of an import that tells of a subscriber that was created. -/
structure IssuedLine (st : DocumentStore h) (env : Env) (req : Bytes) (s s' : σ)
    (fields : List Bytes) : Prop where
  created : isCreated fields = true
  reported : ∃ resp table, (handleSubscriberImportPOST env req).run h s = (some resp, s') ∧
    IsOk resp ∧ Csv.read (bodyOf resp) = some table ∧ fields ∈ table.tail

lemma IssuedLine.subscriber {c : MongodbClient.Passwords} {fields : List Bytes}
    (hst : st.Issues env.dump) (henv : env.Draws c) (hline : IssuedLine st env req s s' fields) :
    societyIdOf req ≠ [] ∧ st.societies s' = st.societies s ∧
      ∃ d ∈ st.subscribers s', ∃ realm, IsSubscriber env (societyIdOf req) realm fields d := by
  obtain ⟨hcreated, resp, table, hrun, hok, hread, hmem⟩ := hline
  rcases handleSubscriberImportPOST_inv hst.toAppends hrun with
    ⟨-, hfails, -⟩ | ⟨societyId, realm, header, rows, himport, hloop⟩
  · exact absurd hok hfails
  obtain ⟨rfl, hne'⟩ := himport.society
  obtain ⟨⟨hsocieties, -⟩, lines, ⟨created, skipped, hresp⟩, hne, hall⟩ :=
    created_importRows hst henv hok hloop
  rw [hresp, bodyOf_importResponse, read_table hne] at hread
  cases hread
  obtain ⟨d, hd, hsubscriber⟩ := hall fields hmem hcreated
  exact ⟨hne', hsocieties, d, hd, realm, hsubscriber⟩

/-- The subscriber of a society with this user name. -/
structure HasUser (societyId u : Bytes) (d : Json) : Prop where
  society : d.text (Bytes.ofString "societyId") = some societyId
  sipUsername : d.text (Bytes.ofString "sipUsername") = some u

/-- Who the subscriber of a row is. -/
def rowIdentity (env : Env) (societyId : Bytes) (header row : List Bytes) (r : ℕ) : Identity where
  subscriber := .object
    [member "societyId" societyId, member "flatNumber" (column header row "flat_number"),
      member "displayName" (column header row "name"), member "sipUser" (userOf env r),
      member "role" (roleOf header row), (Bytes.ofString "autoAnswer", .bool false)]
  email := column header row "email"
  societyId := societyId
  sipUsername := userOf env r
  role := roleOf header row

/-- The subscriber passes the checks of a log-in, and the session can be written. -/
structure Passes (c : MongodbClient.Passwords) (societyId flat u password : Bytes) (d : Json)
    (who : Identity) : Prop where
  user : HasUser societyId u d
  flatNumber : d.text (Bytes.ofString "flatNumber") = some flat
  valid : Utf8.Valid societyId ∧ Utf8.Valid flat
  hash : ∃ hash, d.text (Bytes.ofString "portalPasswordHash") = some hash ∧
    c.verifyPassword password hash = some true
  active : isDisabled d = false
  identity : identityOf societyId d = some who
  sipUsername : who.sipUsername = u ∧ u ≠ []
  session : ∀ (env : SessionEnv) (token : Bytes), Utf8.Valid token →
    (Json.object (sessionDoc env token who)).writable = true ∧
      (Json.object [member "token" token, (Bytes.ofString "subscriber",
        who.subscriber)]).writable = true

lemma writable_session {flatId : Bytes} {row : List Bytes} {r : ℕ}
    (hwritable : (Json.object (subscriberMembers env societyId realm flatId header row
      r)).writable = true) (senv : SessionEnv) {token : Bytes} (htoken : Utf8.Valid token) :
    (Json.object (sessionDoc senv token (rowIdentity env societyId header row r))).writable =
        true ∧
      (Json.object [member "token" token, (Bytes.ofString "subscriber",
        (rowIdentity env societyId header row r).subscriber)]).writable = true := by
  have hnames : ∀ name ∈ ["token", "email", "societyId", "sipUsername", "role", "createdAt",
      "expiresAt", "subscriber", "flatNumber", "displayName", "sipUser", "autoAnswer"],
      Utf8.Valid (Bytes.ofString name) := by
    decide
  simp only [List.forall_mem_cons] at hnames
  simp only [subscriberMembers, subscriberOf, member, writable, writableMembers, Bool.and_eq_true,
    decide_eq_true_eq] at hwritable
  simp [sessionDoc, rowIdentity, member, writable, writableMembers, hnames, hwritable, htoken,
    Decimal.isNumber_ofInt]

lemma IsSubscriber.passes {c : MongodbClient.Passwords} {toLong : Bytes → ℤ}
    (hlib : JsonLibrary env.dump toLong) (henv : env.Draws c) (hc : c.Lawful)
    {flat name email u p q status : Bytes}
    (hd : IsSubscriber env societyId realm [flat, name, email, u, p, q, status] d) :
    ∃ who, Passes c societyId flat u q d who := by
  obtain ⟨r, row, header, flatId, text, hfields, htext, hfield⟩ := hd
  cases hfields
  have hstring : ∀ key value, (Json.object (subscriberMembers env societyId realm flatId header row
      r)).field (Bytes.ofString key) = some (.string value) →
      Bytes.ofString key ≠ Bytes.ofString "_id" → d.text (Bytes.ofString key) = some value := by
    intro key value hvalue hkey
    rw [text_eq_some, hfield _ hkey, hvalue]
  have hsip := hstring "sipUsername" _ rfl (by decide)
  have hrole := hstring "role" _ rfl (by decide)
  have hemail := hstring "email" _ rfl (by decide)
  have hflat := hstring "flatNumber" _ rfl (by decide)
  have hname := hstring "name" _ rfl (by decide)
  have hobject : d.isObject = true := by
    cases d with
    | object ms => rfl
    | _ => cases text_eq_some.mp hsip
  have hauto : boolOr d "autoAnswer" false = some false := by
    rw [boolOr, if_pos hobject, hfield _ (by decide)]
    rfl
  obtain ⟨salt, hsalt, hhash⟩ := henv.hashPassword r (portalPasswordOf env r)
  have hwritable := (hlib.dump_isSome _).mp (Option.isSome_of_eq_some htext)
  have hvalid := hwritable
  simp only [subscriberMembers, subscriberOf, member, writable, writableMembers, Bool.and_eq_true,
    decide_eq_true_eq] at hvalid
  refine ⟨rowIdentity env societyId header row r, ⟨hstring "societyId" _ rfl (by decide), hsip⟩,
    hflat, ⟨hvalid.1.2, hvalid.2.2.1.2⟩,
    ⟨_, hstring "portalPasswordHash" _ rfl (by decide), ?_⟩, ?_, ?_, ⟨rfl, ?_⟩,
    fun senv token htoken => writable_session hwritable senv htoken⟩
  · rw [hhash, MongodbClient.Passwords.verifyPassword_hashPassword hc hsalt, decide_eq_true rfl]
  · rw [isDisabled, hstring "status" _ rfl (by decide)]
    rfl
  · rw [identityOf, valueOr_of_text [] hsip, valueOr_of_text _ hrole, valueOr_of_text [] hemail,
      valueOr_of_text [] hflat, valueOr_of_text [] hname, hauto]
    rfl
  · rw [userOf]
    exact List.append_ne_nil_of_left_ne_nil (by decide) _

/-! ### The log-in with what was issued -/

/-- Of the documents that a query for these strings selects there is none before this one. -/
def IsFirst (st : DocumentStore h) (dump : Json → Option Bytes) (ms : List (Bytes × Bytes))
    (docs : List Json) (d : Json) : Prop :=
  ∃ before after, docs = before ++ d :: after ∧
    ∀ query, dump (.object (strings ms)) = some query → ∀ d' ∈ before, ¬ st.selects query d' = true

lemma isFirst_iff {dump : Json → Option Bytes} {ms : List (Bytes × Bytes)} {docs : List Json}
    {query : Bytes} (hquery : dump (.object (strings ms)) = some query)
    (hselects : st.selects query d = true) :
    IsFirst st dump ms docs d ↔ docs.find? (st.selects query) = some d := by
  rw [List.find?_eq_some_iff_append, and_iff_right hselects]
  refine exists_congr fun before => exists_congr fun after => and_congr_right fun _ => ?_
  rw [hquery]
  simp only [Option.some.injEq, forall_eq', Bool.not_eq_eq_eq_not, Bool.not_true,
    Bool.not_eq_true]

/-- The society is the first with its code, and the subscriber with the user name is the first of
the flat. -/
structure FirstOfFlat (st : DocumentStore h) (dump : Json → Option Bytes) (s : σ) (d : Json)
    (code societyId flat u : Bytes) : Prop where
  society : IsFirst st dump [(Bytes.ofString "code", code)] (st.societies s) d
  subscriber : ∃ d', HasUser societyId u d' ∧ IsFirst st dump
    [(Bytes.ofString "societyId", societyId), (Bytes.ofString "flatNumber", flat)]
    (st.subscribers s) d'

lemma selects_of_strings {dump : Json → Option Bytes} (hst : st.Lawful dump)
    {ms : List (Bytes × Bytes)} {query : Bytes} (hquery : dump (.object (strings ms)) = some query)
    (hnames : ∀ m ∈ ms, IsFieldName m.1) (hd : ∀ m ∈ ms, d.text m.1 = some m.2) :
    st.selects query d = true := by
  refine (hst.selects_iff hquery hnames d fun m hm es harray => ?_).mpr fun m hm =>
    text_eq_some.mp (hd m hm)
  rw [text_eq_some.mp (hd m hm)] at harray
  cases harray

lemma societyOf_eq_some {dump : Json → Option Bytes} {toLong : Bytes → ℤ} {code : Bytes}
    (hlib : JsonLibrary dump toLong) (hst : st.Lawful dump)
    (hcode : d.text (Bytes.ofString "code") = some code) (hvalid : Utf8.Valid code) :
    st.societyOf dump s code = some d ↔
      IsFirst st dump [(Bytes.ofString "code", code)] (st.societies s) d := by
  have hname : Utf8.Valid (Bytes.ofString "code") ∧ IsFieldName (Bytes.ofString "code") := by
    decide
  obtain ⟨query, hquery⟩ := Option.isSome_iff_exists.mp ((hlib.dump_isSome
    (.object (strings [(Bytes.ofString "code", code)]))).mpr
      (by simp [strings, writable, writableMembers, hname.1, hvalid]))
  rw [isFirst_iff hquery (selects_of_strings hst hquery (List.forall_mem_singleton.mpr hname.2)
    (List.forall_mem_singleton.mpr hcode)), DocumentStore.societyOf, hquery, Option.bind_some]
  rfl

lemma isFieldName_flat {societyId flat : Bytes} : ∀ m ∈ [(Bytes.ofString "societyId", societyId),
    (Bytes.ofString "flatNumber", flat)], IsFieldName m.1 := by
  intro m hm
  rcases List.mem_pair.mp hm with rfl | rfl
  · exact (by decide : IsFieldName (Bytes.ofString "societyId"))
  · exact (by decide : IsFieldName (Bytes.ofString "flatNumber"))

lemma subscriberOfFlat_eq_some {dump : Json → Option Bytes} {toLong : Bytes → ℤ} {flat : Bytes}
    (hlib : JsonLibrary dump toLong) (hst : st.Lawful dump)
    (hsociety : d.text (Bytes.ofString "societyId") = some societyId)
    (hflat : d.text (Bytes.ofString "flatNumber") = some flat)
    (hvalid : Utf8.Valid societyId ∧ Utf8.Valid flat) :
    st.subscriberOfFlat dump s societyId flat = some d ↔
      IsFirst st dump [(Bytes.ofString "societyId", societyId),
        (Bytes.ofString "flatNumber", flat)] (st.subscribers s) d := by
  have hname : Utf8.Valid (Bytes.ofString "societyId") ∧
      Utf8.Valid (Bytes.ofString "flatNumber") := by
    decide
  obtain ⟨query, hquery⟩ := Option.isSome_iff_exists.mp ((hlib.dump_isSome
    (.object (strings [(Bytes.ofString "societyId", societyId),
      (Bytes.ofString "flatNumber", flat)]))).mpr
        (by simp [strings, writable, writableMembers, hname, hvalid]))
  have hselects : st.selects query d = true := by
    refine selects_of_strings hst hquery isFieldName_flat fun m hm => ?_
    rcases List.mem_pair.mp hm with rfl | rfl
    · exact hsociety
    · exact hflat
  rw [isFirst_iff hquery hselects, DocumentStore.subscriberOfFlat, hquery, Option.bind_some]
  rfl

/-- The mode is strict, the database is there, and there are random bytes. -/
structure SessionEnv.IsStrict (env : SessionEnv) (c : MongodbClient.Passwords) : Prop where
  strict : env.strict = true
  connected : env.remoteDisconnected.1 = false
  token : mintBearerToken env ≠ []
  inTime : env.InTime
  verify : ∀ password hash, c.verifyPassword password hash = some true →
    env.verifyPassword password hash = true

lemma mem_of_subscriberOfFlat {dump : Json → Option Bytes} {flat : Bytes}
    (hst : st.Issues dump) (hd : st.subscriberOfFlat dump s societyId flat = some d) :
    d ∈ st.subscribers s ∧ HasText d (Bytes.ofString "societyId") societyId := by
  obtain ⟨query, hquery, hfound⟩ := Option.bind_eq_some_iff.mp hd
  exact ⟨List.mem_of_find?_eq_some hfound,
    hst.selects_text hquery isFieldName_flat (List.find?_some hfound) _ List.mem_cons_self⟩

end

/-- The credentials of a line work if and only if the society is the first with its code and the
subscriber the first of the flat. -/
theorem issued_credentials_iff {σ : Type} {h : Program.Handler Answer σ} {st : DocumentStore h}
    {c : MongodbClient.Passwords} {env : SessionEnv} {societyEnv importEnv : Env}
    (hlib : JsonLibrary env.dump env.toLong) (hst : st.Issues env.dump) (hc : c.Lawful)
    (hstrict : env.IsStrict c) (hdump : societyEnv.dump = env.dump ∧ importEnv.dump = env.dump)
    (hdraws : importEnv.Draws c) {societyReq importReq req : Bytes} {s₀ s₁ s₂ s₃ s : σ}
    {code : Bytes} {d : Json} (hcreated : CreatedSociety st societyEnv societyReq s₀ s₁ code d)
    (hid : d.text (Bytes.ofString "_id") = some (societyIdOf importReq))
    {flat name email u p q : Bytes}
    (hline : IssuedLine st importEnv importReq s₂ s₃
      [flat, name, email, u, p, q, Bytes.ofString "created"])
    (hsocieties : st.societies s₁ <+: st.societies s)
    (hsubscribers : st.subscribers s₃ <+: st.subscribers s) (hindexed : Indexed st s)
    (hreq : IsLoginRequest env.toEnv req code flat q) :
    LogsIn st env req s (societyIdOf importReq) u ↔
      FirstOfFlat st env.dump s d code (societyIdOf importReq) flat u := by
  obtain ⟨hdumpSociety, hdumpImport⟩ := hdump
  obtain ⟨hcode, hvalid⟩ := hcreated.text_code (hdumpSociety ▸ hlib) (hdumpSociety ▸ hst)
  have hd : d ∈ st.societies s := hsocieties.subset (by rw [hcreated.created]; simp)
  obtain ⟨hne, -, row, hrow, realm, hsubscriber⟩ :=
    IssuedLine.subscriber (hdumpImport ▸ hst) hdraws hline
  obtain ⟨who, hpasses⟩ := hsubscriber.passes (hdumpImport ▸ hlib) hdraws hc
  have hrow' := hsubscribers.subset hrow
  have hfirst := @societyOf_eq_some _ _ _ s _ _ _ _ hlib hst.toLawful hcode hvalid
  have hfirst' := @subscriberOfFlat_eq_some _ _ _ s _ _ _ _ _ hlib hst.toLawful
    hpasses.user.society hpasses.flatNumber hpasses.valid
  constructor
  · intro hlogs
    obtain ⟨who', hsociety, hfound, huser⟩ := found_of_logsIn hst.toLawful hstrict.inTime hreq
      hstrict.strict hstrict.connected hlogs
    obtain ⟨-, -, d', hd', hid'⟩ := (findSociety_eq_ok hst.toLawful).mp hsociety
    obtain ⟨-, sub, hsub, -, -, hidentity⟩ := (findSubscriber_eq_ok hst.toLawful).mp hfound
    have hmem : d' ∈ st.societies s := by
      obtain ⟨query, -, hquery⟩ := Option.bind_eq_some_iff.mp hd'
      exact List.mem_of_find?_eq_some hquery
    obtain rfl := hindexed.id d' hmem d hd _ hid' hid
    have hvalue := (identityOf_eq_some hidentity).1
    rw [huser] at hvalue
    have hsip := (valueOr_eq_some hpasses.sipUsername.2).mp hvalue
    obtain ⟨hmem', htext⟩ := mem_of_subscriberOfFlat hst hsub
    obtain rfl := hindexed.sipUsername sub hmem' row hrow' _ u htext
      (.inl (text_eq_some.mp hpasses.user.society)) (.inl (text_eq_some.mp hsip))
      (.inl (text_eq_some.mp hpasses.user.sipUsername))
    exact ⟨hfirst.mp hd', sub, hpasses.user, hfirst'.mp hsub⟩
  · rintro ⟨hsociety, sub, huser, hsub⟩
    have hmem : sub ∈ st.subscribers s := by
      obtain ⟨before, after, hdocs, -⟩ := hsub
      rw [hdocs]
      simp
    -- the index makes it the subscriber of the line
    obtain rfl := hindexed.sipUsername sub hmem row hrow' _ u
      (.inl (text_eq_some.mp huser.society)) (.inl (text_eq_some.mp hpasses.user.society))
      (.inl (text_eq_some.mp huser.sipUsername))
      (.inl (text_eq_some.mp hpasses.user.sipUsername))
    obtain ⟨hash, hhash, hverify⟩ := hpasses.hash
    have hauth : authenticates env q sub = true := by
      rw [authenticates, hhash]
      exact hstrict.verify _ _ hverify
    obtain ⟨hdoc, hrsp⟩ := hpasses.session env _ (valid_mintBearerToken env)
    obtain ⟨doc, hdoc⟩ := Option.isSome_iff_exists.mp ((hlib.dump_isSome _).mpr hdoc)
    obtain ⟨rsp, hrsp⟩ := Option.isSome_iff_exists.mp ((hlib.dump_isSome _).mpr hrsp)
    rw [← hpasses.sipUsername.1]
    exact logsIn_of_found hst.toLawful hstrict.inTime hreq hstrict.strict hstrict.connected
      hstrict.token
      ((findSociety_eq_ok hst.toLawful).mpr ⟨rfl, hne, d, hfirst.mpr hsociety, hid⟩)
      ((findSubscriber_eq_ok hst.toLawful).mpr
        ⟨rfl, sub, hfirst'.mpr hsub, hauth, hpasses.active, hpasses.identity⟩) hdoc hrsp

/-! ### The second subscriber of a flat -/

/-- The document brings an identifier of its own. -/
def hasOwnId (doc : Bytes) : Bool :=
  (parse doc).any fun j => (j.field (Bytes.ofString "_id")).isSome

/-- A store that answers with the ObjectId of the document that it has created, and has no answer
where there is none. -/
def oidHandler : Program.Handler Answer JsonStore
  | .db (.createDocument dbName coll doc) members, s =>
    (if hasOwnId doc then none
      else (JsonStore.handler (.db (.createDocument dbName coll doc) members) s).1,
      (JsonStore.handler (.db (.createDocument dbName coll doc) members) s).2)
  | o, s => JsonStore.handler o s

def oidStore : DocumentStore oidHandler where
  docs := JsonStore.docs
  selects := JsonStore.selects
  text := Json.dump

lemma oidHandler_snd (o : Op) (s : JsonStore) : (oidHandler o s).2 = (JsonStore.handler o s).2 := by
  cases o with
  | db c members => cases c <;> rfl
  | post | revoke => rfl

lemma oidStore_issues : oidStore.Issues dumped where
  frame o s coll ho := by
    rw [oidHandler_snd]
    exact JsonStore.lawful.frame o s coll ho
  getDocument hquery := JsonStore.lawful.getDocument hquery
  parse_text := JsonStore.lawful.parse_text
  selects_iff := JsonStore.lawful.selects_iff
  createDocument {ms doc} hdoc hms dbName coll members s := by
    have hnone : hasOwnId doc = false := by
      rw [hasOwnId, parse_dumped hdoc, Option.any_some,
        JsonStore.field_eq_none fun m hm => (hms m hm).1]
      rfl
    obtain ⟨oid, d, hanswer, hdocs⟩ :=
      JsonStore.lawful.createDocument hdoc hms dbName coll members s
    refine ⟨oid, d, ?_, hdocs⟩
    rw [oidHandler, hnone]
    exact hanswer
  updateCollection hquery hupdate hsets coll members s :=
    JsonStore.lawful.updateCollection hquery hupdate hsets coll members s
  deleteDocument hquery coll members s := JsonStore.lawful.deleteDocument hquery coll members s
  query := JsonStore.appends.query
  create dbName coll doc members s := JsonStore.appends.create dbName coll doc members s
  others dbName coll doc members s := JsonStore.appends.others dbName coll doc members s
  selects_text hquery _ _ hselects m hm :=
    .inl ((JsonStore.selects_strings hquery _).mp hselects m hm)
  stored hdoc _ _ _ _ _ hd _ hname := JsonStore.keeps.stored hdoc hd _ hname

/-- User names that are strings and differ from each other are as the index has them. -/
lemma eq_of_nodup_user {ds : List Json} (hnodup : (ds.map (·.text (Bytes.ofString
      "sipUsername"))).Nodup)
    (hsome : ∀ d ∈ ds, (d.text (Bytes.ofString "sipUsername")).isSome) {d d' : Json} (hd : d ∈ ds)
    (hd' : d' ∈ ds) {u : Bytes} (hu : HasText d (Bytes.ofString "sipUsername") u)
    (hu' : HasText d' (Bytes.ofString "sipUsername") u) : d = d' := by
  have htext : ∀ d ∈ ds, HasText d (Bytes.ofString "sipUsername") u →
      d.text (Bytes.ofString "sipUsername") = some u := by
    rintro d hd (hfield | ⟨es, hfield, -⟩)
    · exact text_eq_some.mpr hfield
    · have hisSome := hsome d hd
      rw [Json.text, hfield] at hisSome
      cases hisSome
  exact List.inj_on_of_nodup_map hnodup hd hd' ((htext d hd hu).trans (htext d' hd' hu').symm)

def flatEnv : SessionEnv where
  toEnv := { reportEnv with toLong := Decimal.toInt }
  strict := true
  randBytes := some [0xA5]
  verifyPassword := fun password hash => plainPasswords.verifyPassword password hash = some true
  nowMs := 0

lemma flatEnv_isStrict : flatEnv.IsStrict plainPasswords where
  strict := rfl
  connected := rfl
  token := by decide
  inTime := ⟨⟨by decide, by decide⟩, by decide, by decide⟩
  verify _ _ h := decide_eq_true h

lemma flatEnv_draws : flatEnv.toEnv.Draws plainPasswords where
  randomAlnum := reportEnv_draws.randomAlnum
  hashPassword := reportEnv_draws.hashPassword

/-- A society that brings its identifier. -/
def societyRequest : Bytes :=
  Bytes.ofString ("POST /api/v1/society HTTP/1.1\r\nContent-Length: 38\r\n\r\n" ++
    "\x7b\"_id\":\"s1\",\"name\":\"G\",\"code\":\"GRN\"\x7d")

/-- Two guards with one flat. -/
def flatRequest : Bytes :=
  Bytes.ofString ("POST /api/v1/subscribers/import?societyId=s1 HTTP/1.1\r\n" ++
    "Content-Length: 56\r\n\r\n" ++
    "flat_number,name,email,role\n1,A,a@x,guard\n1,B,b@x,guard\n")

/-- The log-in with the password of the row with this number. -/
def flatLogin (r : ℕ) : Bytes :=
  Bytes.ofString ("POST /api/v1/subscriber/login HTTP/1.1\r\nContent-Length: 74\r\n\r\n" ++
    "\x7b\"societyCode\":\"GRN\",\"flatNumber\":\"1\",\"password\":\"") ++
    portalPasswordOf flatEnv.toEnv r ++ Bytes.ofString "\"\x7d"

def societyState : JsonStore :=
  ((handleSocietyPOST flatEnv.toEnv societyRequest).run oidHandler {}).2

def flatRun : Option Bytes × JsonStore :=
  (handleSubscriberImportPOST flatEnv.toEnv flatRequest).run oidHandler societyState

def flatLine (name email : String) (r : ℕ) : List Bytes :=
  [Bytes.ofString "1", Bytes.ofString name, Bytes.ofString email, userOf flatEnv.toEnv r,
    sipPasswordOf flatEnv.toEnv r, portalPasswordOf flatEnv.toEnv r, Bytes.ofString "created"]

/-- The society of the request, as it is stored. -/
def greenSociety : Json := (oidStore.societies societyState).headD .null

/-- What the runs give: one society, and two subscribers with credentials. -/
lemma flatRun_spec :
    (societyCode flatEnv.toEnv societyRequest = some (Bytes.ofString "GRN") ∧
      (oidStore.societies societyState).length = 1 ∧
      greenSociety.text (Bytes.ofString "_id") = some (societyIdOf flatRequest)) ∧
    ((oidStore.societies flatRun.2).length = 1 ∧
      ((oidStore.subscribers flatRun.2).map (·.text (Bytes.ofString "sipUsername"))).Nodup ∧
      ∀ d ∈ oidStore.subscribers flatRun.2, (d.text (Bytes.ofString "sipUsername")).isSome) ∧
    (flatRun.1.any fun resp => decide (IsOk resp) &&
      (Csv.read (bodyOf resp)).any fun table =>
        [flatLine "A" "a@x" 1, flatLine "B" "b@x" 2].all fun line =>
          isCreated line && table.tail.contains line) = true ∧
    (oidStore.sessions ((handleSubscriberLoginPOST flatEnv (flatLogin 2)).run oidHandler
      flatRun.2).2).length = 0 := by
  decide +kernel

lemma greenSociety_created :
    CreatedSociety oidStore flatEnv.toEnv societyRequest {} societyState (Bytes.ofString "GRN")
      greenSociety ∧
    greenSociety.text (Bytes.ofString "_id") = some (societyIdOf flatRequest) := by
  obtain ⟨⟨hcode, hlen, hid⟩, -⟩ := flatRun_spec
  obtain ⟨d, hd⟩ := List.length_eq_one_iff.mp hlen
  refine ⟨⟨hcode, rfl, ?_⟩, hid⟩
  rw [greenSociety, hd]
  rfl

lemma flatRun_issues : ∀ line ∈ [flatLine "A" "a@x" 1, flatLine "B" "b@x" 2],
    IssuedLine oidStore flatEnv.toEnv flatRequest societyState flatRun.2 line := by
  obtain ⟨-, -, hrun, -⟩ := flatRun_spec
  intro line hline
  obtain ⟨resp, hresp, hany⟩ := (Option.any_eq_true _ _).mp hrun
  rw [Bool.and_eq_true] at hany
  obtain ⟨table, htable, hall⟩ := (Option.any_eq_true _ _).mp hany.2
  have hboth := List.all_eq_true.mp hall line hline
  rw [Bool.and_eq_true, List.contains_iff_mem] at hboth
  have heq := @Prod.mk.eta _ _ flatRun
  rw [hresp] at heq
  exact ⟨hboth.1, resp, table, heq.symm, of_decide_eq_true hany.1, htable, hboth.2⟩

lemma flatRun_indexed : Indexed oidStore flatRun.2 := by
  obtain ⟨-, ⟨hlen, hnodup, hsome⟩, -⟩ := flatRun_spec
  refine ⟨fun d hd d' hd' _ _ _ => ?_, fun d hd d' hd' _ u _ _ hu hu' =>
    eq_of_nodup_user hnodup hsome hd hd' hu hu'⟩
  obtain ⟨d'', hd''⟩ := List.length_eq_one_iff.mp hlen
  rw [hd'', List.mem_singleton] at hd hd'
  rw [hd, hd']

lemma isLoginRequest_flatLogin : ∀ r ∈ [1, 2], IsLoginRequest flatEnv.toEnv (flatLogin r)
    (Bytes.ofString "GRN") (Bytes.ofString "1") (portalPasswordOf flatEnv.toEnv r) := by
  have hall : ∀ r ∈ [1, 2], ((Http.ofBytes flatEnv.decompress (flatLogin r)).any fun parsed =>
      (Json.parse parsed.body).any fun body =>
        requiredText body "societyCode" = some (Bytes.ofString "GRN") &&
          (requiredText body "flatNumber" = some (Bytes.ofString "1") &&
            requiredText body "password" = some (portalPasswordOf flatEnv.toEnv r))) = true := by
    decide +kernel
  intro r hr
  have hany := hall r hr
  rw [IsLoginRequest]
  generalize Http.ofBytes flatEnv.decompress (flatLogin r) = read at hany ⊢
  obtain ⟨parsed, hparsed, hany⟩ := (Option.any_eq_true _ _).mp hany
  obtain ⟨body, hbody, htexts⟩ := (Option.any_eq_true _ _).mp hany
  simp only [Bool.and_eq_true, decide_eq_true_eq] at htexts
  exact ⟨parsed, body, hparsed, hbody, htexts⟩

theorem issued_credentials_iff_first :
    LogsIn oidStore flatEnv (flatLogin 1) flatRun.2 (societyIdOf flatRequest)
        (userOf flatEnv.toEnv 1) ↔
      FirstOfFlat oidStore flatEnv.dump flatRun.2 greenSociety (Bytes.ofString "GRN")
        (societyIdOf flatRequest) (Bytes.ofString "1") (userOf flatEnv.toEnv 1) := by
  obtain ⟨hcreated, hid⟩ := greenSociety_created
  have hline := flatRun_issues (flatLine "A" "a@x" 1) (by simp)
  obtain ⟨-, hsocieties, -⟩ := IssuedLine.subscriber oidStore_issues flatEnv_draws hline
  have hkept : oidStore.societies societyState <+: oidStore.societies flatRun.2 := by
    rw [hsocieties]
  have hreq := isLoginRequest_flatLogin 1 (by simp)
  exact issued_credentials_iff JsonStore.library oidStore_issues plainPasswords_lawful
    flatEnv_isStrict ⟨rfl, rfl⟩ flatEnv_draws hcreated hid hline hkept List.prefix_rfl
    flatRun_indexed hreq

/-- The second subscriber of a flat is refused. -/
theorem second_of_flat_refused :
    ¬ ∀ (h : Program.Handler Answer JsonStore) (st : DocumentStore h), st.Issues flatEnv.dump →
      ∀ (s s₁ s₂ : JsonStore) (d : Json) (societyReq importReq req : Bytes)
        (code flat name email u p q : Bytes),
        CreatedSociety st flatEnv.toEnv societyReq s s₁ code d →
        d.text (Bytes.ofString "_id") = some (societyIdOf importReq) →
        IssuedLine st flatEnv.toEnv importReq s₁ s₂
          [flat, name, email, u, p, q, Bytes.ofString "created"] →
        Indexed st s₂ → IsLoginRequest flatEnv.toEnv req code flat q →
        LogsIn st flatEnv req s₂ (societyIdOf importReq) u := by
  intro hclaim
  obtain ⟨hcreated, hid⟩ := greenSociety_created
  have hline := flatRun_issues (flatLine "B" "b@x" 2) (by simp)
  obtain ⟨resp, s', d, hrun, -, hsessions, -⟩ := hclaim oidHandler oidStore oidStore_issues {}
    societyState flatRun.2 greenSociety societyRequest flatRequest (flatLogin 2)
    (Bytes.ofString "GRN") (Bytes.ofString "1") (Bytes.ofString "B") (Bytes.ofString "b@x")
    (userOf flatEnv.toEnv 2) (sipPasswordOf flatEnv.toEnv 2) (portalPasswordOf flatEnv.toEnv 2)
    hcreated hid hline flatRun_indexed (isLoginRequest_flatLogin 2 (by simp))
  obtain ⟨-, -, -, hnone⟩ := flatRun_spec
  rw [hrun, hsessions] at hnone
  simp at hnone

end MicroServicePbx
