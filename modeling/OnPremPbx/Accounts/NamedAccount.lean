import OnPremPbx.Accounts.Handlers
import OnPremPbx.Database.DropIn

/-!
# Changes of accounts

A deletion touches the account of the request alone if the text that is put together is the filter
that it was meant to be, and an update if it names an account and leaves the code in it. A store
that is reached by way of an agent takes text that is no JSON for a filter that selects everything.
-/

open Json

namespace MicroService

/-! ### Stores -/

/-- What is behind `IMongodbClient`: a `MongodbClient`, or a `WsMongodbProxy` with its agent. -/
inductive Store where
  | client
  | proxy (dbName : Bytes) (reqid : ℤ)

section

variable {Db : Type} (d : Driver) (e : Engine Db) (u : Undefined)

def Store.handler : Store → Program.Handler (fun _ : DbCall => DbValue) Db
  | .client, c, db             => MongodbClient.exec d e u db c
  | .proxy dbName reqid, c, db => WsMongodbProxy.exec d e u dbName reqid db c

/-- The document that a text arrives as. -/
def Store.arrives : Store → Bytes → Option Bytes
  | .client, text   => d.fromJson (cStr text)
  | .proxy .., text => some (WsMongodbProxy.arrived d text)

variable {d}

lemma snd_valueOf {α : Type} (f : α → DbValue) (r : Option α × Db) : (valueOf f r).2 = r.2 := rfl

lemma Store.snd_deleteDocument (hd : d.Faithful) (st : Store) (coll doc : Bytes) (db : Db) :
    (st.handler d e u (.deleteDocument coll doc) db).2 =
      (st.arrives d doc).elim db fun filter =>
        if e.acquire db then (e.deleteMany (cStr coll) filter db).2 else db := by
  cases st with
  | client =>
    rw [handler, arrives, MongodbClient.exec, snd_valueOf, MongodbClient.deleteDocument,
      MongodbClient.withJson]
    cases d.fromJson (cStr doc) with
    | none => rfl
    | some filter =>
      dsimp only [Option.elim]
      rw [MongodbClient.withClient]
      split_ifs <;> rfl
  | proxy dbName reqid =>
    rw [handler, WsMongodbProxy.exec_eq_arrivedCall d e u dbName rfl, arrives]
    dsimp only [Option.elim]
    rw [MongodbClient.exec, snd_valueOf, MongodbClient.deleteDocument, MongodbClient.withJson,
      WsMongodbProxy.fromJson_arrivedText hd]
    dsimp only
    rw [MongodbClient.withClient]
    split_ifs <;> rfl

lemma Store.snd_updateCollection (hd : d.Faithful) (st : Store) (coll query doc : Bytes)
    (db : Db) :
    (st.handler d e u (.updateCollection coll query doc) db).2 =
      (st.arrives d doc).elim db fun update => (st.arrives d query).elim db fun filter =>
        if e.acquire db then (e.updateMany (cStr coll) filter update db).2 else db := by
  cases st with
  | client =>
    rw [handler, arrives, arrives, MongodbClient.exec, snd_valueOf, MongodbClient.updateCollection,
      MongodbClient.withJson]
    cases d.fromJson (cStr doc) with
    | none => rfl
    | some update =>
      dsimp only [Option.elim]
      rw [MongodbClient.withJson]
      cases d.fromJson (cStr query) with
      | none => rfl
      | some filter =>
        dsimp only
        rw [MongodbClient.withClient]
        split_ifs <;> rfl
  | proxy dbName reqid =>
    rw [handler, WsMongodbProxy.exec_eq_arrivedCall d e u dbName rfl, arrives, arrives]
    dsimp only [Option.elim]
    rw [MongodbClient.exec, snd_valueOf, MongodbClient.updateCollection, MongodbClient.withJson,
      WsMongodbProxy.fromJson_arrivedText hd]
    dsimp only
    rw [MongodbClient.withJson, WsMongodbProxy.fromJson_arrivedText hd]
    dsimp only
    rw [MongodbClient.withClient]
    split_ifs <;> rfl

end

/-! ### Accounts -/

def lcName : Bytes := Bytes.ofString "loginCredentials"
def acName : Bytes := Bytes.ofString "accountCode"
def accountColl : Bytes := Bytes.ofString "account"

/-- `loginCredentials.accountCode` of a document, if it is a string. -/
def codeOf (r : Json) : Option Bytes := (r.field lcName).bind fun lc => lc.text acName

def idOf (r : Json) : Option Json := r.field (Bytes.ofString "_id")

/-- A document with a code. -/
def IsAccount (r : Json) : Prop := (codeOf r).isSome = true ∧ r.writable = true

/-- What the collection of accounts holds, what filters select and what updates make of a document.
A filter that the server refuses selects nothing, and an update that it refuses changes nothing. -/
structure Accounts (Db : Type) where
  docs : Db → List Json
  /-- the JSON of the bytes of a document -/
  value : Bytes → Json
  selects : Bytes → Json → Bool
  refuses : Bytes → Json → Bool
  set : Bytes → Json → Json

/-- What the code relies on in MongoDB, in `bsoncxx` and in the JSON library. -/
structure Accounts.Lawful {Db : Type} (a : Accounts Db) (d : Driver) (e : Engine Db)
    (dump : Json → Option Bytes) : Prop where
  /-- documents differ in their identifiers -/
  ids : ∀ db, ((a.docs db).map idOf).Nodup
  /-- any account can be in the database -/
  holds : ∀ r, IsAccount r → ∃ db, e.acquire db = true ∧ a.docs db = [r]
  /-- a deletion removes documents that its filter selects -/
  deletes : ∀ f db, (∀ r ∈ a.docs (e.deleteMany accountColl f db).2, r ∈ a.docs db) ∧
    ∀ r ∈ a.docs db, r ∈ a.docs (e.deleteMany accountColl f db).2 ∨ a.selects f r = true
  deletes_one : ∀ f db r, a.docs db = [r] → a.selects f r = true →
    a.docs (e.deleteMany accountColl f db).2 = []
  /-- an update changes documents that its filter selects -/
  updates : ∀ f u db, (∀ r' ∈ a.docs (e.updateMany accountColl f u db).2,
      r' ∈ a.docs db ∨ ∃ r ∈ a.docs db, a.selects f r = true ∧ r' = a.set u r) ∧
    ∀ r ∈ a.docs db, r ∈ a.docs (e.updateMany accountColl f u db).2 ∨
      a.selects f r = true ∧ a.set u r ∈ a.docs (e.updateMany accountColl f u db).2
  updates_one : ∀ f u db r, a.docs db = [r] → a.selects f r = true →
    a.docs (e.updateMany accountColl f u db).2 = [a.set u r]
  /-- no update changes the identifier, and what is refused does nothing -/
  set_id : ∀ u r, idOf (a.set u r) = idOf r
  set_refused : ∀ u r, a.refuses u r = true → a.set u r = r
  /-- the empty document selects everything, and is no update -/
  selects_empty : ∀ r, a.selects d.empty r = true
  refuses_empty : ∀ r, a.refuses d.empty r = true
  /-- a filter whose first member asks for a code selects accounts with it alone, and all of them if
  it asks for nothing else -/
  selects_first : ∀ {f s ms r}, a.value f = .object ((codePath, .string s) :: ms) → IsAccount r →
    a.selects f r = true → codeOf r = some s
  selects_code : ∀ {f s r}, a.value f = .object [(codePath, .string s)] → IsAccount r →
    codeOf r = some s → a.selects f r = true
  /-- the first member of a text is the first one of the document -/
  fromJson_first : ∀ {name text f}, Clean name →
    d.fromJson (0x7B :: (quote name ++ 0x3A :: 0x22 :: text)) = some f →
      ∃ s rest ms, parseString text = some (s, rest) ∧ a.value f = .object ((name, .string s) :: ms)
  /-- a filter that the library writes is read as it was written -/
  dump_nil : dump (.object []) = some (Bytes.ofString "\x7b\x7d")
  dumped_query : ∀ {s text}, dump (.object (strings [(codePath, s)])) = some text →
    ∃ f, d.fromJson text = some f ∧ d.fromJson (cStr text) = some f ∧
      a.value f = .object [(codePath, .string s)]
  /-- `$set` with a document that the library writes, where it is not refused -/
  sets : ∀ {body doc u r}, dump (setDocument body) = some doc →
    d.fromJson doc = some u ∨ d.fromJson (cStr doc) = some u → IsAccount r →
    a.refuses u r = false →
      (∀ v, body.field lcName = some v → codeOf (a.set u r) = v.text acName) ∧
      (∀ v, body.field codePath = some v →
        ∀ s, codeOf (a.set u r) = some s ↔ v = .string s) ∧
      (body.field lcName = none → body.field codePath = none → codeOf (a.set u r) = codeOf r)

/-! ### Requests -/

/-- The requests that change accounts. -/
inductive Method where
  | DELETE
  | PUT

def Method.handler (env : Env) : Method → Bytes → Prog Bytes
  | .DELETE => handleDELETE env
  | .PUT    => handleAccountPUT env

/-- The account that a request names, empty if it names none. -/
def Method.code (http : Http) : Method → Bytes
  | .DELETE => http.getElement (Bytes.ofString "accountCode")
  | .PUT    => http.getElement (Bytes.ofString "userId")

section

variable {Db : Type} (a : Accounts Db) (d : Driver)

/-- Each account stays as it is, or it is the one that is named, which keeps its code if it is still
there. -/
def OnlyNamed (code : Bytes) (db db' : Db) : Prop :=
  ∀ r ∈ a.docs db, IsAccount r → r ∈ a.docs db' ∨
    code ≠ [] ∧ codeOf r = some code ∧ ∀ r' ∈ a.docs db', idOf r' = idOf r → codeOf r' = some code

/-- The body sets no other code. -/
def KeepsCode (body : Json) (code : Bytes) : Prop :=
  (∀ v, body.field lcName = some v → v.text acName = some code) ∧
    ∀ v, body.field codePath = some v → v = .string code

/-- The code needs no escapes and the filter is JSON; or nothing is deleted. -/
def DeletesNamed (st : Store) (code : Bytes) : Prop :=
  code = [] ∨ st.arrives d (accountFilter code) = none ∨
    (Clean code ∧ (d.fromJson (accountFilter code)).isSome) ∨
    ∃ f, st.arrives d (accountFilter code) = some f ∧ ∀ r, IsAccount r → a.selects f r = false

/-- The request names an account and its body sets no other code; or nothing is set. -/
def UpdatesNamed (env : Env) (st : Store) (code content : Bytes) : Prop :=
  ∀ body, parse content = some body →
    ∀ doc, env.dump (setDocument (hashed env body)) = some doc →
      (env.dump (accountQuery code)).isSome → ∀ u, st.arrives d doc = some u →
        if code = [] then ∀ r, IsAccount r → a.set u r = r
        else KeepsCode body code ∨
          ∀ r, IsAccount r → codeOf r = some code → a.refuses u r = true

/-- When a request touches the account that it names alone. -/
def Method.TouchesNamed (env : Env) (st : Store) (http : Http) : Method → Prop
  | .DELETE => DeletesNamed a d st (Method.DELETE.code http)
  | .PUT    => UpdatesNamed a d env st (Method.PUT.code http) http.body

end

/-! ### What the handlers call -/

section

variable {σ : Type} {h : Program.Handler (fun _ : DbCall => DbValue) σ} {env : Env} {req : Bytes}
  {http : Http}

/-- What is answered changes nothing. -/
lemma snd_flagOf_bind (c : DbCall) (x y : Bytes) (s : σ) :
    ((flagOf c >>= fun b => if b = true then pure x else pure y : Prog Bytes).run h s).2 =
      (h c s).2 := by
  rw [Program.run_bind, flagOf, Program.run_bind, Program.run_perform]
  rcases h c s with ⟨_ | _ | _ | b | _, s'⟩
  case some.flag => cases b <;> rfl
  all_goals rfl

lemma snd_handleDELETE (hreq : Http.ofBytes env.decompress req = some http)
    (huri : http.uriName = Bytes.ofString "/api/v1/account/account") (s : σ) :
    ((handleDELETE env req).run h s).2 =
      if Method.DELETE.code http = [] then s
      else (h (.deleteDocument accountColl (accountFilter (Method.DELETE.code http))) s).2 := by
  have hother : ¬ http.uriName = Bytes.ofString "/api/v1/shipment/awblist" := by
    rw [huri]
    decide
  rw [handleDELETE, hreq, Program.run_bind, Program.run_ofOption]
  dsimp only
  rw [if_neg hother, if_pos huri, Method.code]
  split_ifs
  · rfl
  · exact snd_flagOf_bind _ _ _ s

lemma snd_handleAccountPUT (hreq : Http.ofBytes env.decompress req = some http)
    (huri : http.uriName = Bytes.ofString "/api/v1/account/account") (s : σ) :
    ((handleAccountPUT env req).run h s).2 =
      (parse http.body).elim s fun body =>
        (env.dump (setDocument (hashed env body))).elim s fun doc =>
          (env.dump (accountQuery (Method.PUT.code http))).elim s fun query =>
            (h (.updateCollection accountColl query doc) s).2 := by
  rw [handleAccountPUT, hreq, Program.run_bind, Program.run_ofOption]
  dsimp only
  rw [if_neg (not_not_intro huri), Method.code, Program.run_bind, Program.run_ofOption]
  cases parse http.body with
  | none => rfl
  | some body =>
    dsimp only [Option.elim]
    rw [Program.run_bind, Program.run_ofOption]
    cases env.dump (setDocument (hashed env body)) with
    | none => rfl
    | some doc =>
      dsimp only
      rw [Program.run_bind, Program.run_ofOption]
      cases env.dump (accountQuery (http.getElement (Bytes.ofString "userId"))) with
      | none => rfl
      | some query => exact snd_flagOf_bind _ _ _ s

end

/-! ### The filter of a deletion -/

lemma cStr_append {s : Bytes} (hs : 0 ∉ s) (t : Bytes) : cStr (s ++ t) = s ++ cStr t := by
  rw [cStr, List.takeWhile_append_of_pos]
  · rfl
  · intro c hc
    exact decide_eq_true fun h => hs (h ▸ hc)

/-- The filter up to its string, and the rest of it. -/
lemma accountFilter_eq (code : Bytes) :
    accountFilter code = (0x7B :: (quote codePath ++ [0x3A, 0x22])) ++ (code ++ [0x22, 0x7D]) := by
  simp [accountFilter, concatText, membersText, memberText, quote]

lemma cStr_accountFilter (code : Bytes) :
    cStr (accountFilter code) =
      (0x7B :: (quote codePath ++ [0x3A, 0x22])) ++ cStr (code ++ [0x22, 0x7D]) := by
  rw [accountFilter_eq, cStr_append (by decide)]

lemma cStr_of_clean {code : Bytes} (hcode : Clean code) :
    cStr (accountFilter code) = accountFilter code := by
  have hzero : 0 ∉ code := fun hmem => absurd (hcode 0 hmem).1 (by decide)
  rw [cStr_accountFilter, cStr_append hzero, accountFilter_eq]
  rfl

/-- A string that is read as it stands has no escapes. -/
lemma clean_of_parseString {code text rest : Bytes} (htext : text <+: code ++ [0x22, 0x7D])
    (h : parseString text = some (code, rest)) : Clean code := by
  obtain ⟨hle, hclean⟩ := parseString_length h
  have hlen := htext.length_le
  rw [List.length_append, List.length_cons, List.length_singleton] at hlen
  by_cases hall : code.length + 1 + rest.length = text.length
  · exact hclean hall
  -- The string would go to the brace at the end, which is no quote.
  have hwhole : text = code ++ [0x22, 0x7D] := htext.eq_of_length (by
    rw [List.length_append, List.length_cons, List.length_singleton]
    omega)
  have hrest : rest = [] := List.length_eq_zero_iff.mp (by omega)
  obtain ⟨⟨raw, rest'⟩, hscan, hmap⟩ := Option.bind_eq_some_iff.mp h
  obtain ⟨v, -, heq⟩ := Option.map_eq_some_iff.mp hmap
  cases heq
  have hlast := congrArg List.getLast? (scan_spec hscan)
  rw [hrest, hwhole] at hlast
  simp at hlast

section

variable {Db : Type} {a : Accounts Db} {d : Driver} {e : Engine Db}
  {dump : Json → Option Bytes} {code f : Bytes} {r : Json}

/-- The string that the filter of a deletion asks for; it is the code only if that is clean. -/
lemma Accounts.Lawful.codeOf_of_selects (ha : a.Lawful d e dump)
    (hf : d.fromJson (accountFilter code) = some f ∨
      d.fromJson (cStr (accountFilter code)) = some f)
    (hr : IsAccount r) (hselects : a.selects f r = true) :
    ∃ s, codeOf r = some s ∧ (s = code → Clean code) ∧ (Clean code → s = code) := by
  have hname : Clean codePath := by decide +kernel
  obtain ⟨text, htext, hclean, hf⟩ : ∃ text, text <+: code ++ [0x22, 0x7D] ∧
      (Clean code → text = code ++ [0x22, 0x7D]) ∧
      d.fromJson (0x7B :: (quote codePath ++ 0x3A :: 0x22 :: text)) = some f := by
    rcases hf with hf | hf
    · refine ⟨_, List.prefix_refl _, fun _ => rfl, ?_⟩
      rw [accountFilter_eq] at hf
      simpa using hf
    · refine ⟨cStr (code ++ [0x22, 0x7D]), List.takeWhile_prefix _, fun hclean => ?_, ?_⟩
      · have hzero : 0 ∉ code := fun hmem => absurd (hclean 0 hmem).1 (by decide)
        rw [cStr_append hzero]
        rfl
      · rw [cStr_accountFilter] at hf
        simpa using hf
  obtain ⟨s, rest, ms, hstring, hvalue⟩ := ha.fromJson_first hname hf
  refine ⟨s, ha.selects_first hvalue hr hselects, ?_, fun hcode => ?_⟩
  · rintro rfl
    exact clean_of_parseString htext hstring
  · rw [hclean hcode, parseString_clean hcode] at hstring
    cases hstring
    rfl

/-- A document whose code is another one. -/
lemma exists_other (code : Bytes) : ∃ r, IsAccount r ∧ codeOf r ≠ some code := by
  have haccount : ∀ s : Bytes, Utf8.Valid s →
      IsAccount (.object [(lcName, .object [(acName, .string s)])]) := by
    intro s hs
    have hnames : Utf8.Valid lcName ∧ Utf8.Valid acName := by decide
    exact ⟨rfl, by simp [writable, writableMembers, hnames, hs]⟩
  by_cases hcode : code = [0x61]
  · exact ⟨_, haccount [0x62] (by decide), by rw [hcode]; decide⟩
  · refine ⟨_, haccount [0x61] (by decide), fun h => hcode ?_⟩
    exact (Option.some.inj h).symm

variable (u : Undefined) (st : Store)

lemma onlyNamed_self (code : Bytes) (db : Db) : OnlyNamed a code db db := fun _ hmem _ => .inl hmem

/-- Without a connection nothing is changed. -/
lemma onlyNamed_ite (g : Db → Db) :
    (∀ db, OnlyNamed a code db (if e.acquire db = true then g db else db)) ↔
      ∀ db, e.acquire db = true → OnlyNamed a code db (g db) := by
  refine forall_congr' fun db => ?_
  split_ifs with hopen
  · exact ⟨fun h _ => h, fun h => h hopen⟩
  · exact ⟨fun _ h => absurd h hopen, fun _ => onlyNamed_self code db⟩

/-- What a deletion leaves, if its filter arrives. -/
lemma onlyNamed_delete_iff (ha : a.Lawful d e dump) (hcode : code ≠ []) :
    (∀ db, e.acquire db = true → OnlyNamed a code db (e.deleteMany accountColl f db).2) ↔
      ∀ r, IsAccount r → a.selects f r = true → codeOf r = some code := by
  constructor
  · intro hall r hr hselects
    obtain ⟨db, hopen, hdocs⟩ := ha.holds r hr
    have hnone := ha.deletes_one f db r hdocs hselects
    rcases hall db hopen r (by rw [hdocs]; exact List.mem_cons_self) hr with hmem | hnamed
    · rw [hnone] at hmem
      cases hmem
    · exact hnamed.2.1
  · intro hselects db _ r hmem hr
    obtain ⟨hsub, hkeeps⟩ := ha.deletes f db
    refine (hkeeps r hmem).imp_right fun hsel => ?_
    have heq := hselects r hr hsel
    refine ⟨hcode, heq, fun r' hr' hid => ?_⟩
    rw [List.inj_on_of_nodup_map (ha.ids db) (hsub r' hr') hmem hid]
    exact heq

/-- The document that arrives is that of the filter, or of no JSON. -/
lemma Store.fromJson_of_arrives {st : Store} {text : Bytes} (h : st.arrives d text = some f) :
    (d.fromJson text = some f ∨ d.fromJson (cStr text) = some f) ∨
      d.fromJson text = none ∧ f = d.empty := by
  cases st with
  | client => exact .inl (.inr h)
  | proxy dbName reqid =>
    rw [arrives, WsMongodbProxy.arrived, Option.some.injEq] at h
    cases hfrom : d.fromJson text with
    | none =>
      rw [hfrom] at h
      exact .inr ⟨rfl, h.symm⟩
    | some f' =>
      rw [hfrom] at h
      exact .inl (.inl (congrArg some h))

/-- The filter that arrives selects the named account alone, exactly if it is the one meant or it
selects nothing. -/
lemma selects_named_iff (ha : a.Lawful d e dump)
    (hf : st.arrives d (accountFilter code) = some f) :
    (∀ r, IsAccount r → a.selects f r = true → codeOf r = some code) ↔
      (Clean code ∧ (d.fromJson (accountFilter code)).isSome) ∨
        ∀ r, IsAccount r → a.selects f r = false := by
  rcases Store.fromJson_of_arrives hf with hread | ⟨hnone, rfl⟩
  · constructor
    · intro hall
      by_cases hsel : ∃ r, IsAccount r ∧ a.selects f r = true
      · obtain ⟨r, hr, hselects⟩ := hsel
        obtain ⟨s, hs, hclean, -⟩ := ha.codeOf_of_selects hread hr hselects
        have hclean := hclean (Option.some.inj (hs.symm.trans (hall r hr hselects)))
        rw [cStr_of_clean hclean, or_self] at hread
        exact .inl ⟨hclean, Option.isSome_of_eq_some hread⟩
      · exact .inr fun r hr => Bool.eq_false_iff.mpr fun hselects => hsel ⟨r, hr, hselects⟩
    · rintro (⟨hclean, -⟩ | hnone) r hr hselects
      · obtain ⟨s, hs, -, heq⟩ := ha.codeOf_of_selects hread hr hselects
        rw [hs, heq hclean]
      · exact Bool.noConfusion (hselects.symm.trans (hnone r hr))
  · -- The text is no JSON, and the agent takes it for the empty filter.
    obtain ⟨r, hr, hother⟩ := exists_other code
    refine iff_of_false (fun h => hother (h r hr (ha.selects_empty r))) ?_
    rintro (⟨-, hsome⟩ | hall)
    · rw [hnone] at hsome
      cases hsome
    · exact Bool.noConfusion ((ha.selects_empty r).symm.trans (hall r hr))

/-- A deletion touches the account alone that it names, exactly if its filter is the one meant. -/
lemma delete_iff (hd : d.Faithful) (ha : a.Lawful d e dump) :
    (∀ db, OnlyNamed a code db (if code = [] then db
        else (st.handler d e u (.deleteDocument accountColl (accountFilter code)) db).2)) ↔
      DeletesNamed a d st code := by
  have hcoll : cStr accountColl = accountColl := by decide
  rw [DeletesNamed]
  by_cases hcode : code = []
  · simp only [hcode, if_true, true_or, iff_true]
    exact onlyNamed_self []
  simp only [hcode, if_false, false_or, st.snd_deleteDocument e u hd, hcoll]
  cases hf : st.arrives d (accountFilter code) with
  | none =>
    simp only [Option.elim, true_or, iff_true]
    exact onlyNamed_self code
  | some f =>
    simp only [Option.elim, reduceCtorEq, false_or, Option.some.injEq, exists_eq_left']
    rw [onlyNamed_ite, onlyNamed_delete_iff ha hcode, selects_named_iff st ha hf]

/-! ### Updates -/

variable {w : Bytes} {body : Json} {env : Env}

/-- The digest of the password is no code. -/
lemma keepsCode_hashed : KeepsCode (hashed env body) code ↔ KeepsCode body code := by
  rw [hashed]
  split
  case h_2 => exact Iff.rfl
  case h_1 ms hlc =>
    split
    · exact Iff.rfl
    · next plain _ =>
      have hobject : ∃ ms', body = .object ms' := by
        cases body with
        | object ms' => exact ⟨ms', rfl⟩
        | _ => cases hlc
      obtain ⟨ms', rfl⟩ := hobject
      have hne : Bytes.ofString "loginCredentials" ≠ codePath := by decide
      have hpath := field_insert_of_ne (j := .object ms') hne
        (((Json.object ms).insert (Bytes.ofString "passwordHash")
          (.string (env.hashPassword plain))).erase (Bytes.ofString "accountPassword"))
      have htext : (((Json.object ms).insert (Bytes.ofString "passwordHash")
          (.string (env.hashPassword plain))).erase (Bytes.ofString "accountPassword")).text
            acName = (Json.object ms).text acName := by
        rw [text, text, field_erase (by decide), field_insert_of_ne (by decide)]
      have hlc : (Json.object ms').field lcName = some (.object ms) := hlc
      rw [KeepsCode, KeepsCode, hpath, lcName, field_insert_self, ← lcName, hlc]
      simp only [Option.some.injEq, forall_eq', htext]

/-- The filter of an update arrives as it was meant. -/
lemma Store.arrives_query (hd : d.Faithful) (ha : a.Lawful d e dump) (st : Store) {query : Bytes}
    (hquery : dump (accountQuery code) = some query) :
    ∃ f, st.arrives d query = some f ∧
      if code = [] then f = d.empty else a.value f = .object [(codePath, .string code)] := by
  rw [accountQuery] at hquery
  split_ifs at hquery ⊢ with hcode
  · rw [ha.dump_nil] at hquery
    cases hquery
    have hbraces : cStr (Bytes.ofString "\x7b\x7d") = Bytes.ofString "\x7b\x7d" := by decide
    refine ⟨d.empty, ?_, rfl⟩
    cases st with
    | client => rw [arrives, hbraces, hd.fromJson_empty]
    | proxy => rw [arrives, WsMongodbProxy.arrived, hd.fromJson_empty, Option.getD_some]
  · obtain ⟨f, hfrom, hcstr, hvalue⟩ := ha.dumped_query hquery
    refine ⟨f, ?_, hvalue⟩
    cases st with
    | client => exact hcstr
    | proxy => rw [arrives, WsMongodbProxy.arrived, hfrom, Option.getD_some]

/-- What an update leaves that names no account. -/
lemma onlyNamed_update_iff_unnamed (ha : a.Lawful d e dump) :
    (∀ db, e.acquire db = true → OnlyNamed a [] db (e.updateMany accountColl d.empty w db).2) ↔
      ∀ r, IsAccount r → a.set w r = r := by
  constructor
  · intro hall r hr
    obtain ⟨db, hopen, hdocs⟩ := ha.holds r hr
    have hone := ha.updates_one d.empty w db r hdocs (ha.selects_empty r)
    rcases hall db hopen r (by rw [hdocs]; exact List.mem_cons_self) hr with hmem | hnamed
    · rw [hone, List.mem_singleton] at hmem
      exact hmem.symm
    · exact absurd rfl hnamed.1
  · intro hset db _ r hmem hr
    rcases (ha.updates d.empty w db).2 r hmem with hkept | ⟨-, hnew⟩
    · exact .inl hkept
    · rw [hset r hr] at hnew
      exact .inl hnew

/-- What an update leaves of the account that it names. -/
lemma onlyNamed_update_iff (ha : a.Lawful d e dump) (hcode : code ≠ [])
    (hf : a.value f = .object [(codePath, .string code)]) :
    (∀ db, e.acquire db = true → OnlyNamed a code db (e.updateMany accountColl f w db).2) ↔
      ∀ r, IsAccount r → codeOf r = some code → codeOf (a.set w r) = some code := by
  constructor
  · intro hall r hr heq
    obtain ⟨db, hopen, hdocs⟩ := ha.holds r hr
    have hone := ha.updates_one f w db r hdocs (ha.selects_code hf hr heq)
    rcases hall db hopen r (by rw [hdocs]; exact List.mem_cons_self) hr with hmem | ⟨-, -, hkeeps⟩
    · rw [hone, List.mem_singleton] at hmem
      rw [← hmem]
      exact heq
    · exact hkeeps _ (by rw [hone]; exact List.mem_cons_self) (ha.set_id w r)
  · intro hset db _ r hmem hr
    obtain ⟨hback, hforth⟩ := ha.updates f w db
    refine (hforth r hmem).imp_right fun ⟨hsel, _⟩ => ?_
    have heq := ha.selects_first hf hr hsel
    refine ⟨hcode, heq, fun r' hr' hid => ?_⟩
    rcases hback r' hr' with hold | ⟨r₁, hr₁, -, rfl⟩
    · rw [List.inj_on_of_nodup_map (ha.ids db) hold hmem hid]
      exact heq
    · rw [ha.set_id] at hid
      rw [List.inj_on_of_nodup_map (ha.ids db) hr₁ hmem hid]
      exact hset r hr heq

/-- An update leaves the code, exactly if its body sets no other one or it is refused. -/
lemma codeOf_set_iff (ha : a.Lawful d e env.dump) {doc : Bytes}
    (hdoc : env.dump (setDocument (hashed env body)) = some doc)
    (hw : st.arrives d doc = some w) :
    (∀ r, IsAccount r → codeOf r = some code → codeOf (a.set w r) = some code) ↔
      KeepsCode body code ∨ ∀ r, IsAccount r → codeOf r = some code → a.refuses w r = true := by
  have hhashed : KeepsCode (hashed env body) code ↔ KeepsCode body code := keepsCode_hashed
  rw [← hhashed]
  rcases Store.fromJson_of_arrives hw with hread | ⟨-, rfl⟩
  · constructor
    · intro hset
      rw [or_iff_not_imp_right]
      intro haccepted
      simp only [not_forall, Bool.not_eq_true] at haccepted
      obtain ⟨r, hr, heq, hrefuses⟩ := haccepted
      obtain ⟨hwhole, hpath, -⟩ := ha.sets hdoc hread hr hrefuses
      have hkept := hset r hr heq
      exact ⟨fun v hv => (hwhole v hv).symm.trans hkept, fun v hv => (hpath v hv code).mp hkept⟩
    · rintro hor r hr heq
      cases hrefuses : a.refuses w r with
      | true =>
        rw [ha.set_refused w r hrefuses]
        exact heq
      | false =>
        obtain ⟨hwhole, hpath⟩ := hor.resolve_right fun hall =>
          Bool.noConfusion (hrefuses.symm.trans (hall r hr heq))
        obtain ⟨hset, hset', hsame⟩ := ha.sets hdoc hread hr hrefuses
        cases hlc : (hashed env body).field lcName with
        | some v => rw [hset v hlc, hwhole v hlc]
        | none =>
          cases hcp : (hashed env body).field codePath with
          | some v => exact (hset' v hcp code).mpr (hpath v hcp)
          | none => rw [hsame hlc hcp, heq]
  · refine iff_of_true (fun r _ heq => ?_) (.inr fun r _ _ => ha.refuses_empty r)
    rw [ha.set_refused _ r (ha.refuses_empty r)]
    exact heq

/-- An update touches the account alone that it names, exactly if it names one and sets no other
code. -/
lemma update_iff (hd : d.Faithful) (ha : a.Lawful d e env.dump) (content : Bytes) :
    (∀ db, OnlyNamed a code db ((parse content).elim db fun body =>
        (env.dump (setDocument (hashed env body))).elim db fun doc =>
          (env.dump (accountQuery code)).elim db fun query =>
            (st.handler d e u (.updateCollection accountColl query doc) db).2)) ↔
      UpdatesNamed a d env st code content := by
  have hcoll : cStr accountColl = accountColl := by decide
  rw [UpdatesNamed]
  cases hbody : parse content with
  | none =>
    simp only [Option.elim, reduceCtorEq, false_imp_iff, implies_true, iff_true]
    exact onlyNamed_self code
  | some body =>
  cases hdoc : env.dump (setDocument (hashed env body)) with
  | none =>
    simp only [Option.elim, hdoc, Option.some.injEq, forall_eq', reduceCtorEq, false_imp_iff,
      implies_true, iff_true]
    exact onlyNamed_self code
  | some doc =>
  cases hquery : env.dump (accountQuery code) with
  | none =>
    simp only [Option.elim, hdoc, Option.isSome_none, Bool.false_eq_true, false_imp_iff,
      implies_true, iff_true]
    exact onlyNamed_self code
  | some query =>
  obtain ⟨f, hf, hmeant⟩ := st.arrives_query hd ha hquery
  cases hw : st.arrives d doc with
  | none =>
    simp only [Option.elim, hdoc, st.snd_updateCollection e u hd, hw, Option.some.injEq, forall_eq',
      reduceCtorEq, false_imp_iff, implies_true, iff_true]
    exact onlyNamed_self code
  | some w =>
    simp only [Option.elim, hdoc, st.snd_updateCollection e u hd, hw, hf, hcoll, Option.some.injEq,
      forall_eq', Option.isSome_some, true_imp_iff]
    rw [onlyNamed_ite]
    split_ifs at hmeant ⊢ with hcode
    · subst hcode hmeant
      exact onlyNamed_update_iff_unnamed ha
    · rw [onlyNamed_update_iff ha hcode hmeant, codeOf_set_iff st ha hdoc hw]

/-- A request touches the account alone that it names, exactly if its filter is the one meant and
its body sets no other code, or nothing is changed at all. -/
theorem account_changes_iff {Db : Type} {a : Accounts Db} {d : Driver} {e : Engine Db}
    (u : Undefined) {env : Env} (hd : d.Faithful) (ha : a.Lawful d e env.dump) (st : Store)
    (m : Method) {req : Bytes} {http : Http} (hreq : Http.ofBytes env.decompress req = some http)
    (huri : http.uriName = Bytes.ofString "/api/v1/account/account") :
    (∀ db, OnlyNamed a (m.code http) db ((m.handler env req).run (st.handler d e u) db).2) ↔
      m.TouchesNamed a d env st http := by
  cases m with
  | DELETE =>
    simp only [Method.handler, snd_handleDELETE hreq huri]
    exact delete_iff u st hd ha
  | PUT =>
    simp only [Method.handler, snd_handleAccountPUT hreq huri]
    exact update_iff u st hd ha http.body

end

end MicroService
