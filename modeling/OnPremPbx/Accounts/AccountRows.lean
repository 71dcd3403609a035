import OnPremPbx.Accounts.NamedAccount
import OnPremPbx.Pbx.JsonStore

/-!
# A database of accounts

The least database of accounts that has what the handlers rely on: the text of an object is its own
document, filters ask for equal strings, and `$set` sets fields that are no paths.
-/

open Json

namespace MicroService

open MicroServicePbx (braces rootOf)
open MicroServicePbx.JsonStore (setFields field_setFields field_eq_none)

/-! ### The driver -/

/-- A text with a null byte is not written. -/
def accountDump (j : Json) : Option Bytes := (dumped j).filter fun text => 0 ∉ text

/-- The text of an object is its own document. -/
def textDriver : Driver where
  fromJson text := if 0 ∉ text ∧ ((parse text).any fun j => j.isObject) then some text else none
  toJson := some
  empty := braces
  elements _ := none
  dump _ := none
  strings text :=
    if text = Bytes.ofString "[\"\x7b\x7d\"]" then some [Bytes.ofString "\x7b\x7d"] else none
  what := []

lemma fromJson_eq_some {text doc : Bytes} :
    textDriver.fromJson text = some doc ↔
      doc = text ∧ 0 ∉ text ∧ ∃ ms, parse text = some (.object ms) := by
  have hobject : ((parse text).any fun j => j.isObject) = true ↔
      ∃ ms, parse text = some (.object ms) := by
    cases parse text with
    | none => simp
    | some j => cases j <;> simp [isObject]
  rw [← hobject]
  change (if _ then _ else _) = _ ↔ _
  split_ifs with h
  · rw [Option.some.injEq, eq_comm, and_iff_left h]
  · exact iff_of_false nofun fun hdoc => h hdoc.2

lemma cStr_of_not_mem {text : Bytes} (h : 0 ∉ text) : cStr text = text := by
  have happend := cStr_append h []
  rwa [List.append_nil, show cStr [] = [] from rfl, List.append_nil] at happend

lemma textDriver_faithful : textDriver.Faithful where
  fromJson_nil := by decide
  fromJson_empty := by decide
  ne_nil := by
    rintro json doc h rfl
    obtain ⟨rfl, -, ms, hparse⟩ := fromJson_eq_some.mp h
    cases hparse
  toJson := by
    intro json doc h
    obtain ⟨rfl, hzero, hms⟩ := fromJson_eq_some.mp h
    refine ⟨doc, rfl, ?_⟩
    rw [cStr_of_not_mem hzero]
    exact h
  strings_nil := by decide
  strings_one := by decide

lemma dumped_of_accountDump {j : Json} {text : Bytes} (h : accountDump j = some text) :
    parse text = some j ∧ 0 ∉ text := by
  obtain ⟨hdumped, hzero⟩ := Option.filter_eq_some_iff.mp h
  exact ⟨parse_dumped hdumped, by simpa using hzero⟩

/-! ### The engine -/

/-- Documents that differ in their identifiers. -/
structure AccountRows where
  rows : List Json
  nodup : (rows.map idOf).Nodup

namespace AccountRows

def value (doc : Bytes) : Json := (parse doc).getD .null

/-- A member of a filter that asks for a string. -/
def asks (r : Json) (m : Bytes × Json) : Bool :=
  match m.2 with
  | .string s => (if m.1 = codePath then codeOf r else r.text m.1) = some s
  | _         => false

def selects (filter : Bytes) (r : Json) : Bool :=
  match value filter with
  | .object ms => ms.all (asks r)
  | _          => false

/-- The fields that an update sets, if none is a path or the identifier. -/
def setsOf (update : Bytes) : Option (List (Bytes × Json)) :=
  match (value update).field (Bytes.ofString "$set") with
  | some (.object ms) =>
    if ∀ m ∈ ms, m.1 ≠ Bytes.ofString "_id" ∧ rootOf m.1 = m.1 then some ms else none
  | _                 => none

def set (update : Bytes) (r : Json) : Json :=
  (setsOf update).elim r fun ms => setFields ms r

lemma setsOf_eq_some {update : Bytes} {ms : List (Bytes × Json)} (h : setsOf update = some ms) :
    (value update).field (Bytes.ofString "$set") = some (.object ms) ∧
      ∀ m ∈ ms, m.1 ≠ Bytes.ofString "_id" ∧ rootOf m.1 = m.1 := by
  rw [setsOf] at h
  split at h
  · split_ifs at h with hms
    cases h
    exact ⟨by assumption, hms⟩
  · cases h

lemma idOf_set (update : Bytes) (r : Json) : idOf (set update r) = idOf r := by
  rw [set]
  cases hms : setsOf update with
  | none => rfl
  | some ms =>
    have hnone := field_eq_none fun m hm => ((setsOf_eq_some hms).2 m hm).1
    rw [Option.elim_some, idOf, field_setFields, hnone, Option.none_or, idOf]

def delete (db : AccountRows) (filter : Bytes) : AccountRows where
  rows := db.rows.filter fun r => !selects filter r
  nodup := db.nodup.sublist (List.filter_sublist.map idOf)

lemma map_idOf_update (filter update : Bytes) (rows : List Json) :
    (rows.map fun r => if selects filter r then set update r else r).map idOf =
      rows.map idOf := by
  rw [List.map_map]
  refine List.map_congr_left fun r _ => ?_
  rw [Function.comp_apply]
  split_ifs
  · exact idOf_set update r
  · rfl

def update (db : AccountRows) (filter update : Bytes) : AccountRows where
  rows := db.rows.map fun r => if selects filter r then set update r else r
  nodup := (map_idOf_update filter update db.rows).symm ▸ db.nodup

/-- Nothing but accounts is stored. -/
def engine : Engine AccountRows where
  acquire _ := true
  insertOne _ _ _ db := (none, db)
  insertMany _ _ _ db := (none, db)
  updateMany coll f u db :=
    if coll = accountColl then (some (db.rows.any (selects f)), db.update f u) else (none, db)
  updateOnes _ _ db := (none, db)
  deleteMany coll f db :=
    if coll = accountColl then (some true, db.delete f) else (none, db)
  findFirst _ _ _ _ := none
  findAll _ _ _ _ := none
  nextAwbno _ db := ([], db)
  storeFile _ _ _ db := ([], db)
  fetchFile _ _ := []
  fetchFileById _ _ := []
  deleteFile _ db := (false, db)

def accounts : Accounts AccountRows where
  docs := rows
  value := value
  selects := selects
  refuses update _ := (setsOf update).isNone
  set := set

/-! ### Laws -/

lemma value_of_parse {doc : Bytes} {j : Json} (h : parse doc = some j) : value doc = j := by
  rw [value, h, Option.getD_some]

lemma selects_object {f : Bytes} {ms : List (Bytes × Json)} (h : value f = .object ms) (r : Json) :
    selects f r = ms.all (asks r) := by
  rw [selects, h]

lemma asks_code {r : Json} {s : Bytes} :
    asks r (codePath, .string s) = true ↔ codeOf r = some s := by
  rw [asks]
  dsimp only
  rw [if_pos rfl, decide_eq_true_eq]

lemma sets_of_set {body : Json} {doc update : Bytes} {r : Json}
    (hdoc : accountDump (setDocument body) = some doc)
    (hread : textDriver.fromJson doc = some update ∨
      textDriver.fromJson (cStr doc) = some update)
    (hset : (setsOf update).isNone = false) :
    (∀ v, body.field lcName = some v → codeOf (set update r) = v.text acName) ∧
      (∀ v, body.field codePath = some v → ∀ s, codeOf (set update r) = some s ↔ v = .string s) ∧
      (body.field lcName = none → body.field codePath = none →
        codeOf (set update r) = codeOf r) := by
  obtain ⟨hparse, hzero⟩ := dumped_of_accountDump hdoc
  rw [cStr_of_not_mem hzero, or_self] at hread
  obtain ⟨rfl, -⟩ := fromJson_eq_some.mp hread
  obtain ⟨ms, hms⟩ := Option.isSome_iff_exists.mp (Option.isNone_eq_false_iff.mp hset)
  obtain ⟨hvalue, hnames⟩ := setsOf_eq_some hms
  rw [value_of_parse hparse] at hvalue
  obtain rfl : body = .object ms := Option.some.inj hvalue
  have hpath : (Json.object ms).field codePath = none :=
    field_eq_none fun m hm heq => absurd (heq ▸ (hnames m hm).2) (by decide)
  have hfield := field_setFields ms r lcName
  refine ⟨fun v hv => ?_, fun v hv => ?_, fun hlc _ => ?_⟩
  · rw [set, hms, Option.elim_some, codeOf, hfield, hv]
    rfl
  · rw [hpath] at hv
    cases hv
  · rw [set, hms, Option.elim_some, codeOf, hfield, hlc, Option.none_or, codeOf]

lemma mem_docs {r : Json} {db : AccountRows} : r ∈ accounts.docs db ↔ r ∈ db.rows := Iff.rfl

lemma docs_delete (f : Bytes) (db : AccountRows) :
    accounts.docs (engine.deleteMany accountColl f db).2 =
      db.rows.filter fun r => !selects f r := rfl

lemma docs_update (f u : Bytes) (db : AccountRows) :
    accounts.docs (engine.updateMany accountColl f u db).2 =
      db.rows.map fun r => if selects f r then set u r else r := rfl

/-- The database behaves as the handlers rely on. -/
theorem lawful : accounts.Lawful textDriver engine accountDump where
  ids db := db.nodup
  holds r _ := ⟨⟨[r], List.nodup_singleton _⟩, rfl, rfl⟩
  deletes f db := by
    refine ⟨fun r hr => (List.mem_filter.mp hr).1, fun r hr => ?_⟩
    rw [docs_delete, List.mem_filter]
    cases hsel : accounts.selects f r with
    | true => exact .inr rfl
    | false => exact .inl ⟨hr, by rw [show selects f r = false from hsel]; rfl⟩
  deletes_one f db r hdocs hsel := by
    rw [docs_delete, show db.rows = [r] from hdocs, List.filter_cons_of_neg, List.filter_nil]
    rw [show selects f r = true from hsel]
    decide
  updates f u db := by
    refine ⟨fun r' hr' => ?_, fun r hr => ?_⟩
    · obtain ⟨r, hr, rfl⟩ := List.mem_map.mp hr'
      split_ifs with hsel
      · exact .inr ⟨r, hr, hsel, rfl⟩
      · exact .inl hr
    · rw [docs_update]
      have hmem := List.mem_map_of_mem (f := fun r => if selects f r then set u r else r) hr
      split_ifs at hmem with hsel
      · exact .inr ⟨hsel, hmem⟩
      · exact .inl hmem
  updates_one f u db r hdocs hsel := by
    rw [docs_update, show db.rows = [r] from hdocs, List.map_singleton,
      if_pos (show selects f r = true from hsel)]
    rfl
  set_id := idOf_set
  set_refused u r hrefused := by
    change (setsOf u).elim r _ = r
    rw [Option.isNone_iff_eq_none.mp hrefused]
    rfl
  selects_empty r := rfl
  refuses_empty r := rfl
  selects_first hvalue _ hsel := by
    have hall := (selects_object hvalue _).symm.trans hsel
    rw [List.all_cons, Bool.and_eq_true] at hall
    exact asks_code.mp hall.1
  selects_code hvalue _ hcode := by
    refine (selects_object hvalue _).trans ?_
    rw [List.all_cons, List.all_nil, Bool.and_true]
    exact asks_code.mpr hcode
  fromJson_first := by
    intro name text f hname h
    obtain ⟨rfl, -, ms, hparse⟩ := fromJson_eq_some.mp h
    obtain ⟨s, rest, ms', hstring, rfl⟩ := parse_first hname hparse
    exact ⟨s, rest, ms', hstring, value_of_parse hparse⟩
  dump_nil := by decide
  dumped_query := by
    intro s text h
    obtain ⟨hparse, hzero⟩ := dumped_of_accountDump h
    have hread := fromJson_eq_some.mpr ⟨rfl, hzero, _, hparse⟩
    exact ⟨text, hread, by rwa [cStr_of_not_mem hzero], value_of_parse hparse⟩
  sets hdoc hread _ hset := sets_of_set hdoc hread hset

end AccountRows

/-! ### Two accounts -/

def account (id code : String) : Json :=
  .object [(Bytes.ofString "_id", .string (Bytes.ofString id)),
    (lcName, .object [(acName, .string (Bytes.ofString code))])]

lemma idOf_account (id code : String) :
    idOf (account id code) = some (.string (Bytes.ofString id)) := rfl

lemma nodup_twoAccounts : ([account "1" "a", account "2" "b"].map idOf).Nodup := by
  have hne : Bytes.ofString "1" ≠ Bytes.ofString "2" := by decide
  simp [idOf_account, hne]

def twoAccounts : AccountRows := ⟨[account "1" "a", account "2" "b"], nodup_twoAccounts⟩

def accountEnv : Env := ⟨fun _ body => body, accountDump, fun plain => plain⟩

/-- The database after a request that comes to a store. -/
def served (st : Store) (m : Method) (req : Bytes) : AccountRows :=
  ((m.handler accountEnv req).run (st.handler textDriver AccountRows.engine ⟨id, []⟩) twoAccounts).2

def deletion : Bytes :=
  Bytes.ofString "DELETE /api/v1/account/account?accountCode=a HTTP/1.1\r\n\r\n"

/-- The account that is named is deleted, and the other one is not. -/
theorem account_changes_iff_deletion :
    OnlyNamed AccountRows.accounts (Bytes.ofString "a") twoAccounts
      (served .client .DELETE deletion) := by
  obtain ⟨http, hreq⟩ : ∃ http, Http.ofBytes accountEnv.decompress deletion = some http :=
    Option.isSome_iff_exists.mp (by decide +kernel)
  have hfields : (Http.ofBytes accountEnv.decompress deletion).map (fun http =>
      (http.uriName, Method.DELETE.code http)) =
        some (Bytes.ofString "/api/v1/account/account", Bytes.ofString "a") := by decide +kernel
  rw [hreq, Option.map_some, Option.some.injEq, Prod.mk.injEq] at hfields
  have hclean : Clean (Bytes.ofString "a") := by decide +kernel
  have hall := (account_changes_iff ⟨id, []⟩ textDriver_faithful AccountRows.lawful .client .DELETE
    hreq hfields.1).mpr (by
      rw [Method.TouchesNamed, hfields.2]
      exact .inr (.inr (.inl ⟨hclean, by decide⟩)))
  rw [hfields.2] at hall
  exact hall twoAccounts

/-- `accountCode` is an `a` and a quote. -/
def quotedDeletion : Bytes :=
  Bytes.ofString "DELETE /api/v1/account/account?accountCode=a%22 HTTP/1.1\r\n\r\n"

/-- No `userId`, and a field to set. -/
def unnamedUpdate : Bytes :=
  Bytes.ofString ("PUT /api/v1/account/account HTTP/1.1\r\nContent-Length: 9\r\n\r\n" ++
    "\x7b\"x\":\"y\"\x7d")

/-- The account is not there as it was, if the database has no document with that text. -/
lemma not_mem_of_texts {db : AccountRows} {name : Bytes} {texts : List (Option Bytes)}
    (h : db.rows.map (fun r => r.text name) = texts) {r : Json} (hr : r.text name ∉ texts) :
    r ∉ AccountRows.accounts.docs db := by
  intro hmem
  rw [AccountRows.mem_docs] at hmem
  rw [← h] at hr
  exact hr (List.mem_map_of_mem hmem)

lemma not_onlyNamed {db db' : AccountRows} {code : Bytes} {r : Json}
    (hmem : r ∈ AccountRows.accounts.docs db) (hr : IsAccount r)
    (hgone : r ∉ AccountRows.accounts.docs db') (hcode : code = [] ∨ codeOf r ≠ some code) :
    ¬ OnlyNamed AccountRows.accounts code db db' := by
  intro hnamed
  rcases hnamed r hmem hr with hkept | ⟨hne, heq, -⟩
  · exact hgone hkept
  · rcases hcode with hnil | hother
    · exact hne hnil
    · exact hother heq

lemma rows_quotedDeletion :
    (served (.proxy (Bytes.ofString "pbx") 1) .DELETE quotedDeletion).rows.map (fun r =>
      r.text (Bytes.ofString "_id")) = [] := by
  decide +kernel

lemma rows_unnamedUpdate :
    (served .client .PUT unnamedUpdate).rows.map (fun r => r.text (Bytes.ofString "x")) =
      List.replicate 2 (some (Bytes.ofString "y")) := by
  decide +kernel

/-- A quote in the code deletes all accounts by way of the agent, and an update without a code
changes all of them. -/
theorem account_changes_touch_all :
    ¬ OnlyNamed AccountRows.accounts (Bytes.ofString "a\"") twoAccounts
        (served (.proxy (Bytes.ofString "pbx") 1) .DELETE quotedDeletion) ∧
      ¬ OnlyNamed AccountRows.accounts [] twoAccounts (served .client .PUT unnamedUpdate) := by
  have haccount : IsAccount (account "1" "a") := ⟨rfl, by decide⟩
  have hmem : account "1" "a" ∈ AccountRows.accounts.docs twoAccounts := List.mem_cons_self
  constructor
  · refine not_onlyNamed hmem haccount (not_mem_of_texts rows_quotedDeletion ?_) (.inr ?_)
    · exact List.not_mem_nil
    · decide
  · refine not_onlyNamed hmem haccount (not_mem_of_texts rows_unnamedUpdate ?_) (.inl rfl)
    decide

end MicroService
