import OnPremPbx.Accounts.AccountRows
import OnPremPbx.Database.Passwords
import OnPremPbx.Text.Updates

/-!
# The migration of passwords

`migrate_account_passwords` (`mongodbc.cpp`) puts a hash in place of the password of every account
that has none yet. An update goes to the accounts with the code of the one it is made for, or to all
of them where that one has no code; the last update that reaches an account is the one that counts.
-/

open Json
open MongodbClient (Passwords kPbkdf2Iterations)

namespace AccountPasswords

open MicroService (lcName acName codePath codeOf accountColl Prog updateCollection)

def hashName : Bytes := Bytes.ofString "passwordHash"
def plainName : Bytes := Bytes.ofString "accountPassword"

def hashPath : Bytes := Bytes.ofString "loginCredentials.passwordHash"
def plainPath : Bytes := Bytes.ofString "loginCredentials.accountPassword"

/-! ### The program -/

/-- The login credentials and the password of a document that is not skipped. -/
def toMigrate (doc : Json) : Option (Json × Bytes) :=
  match doc.field lcName with
  | some lc =>
    if lc.isObject = false then none
    else if (lc.field hashName).isSome then none
    else match lc.text plainName with
      | some plain => if plain = [] then none else some (lc, plain)
      | none       => none
  | none    => none

/-- The filter that asks for a code. -/
def codeFilter (code : Bytes) : Json := .object [(codePath, .string code)]

def filterOf (lc : Json) : Json :=
  match lc.text acName with
  | some code => codeFilter code
  | none      => .object []

def updateOf (hash : Bytes) : Json :=
  .object [(Bytes.ofString "$set", .object [(hashPath, .string hash)]),
    (Bytes.ofString "$unset", .object [(plainPath, .string [])])]

/-- `get_documents` for all documents of a collection. -/
def getDocuments (coll projection : String) : Prog Bytes := do
  match (← Program.perform (.getDocumentsAll (Bytes.ofString coll) (Bytes.ofString projection)) :
      DbValue) with
  | .text s => pure s
  | _       => .throw

variable (c : Passwords) (salts : ℕ → Bytes)

/-- The documents one after another, from the salt that is drawn next. -/
def migrateDocs : ℕ → ℤ → List Json → Prog ℤ
  | _, count, []          => pure count
  | i, count, doc :: docs =>
    match toMigrate doc with
    | none             => migrateDocs i count docs
    | some (lc, plain) => do
      let filter ← Program.ofOption (dumped (filterOf lc))
      let update ← Program.ofOption (dumped (updateOf (c.hashPassword (salts i) plain)))
      let matched ← updateCollection "account" filter update
      migrateDocs (i + 1) (if matched then count + 1 else count) docs

def migrateAccountPasswords : Prog ℤ := do
  let result ← getDocuments "account" "\x7b\x7d"
  if result = [] then pure 0
  else match parse result with
    | some (.array docs) => migrateDocs c salts 0 0 docs
    | _                  => pure 0

/-! ### The store -/

/-- The documents as `get_documents` shows them. -/
def shown (rows : List Json) : Bytes := if rows = [] then [] else (Json.array rows).dump

/-- A store whose `update_collection` applies an update to every document that its filter selects. A
document in which an update cannot be made stays as it is. -/
def store (selects : Json → Json → Bool) :
    Program.Handler (fun _ : DbCall => DbValue) (List Json)
  | .getDocumentsAll coll _, rows                =>
    (some (.text (if coll = accountColl then shown rows else [])), rows)
  | .updateCollection coll filter document, rows =>
    match parse filter, parse document with
    | some f, some u =>
      if coll = accountColl then
        (some (.flag (rows.any (selects f))),
          rows.map fun r => if selects f r then (updated u r).getD r else r)
      else (some (.flag false), rows)
    | _, _           => (none, rows)
  | _, rows                                      => (none, rows)

/-- A document after the update with a hash. -/
def rehashed (hash : Bytes) (r : Json) : Json := (updated (updateOf hash) r).getD r

/-- What the code relies on in the filters. -/
structure Filters (selects : Json → Json → Bool) : Prop where
  empty : ∀ r, selects (.object []) r = true
  code : ∀ {r s}, codeOf r = some s → selects (codeFilter s) r = true
  /-- a filter asks for nothing but what is at its path -/
  frame : ∀ s hash r, selects (codeFilter s) (rehashed hash r) = selects (codeFilter s) r

/-! ### What a migration is for -/

/-- The account has a password and no hash. -/
def HasPlaintext (r : Json) (password : Bytes) : Prop :=
  password ≠ [] ∧ ∃ ms, r.field lcName = some (.object ms) ∧
    (Json.object ms).field hashName = none ∧ (Json.object ms).text plainName = some password

/-- The account has a hash of the password, and no password. -/
def Verifies (r : Json) (password : Bytes) : Prop :=
  ∃ lc hash, r.field lcName = some lc ∧ lc.field plainName = none ∧ lc.text hashName = some hash ∧
    c.verifyPassword password hash = some true

/-- What becomes of an account. -/
structure Kept (before after : Json) : Prop where
  migrated : ∀ password, HasPlaintext before password → Verifies c after password
  unchanged : (∀ password, ¬ HasPlaintext before password) → after = before

/-- The migration comes to an end, and each account is migrated or unchanged. -/
def OnlyOwn (before : List Json) (result : Option ℤ × List Json) : Prop :=
  result.1.isSome ∧ List.Forall₂ (Kept c) before result.2

/-- An update of the migration: the salt, the login credentials and the password it is made with. -/
structure Job where
  salt : Bytes
  lc : Json
  plain : Bytes

/-- The updates for documents, in their order. -/
def jobs : ℕ → List Json → List Job
  | _, []          => []
  | i, doc :: docs =>
    match toMigrate doc with
    | none             => jobs i docs
    | some (lc, plain) => ⟨salts i, lc, plain⟩ :: jobs (i + 1) docs

def Job.hash (j : Job) : Bytes := c.hashPassword j.salt j.plain

/-- The last update that selects a document. -/
def lastJob (selects : Json → Json → Bool) (js : List Job) (r : Json) : Option Job :=
  (js.filter fun j => selects (filterOf j.lc) r).getLast?

/-- An update that an account may come by: one whose password has the same key, or one that makes
nothing new of it. -/
structure Job.Suits (j : Job) (r : Json) : Prop where
  migrated : ∀ password, HasPlaintext r password →
    c.deriveKey password j.salt kPbkdf2Iterations = c.deriveKey j.plain j.salt kPbkdf2Iterations
  unchanged : (∀ password, ¬ HasPlaintext r password) → rehashed (j.hash c) r = r

/-- The last update that selects an account suits it. -/
def OwnUpdates (selects : Json → Json → Bool) (rows : List Json) : Prop :=
  ∀ r ∈ rows, ∀ j ∈ lastJob selects (jobs salts 0 rows) r, j.Suits c r

/-! ### One update -/

section

variable {c} {salts} {selects : Json → Json → Bool} {r : Json} {ms lc : List (Bytes × Json)}

/-- Login credentials after an update. -/
def credentials (hash : Bytes) (lc : List (Bytes × Json)) : List (Bytes × Json) :=
  setMember hashName (.string hash) (lc.filter fun m => m.1 != plainName)

lemma credentials_credentials (hash hash' : Bytes) :
    credentials hash' (credentials hash lc) = credentials hash' lc := by
  rw [credentials, credentials, erase_setMember (by decide), setMember_setMember,
    List.filter_filter]
  simp only [Bool.and_self, credentials]

lemma field_credentials (hash : Bytes) :
    (Json.object (credentials hash lc)).field plainName = none ∧
      (Json.object (credentials hash lc)).text hashName = some hash := by
  constructor
  · rw [credentials, field_setMember_of_ne (by decide), field, Option.map_eq_none_iff,
      List.find?_eq_none]
    intro m hm
    simpa using (List.mem_filter.mp (List.mem_reverse.mp hm)).2
  · exact text_eq_some.mpr field_setMember_self

lemma set_updateOf (hash : Bytes) : (updateOf hash).partOf [0x24, 0x73, 0x65, 0x74] =
    [(hashPath, .string hash)] := rfl

lemma unset_updateOf (hash : Bytes) : (updateOf hash).partOf [0x24, 0x75, 0x6E, 0x73, 0x65, 0x74] =
    [(plainPath, .string [])] := rfl

lemma hashPath_splitOn : hashPath.splitOn 0x2E = [lcName, hashName] := by decide

lemma plainPath_splitOn : plainPath.splitOn 0x2E = [lcName, plainName] := by decide

/-- An update is made in login credentials that are an object, or not there. -/
lemma rehashed_object (hash : Bytes)
    (hlc : ((Json.object ms).field lcName).getD (.object []) = .object lc) :
    rehashed hash (.object ms) =
      .object (setMember lcName (.object (credentials hash lc)) ms) := by
  rw [rehashed, updated, set_updateOf, unset_updateOf]
  simp only [List.foldlM_cons, List.foldlM_nil, List.foldl_cons, List.foldl_nil, hashPath_splitOn,
    plainPath_splitOn, setAt, hlc, Option.map_some, Option.bind_eq_bind, Option.bind_some,
    Option.pure_def, Option.getD_some, unsetAt, field_setMember_self, setMember_setMember, erase,
    erase_setMember (show hashName ≠ plainName by decide), credentials]

/-- Elsewhere it is refused. -/
lemma rehashed_refused (hash : Bytes)
    (hlc : ∀ lc, ((Json.object ms).field lcName).getD (.object []) ≠ .object lc) :
    rehashed hash (.object ms) = .object ms := by
  have hset : setAt [hashName] (.string hash)
      (((Json.object ms).field lcName).getD (.object [])) = none := by
    cases h : ((Json.object ms).field lcName).getD (.object []) with
    | object lc => exact absurd h (hlc lc)
    | _ => rfl
  rw [rehashed, updated, set_updateOf]
  simp only [List.foldlM_cons, hashPath_splitOn]
  rw [setAt, hset]
  rfl

/-- An update makes nothing of a value that is no object. -/
lemma rehashed_of_not_object (hash : Bytes) (h : ∀ ms, r ≠ .object ms) : rehashed hash r = r := by
  have hset : setAt [lcName, hashName] (.string hash) r = none := by
    cases r with
    | object ms => exact absurd rfl (h ms)
    | _ => rfl
  rw [rehashed, updated, set_updateOf]
  simp only [List.foldlM_cons, hashPath_splitOn]
  rw [hset]
  rfl

/-- Of two updates of a document the second one counts. -/
lemma rehashed_rehashed (hash hash' : Bytes) (r : Json) :
    rehashed hash' (rehashed hash r) = rehashed hash' r := by
  by_cases hobject : ∀ ms, r ≠ .object ms
  · rw [rehashed_of_not_object hash hobject]
  · push Not at hobject
    obtain ⟨ms, rfl⟩ := hobject
    by_cases hrefused : ∀ lc, ((Json.object ms).field lcName).getD (.object []) ≠ .object lc
    · rw [rehashed_refused hash hrefused]
    · push Not at hrefused
      obtain ⟨lc, hlc⟩ := hrefused
      rw [rehashed_object hash hlc, rehashed_object hash' hlc, rehashed_object hash'
        (show _ = Json.object (credentials hash lc) by rw [field_setMember_self, Option.getD_some]),
        setMember_setMember, credentials_credentials]

/-- An update with a hash of the password is what an account with a password needs. -/
lemma verifies_rehashed {password hash : Bytes} (h : HasPlaintext r password) :
    Verifies c (rehashed hash r) password ↔ c.verifyPassword password hash = some true := by
  obtain ⟨-, lc, hlc, -, -⟩ := h
  have hrehashed : (rehashed hash r).field lcName = some (.object (credentials hash lc)) := by
    cases r with
    | object ms =>
      rw [rehashed_object hash (show _ = Json.object lc by rw [hlc, Option.getD_some]),
        field_setMember_self]
    | _ => cases hlc
  obtain ⟨hplain, hhash⟩ := @field_credentials lc hash
  constructor
  · rintro ⟨lc', hash', hlc', -, hhash', hverify⟩
    rw [hrehashed, Option.some.injEq] at hlc'
    rw [← hlc', hhash, Option.some.injEq] at hhash'
    rwa [hhash']
  · intro hverify
    exact ⟨_, hash, hrehashed, hplain, hhash, hverify⟩

/-! ### The last update -/

lemma toMigrate_eq_some {l : Json} {plain : Bytes} (h : toMigrate r = some (l, plain)) :
    r.field lcName = some l ∧ HasPlaintext r plain := by
  rw [toMigrate] at h
  split at h
  · split_ifs at h with hobject hhash
    split at h
    · split_ifs at h with hplain
      cases h
      refine ⟨by assumption, hplain, ?_⟩
      cases l with
      | object lc =>
        exact ⟨lc, by assumption, Option.not_isSome_iff_eq_none.mp hhash, by assumption⟩
      | _ => exact absurd rfl hobject
    · cases h
  · cases h

lemma toMigrate_of_hasPlaintext {password : Bytes} (h : HasPlaintext r password) :
    ∃ l, toMigrate r = some (l, password) := by
  obtain ⟨hne, lc, hlc, hhash, hplain⟩ := h
  refine ⟨.object lc, ?_⟩
  rw [toMigrate, hlc]
  dsimp only
  rw [if_neg (by simp [isObject]), hhash, hplain]
  dsimp only
  rw [if_neg (by decide), if_neg hne]

lemma job_of_toMigrate {rows : List Json} {l : Json} {plain : Bytes} (hr : r ∈ rows)
    (h : toMigrate r = some (l, plain)) (i : ℕ) :
    ∃ j ∈ jobs salts i rows, j.lc = l ∧ j.plain = plain := by
  induction rows generalizing i with
  | nil => cases hr
  | cons doc docs ih =>
    rw [jobs]
    rcases List.mem_cons.mp hr with rfl | hdocs
    · rw [h]
      exact ⟨_, List.mem_cons_self, rfl, rfl⟩
    · cases toMigrate doc with
      | none => exact ih hdocs i
      | some m =>
        obtain ⟨j, hj, heq⟩ := ih hdocs (i + 1)
        exact ⟨j, List.mem_cons_of_mem _ hj, heq⟩

lemma salt_of_job {rows : List Json} {j : Job} {i : ℕ} (hj : j ∈ jobs salts i rows) :
    ∃ k, j.salt = salts k := by
  induction rows generalizing i with
  | nil => cases hj
  | cons doc docs ih =>
    rw [jobs] at hj
    cases hdoc : toMigrate doc with
    | none =>
      rw [hdoc] at hj
      exact ih hj
    | some m =>
      rw [hdoc] at hj
      rcases List.mem_cons.mp hj with rfl | hj
      · exact ⟨i, rfl⟩
      · exact ih hj

variable (c) in
/-- The document after the updates. -/
def migrated (selects : Json → Json → Bool) (js : List Job) (r : Json) : Json :=
  js.foldl (fun r j => if selects (filterOf j.lc) r then rehashed (j.hash c) r else r) r

lemma Filters.filterOf_rehashed (hsel : Filters selects) (lc : Json) (hash : Bytes) (r : Json) :
    selects (filterOf lc) (rehashed hash r) = selects (filterOf lc) r := by
  rw [filterOf]
  cases lc.text acName with
  | some s => exact hsel.frame s hash r
  | none => exact (hsel.empty _).trans (hsel.empty _).symm

lemma Filters.migrated_eq (hsel : Filters selects) (js : List Job) (r : Json) :
    migrated c selects js r = (lastJob selects js r).elim r fun j => rehashed (j.hash c) r :=
  foldl_eq_last (fun j j' r => rehashed_rehashed (j.hash c) (j'.hash c) r)
    (fun j j' r => hsel.filterOf_rehashed j'.lc (j.hash c) r) js r

/-- The update that is made for an account selects it. -/
lemma Filters.selects_own (hsel : Filters selects) {l : Json} (h : r.field lcName = some l) :
    selects (filterOf l) r = true := by
  rw [filterOf]
  cases hcode : l.text acName with
  | some s =>
    apply hsel.code
    rw [codeOf, h, Option.bind_some, hcode]
  | none => exact hsel.empty r

lemma Filters.lastJob_isSome (hsel : Filters selects) {rows : List Json} (hr : r ∈ rows)
    {password : Bytes} (h : HasPlaintext r password) :
    ∃ j, lastJob selects (jobs salts 0 rows) r = some j := by
  obtain ⟨l, hl⟩ := toMigrate_of_hasPlaintext h
  obtain ⟨j, hj, rfl, -⟩ := job_of_toMigrate hr hl 0
  rw [← Option.isSome_iff_exists, lastJob, List.getLast?_isSome]
  apply List.ne_nil_of_mem
  exact List.mem_filter.mpr ⟨hj, hsel.selects_own (toMigrate_eq_some hl).1⟩

/-! ### The run -/

lemma ascii_of_all {s : Bytes} (h : (s.all fun b => decide (b < 0x80)) = true) :
    ∀ b ∈ s, b < 0x80 := fun b hb => of_decide_eq_true (List.all_eq_true.mp h b hb)

lemma valid_hashPassword (hascii : ∀ s, ∀ b ∈ c.encode s, b < 0x80) (salt password : Bytes) :
    Utf8.Valid (c.hashPassword salt password) := by
  apply valid_of_ascii
  intro b hb
  simp only [Passwords.hashPassword, List.mem_append] at hb
  have hfront : ∀ b ∈ Bytes.ofString "$pbkdf2-sha256$i=", b < 0x80 := ascii_of_all (by decide)
  have hdollar : ∀ b ∈ Bytes.ofString "$", b < 0x80 := ascii_of_all (by decide)
  rcases hb with ((((hb | hb) | hb) | hb) | hb) | hb
  · exact hfront b hb
  · have hdigit := (Decimal.isDigit_of_mem hb).1
    simp only [Json.isDigit, decide_eq_true_eq] at hdigit
    exact UInt8.lt_of_le_of_lt hdigit.2 (by decide)
  · exact hdollar b hb
  · exact hascii _ b hb
  · exact hdollar b hb
  · exact hascii _ b hb

lemma parse_updateOf {hash : Bytes} (h : Utf8.Valid hash) :
    ∃ text, dumped (updateOf hash) = some text ∧ parse text = some (updateOf hash) := by
  have hwritable : (updateOf hash).writable = true := by
    have hnames : Utf8.Valid (Bytes.ofString "$set") ∧ Utf8.Valid (Bytes.ofString "$unset") ∧
        Utf8.Valid hashPath ∧ Utf8.Valid plainPath :=
      ⟨valid_of_ascii (ascii_of_all (by decide)), valid_of_ascii (ascii_of_all (by decide)),
        valid_of_ascii (ascii_of_all (by decide)), valid_of_ascii (ascii_of_all (by decide))⟩
    simp [updateOf, writable, writableMembers, hnames, h, Utf8.valid_nil]
  exact ⟨_, if_pos hwritable, parse_dump hwritable⟩

lemma parse_filterOf {l : Json} (h : l.writable = true) :
    ∃ text, dumped (filterOf l) = some text ∧ parse text = some (filterOf l) := by
  have hwritable : (filterOf l).writable = true := by
    rw [filterOf]
    cases hcode : l.text acName with
    | some s =>
      have hs := writable_of_field h (text_eq_some.mp hcode)
      have hpath : Utf8.Valid codePath := valid_of_ascii (ascii_of_all (by decide))
      simpa [codeFilter, writable, writableMembers, hpath] using hs
    | none => rfl
  exact ⟨_, if_pos hwritable, parse_dump hwritable⟩

/-- The documents of the store after an update. -/
lemma store_updateCollection {filter update : Bytes} {f u : Json} (hf : parse filter = some f)
    (hu : parse update = some u) (rows : List Json) :
    (updateCollection "account" filter update).run (store selects) rows =
      (some (rows.any (selects f)),
        rows.map fun r => if selects f r then (updated u r).getD r else r) := by
  have hhandler : store selects (.updateCollection (Bytes.ofString "account") filter update) rows =
      (some (.flag (rows.any (selects f))),
        rows.map fun r => if selects f r then (updated u r).getD r else r) := by
    rw [store, hf, hu]
    exact if_pos rfl
  rw [updateCollection, MicroService.flagOf, Program.run_bind, Program.run_perform, hhandler]
  rfl

/-- The loop makes the updates one after another. -/
lemma run_migrateDocs (hascii : ∀ s, ∀ b ∈ c.encode s, b < 0x80) {docs : List Json}
    (hdocs : ∀ r ∈ docs, r.writable = true) (i : ℕ) (count : ℤ) (rows : List Json) :
    ∃ n, (migrateDocs c salts i count docs).run (store selects) rows =
      (some n, rows.map (migrated c selects (jobs salts i docs))) := by
  induction docs generalizing i count rows with
  | nil =>
    refine ⟨count, ?_⟩
    rw [jobs, show migrated c selects [] = id from rfl, List.map_id]
    rfl
  | cons doc docs ih =>
    rw [List.forall_mem_cons] at hdocs
    rw [migrateDocs, jobs]
    cases hdoc : toMigrate doc with
    | none => exact ih hdocs.2 i count rows
    | some m =>
      obtain ⟨l, plain⟩ := m
      have hl := writable_of_field hdocs.1 (toMigrate_eq_some hdoc).1
      obtain ⟨filter, hfilter, hf⟩ := parse_filterOf hl
      obtain ⟨update, hupdate, hu⟩ := parse_updateOf (valid_hashPassword hascii (salts i) plain)
      obtain ⟨n, hn⟩ := ih hdocs.2 (i + 1)
        (if rows.any (selects (filterOf l)) then count + 1 else count)
        (rows.map fun r => if selects (filterOf l) r
          then rehashed (c.hashPassword (salts i) plain) r else r)
      refine ⟨n, ?_⟩
      dsimp only
      rw [hfilter, hupdate, Program.run_bind, Program.run_ofOption]
      dsimp only
      rw [Program.run_bind, Program.run_ofOption]
      dsimp only
      rw [Program.run_bind, store_updateCollection hf hu]
      dsimp only
      refine hn.trans ?_
      rw [List.map_map]
      rfl

/-- The documents that are shown are the documents that are read. -/
lemma run_migrateAccountPasswords (hascii : ∀ s, ∀ b ∈ c.encode s, b < 0x80) {rows : List Json}
    (hrows : ∀ r ∈ rows, r.writable = true) :
    ∃ n, (migrateAccountPasswords c salts).run (store selects) rows =
      (some n, rows.map (migrated c selects (jobs salts 0 rows))) := by
  have hget : (getDocuments "account" "\x7b\x7d").run (store selects) rows =
      (some (shown rows), rows) := rfl
  rw [migrateAccountPasswords, Program.run_bind, hget]
  dsimp only
  by_cases hnil : rows = []
  · subst hnil
    exact ⟨0, rfl⟩
  · have hwritable : (Json.array rows).writable = true := by
      rw [writable]
      clear hget hnil
      induction rows with
      | nil => rfl
      | cons r rows ih =>
        rw [List.forall_mem_cons] at hrows
        rw [writableElems, hrows.1, ih hrows.2]
        rfl
    have hshown : shown rows = (Json.array rows).dump := if_neg hnil
    have hne : shown rows ≠ [] := by
      rw [hshown, dump]
      exact List.cons_ne_nil _ _
    rw [if_neg hne, hshown, parse_dump hwritable]
    exact run_migrateDocs hascii hrows 0 0 rows

/-! ### What becomes of the accounts -/

/-- What becomes of an account follows from the last update that selects it. -/
lemma Filters.kept_iff (hsel : Filters selects) (hc : c.Lawful) (hsalts : ∀ i, salts i ≠ [])
    {rows : List Json} (hr : r ∈ rows) :
    Kept c r (migrated c selects (jobs salts 0 rows) r) ↔
      ∀ j ∈ lastJob selects (jobs salts 0 rows) r, j.Suits c r := by
  rw [hsel.migrated_eq]
  cases hlast : lastJob selects (jobs salts 0 rows) r with
  | none =>
    refine iff_of_true ⟨fun password h => ?_, fun _ => rfl⟩ nofun
    obtain ⟨j, hj⟩ : ∃ j, lastJob selects (jobs salts 0 rows) r = some j :=
      hsel.lastJob_isSome hr h
    rw [hlast] at hj
    cases hj
  | some j =>
    have hsalt : j.salt ≠ [] := by
      have hj := List.mem_of_getLast? hlast
      obtain ⟨k, hk⟩ := salt_of_job (List.mem_filter.mp hj).1
      rw [hk]
      exact hsalts k
    have hverify : ∀ password, c.verifyPassword password (j.hash c) = some true ↔
        c.deriveKey password j.salt kPbkdf2Iterations =
          c.deriveKey j.plain j.salt kPbkdf2Iterations := by
      intro password
      rw [Job.hash, Passwords.verifyPassword_hashPassword hc hsalt, Option.some.injEq,
        decide_eq_true_eq]
    rw [Option.elim_some]
    constructor
    · rintro ⟨hmigrated, hunchanged⟩ j' hj'
      obtain rfl : j = j' := Option.some.inj hj'
      exact ⟨fun password h => (hverify password).mp ((verifies_rehashed h).mp
        (hmigrated password h)), hunchanged⟩
    · intro h
      obtain ⟨hmigrated, hunchanged⟩ := h j rfl
      exact ⟨fun password h => (verifies_rehashed h).mpr ((hverify password).mpr
        (hmigrated password h)), hunchanged⟩

lemma Filters.onlyOwn_iff (hsel : Filters selects) (hc : c.Lawful)
    (hascii : ∀ s, ∀ b ∈ c.encode s, b < 0x80) (hsalts : ∀ i, salts i ≠ []) {rows : List Json}
    (hrows : ∀ r ∈ rows, r.writable = true) :
    OnlyOwn c rows ((migrateAccountPasswords c salts).run (store selects) rows) ↔
      OwnUpdates c salts selects rows := by
  obtain ⟨n, hrun⟩ : ∃ n, (migrateAccountPasswords c salts).run (store selects) rows =
      (some n, rows.map (migrated c selects (jobs salts 0 rows))) :=
    run_migrateAccountPasswords hascii hrows
  rw [hrun, OnlyOwn]
  dsimp only
  rw [Option.isSome_some, and_iff_right rfl, List.forall₂_map_right_iff, List.forall₂_same]
  exact forall₂_congr fun r hr => hsel.kept_iff hc hsalts hr

/-- A migration leaves an account with its own password, or as it was, exactly if the last update
that selects the account suits it. -/
theorem migrateAccountPasswords_onlyOwn_iff (hc : c.Lawful)
    (hascii : ∀ s, ∀ b ∈ c.encode s, b < 0x80) (hsalts : ∀ i, salts i ≠ [])
    (hsel : Filters selects) {rows : List Json} (hrows : ∀ r ∈ rows, r.writable = true) :
    OnlyOwn c rows ((migrateAccountPasswords c salts).run (store selects) rows) ↔
      OwnUpdates c salts selects rows :=
  hsel.onlyOwn_iff hc hascii hsalts hrows

end

/-! ### Accounts that share an update -/

/-- A filter that asks for strings. -/
def asksAll (f r : Json) : Bool :=
  match f with
  | .object ms => ms.all (MicroService.AccountRows.asks r)
  | _          => false

lemma codeOf_eq (r : Json) : codeOf r = ((r.field lcName).getD (.object [])).text acName := by
  rw [codeOf]
  cases r.field lcName <;> rfl

lemma codeOf_rehashed (hash : Bytes) (r : Json) : codeOf (rehashed hash r) = codeOf r := by
  by_cases hobject : ∀ ms, r ≠ .object ms
  · rw [rehashed_of_not_object hash hobject]
  · push Not at hobject
    obtain ⟨ms, rfl⟩ := hobject
    by_cases hrefused : ∀ lc, ((Json.object ms).field lcName).getD (.object []) ≠ .object lc
    · rw [rehashed_refused hash hrefused]
    · push Not at hrefused
      obtain ⟨lc, hlc⟩ := hrefused
      have herase := field_erase (j := .object lc) (show plainName ≠ acName by decide)
      rw [codeOf_eq, codeOf_eq, rehashed_object hash hlc, field_setMember_self, hlc,
        Option.getD_some, text, text, credentials, field_setMember_of_ne (by decide), ← herase]
      rfl

lemma filters_asksAll : Filters asksAll where
  empty r := rfl
  code hcode := by
    change (_ && true) = true
    rw [Bool.and_true]
    exact MicroService.AccountRows.asks_code.mpr hcode
  frame s hash r := by
    have hasks : MicroService.AccountRows.asks (rehashed hash r) (codePath, .string s) =
        MicroService.AccountRows.asks r (codePath, .string s) := by
      rw [Bool.eq_iff_iff, MicroService.AccountRows.asks_code, MicroService.AccountRows.asks_code,
        codeOf_rehashed]
    exact congrArg (· && true) hasks

def account (members : List (String × String)) : Json :=
  .object [(lcName, .object (members.map fun m =>
    (Bytes.ofString m.1, .string (Bytes.ofString m.2))))]

def oneSalt : ℕ → Bytes := fun _ => List.replicate 16 0x5A

theorem migrateAccountPasswords_onlyOwn_iff_account :
    OnlyOwn .plain [account [("accountCode", "a"), ("accountPassword", "p")]]
      ((migrateAccountPasswords .plain oneSalt).run (store asksAll)
        [account [("accountCode", "a"), ("accountPassword", "p")]]) ↔
      OwnUpdates .plain oneSalt asksAll
        [account [("accountCode", "a"), ("accountPassword", "p")]] :=
  migrateAccountPasswords_onlyOwn_iff Passwords.plain_lawful
    AriRestClient.ascii_of_mem_base64Encode (fun _ => List.cons_ne_nil _ _) filters_asksAll
    (fun r hr => by
      rw [List.mem_singleton] at hr
      subst hr
      decide)

/-- An account without a code has its hash put into all accounts, and of two accounts with one code
the first one gets the hash of the second. -/
theorem migration_reaches_others :
    ¬ OnlyOwn .plain
      [account [("accountPassword", "p")], account [("accountCode", "b"), ("passwordHash", "h")]]
      ((migrateAccountPasswords .plain oneSalt).run (store asksAll)
        [account [("accountPassword", "p")],
          account [("accountCode", "b"), ("passwordHash", "h")]]) ∧
    ¬ OnlyOwn .plain
      [account [("accountCode", "a"), ("accountPassword", "p")],
        account [("accountCode", "a"), ("accountPassword", "q")]]
      ((migrateAccountPasswords .plain oneSalt).run (store asksAll)
        [account [("accountCode", "a"), ("accountPassword", "p")],
          account [("accountCode", "a"), ("accountPassword", "q")]]) := by
  have hsalts : ∀ i, oneSalt i ≠ [] := fun _ => List.cons_ne_nil _ _
  constructor
  · rw [filters_asksAll.onlyOwn_iff Passwords.plain_lawful
      AriRestClient.ascii_of_mem_base64Encode hsalts (by decide)]
    intro h
    have hsame := (h _ (List.mem_cons_of_mem _ List.mem_cons_self)
      ⟨oneSalt 0, _, Bytes.ofString "p"⟩ rfl).unchanged ?_
    · have htext := congrArg (fun r => (r.field lcName).bind fun lc => lc.text hashName) hsame
      exact absurd htext (by decide)
    · rintro password ⟨-, lc, hlc, hhash, -⟩
      cases hlc
      cases hhash
  · rw [filters_asksAll.onlyOwn_iff Passwords.plain_lawful
      AriRestClient.ascii_of_mem_base64Encode hsalts (by decide)]
    intro h
    have hkey := (h _ List.mem_cons_self ⟨oneSalt 1, _, Bytes.ofString "q"⟩ rfl).migrated
      (Bytes.ofString "p") ⟨by decide, _, rfl, rfl, rfl⟩
    exact absurd hkey (by decide)

end AccountPasswords
