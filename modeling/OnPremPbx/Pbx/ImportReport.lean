import OnPremPbx.Ari.AriRestClient
import OnPremPbx.Database.Passwords
import OnPremPbx.Http.HeaderText
import OnPremPbx.Pbx.Filters
import OnPremPbx.Pbx.ImportRows
import OnPremPbx.Text.Csv

/-!
# The report of an import

The import answers with a table: a line for each row, with the credentials of the subscriber that
was created for it, or without where there was one already. What `create_document` answers is not
looked at, and the filter of the lookup is put together without escapes; the report is true as long
as the store stores and the lookup finds what was meant.
-/

open Json

namespace MicroServicePbx

/-! ### Lines -/

/-- The fields of a row that are repeated. -/
def rowFields (header row : List Bytes) : List Bytes :=
  [column header row "flat_number", column header row "name", column header row "email"]

def skippedFields (header row : List Bytes) : List Bytes :=
  rowFields header row ++ [[], [], [], Bytes.ofString "skipped"]

def createdFields (header row : List Bytes) (sipUsername sipPassword portalPassword : Bytes) :
    List Bytes :=
  rowFields header row ++ [sipUsername, sipPassword, portalPassword, Bytes.ofString "created"]

/-- The line tells of a subscriber that was created. -/
def isCreated (fields : List Bytes) : Bool := fields.getLast? = some (Bytes.ofString "created")

def columnNames : List Bytes :=
  ["flat_number", "name", "email", "sipUsername", "sipPassword", "portalPassword", "status"].map
    Bytes.ofString

/-- The text of a line. -/
def lineText (fields : List Bytes) : Bytes := csvLine (fields.map csvEscape)

lemma isCreated_createdFields (header row : List Bytes) (u p q : Bytes) :
    isCreated (createdFields header row u p q) = true := by
  rw [isCreated, createdFields, List.getLast?_append]
  rfl

lemma isCreated_skippedFields (header row : List Bytes) :
    isCreated (skippedFields header row) = false := by
  have hskipped : Bytes.ofString "skipped" ≠ Bytes.ofString "created" := by decide
  rw [isCreated, skippedFields, List.getLast?_append]
  simpa using hskipped

lemma createdFields_ne_skippedFields {header row row' : List Bytes} {u p q : Bytes} :
    createdFields header row u p q ≠ skippedFields header row' := by
  intro heq
  have hcreated := isCreated_createdFields header row u p q
  rw [heq, isCreated_skippedFields] at hcreated
  cases hcreated

lemma csvEscape_of_isText {field : Bytes} (h : ∀ c ∈ field, Csv.isText c = true) :
    csvEscape field = field := if_pos (List.all_eq_true.mpr h)

lemma isFieldText_csvEscape (field : Bytes) : Csv.IsFieldText field (csvEscape field) := by
  by_cases h : ∀ c ∈ field, Csv.isText c = true
  · rw [csvEscape_of_isText h]
    exact Csv.IsFieldText.plain h
  · have hquoted : csvEscape field = Csv.quote :: Csv.doubled field ++ [Csv.quote] :=
      if_neg fun hall => h (List.all_eq_true.mp hall)
    rw [hquoted]
    exact Csv.IsFieldText.quoted

/-- A line is one of RFC 4180. -/
lemma isLine_lineText {fields : List Bytes} (hne : fields ≠ []) :
    Csv.IsLine fields (lineText fields) := by
  refine ⟨hne, _, ?_, rfl⟩
  exact List.forall₂_map_right_iff.mpr (List.forall₂_same.mpr fun f _ => isFieldText_csvEscape f)

lemma skippedLine_eq (header row : List Bytes) :
    skippedLine header row = lineText (skippedFields header row) := by
  have hskipped : csvEscape (Bytes.ofString "skipped") = Bytes.ofString "skipped" := by decide
  rw [lineText, skippedFields, rowFields, List.map_append]
  simp only [List.map_cons, List.map_nil, hskipped]
  rfl

lemma reportHeader_eq : reportHeader = lineText columnNames := by decide

/-! ### Draws -/

def alphabet : Bytes :=
  Bytes.ofString "ABCDEFGHIJKLMNOPQRSTUVWXYZabcdefghijklmnopqrstuvwxyz0123456789"

/-- `random_alnum`, of the bytes that it draws. -/
def randomAlnum (buf : Bytes) : Bytes := buf.map fun b => alphabet.getD (b.toNat % 62) 0

lemma isText_randomAlnum {buf : Bytes} : ∀ c ∈ randomAlnum buf, Csv.isText c = true := by
  have halphabet : ∀ n < 62, Csv.isText (alphabet.getD n 0) = true := by decide +kernel
  intro c hc
  obtain ⟨b, -, rfl⟩ := List.mem_map.mp hc
  exact halphabet _ (Nat.mod_lt _ (by decide))

/-- The credentials come from random bytes, and the hash is the one of `hash_password`. -/
structure Env.Draws (env : Env) (c : MongodbClient.Passwords) : Prop where
  randomAlnum : ∀ i n, ∃ buf, env.randomAlnum i n = MicroServicePbx.randomAlnum buf
  hashPassword : ∀ i password, ∃ salt, salt ≠ [] ∧
    env.hashPassword i password = c.hashPassword salt password

lemma Env.Draws.isText {env : Env} {c : MongodbClient.Passwords} (henv : env.Draws c)
    (i n : ℕ) : ∀ b ∈ env.randomAlnum i n, Csv.isText b = true := by
  obtain ⟨buf, hbuf⟩ := henv.randomAlnum i n
  rw [hbuf]
  exact isText_randomAlnum

lemma Env.Draws.csvEscape {env : Env} {c : MongodbClient.Passwords} (henv : env.Draws c)
    (i n : ℕ) : csvEscape (env.randomAlnum i n) = env.randomAlnum i n :=
  csvEscape_of_isText (henv.isText i n)

/-! ### The response -/

/-- The fields of a response. -/
def fieldsOf (resp : Bytes) : List (Bytes × Bytes) := headerFields (extractHeader resp)

def bodyOf (resp : Bytes) : Bytes := resp.drop (extractHeader resp).length

/-- The fields of the response to an import. -/
def importFields (outCsv : Bytes) (created skipped : ℕ) : List (Bytes × Bytes) :=
  [(Bytes.ofString "Connection", Bytes.ofString "keep-alive"),
    (Bytes.ofString "Access-Control-Allow-Origin", Bytes.ofString "*"),
    (Bytes.ofString "X-Import-Created", ofNat created),
    (Bytes.ofString "X-Import-Skipped", ofNat skipped),
    (Bytes.ofString "Content-Length", ofNat outCsv.length),
    (Bytes.ofString "Content-Type", Bytes.ofString "text/csv"),
    (Bytes.ofString "Content-Disposition",
      Bytes.ofString "attachment; filename=\"subscriber_credentials.csv\"")]

def statusLine : Bytes := Bytes.ofString "HTTP/1.1 200 OK"

lemma importResponse_eq (outCsv : Bytes) (created skipped : ℕ) :
    importResponse outCsv created skipped =
      Http.headerText statusLine (importFields outCsv created skipped) ++ outCsv := by
  have hstatus : Bytes.ofString "HTTP/1.1 200 OK\r\n" = statusLine ++ CRLF := by decide
  have hopening : Bytes.ofString "Connection: keep-alive\r\nAccess-Control-Allow-Origin: *\r\n" =
      Bytes.ofString "Connection" ++ 0x3A :: 0x20 :: Bytes.ofString "keep-alive" ++ CRLF ++
        (Bytes.ofString "Access-Control-Allow-Origin" ++ 0x3A :: 0x20 :: Bytes.ofString "*" ++
          CRLF) := by
    decide
  have hcreated : Bytes.ofString "X-Import-Created: " =
      Bytes.ofString "X-Import-Created" ++ [0x3A, 0x20] := by decide
  have hskipped : Bytes.ofString "X-Import-Skipped: " =
      Bytes.ofString "X-Import-Skipped" ++ [0x3A, 0x20] := by decide
  have hlength : Bytes.ofString "Content-Length: " =
      Bytes.ofString "Content-Length" ++ [0x3A, 0x20] := by decide
  have htype : Bytes.ofString "Content-Type: text/csv\r\n" =
      Bytes.ofString "Content-Type" ++ 0x3A :: 0x20 :: Bytes.ofString "text/csv" ++ CRLF := by
    decide
  have hend : Bytes.ofString
      "Content-Disposition: attachment; filename=\"subscriber_credentials.csv\"\r\n\r\n" =
      Bytes.ofString "Content-Disposition" ++ 0x3A :: 0x20 ::
        Bytes.ofString "attachment; filename=\"subscriber_credentials.csv\"" ++ CRLF ++
        CRLF := by
    decide
  rw [importResponse, hstatus, hopening, hcreated, hskipped, hlength, htype, hend]
  simp only [Http.headerText, importFields, List.map_cons, List.map_nil, Http.textLines,
    Http.fieldLine, List.append_assoc, List.cons_append, List.nil_append]

lemma isField_ofNat {name : Bytes} (hname : Http.IsField (name, [])) (n : ℕ) :
    Http.IsField (name, ofNat n) := by
  have hdigit : ∀ c ∈ ofNat n, Json.isDigit c = true := fun c hc => (Decimal.isDigit_of_mem hc).1
  have hCR : Http.CR ∉ ofNat n := fun hmem => absurd (hdigit _ hmem) (by decide)
  have hLF : Http.LF ∉ ofNat n := fun hmem => absurd (hdigit _ hmem) (by decide)
  refine ⟨hname.colon, fun hmem => ?_, fun hmem => ?_⟩
  · exact (List.mem_append.mp hmem).elim
      (fun hmem => hname.noCR (List.mem_append_left _ hmem)) hCR
  · exact (List.mem_append.mp hmem).elim
      (fun hmem => hname.noLF (List.mem_append_left _ hmem)) hLF

lemma isField_importFields {outCsv : Bytes} {created skipped : ℕ} :
    ∀ f ∈ importFields outCsv created skipped, Http.IsField f := by
  simp only [importFields, List.forall_mem_cons, List.not_mem_nil, false_implies, implies_true,
    and_true]
  refine ⟨?_, ?_, isField_ofNat ?_ _, isField_ofNat ?_ _, isField_ofNat ?_ _, ?_, ?_⟩
  all_goals exact ⟨by decide, by decide, by decide⟩

lemma fieldsOf_importResponse (outCsv : Bytes) (created skipped : ℕ) :
    fieldsOf (importResponse outCsv created skipped) = importFields outCsv created skipped := by
  rw [fieldsOf, importResponse_eq, Http.extractHeader_headerText (by decide) isField_importFields,
    Http.headerFields_headerText (by decide) isField_importFields]

lemma bodyOf_importResponse (outCsv : Bytes) (created skipped : ℕ) :
    bodyOf (importResponse outCsv created skipped) = outCsv := by
  rw [bodyOf, importResponse_eq, Http.extractHeader_headerText (by decide) isField_importFields,
    List.drop_left]

/-! ### The store -/

/-- The field is the string, or a list with it: a filter that asks for the string selects both. -/
def HasText (d : Json) (name value : Bytes) : Prop :=
  d.field name = some (.string value) ∨
    ∃ es, d.field name = some (.array es) ∧ Json.string value ∈ es

section

variable {σ : Type} {h : Program.Handler Answer σ}

/-- How the store answers and keeps what it is given. Whether it stores a document at all, and what
it answers then, is left open. -/
structure DocumentStore.Keeps (st : DocumentStore h) (dump : Json → Option Bytes) : Prop
    extends st.Appends where
  /-- a query that finds something finds a document that its filter selects -/
  found : ∀ {coll query projection members s text},
    (h (.db (.getDocument coll query projection) members) s).1 = some (.text text) → text ≠ [] →
      ∃ d ∈ st.docs s coll, st.selects query d = true
  /-- a filter of strings selects documents with these strings -/
  selects : ∀ {ms query}, Reads query ms → (∀ m ∈ ms, IsFieldName m.1) →
    ∀ {d}, st.selects query d = true → ∀ m ∈ ms, HasText d m.1 m.2
  /-- a document that is stored has the fields that it was given -/
  stored : ∀ {ms doc}, dump (.object ms) = some doc → ∀ {dbName coll members s d},
    st.docs (h (.db (.createDocument dbName coll doc) members) s).2 coll = st.docs s coll ++ [d] →
      ∀ name ≠ Bytes.ofString "_id", d.field name = (Json.object ms).field name

/-- What the import takes for granted of an operation: a subscriber that it creates is stored, and
where it finds a subscriber, its filter reads as it was meant or such a subscriber is there. -/
def Sound (st : DocumentStore h) : Op → σ → Prop
  | .db (.createDocument dbName coll doc) members, s =>
    coll = Bytes.ofString "subscribers" →
      st.subscribers (h (.db (.createDocument dbName coll doc) members) s).2 ≠ st.subscribers s
  | .db (.getDocument coll query projection) members, s =>
    coll = Bytes.ofString "subscribers" → ∀ text ≠ [],
      (h (.db (.getDocument coll query projection) members) s).1 = some (.text text) →
        Reads query members ∨ ∃ d ∈ st.subscribers s, ∀ m ∈ members, HasText d m.1 m.2
  | _, _ => True

/-! ### Reports -/

section

variable (env : Env) (c : MongodbClient.Passwords) (societyId realm : Bytes) (header : List Bytes)

/-- The digest of a user name, a realm and a password: `compute_sip_ha1`. -/
def computeSipHa1 (sipUsername realm sipPassword : Bytes) : Bytes :=
  env.md5Hex (sipUsername ++ Bytes.ofString ":" ++ realm ++ Bytes.ofString ":" ++ sipPassword)

/-- The subscriber has the user name, and both passwords are verified by what it has. -/
structure HasCredentials (sipUsername sipPassword portalPassword : Bytes) (d : Json) : Prop where
  user : d.text (Bytes.ofString "sipUsername") = some sipUsername
  ha1 : d.text (Bytes.ofString "sipHa1") = some (computeSipHa1 env sipUsername realm sipPassword)
  portal : ∃ hash, d.text (Bytes.ofString "portalPasswordHash") = some hash ∧
    c.verifyPassword portalPassword hash = some true

/-- The lines are true of the rows, one after the other: what was created is a subscriber more, and
what was skipped had a subscriber with its email before. The subscribers are those before the rows
and those after them. -/
inductive Report :
    List Json → List (List Bytes) → List (List Bytes) → List Json → Prop
  | nil (docs : List Json) : Report docs [] [] docs
  | created {docs docs' : List Json} {rows lines : List (List Bytes)} (row : List Bytes)
      (sipUsername sipPassword portalPassword : Bytes) (d : Json) :
      HasCredentials env c realm sipUsername sipPassword portalPassword d →
      Report (docs ++ [d]) rows lines docs' →
      Report docs (row :: rows)
        (createdFields header row sipUsername sipPassword portalPassword :: lines) docs'
  | skipped {docs docs' : List Json} {rows lines : List (List Bytes)} (row : List Bytes)
      (d : Json) : d ∈ docs → (∀ m ∈ (emailFilter societyId header row).members,
        HasText d m.1 m.2) →
      Report docs rows lines docs' →
      Report docs (row :: rows) (skippedFields header row :: lines) docs'

/-- The response to an import of these rows is true, with the subscribers before and after it. -/
structure Truthful (rows : List (List Bytes)) (resp : Bytes) (docs docs' : List Json) : Prop where
  counts : ∃ created skipped,
    (fieldsOf resp).lookup (Bytes.ofString "X-Import-Created") = some (ofNat created) ∧
    (fieldsOf resp).lookup (Bytes.ofString "X-Import-Skipped") = some (ofNat skipped) ∧
    created + skipped = rows.length
  lines : ∃ lines, Csv.read (bodyOf resp) = some (columnNames :: lines) ∧
    Report env c societyId realm header docs rows lines docs'

end

variable {env : Env} {c : MongodbClient.Passwords} {societyId realm : Bytes} {header : List Bytes}
  {docs docs' : List Json} {rows lines : List (List Bytes)}

/-- There is a line for every row. -/
lemma Report.length_lines (hreport : Report env c societyId realm header docs rows lines docs') :
    lines.length = rows.length := by
  induction hreport with
  | nil => rfl
  | created _ _ _ _ _ _ _ ih => rw [List.length_cons, List.length_cons, ih]
  | skipped _ _ _ _ _ ih => rw [List.length_cons, List.length_cons, ih]

/-- There are as many subscribers more as lines that tell of one. -/
lemma Report.length_docs (hreport : Report env c societyId realm header docs rows lines docs') :
    docs'.length = docs.length + lines.countP isCreated := by
  induction hreport with
  | nil => rfl
  | created row u p q d _ _ ih =>
    rw [ih, List.length_append, List.length_singleton,
      List.countP_cons_of_pos (isCreated_createdFields header row u p q)]
    omega
  | skipped row _ _ _ _ ih =>
    rw [ih, List.countP_cons_of_neg (by simp [isCreated_skippedFields header row])]

lemma Report.docs_prefix (hreport : Report env c societyId realm header docs rows lines docs') :
    docs <+: docs' := by
  induction hreport with
  | nil => exact List.prefix_rfl
  | created _ _ _ _ _ _ _ ih => exact (List.prefix_append _ _).trans ih
  | skipped _ _ _ _ _ ih => exact ih

/-- The subscriber that a line tells of is there at the end. -/
lemma Report.exists_created
    (hreport : Report env c societyId realm header docs rows lines docs') {row : List Bytes}
    {u p q : Bytes} (hmem : createdFields header row u p q ∈ lines) :
    ∃ d ∈ docs', HasCredentials env c realm u p q d := by
  induction hreport with
  | nil => exact absurd hmem List.not_mem_nil
  | created row' u' p' q' d hd hrest ih =>
    rcases List.mem_cons.mp hmem with heq | hmem
    · obtain ⟨-, hcells⟩ := List.append_inj heq rfl
      simp only [List.cons.injEq, and_true] at hcells
      obtain ⟨rfl, rfl, rfl⟩ := hcells
      exact ⟨d, hrest.docs_prefix.subset (by simp), hd⟩
    · exact ih hmem
  | skipped row' d _ _ _ ih =>
    rcases List.mem_cons.mp hmem with heq | hmem
    · exact absurd heq createdFields_ne_skippedFields
    · exact ih hmem

lemma report_created_iff {row : List Bytes} {u p q : Bytes} :
    Report env c societyId realm header docs (row :: rows)
        (createdFields header row u p q :: lines) docs' ↔
      ∃ d, HasCredentials env c realm u p q d ∧
        Report env c societyId realm header (docs ++ [d]) rows lines docs' := by
  constructor
  · intro hreport
    generalize hline : createdFields header row u p q = line at hreport
    cases hreport with
    | created row' u' p' q' d hd hrest =>
      obtain ⟨-, hcells⟩ := List.append_inj hline rfl
      simp only [List.cons.injEq, and_true] at hcells
      obtain ⟨rfl, rfl, rfl⟩ := hcells
      exact ⟨d, hd, hrest⟩
    | skipped row' d _ _ _ => exact absurd hline createdFields_ne_skippedFields
  · rintro ⟨d, hd, hrest⟩
    exact Report.created row u p q d hd hrest

lemma report_skipped_iff {row : List Bytes} :
    Report env c societyId realm header docs (row :: rows) (skippedFields header row :: lines)
        docs' ↔
      (∃ d ∈ docs, ∀ m ∈ (emailFilter societyId header row).members, HasText d m.1 m.2) ∧
        Report env c societyId realm header docs rows lines docs' := by
  constructor
  · intro hreport
    generalize hline : skippedFields header row = line at hreport
    cases hreport with
    | created row' u' p' q' d hd hrest => exact absurd hline.symm createdFields_ne_skippedFields
    | skipped row' d hd hemail hrest => exact ⟨⟨d, hd, hemail⟩, hrest⟩
  · rintro ⟨⟨d, hd, hemail⟩, hrest⟩
    exact Report.skipped row d hd hemail hrest

/-! ### Steps -/

open Program

variable {st : DocumentStore h} {s s' : σ}

lemma along_textOf {P : Op → σ → Prop} (op : DbCall) (members : List (Bytes × Bytes)) (s : σ) :
    Along h P (textOf op members) s ↔ P (.db op members) s := by
  rw [textOf, along_bind, along_perform]
  refine and_iff_left fun a _ => ?_
  cases a <;> trivial

/-- A text is answered. -/
lemma run_textOf_eq_some {op : DbCall} {members : List (Bytes × Bytes)} {text : Bytes} :
    ((textOf op members).run h s).1 = some text ↔ (h (.db op members) s).1 = some (.text text) := by
  rw [textOf, run_bind, run_perform]
  rcases (h (.db op members) s).1 with _ | a
  · simp
  · cases a <;> simp [Program.run]

lemma sound_of_ne {coll : Bytes} (hcoll : coll ≠ Bytes.ofString "subscribers")
    (query projection : Bytes) (members : List (Bytes × Bytes)) :
    Sound st (.db (.getDocument coll query projection) members) s :=
  fun heq => absurd heq hcoll

lemma along_findFlat (row : List Bytes) :
    Along h (Sound st) (findFlat societyId header row) s := by
  rw [findFlat]
  split_ifs
  · rw [along_bind]
    refine ⟨(along_textOf _ _ s).mpr (sound_of_ne (by decide) _ _ _), fun flatDoc _ => ?_⟩
    split_ifs <;> trivial
  · trivial

/-- The lookup of the email of a row. -/
def emailLookup (societyId : Bytes) (header row : List Bytes) : Op :=
  .db (.getDocument (Bytes.ofString "subscribers") (emailFilter societyId header row).text braces)
    (emailFilter societyId header row).members

lemma isFieldName_emailFilter (row : List Bytes) :
    ∀ m ∈ (emailFilter societyId header row).members, IsFieldName m.1 := by
  rintro m hm
  rcases List.mem_pair.mp hm with rfl | rfl
  · exact (by decide : IsFieldName (Bytes.ofString "societyId"))
  · exact (by decide : IsFieldName (Bytes.ofString "email"))

/-- A lookup that finds something is sound exactly if there is such a subscriber. -/
lemma sound_lookup_iff (hst : st.Keeps env.dump) {row : List Bytes} {text : Bytes}
    (htext : text ≠ [])
    (hquery : ((getDocument "subscribers" (emailFilter societyId header row)).run h s).1 =
      some text) :
    Sound st (emailLookup societyId header row) s ↔
      ∃ d ∈ st.subscribers s, ∀ m ∈ (emailFilter societyId header row).members,
        HasText d m.1 m.2 := by
  have hanswer := run_textOf_eq_some.mp hquery
  constructor
  · intro hsound
    rcases hsound rfl text htext hanswer with hreads | hthere
    · obtain ⟨d, hd, hselects⟩ := hst.found hanswer htext
      exact ⟨d, hd, hst.selects hreads (isFieldName_emailFilter row) hselects⟩
    · exact hthere
  · exact fun hthere _ _ _ _ => Or.inr hthere

lemma sound_lookup_of_nil {row : List Bytes}
    (hquery : ((getDocument "subscribers" (emailFilter societyId header row)).run h s).1 =
      some []) : Sound st (emailLookup societyId header row) s := by
  intro _ text htext hanswer
  rw [run_textOf_eq_some.mp hquery] at hanswer
  cases hanswer
  exact absurd rfl htext

/-- Where no string needs an escape the lookup reads as it was meant. -/
lemma sound_lookup_of_plain {row : List Bytes} (hsociety : Plain societyId)
    (hemail : Plain (column header row "email")) :
    Sound st (emailLookup societyId header row) s :=
  fun _ _ _ _ => Or.inl ((concat_two plain_societyId plain_email _ _).mpr ⟨hsociety, hemail⟩)

/-- The operations for a row come before those for the rows after it. -/
lemma along_importRows_skipped (hst : st.Appends) {r created skipped : ℕ} {row : List Bytes}
    {outCsv flatId text : Bytes} (hcomplete : complete header row = true)
    (hflat : ((findFlat societyId header row).run h s).1 = some (some flatId))
    (hquery : ((getDocument "subscribers" (emailFilter societyId header row)).run h s).1 =
      some text) (htext : text ≠ []) :
    Along h (Sound st) (importRows env societyId realm header r (row :: rows) outCsv created
        skipped) s ↔
      Sound st (emailLookup societyId header row) s ∧
        Along h (Sound st) (importRows env societyId realm header (r + 1) rows
          (outCsv ++ skippedLine header row) created (skipped + 1)) s := by
  have hflatState := run_findFlat_state hst societyId header row s
  have hqueryState := getDocument_state hst "subscribers" (emailFilter societyId header row) s
  rw [importRows, if_pos hcomplete, along_bind, hflat, hflatState, and_iff_right (along_findFlat _)]
  simp only [Option.mem_def, Option.some.injEq, forall_eq']
  rw [along_bind, ← emailFilter, hquery, hqueryState]
  simp only [Option.mem_def, Option.some.injEq, forall_eq']
  rw [if_pos htext]
  exact and_congr_left' (along_textOf _ _ s)

/-- The creation of a subscriber, with the text of its document. -/
def creation (env : Env) (text : Bytes) : Op :=
  .db (.createDocument env.database (Bytes.ofString "subscribers") text) []

/-- The draws for the row with this number. -/
def userOf (env : Env) (r : ℕ) : Bytes := Bytes.ofString "u_" ++ env.randomAlnum (3 * r) 10

def sipPasswordOf (env : Env) (r : ℕ) : Bytes := env.randomAlnum (3 * r + 1) 16

def portalPasswordOf (env : Env) (r : ℕ) : Bytes := env.randomAlnum (3 * r + 2) 16

/-- The members of the subscriber of a row. -/
def subscriberMembers (env : Env) (societyId realm flatId : Bytes) (header row : List Bytes)
    (r : ℕ) : List (Bytes × Json) :=
  subscriberOf societyId flatId (userOf env r)
    (computeSipHa1 env (userOf env r) realm (sipPasswordOf env r))
    (env.hashPassword r (portalPasswordOf env r)) header row

/-- What is written for a subscriber that is created. -/
def createdLine (env : Env) (header row : List Bytes) (r : ℕ) : Bytes :=
  csvLine [csvEscape (column header row "flat_number"), csvEscape (column header row "name"),
    csvEscape (column header row "email"), userOf env r, sipPasswordOf env r,
    portalPasswordOf env r, Bytes.ofString "created"]

lemma Env.Draws.isText_userOf (henv : env.Draws c) (r : ℕ) :
    ∀ b ∈ userOf env r, Csv.isText b = true := by
  obtain ⟨buf, hbuf⟩ := henv.randomAlnum (3 * r) 10
  rw [userOf, hbuf]
  intro b hb
  rcases List.mem_append.mp hb with hb | hb
  · have hfront : (Bytes.ofString "u_").all Csv.isText = true := by decide
    exact List.all_eq_true.mp hfront b hb
  · exact isText_randomAlnum b hb

lemma createdLine_eq (henv : env.Draws c) (row : List Bytes) (r : ℕ) :
    createdLine env header row r =
      lineText (createdFields header row (userOf env r) (sipPasswordOf env r)
        (portalPasswordOf env r)) := by
  have hcreated : csvEscape (Bytes.ofString "created") = Bytes.ofString "created" := by decide
  have huser : csvEscape (userOf env r) = userOf env r := csvEscape_of_isText (henv.isText_userOf r)
  have hsip : csvEscape (sipPasswordOf env r) = sipPasswordOf env r := henv.csvEscape _ _
  have hportal : csvEscape (portalPasswordOf env r) = portalPasswordOf env r := henv.csvEscape _ _
  rw [lineText, createdFields, rowFields, List.map_append]
  simp only [List.map_cons, List.map_nil, hcreated, huser, hsip, hportal]
  rfl

lemma createSubscriber_eq (flatId : Bytes) (row : List Bytes) (r : ℕ) :
    createSubscriber env societyId realm flatId header row r =
      Program.ofOption (env.dump (.object
          (subscriberMembers env societyId realm flatId header row r))) >>=
        fun text => createDocument env.database "subscribers" text >>=
          fun _ => pure (createdLine env header row r) := rfl

/-- A subscriber is created where its document can be written. -/
lemma run_createSubscriber (st : DocumentStore h) {flatId line : Bytes} {row : List Bytes} {r : ℕ}
    (hrun : (createSubscriber env societyId realm flatId header row r).run h s = (some line, s')) :
    ∃ text,
      env.dump (.object (subscriberMembers env societyId realm flatId header row r)) = some text ∧
      line = createdLine env header row r ∧ s' = (h (creation env text) s).2 ∧
      (Along h (Sound st) (createSubscriber env societyId realm flatId header row r) s ↔
        Sound st (creation env text) s) := by
  rw [createSubscriber_eq] at hrun ⊢
  cases htext : env.dump (.object (subscriberMembers env societyId realm flatId header row r)) with
  | none =>
    rw [htext] at hrun
    cases hrun
  | some text =>
    rw [htext, run_bind, run_ofOption] at hrun
    dsimp only at hrun
    have hstate : ((createDocument env.database "subscribers" text).run h s).2 =
        (h (creation env text) s).2 := run_textOf_state _ _ s
    rw [run_bind, hstate] at hrun
    refine ⟨text, rfl, ?_⟩
    cases hanswer : ((createDocument env.database "subscribers" text).run h s).1 with
    | none =>
      rw [hanswer] at hrun
      cases hrun
    | some oid =>
      rw [hanswer] at hrun
      cases hrun
      refine ⟨rfl, rfl, ?_⟩
      rw [along_bind, and_iff_right (along_ofOption _ s), run_ofOption]
      simp only [Option.mem_def, Option.some.injEq, forall_eq']
      rw [along_bind]
      exact (and_iff_left fun _ _ => trivial).trans (along_textOf _ _ s)

lemma along_importRows_created (hst : st.Appends) {r created skipped : ℕ} {row : List Bytes}
    {outCsv flatId line text : Bytes} (hfresh : FreshRow h societyId header s row flatId)
    (hcreate : (createSubscriber env societyId realm flatId header row r).run h s =
      (some line, s'))
    (hcreation : Along h (Sound st) (createSubscriber env societyId realm flatId header row r) s ↔
      Sound st (creation env text) s) :
    Along h (Sound st) (importRows env societyId realm header r (row :: rows) outCsv created
        skipped) s ↔
      Sound st (creation env text) s ∧
        Along h (Sound st) (importRows env societyId realm header (r + 1) rows (outCsv ++ line)
          (created + 1) skipped) s' := by
  have hflatState := run_findFlat_state hst societyId header row s
  have hqueryState := getDocument_state hst "subscribers" (emailFilter societyId header row) s
  rw [importRows, if_pos hfresh.complete, along_bind, hfresh.flat, hflatState,
    and_iff_right (along_findFlat _)]
  simp only [Option.mem_def, Option.some.injEq, forall_eq']
  rw [along_bind, ← emailFilter, hfresh.absent, hqueryState]
  simp only [Option.mem_def, Option.some.injEq, forall_eq']
  rw [if_neg (not_not.mpr rfl), along_bind, hcreate, hcreation]
  simp only [Option.mem_def, Option.some.injEq, forall_eq']
  exact and_iff_right ((along_textOf _ _ s).mpr (sound_lookup_of_nil hfresh.absent))

/-- A subscriber that is stored has the credentials of its line. -/
lemma hasCredentials_of_stored (hst : st.Keeps env.dump) (henv : env.Draws c)
    (hc : c.Lawful) {flatId text : Bytes} {row : List Bytes} {r : ℕ} {d : Json}
    (htext : env.dump (.object (subscriberMembers env societyId realm flatId header row r)) =
      some text)
    (hd : st.subscribers (h (creation env text) s).2 = st.subscribers s ++ [d]) :
    HasCredentials env c realm (userOf env r) (sipPasswordOf env r) (portalPasswordOf env r) d := by
  have hfield : ∀ key value, (Json.object (subscriberMembers env societyId realm flatId header row
      r)).field (Bytes.ofString key) = some (.string value) →
      Bytes.ofString key ≠ Bytes.ofString "_id" → d.text (Bytes.ofString key) = some value := by
    intro key value hvalue hkey
    rw [text_eq_some, hst.stored htext hd _ hkey, hvalue]
  obtain ⟨salt, hsalt, hhash⟩ := henv.hashPassword r (portalPasswordOf env r)
  refine ⟨hfield _ _ rfl (by decide), hfield _ _ rfl (by decide), _,
    hfield _ _ rfl (by decide), ?_⟩
  rw [hhash, MongodbClient.Passwords.verifyPassword_hashPassword hc hsalt, decide_eq_true rfl]

/-! ### The loop -/

lemma flat_of_run {r created skipped : ℕ} {row : List Bytes}
    {outCsv resp : Bytes} {s₂ : σ}
    (hrun : (importRows env societyId realm header r (row :: rows) outCsv created skipped).run h
      s = (some resp, s₂))
    (hnot : ¬ RefusedRow h societyId header s row) : complete header row = true ∧
      ∃ flatId, ((findFlat societyId header row).run h s).1 = some (some flatId) := by
  rw [RefusedRow, not_or, Bool.not_eq_false] at hnot
  refine ⟨hnot.1, ?_⟩
  rw [importRows, if_pos hnot.1, run_bind] at hrun
  cases hflat : ((findFlat societyId header row).run h s).1 with
  | none =>
    rw [hflat] at hrun
    cases hrun
  | some flat =>
    cases flat with
    | none => exact absurd hflat hnot.2
    | some flatId => exact ⟨flatId, rfl⟩

/-- What the rest of an import makes of the lines before it: the lines of its rows are added and
counted, and the report on them is true exactly if the rest is sound. -/
structure Reported (st : DocumentStore h) (env : Env) (c : MongodbClient.Passwords)
    (societyId realm : Bytes) (header : List Bytes) (r : ℕ) (rows : List (List Bytes))
    (outCsv : Bytes) (created skipped : ℕ) (s : σ) (resp : Bytes) (s' : σ)
    (lines : List (List Bytes)) : Prop where
  resp_eq : resp = importResponse (outCsv ++ (lines.map lineText).flatten)
    (created + lines.countP isCreated) (skipped + lines.countP fun l => !isCreated l)
  length_lines : lines.length = rows.length
  ne_nil : ∀ l ∈ lines, l ≠ []
  docs_prefix : st.subscribers s <+: st.subscribers s'
  length_docs : (st.subscribers s').length ≤ (st.subscribers s).length + lines.countP isCreated
  sound_iff : Along h (Sound st) (importRows env societyId realm header r rows outCsv created
    skipped) s ↔
      Report env c societyId realm header (st.subscribers s) rows lines (st.subscribers s')

/-- The subscriber of a row is stored and the report on the rest is true, exactly if the report on
all is: a subscriber that is not stored is one too few at the end. -/
lemma sound_creation_iff (hst : st.Keeps env.dump) (henv : env.Draws c) (hc : c.Lawful)
    {r created skipped : ℕ} {row : List Bytes} {outCsv flatId text resp : Bytes} {s₂ : σ}
    (htext : env.dump (.object (subscriberMembers env societyId realm flatId header row r)) =
      some text)
    (hlines : Reported st env c societyId realm header (r + 1) rows outCsv created skipped
      (h (creation env text) s).2 resp s₂ lines) :
    (Sound st (creation env text) s ∧ Report env c societyId realm header
      (st.subscribers (h (creation env text) s).2) rows lines (st.subscribers s₂)) ↔
      ∃ d, HasCredentials env c realm (userOf env r) (sipPasswordOf env r)
        (portalPasswordOf env r) d ∧ Report env c societyId realm header
        (st.subscribers s ++ [d]) rows lines (st.subscribers s₂) := by
  constructor
  · rintro ⟨hsound, hreport⟩
    rcases hst.create env.database (Bytes.ofString "subscribers") text [] s with hsame | ⟨d, hd⟩
    · exact absurd (congrArg (st.docs · (Bytes.ofString "subscribers")) hsame) (hsound rfl)
    · have hd' : st.subscribers (h (creation env text) s).2 = st.subscribers s ++ [d] := hd
      rw [hd'] at hreport
      exact ⟨d, hasCredentials_of_stored hst henv hc htext hd, hreport⟩
  · rintro ⟨d, -, hreport⟩
    have hlen := hlines.length_docs
    rw [hreport.length_docs, List.length_append, List.length_singleton] at hlen
    rcases hst.create env.database (Bytes.ofString "subscribers") text [] s with hsame | ⟨d', hd'⟩
    · have hsame' : (h (creation env text) s).2 = s := hsame
      rw [hsame'] at hlen
      omega
    · have hd : st.subscribers (h (creation env text) s).2 = st.subscribers s ++ [d'] := hd'
      have hprefix := hlines.docs_prefix
      rw [hd] at hprefix
      have heq : st.subscribers s ++ [d'] = st.subscribers s ++ [d] := by
        apply (List.prefix_of_prefix_length_le hprefix hreport.docs_prefix (by simp)).eq_of_length
        simp
      refine ⟨fun _ hnone => ?_, ?_⟩
      · have hcons := congrArg List.length (hd.symm.trans hnone)
        simp at hcons
      · rw [hd, heq]
        exact hreport

theorem reported (hst : st.Keeps env.dump) (henv : env.Draws c) (hc : c.Lawful)
    {r created skipped : ℕ} {rows : List (List Bytes)} {outCsv resp : Bytes} {s₂ : σ}
    (hok : IsOk resp)
    (hrun : (importRows env societyId realm header r rows outCsv created skipped).run h s =
      (some resp, s₂)) :
    ∃ lines, Reported st env c societyId realm header r rows outCsv created skipped s resp s₂
      lines := by
  induction rows generalizing r created skipped outCsv s with
  | nil =>
    cases hrun
    exact ⟨[], by simp, rfl, by simp, List.prefix_rfl, by simp,
      iff_of_true trivial (Report.nil _)⟩
  | cons row rows ih =>
    have hrun' := hrun
    cases hrun' ▸ rowStep hst.toAppends r row rows outCsv created skipped s with
    | refused resp' _ hresp heq =>
      cases heq
      exact absurd hok hresp
    | skipped text hnot hquery htext heq =>
      obtain ⟨hcomplete, flatId, hflat⟩ := flat_of_run hrun hnot
      obtain ⟨lines, hlines⟩ := ih heq.symm
      have hcount := isCreated_skippedFields header row
      refine ⟨skippedFields header row :: lines, ?_, ?_, ?_, hlines.docs_prefix, ?_, ?_⟩
      · rw [hlines.resp_eq, skippedLine_eq, List.map_cons, List.flatten_cons, List.append_assoc,
          List.countP_cons_of_neg (by simp [hcount]), List.countP_cons_of_pos (by simp [hcount]),
          add_assoc skipped, add_comm 1]
      · rw [List.length_cons, List.length_cons, hlines.length_lines]
      · exact List.forall_mem_cons.mpr ⟨List.cons_ne_nil _ _, hlines.ne_nil⟩
      · rw [List.countP_cons_of_neg (by simp [hcount])]
        exact hlines.length_docs
      · rw [along_importRows_skipped hst.toAppends hcomplete hflat hquery htext,
          hlines.sound_iff, sound_lookup_iff hst htext hquery, report_skipped_iff]
    | created flatId line s' hnot hfresh hcreate heq =>
      obtain ⟨lines, hlines⟩ := ih heq.symm
      obtain ⟨text, htext, rfl, rfl, hcreation⟩ := run_createSubscriber st hcreate
      have hcount := isCreated_createdFields header row (userOf env r) (sipPasswordOf env r)
        (portalPasswordOf env r)
      refine ⟨createdFields header row (userOf env r) (sipPasswordOf env r)
        (portalPasswordOf env r) :: lines, ?_, ?_, ?_, ?_, ?_, ?_⟩
      · rw [hlines.resp_eq, createdLine_eq henv, List.map_cons, List.flatten_cons,
          List.append_assoc, List.countP_cons_of_pos hcount,
          List.countP_cons_of_neg (by simp [hcount]), add_assoc created, add_comm 1]
      · rw [List.length_cons, List.length_cons, hlines.length_lines]
      · exact List.forall_mem_cons.mpr ⟨List.cons_ne_nil _ _, hlines.ne_nil⟩
      · refine List.IsPrefix.trans ?_ hlines.docs_prefix
        rcases (createSubscriber_state hst.toAppends hcreate).1 with hsame | ⟨d, hd⟩
        · rw [hsame]
        · rw [hd]
          exact List.prefix_append _ _
      · rw [List.countP_cons_of_pos hcount]
        have hlen := hlines.length_docs
        rcases (createSubscriber_state hst.toAppends hcreate).1 with hsame | ⟨d, hd⟩
        · rw [hsame] at hlen
          omega
        · rw [hd, List.length_append, List.length_singleton] at hlen
          omega
      · rw [along_importRows_created hst.toAppends hfresh hcreate hcreation, hlines.sound_iff,
          report_created_iff]
        exact sound_creation_iff hst henv hc htext hlines
    | thrown s' heq => cases heq

/-! ### The whole import -/

/-- The table of a report is read back. -/
lemma read_table {lines : List (List Bytes)} (hlines : ∀ l ∈ lines, l ≠ []) :
    Csv.read (reportHeader ++ (lines.map lineText).flatten) = some (columnNames :: lines) := by
  rw [reportHeader_eq, ← List.flatten_cons, ← List.map_cons]
  apply Csv.read_lines
  refine List.forall₂_map_right_iff.mpr (List.forall₂_same.mpr fun l hl => isLine_lineText ?_)
  rcases List.mem_cons.mp hl with rfl | hl
  · exact List.cons_ne_nil _ _
  · exact hlines l hl

lemma truthful_iff {resp : Bytes} {s' : σ}
    (hlines : Reported st env c societyId realm header 1 rows reportHeader 0 0 s resp s' lines) :
    Truthful env c societyId realm header rows resp (st.subscribers s) (st.subscribers s') ↔
      Report env c societyId realm header (st.subscribers s) rows lines (st.subscribers s') := by
  have hread : Csv.read (bodyOf resp) = some (columnNames :: lines) := by
    rw [hlines.resp_eq, bodyOf_importResponse, read_table hlines.ne_nil]
  constructor
  · rintro ⟨-, lines', hread', hreport⟩
    rw [hread] at hread'
    cases hread'
    exact hreport
  · intro hreport
    have hsum : 0 + lines.countP isCreated + (0 + lines.countP fun l => !isCreated l) =
        rows.length := by
      rw [zero_add, zero_add, ← hlines.length_lines, List.length_eq_countP_add_countP isCreated]
      simp
    refine ⟨⟨_, _, ?_, ?_, hsum⟩, lines, hread, hreport⟩
    · rw [hlines.resp_eq, fieldsOf_importResponse]
      rfl
    · rw [hlines.resp_eq, fieldsOf_importResponse]
      rfl

/-- The operations before the loop are lookups elsewhere. -/
lemma along_handleSubscriberImportPOST (hst : st.Appends) {req : Bytes}
    (himport : IsImport h env req s societyId realm header rows) :
    Along h (Sound st) (handleSubscriberImportPOST env req) s ↔
      Along h (Sound st) (importRows env societyId realm header 1 rows reportHeader 0 0) s := by
  obtain ⟨parsed, hparsed, htable⟩ := himport.table
  obtain ⟨rfl, hsociety⟩ := himport.society
  obtain ⟨doc, hdoc, hne, hrealm⟩ := himport.realm
  have hstate := getDocument_state hst "societies" (societyFilter (societyIdOf req)) s
  rw [handleSubscriberImportPOST, along_bind, and_iff_right (along_ofOption _ s), run_ofOption,
    hparsed]
  simp only [Option.mem_def, Option.some.injEq, forall_eq']
  rw [if_neg hsociety, along_bind, ← societyFilter, hdoc, hstate]
  simp only [Option.mem_def, Option.some.injEq, forall_eq']
  rw [if_neg hne, hrealm]
  dsimp only
  rw [importTable, htable]
  exact and_iff_right ((along_textOf _ _ s).mpr (sound_of_ne (by decide) _ _ _))

end

/-- The report of an import is true exactly if every operation of the run is sound: each subscriber
that is created is stored, and each lookup that finds one reads as it was meant, or there is such a
subscriber. -/
theorem import_report_truthful_iff {σ : Type} {h : Program.Handler Answer σ} {st : DocumentStore h}
    {env : Env} {c : MongodbClient.Passwords} (hst : st.Keeps env.dump) (henv : env.Draws c)
    (hc : c.Lawful) {req resp : Bytes} {s s' : σ}
    (hrun : (handleSubscriberImportPOST env req).run h s = (some resp, s')) (hok : IsOk resp) :
    (∃ societyId realm header rows, IsImport h env req s societyId realm header rows ∧
      Truthful env c societyId realm header rows resp (st.subscribers s) (st.subscribers s')) ↔
      Program.Along h (Sound st) (handleSubscriberImportPOST env req) s := by
  rcases handleSubscriberImportPOST_inv hst.toAppends hrun with
    ⟨-, hfails, -⟩ | ⟨societyId, realm, header, rows, himport, hloop⟩
  · exact absurd hok hfails
  · obtain ⟨lines, hlines⟩ := reported hst henv hc hok hloop
    rw [along_handleSubscriberImportPOST hst.toAppends himport, hlines.sound_iff,
      ← truthful_iff hlines]
    constructor
    · rintro ⟨societyId', realm', header', rows', himport', htrue⟩
      obtain ⟨rfl, rfl, rfl, rfl⟩ := himport.unique himport'
      exact htrue
    · exact fun htrue => ⟨societyId, realm, header, rows, himport, htrue⟩

/-! ### A subscriber that is lost -/

section

variable {s : JsonStore} {coll query : Bytes}

lemma JsonStore.exists_of_found {text : Bytes}
    (hfound : ((s.docs coll).find? (selects query)).elim [] Json.dump = text) (htext : text ≠ []) :
    ∃ d ∈ s.docs coll, selects query d = true := by
  cases hfind : (s.docs coll).find? (selects query) with
  | none =>
    rw [hfind] at hfound
    exact absurd hfound.symm htext
  | some d => exact ⟨d, List.mem_of_find?_eq_some hfind, List.find?_some hfind⟩

lemma JsonStore.hasText_of_selects {ms : List (Bytes × Bytes)} (hreads : Reads query ms) {d : Json}
    (hselects : selects query d = true) : ∀ m ∈ ms, HasText d m.1 m.2 := by
  obtain ⟨ms', hparse, hperm⟩ := hreads
  intro m hm
  have hmem : (m.1, Json.string m.2) ∈ ms' :=
    hperm.mem_iff.mpr (List.mem_map.mpr ⟨m, hm, rfl⟩)
  rw [selects, hparse] at hselects
  have htext := List.all_eq_true.mp hselects _ hmem
  exact Or.inl (text_eq_some.mp (of_decide_eq_true htext))

/-- A document that has no identifier gets one, and is otherwise stored as it is. -/
lemma JsonStore.field_identified {oid name : Bytes} (hname : name ≠ Bytes.ofString "_id")
    (ms : List (Bytes × Json)) :
    (Json.object (identified oid ms)).field name = (Json.object ms).field name := by
  rw [identified]
  split_ifs
  · rfl
  · refine (field_append [_] ms name).trans ?_
    rw [field_eq_none (List.forall_mem_singleton.mpr (Ne.symm hname)), Option.or_none]

lemma JsonStore.field_of_insert {ms : List (Bytes × Json)} {doc : Bytes} {d : Json}
    (hdoc : dumped (.object ms) = some doc)
    (hd : (s.insert coll doc).2.docs coll = s.docs coll ++ [d]) {name : Bytes}
    (hname : name ≠ Bytes.ofString "_id") : d.field name = (Json.object ms).field name := by
  have hne : s.docs coll ≠ s.docs coll ++ [d] := by simp
  rw [insert, parse_dumped hdoc] at hd
  dsimp only at hd
  rw [JsonDoc.ofJson] at hd
  split_ifs at hd
  · rw [docs_append, if_pos rfl, List.append_cancel_left_eq, List.singleton_inj] at hd
    rw [← hd]
    exact field_identified hname ms
  · exact absurd hd hne

lemma JsonStore.keeps : JsonStore.store.Keeps dumped where
  toAppends := JsonStore.appends
  found hanswer htext :=
    JsonStore.exists_of_found (DbValue.text.inj (Option.some.inj hanswer)) htext
  selects hreads _ _ hselects := JsonStore.hasText_of_selects hreads hselects
  stored hdoc _ _ _ _ _ hd _ hname := JsonStore.field_of_insert hdoc hd hname

/-- The store, but for documents that are created: it fails to store them, and answers with no
identifier. -/
def refusing : Program.Handler Answer JsonStore
  | .db (.createDocument ..) _, s => (some (.text []), s)
  | o, s                          => JsonStore.handler o s

def refusingStore : DocumentStore refusing where
  docs := JsonStore.docs
  selects := JsonStore.selects
  text := Json.dump

lemma refusingStore_keeps : refusingStore.Keeps dumped where
  query _ _ _ _ _ := rfl
  create _ _ _ _ _ := Or.inl rfl
  others _ _ _ _ _ _ _ _ _ _ := rfl
  found hanswer htext :=
    JsonStore.exists_of_found (DbValue.text.inj (Option.some.inj hanswer)) htext
  selects hreads _ _ hselects := JsonStore.hasText_of_selects hreads hselects
  stored _ _ coll _ s d hd := absurd hd (by simp [refusing, refusingStore])

end

def plainPasswords : MongodbClient.Passwords := .plain

lemma plainPasswords_lawful : plainPasswords.Lawful := MongodbClient.Passwords.plain_lawful

def reportEnv : Env :=
  { importEnv with
    randomAlnum := fun i n => randomAlnum (List.replicate n (UInt8.ofNat i))
    hashPassword := fun _ password =>
      plainPasswords.hashPassword (List.replicate 16 0x41) password }

lemma reportEnv_draws : reportEnv.Draws plainPasswords where
  randomAlnum _ _ := ⟨_, rfl⟩
  hashPassword _ _ := ⟨List.replicate 16 0x41, List.cons_ne_nil _ _, rfl⟩

/-- A guard with quotes in the name, and another one with the same email. -/
def sameEmailRequest : Bytes :=
  Bytes.ofString ("POST /api/v1/subscribers/import?societyId=s1 HTTP/1.1\r\n" ++
    "Content-Length: 60\r\n\r\n" ++
    "flat_number,name,email,role\n1,\"A\" B,a@x,guard\n2,C,a@x,guard\n")

/-- The run of the import, with a store that keeps subscribers and with one that does not. -/
def reportRun (h : Program.Handler Answer JsonStore) : Option Bytes × JsonStore :=
  (handleSubscriberImportPOST reportEnv sameEmailRequest).run h gardenStore

lemma reportRun_isOk : ∃ resp s', reportRun JsonStore.handler = (some resp, s') ∧ IsOk resp := by
  have hany : ((reportRun JsonStore.handler).1.any fun resp => decide (IsOk resp)) = true := by
    decide +kernel
  generalize reportRun JsonStore.handler = run at hany
  obtain ⟨resp, hresp, hok⟩ := (Option.any_eq_true _ _).mp hany
  exact ⟨resp, run.2, by rw [← hresp], by simpa using hok⟩

theorem import_report_truthful_iff_sameEmail : ∃ resp s',
    reportRun JsonStore.handler = (some resp, s') ∧ IsOk resp ∧
    ((∃ societyId realm header rows,
      IsImport JsonStore.handler reportEnv sameEmailRequest gardenStore societyId realm header
        rows ∧
      Truthful reportEnv plainPasswords societyId realm header rows resp
        (JsonStore.store.subscribers gardenStore) (JsonStore.store.subscribers s')) ↔
      Program.Along JsonStore.handler (Sound JsonStore.store)
        (handleSubscriberImportPOST reportEnv sameEmailRequest) gardenStore) := by
  obtain ⟨resp, s', hrun, hok⟩ := reportRun_isOk
  exact ⟨resp, s', hrun, hok, import_report_truthful_iff JsonStore.keeps reportEnv_draws
    plainPasswords_lawful hrun hok⟩

lemma reportRun_refusing : ∃ resp s' table, reportRun refusing = (some resp, s') ∧ IsOk resp ∧
    Csv.read (bodyOf resp) = some table ∧ table.tail.any isCreated = true ∧
    refusingStore.subscribers s' = [] := by
  -- the run is evaluated once for all that is said of it
  have hrun : ((reportRun refusing).1.any fun resp => decide (IsOk resp) &&
      (Csv.read (bodyOf resp)).any fun table => table.tail.any isCreated) = true ∧
      refusingStore.subscribers (reportRun refusing).2 = [] := by
    decide +kernel
  generalize reportRun refusing = run at hrun
  obtain ⟨hany, hnone⟩ := hrun
  obtain ⟨resp, hresp, hany⟩ := (Option.any_eq_true _ _).mp hany
  rw [Bool.and_eq_true] at hany
  obtain ⟨table, htable, hcreated⟩ := (Option.any_eq_true _ _).mp hany.2
  exact ⟨resp, run.2, table, by rw [← hresp], of_decide_eq_true hany.1, htable, hcreated, hnone⟩

/-- A subscriber is reported as created, and is not there. -/
theorem created_not_stored :
    ¬ ∀ (h : Program.Handler Answer JsonStore) (st : DocumentStore h), st.Keeps reportEnv.dump →
      ∀ (req resp : Bytes) (s s' : JsonStore),
        (handleSubscriberImportPOST reportEnv req).run h s = (some resp, s') → IsOk resp →
          ∃ societyId realm header rows, IsImport h reportEnv req s societyId realm header rows ∧
            Truthful reportEnv plainPasswords societyId realm header rows resp
              (st.subscribers s) (st.subscribers s') := by
  intro hclaim
  obtain ⟨resp, s', table, hrun, hok, htable, hcreated, hnone⟩ := reportRun_refusing
  have hbefore : refusingStore.subscribers gardenStore = [] := by decide
  obtain ⟨societyId, realm, header, rows, -, -, lines, hlines, hreport⟩ :=
    hclaim refusing refusingStore refusingStore_keeps sameEmailRequest resp gardenStore s' hrun hok
  rw [hlines] at htable
  cases htable
  have hcount := hreport.length_docs
  rw [hnone, hbefore] at hcount
  have hzero : lines.countP isCreated = 0 := by simpa using hcount.symm
  obtain ⟨l, hl, hlc⟩ := List.any_eq_true.mp hcreated
  exact List.countP_eq_zero.mp hzero l hl hlc

end MicroServicePbx
