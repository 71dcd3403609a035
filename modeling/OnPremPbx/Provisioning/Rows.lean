import OnPremPbx.Pbx.Environment
import OnPremPbx.Provisioning.Watcher
import OnPremPbx.Text.Dump

/-!
# Rows with members of any type

`run_full_scan` and `handle_event` of `SubscriberWatcher` (`subscriber_watcher.cpp`), from the texts
that the database answers with. Only the parser is guarded: `value` throws where a member is there
with another type, and neither function catches that. A function gives the state that it leaves, and
whether it returned.

The rows of `SubscriberWatcher` are those of which no accessor throws; `requests_scanRows` relates
the two scans.
-/

open MicroServicePbx (valueOr)

/-- The JSON library: `json::parse` on a text, which throws for `none`, and `dump`. -/
structure JsonCode where
  parse : Bytes → Option Json
  dump : Json → Bytes
  parse_nil : parse [] = none

/-- A call of the provisioner, which does not throw. -/
inductive ProvisionerCall where
  | provision (sipUsername sipHa1 : Bytes)
  | deprovision (sipUsername : Bytes)
  deriving DecidableEq, Repr

/-- What the two functions read and write. -/
structure RowWatcher where
  societyId : Bytes
  idToSipuser : AList fun _ : Bytes => Bytes := ∅
  resumeToken : Bytes := []
  calls : List ProvisionerCall := []

namespace RowWatcher

def activeStatus : Bytes := Bytes.ofString "active"

/-- `oid_str` -/
def oidStr (lib : JsonCode) (idNode : Json) : Bytes :=
  (idNode.text (Bytes.ofString "$oid")).getD (lib.dump idNode)

def call (c : ProvisionerCall) (w : RowWatcher) : RowWatcher := { w with calls := w.calls ++ [c] }

/-- The cache learns the name of a document that has an `_id`. -/
def learn (lib : JsonCode) (row : Json) (sipUser : Bytes) (w : RowWatcher) : RowWatcher :=
  match row.field (Bytes.ofString "_id") with
  | none    => w
  | some id => { w with idToSipuser := w.idToSipuser.insert (oidStr lib id) sipUser }

/-- What the loop of the scan does with a row that is an object, and `handle_event` with a document
of the society. An accessor throws for `none`, before anything is changed. -/
def syncRow (lib : JsonCode) (row : Json) (w : RowWatcher) : Option RowWatcher := do
  let sipUser ← valueOr row "sipUsername"
  let sipHa1 ← valueOr row "sipHa1"
  let status ← valueOr row "status" activeStatus
  if sipUser = [] then pure w
  else if status = activeStatus then
    pure ((w.learn lib row sipUser).call (.provision sipUser sipHa1))
  else pure ((w.learn lib row sipUser).call (.deprovision sipUser))

/-- The loop of `run_full_scan`. -/
def scanRows (lib : JsonCode) : List Json → RowWatcher → RowWatcher × Bool
  | [], w          => (w, true)
  | row :: rows, w =>
    if row.isObject then
      match w.syncRow lib row with
      | none   => (w, false)
      | some w => scanRows lib rows w
    else scanRows lib rows w

/-- `run_full_scan` with what `get_documents` answers; it throws for `none`. -/
def runFullScan (lib : JsonCode) (answer : Option Bytes) (w : RowWatcher) : RowWatcher × Bool :=
  match answer with
  | none     => (w, true)
  | some raw =>
    if raw = [] then (w, true)
    else
      match lib.parse raw with
      | some (.array rows) => scanRows lib rows w
      | _                  => (w, true)

/-- The resume token of an event. -/
def remember (lib : JsonCode) (e : Json) (w : RowWatcher) : RowWatcher :=
  match e.field (Bytes.ofString "_id") with
  | none    => w
  | some id => { w with resumeToken := lib.dump id }

/-- What `handle_event` does with a deletion. -/
def handleDelete (lib : JsonCode) (e : Json) (w : RowWatcher) : RowWatcher :=
  match (e.field (Bytes.ofString "documentKey")).bind (·.field (Bytes.ofString "_id")) with
  | none        => w
  | some idNode =>
    match w.idToSipuser.lookup (oidStr lib idNode) with
    | none      => w
    | some user =>
      { w.call (.deprovision user) with idToSipuser := w.idToSipuser.erase (oidStr lib idNode) }

/-- What `handle_event` does with the document of an insertion, an update or a replacement. -/
def handleDocument (lib : JsonCode) (doc : Json) (w : RowWatcher) : RowWatcher × Bool :=
  if doc.isObject then
    match valueOr doc "societyId" with
    | none           => (w, false)
    | some societyId =>
      if societyId = w.societyId then
        match w.syncRow lib doc with
        | none   => (w, false)
        | some w => (w, true)
      else (w, true)
  else (w, true)

def handleEvent (lib : JsonCode) (eventJson : Bytes) (w : RowWatcher) : RowWatcher × Bool :=
  match lib.parse eventJson with
  | none   => (w, true)
  | some e =>
    let w := w.remember lib e
    match valueOr e "operationType" with
    | none    => (w, false)
    | some op =>
      if op = Bytes.ofString "delete" then (w.handleDelete lib e, true)
      else
        match e.field (Bytes.ofString "fullDocument") with
        | none     => (w, true)
        | some doc => w.handleDocument lib doc

/-! ### Which rows an accessor throws on -/

/-- The member is not there, or it is a string. -/
def TextOrAbsent (j : Json) (key : String) : Prop :=
  ∀ v, j.field (Bytes.ofString key) = some v → ∃ s, v = .string s

/-- The three members that a row is read for are not there, or they are strings. -/
def TypedRow (row : Json) : Prop :=
  TextOrAbsent row "sipUsername" ∧ TextOrAbsent row "sipHa1" ∧ TextOrAbsent row "status"

/-- An object whose `operationType` can be read, and its document as well unless it is a deletion or
the document is of another society. -/
def TypedEvent (societyId : Bytes) (e : Json) : Prop :=
  e.isObject ∧ TextOrAbsent e "operationType" ∧
    (e.text (Bytes.ofString "operationType") ≠ some (Bytes.ofString "delete") →
      ∀ doc, e.field (Bytes.ofString "fullDocument") = some doc → doc.isObject →
        TextOrAbsent doc "societyId" ∧
          ((doc.text (Bytes.ofString "societyId")).getD [] = societyId → TypedRow doc))

/-- A well-formed row of an active subscriber. -/
structure ActiveRow (row : Json) (sipUser sipHa1 : Bytes) : Prop where
  typed : TypedRow row
  sipUser_eq : row.text (Bytes.ofString "sipUsername") = some sipUser
  sipUser_ne : sipUser ≠ []
  sipHa1_eq : (row.text (Bytes.ofString "sipHa1")).getD [] = sipHa1
  active : (row.text (Bytes.ofString "status")).getD activeStatus = activeStatus

lemma valueOr_of_typed {j : Json} {key : String} (hj : j.isObject) (h : TextOrAbsent j key)
    (default : Bytes) :
    valueOr j key default = some ((j.text (Bytes.ofString key)).getD default) := by
  rw [valueOr, if_pos hj, Json.text]
  rcases hfield : j.field (Bytes.ofString key) with _ | v
  · rfl
  · obtain ⟨s, rfl⟩ := h v hfield
    rfl

/-- An accessor returns on objects only, and where the member has no other type. -/
lemma valueOr_isSome {j : Json} {key : String} {default : Bytes} :
    (valueOr j key default).isSome ↔ j.isObject ∧ TextOrAbsent j key := by
  constructor
  · intro h
    by_cases hj : j.isObject
    · refine ⟨hj, fun v hv => ?_⟩
      rw [valueOr, if_pos hj, hv] at h
      cases v with
      | string s => exact ⟨s, rfl⟩
      | _ => cases h
    · rw [valueOr, if_neg hj] at h
      cases h
  · rintro ⟨hj, h⟩
    rw [valueOr_of_typed hj h]
    rfl

/-- The name that a row has. -/
def sipUserOf (row : Json) : Bytes := (row.text (Bytes.ofString "sipUsername")).getD []

def sipHa1Of (row : Json) : Bytes := (row.text (Bytes.ofString "sipHa1")).getD []

def statusOf (row : Json) : Bytes := (row.text (Bytes.ofString "status")).getD activeStatus

/-- What a row leads to that no accessor throws on. -/
def apply (lib : JsonCode) (row : Json) (w : RowWatcher) : RowWatcher :=
  if sipUserOf row = [] then w
  else if statusOf row = activeStatus then
    (w.learn lib row (sipUserOf row)).call (.provision (sipUserOf row) (sipHa1Of row))
  else (w.learn lib row (sipUserOf row)).call (.deprovision (sipUserOf row))

lemma syncRow_of_typed (lib : JsonCode) {row : Json} (hobject : row.isObject)
    (h : TypedRow row) (w : RowWatcher) : w.syncRow lib row = some (w.apply lib row) := by
  obtain ⟨huser, hha1, hstatus⟩ := h
  rw [syncRow, valueOr_of_typed hobject huser, valueOr_of_typed hobject hha1,
    valueOr_of_typed hobject hstatus, apply, sipUserOf, sipHa1Of, statusOf]
  simp only [Option.bind_eq_bind, Option.bind_some]
  split_ifs <;> rfl

lemma syncRow_isSome {lib : JsonCode} {row : Json} (hobject : row.isObject) {w : RowWatcher} :
    (w.syncRow lib row).isSome ↔ TypedRow row := by
  constructor
  · intro h
    obtain ⟨v, hv⟩ := Option.isSome_iff_exists.mp h
    obtain ⟨user, huser, hv⟩ := Option.bind_eq_some_iff.mp hv
    obtain ⟨ha1, hha1, hv⟩ := Option.bind_eq_some_iff.mp hv
    obtain ⟨status, hstatus, -⟩ := Option.bind_eq_some_iff.mp hv
    exact ⟨(valueOr_isSome.mp (Option.isSome_of_eq_some huser)).2,
      (valueOr_isSome.mp (Option.isSome_of_eq_some hha1)).2,
      (valueOr_isSome.mp (Option.isSome_of_eq_some hstatus)).2⟩
  · intro h
    rw [syncRow_of_typed lib hobject h]
    rfl

/-! ### The scan -/

/-- The rows of the answer of the database, if there is an array in it. -/
def rowsOf (lib : JsonCode) (answer : Option Bytes) : List Json :=
  match answer.bind lib.parse with
  | some (.array rows) => rows
  | _                  => []

lemma runFullScan_eq (lib : JsonCode) (answer : Option Bytes) (w : RowWatcher) :
    w.runFullScan lib answer = scanRows lib (rowsOf lib answer) w := by
  rcases answer with _ | raw
  · rfl
  · rw [runFullScan, rowsOf, Option.bind_some]
    split_ifs with hempty
    · rw [hempty, lib.parse_nil]
      rfl
    · split <;> rfl

@[simp] lemma learn_calls (lib : JsonCode) (row : Json) (user : Bytes) (w : RowWatcher) :
    (w.learn lib row user).calls = w.calls := by
  rw [learn]
  split <;> rfl

/-- Calls are added at the end. -/
lemma calls_apply (lib : JsonCode) (row : Json) (w : RowWatcher) :
    w.calls <+: (w.apply lib row).calls := by
  rw [apply]
  split_ifs
  · exact List.prefix_rfl
  all_goals simp [call]

lemma mem_calls_apply (lib : JsonCode) {row : Json} {sipUser sipHa1 : Bytes}
    (h : ActiveRow row sipUser sipHa1) (w : RowWatcher) :
    .provision sipUser sipHa1 ∈ (w.apply lib row).calls := by
  have huser : sipUserOf row = sipUser := by rw [sipUserOf, h.sipUser_eq, Option.getD_some]
  have hstatus : statusOf row = activeStatus := h.active
  rw [apply, huser, if_neg h.sipUser_ne, if_pos hstatus, sipHa1Of, h.sipHa1_eq]
  simp [call]

/-- One step of the loop: a row that is no object is left out, a row that an accessor throws on ends
the loop. -/
lemma scanRows_cons (lib : JsonCode) {row : Json} (h : row.isObject → TypedRow row)
    (rows : List Json) (w : RowWatcher) :
    scanRows lib (row :: rows) w =
      scanRows lib rows (if row.isObject then w.apply lib row else w) := by
  rw [scanRows]
  split_ifs with hobject
  · rw [syncRow_of_typed lib hobject (h hobject)]
  · rfl

lemma scanRows_returns {lib : JsonCode} {rows : List Json} {w : RowWatcher} :
    (scanRows lib rows w).2 = true ↔ ∀ row ∈ rows, row.isObject → TypedRow row := by
  induction rows generalizing w with
  | nil => exact ⟨fun _ _ h => (nomatch h), fun _ => rfl⟩
  | cons row rows ih =>
    rw [List.forall_mem_cons]
    by_cases h : row.isObject → TypedRow row
    · rw [scanRows_cons lib h, ih]
      exact (and_iff_right h).symm
    · -- the accessor throws, and the rows that follow are not looked at
      obtain ⟨hobject, huntyped⟩ := Classical.not_imp.mp h
      have hnone : w.syncRow lib row = none := by
        rw [← Option.not_isSome_iff_eq_none, syncRow_isSome hobject]
        exact huntyped
      rw [scanRows, if_pos hobject, hnone]
      exact ⟨fun hfalse => (nomatch hfalse), fun hall => absurd hall.1 h⟩

lemma calls_scanRows (lib : JsonCode) (rows : List Json) (w : RowWatcher) :
    w.calls <+: (scanRows lib rows w).1.calls := by
  induction rows generalizing w with
  | nil => exact List.prefix_rfl
  | cons row rows ih =>
    rw [scanRows]
    split_ifs with hobject
    · by_cases h : TypedRow row
      · rw [syncRow_of_typed lib hobject h]
        exact (calls_apply lib row w).trans (ih _)
      · have hnone : w.syncRow lib row = none := by
          rw [← Option.not_isSome_iff_eq_none, syncRow_isSome hobject]
          exact h
        rw [hnone]
    · exact ih w

/-- A scan that no accessor ends provisions every active row. -/
lemma mem_calls_scanRows (lib : JsonCode) {rows : List Json}
    (htyped : ∀ row ∈ rows, row.isObject → TypedRow row) {row : Json} (hrow : row ∈ rows)
    {sipUser sipHa1 : Bytes} (h : ActiveRow row sipUser sipHa1) (w : RowWatcher) :
    .provision sipUser sipHa1 ∈ (scanRows lib rows w).1.calls := by
  induction rows generalizing w with
  | nil => cases hrow
  | cons first rows ih =>
    obtain ⟨hfirst, hrest⟩ := List.forall_mem_cons.mp htyped
    rw [scanRows_cons lib hfirst]
    obtain rfl | hrow := List.mem_cons.mp hrow
    · have hobject : row.isObject := by
        cases row with
        | object ms => rfl
        | _ => exact nomatch h.sipUser_eq
      rw [if_pos hobject]
      exact (calls_scanRows lib rows _).subset (mem_calls_apply lib h w)
    · exact ih hrest hrow _

/-! ### The rows of the other model -/

/-- The documents of the scan, as the other model has them; `str` decodes a text. -/
def subscriberOf (lib : JsonCode) (str : Bytes → String) (row : Json) : Subscriber where
  id := ((row.field (Bytes.ofString "_id")).map fun id => str (oidStr lib id)).getD ""
  societyId := (row.text (Bytes.ofString "societyId")).map str
  sipUsername := (row.text (Bytes.ofString "sipUsername")).map str
  status := (row.text (Bytes.ofString "status")).map str

/-- The requests of a call. -/
def requestsOf (str : Bytes → String) : ProvisionerCall → List ConfigRequest
  | .provision user _ => PjsipProvisioner.provision (str user)
  | .deprovision user => PjsipProvisioner.deprovision (str user)

/-- The requests of a scan that no accessor ends are those of the other model. -/
theorem requests_scanRows (lib : JsonCode) {str : Bytes → String} (hstr : str.Injective)
    (hempty : str [] = "") (hactive : str activeStatus = "active") {rows : List Json}
    (htyped : ∀ row ∈ rows, row.isObject → TypedRow row) (w : RowWatcher)
    (v : SubscriberWatcher ℕ) (hsame : w.calls.flatMap (requestsOf str) = v.requests) :
    (scanRows lib rows w).1.calls.flatMap (requestsOf str) =
      (v.runFullScan ((rows.filter Json.isObject).map (subscriberOf lib str))).requests := by
  induction rows generalizing w v with
  | nil => exact hsame
  | cons row rows ih =>
    obtain ⟨hrow, hrest⟩ := List.forall_mem_cons.mp htyped
    rw [scanRows_cons lib hrow]
    by_cases hobject : row.isObject
    · rw [if_pos hobject, List.filter_cons_of_pos hobject, List.map_cons]
      refine ih hrest _ (v.sync (subscriberOf lib str row)) ?_
      have huser : (subscriberOf lib str row).sipUser = str (sipUserOf row) := by
        rw [Subscriber.sipUser, subscriberOf, sipUserOf]
        cases row.text (Bytes.ofString "sipUsername") with
        | none => exact hempty.symm
        | some user => rfl
      have hstatus : (subscriberOf lib str row).isActive ↔ statusOf row = activeStatus := by
        rw [Subscriber.isActive, subscriberOf, statusOf, decide_eq_true_iff]
        rcases row.text (Bytes.ofString "status") with _ | status
        · exact ⟨fun _ => rfl, fun _ => rfl⟩
        · rw [Option.map_some, Option.getD_some, Option.getD_some, ← hactive, hstr.eq_iff]
      rw [apply, SubscriberWatcher.sync, huser, ← hempty]
      simp only [hstr.eq_iff, hstatus]
      split_ifs
      · exact hsame
      · simp [call, hsame, requestsOf, SubscriberWatcher.provision]
      · simp [call, hsame, requestsOf, SubscriberWatcher.deprovision]
    · rw [if_neg hobject, List.filter_cons_of_neg hobject]
      exact ih hrest w v hsame

/-! ### Events -/

@[simp] lemma remember_societyId (lib : JsonCode) (e : Json) (w : RowWatcher) :
    (w.remember lib e).societyId = w.societyId := by
  rw [remember]
  split <;> rfl

lemma handleDocument_returns {lib : JsonCode} {doc : Json} (hobject : doc.isObject)
    {w : RowWatcher} : (w.handleDocument lib doc).2 = true ↔
      TextOrAbsent doc "societyId" ∧
        ((doc.text (Bytes.ofString "societyId")).getD [] = w.societyId → TypedRow doc) := by
  rw [handleDocument, if_pos hobject]
  by_cases hsociety : TextOrAbsent doc "societyId"
  · rw [valueOr_of_typed hobject hsociety, and_iff_right hsociety]
    simp only
    split_ifs with hown
    · rw [← @syncRow_isSome lib doc hobject w]
      rcases w.syncRow lib doc with _ | v
      · exact ⟨fun h => (nomatch h), fun h => nomatch h hown⟩
      · exact ⟨fun _ _ => rfl, fun _ => rfl⟩
    · exact ⟨fun _ h => absurd h hown, fun _ => rfl⟩
  · have hnone : valueOr doc "societyId" = none := by
      rw [← Option.not_isSome_iff_eq_none, valueOr_isSome]
      exact fun h => hsociety h.2
    rw [hnone]
    exact ⟨fun h => (nomatch h), fun h => absurd h.1 hsociety⟩

lemma handleEvent_returns {lib : JsonCode} {eventJson : Bytes} {w : RowWatcher} :
    (w.handleEvent lib eventJson).2 = true ↔
      ∀ e, lib.parse eventJson = some e → TypedEvent w.societyId e := by
  rw [handleEvent]
  rcases hparse : lib.parse eventJson with _ | e
  · exact ⟨fun _ _ h => (nomatch h), fun _ => rfl⟩
  · simp only [Option.some.injEq, forall_eq']
    by_cases hop : (valueOr e "operationType").isSome
    · obtain ⟨hobject, htyped⟩ := valueOr_isSome.mp hop
      rw [valueOr_of_typed hobject htyped, TypedEvent, and_iff_right hobject,
        and_iff_right htyped]
      simp only
      have hdelete : (e.text (Bytes.ofString "operationType")).getD [] =
          Bytes.ofString "delete" ↔
          e.text (Bytes.ofString "operationType") = some (Bytes.ofString "delete") := by
        rcases e.text (Bytes.ofString "operationType") with _ | op
        · exact ⟨fun h => absurd h (by decide), fun h => nomatch h⟩
        · simp
      split_ifs with hop
      · exact ⟨fun _ h => absurd (hdelete.mp hop) h, fun _ => rfl⟩
      · rw [forall_prop_of_true (mt hdelete.mpr hop)]
        rcases hdoc : e.field (Bytes.ofString "fullDocument") with _ | doc
        · exact ⟨fun _ _ h => (nomatch h), fun _ => rfl⟩
        · simp only [Option.some.injEq, forall_eq']
          by_cases hobject : doc.isObject
          · rw [handleDocument_returns hobject, remember_societyId]
            exact ⟨fun h _ => h, fun h => h hobject⟩
          · rw [handleDocument, if_neg hobject]
            exact ⟨fun _ h => absurd h hobject, fun _ => rfl⟩
    · rw [Option.not_isSome_iff_eq_none.mp hop]
      exact ⟨fun h => (nomatch h),
        fun h => absurd (valueOr_isSome.mpr ⟨h.1, h.2.1⟩) hop⟩

/-- An event is handled to its end if and only if its members can be read. A scan returns and has
provisioned every active row if and only if the members of every row can be read. -/
theorem one_bad_row (lib : JsonCode) (w : RowWatcher) :
    (∀ eventJson, (w.handleEvent lib eventJson).2 = true ↔
      ∀ e, lib.parse eventJson = some e → TypedEvent w.societyId e) ∧
    ∀ answer,
      ((w.runFullScan lib answer).2 = true ∧
        ∀ row ∈ rowsOf lib answer, ∀ sipUser sipHa1, ActiveRow row sipUser sipHa1 →
          .provision sipUser sipHa1 ∈ (w.runFullScan lib answer).1.calls) ↔
      ∀ row ∈ rowsOf lib answer, row.isObject → TypedRow row := by
  refine ⟨fun eventJson => handleEvent_returns, fun answer => ?_⟩
  rw [runFullScan_eq, scanRows_returns]
  exact ⟨And.left, fun htyped => ⟨htyped, fun row hrow sipUser sipHa1 h =>
    mem_calls_scanRows lib htyped hrow h w⟩⟩

/-! ### A row with null for a name -/

lemma parse_nil : Json.parse [] = none := rfl

/-- The parser of JSON texts, and the text of a value. -/
def plainJson : JsonCode := ⟨Json.parse, Json.dump, parse_nil⟩

def firstRow : Json := .object [(Bytes.ofString "sipUsername", .null)]

def secondRow : Json := .object [(Bytes.ofString "sipUsername", .string (Bytes.ofString "u_1"))]

/-- A row without a user, and a row of an active subscriber. -/
def twoRows : Bytes := (Json.array [firstRow, secondRow]).dump

lemma rowsOf_twoRows : rowsOf plainJson (some twoRows) = [firstRow, secondRow] := by
  have hwritable : (Json.array [firstRow, secondRow]).writable = true := by decide
  have hparse : plainJson.parse twoRows = some (.array [firstRow, secondRow]) :=
    Json.parse_dump hwritable
  rw [rowsOf, Option.bind_some, hparse]

lemma activeRow_secondRow : ActiveRow secondRow (Bytes.ofString "u_1") [] where
  typed := ⟨fun _ hv => ⟨_, (Option.some.inj hv).symm⟩, fun _ hv => (nomatch hv),
    fun _ hv => nomatch hv⟩
  sipUser_eq := rfl
  sipUser_ne := by decide
  sipHa1_eq := rfl
  active := rfl

/-- The first row ends the scan, and the subscriber of the second row is not provisioned. -/
theorem null_user_ends_scan :
    ActiveRow secondRow (Bytes.ofString "u_1") [] ∧
    secondRow ∈ rowsOf plainJson (some twoRows) ∧
    (runFullScan plainJson (some twoRows) ⟨Bytes.ofString "s", ∅, [], []⟩).2 = false ∧
    (runFullScan plainJson (some twoRows) ⟨Bytes.ofString "s", ∅, [], []⟩).1.calls = [] := by
  refine ⟨activeRow_secondRow, ?_, ?_⟩
  · rw [rowsOf_twoRows]
    simp
  · rw [runFullScan_eq, rowsOf_twoRows]
    exact ⟨rfl, rfl⟩

end RowWatcher
