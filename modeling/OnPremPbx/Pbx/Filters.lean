import OnPremPbx.Pbx.Handlers
import OnPremPbx.Pbx.PushSender

/-!
# Filters that are put together without escapes

Several handlers write the filter of a query with quotes around the strings of the request. The
database then reads the object that was meant exactly if the strings have no character that JSON
escapes.
-/

open Text Json

namespace MicroServicePbx

/-! ### Operations as they are meant -/

/-- A filter that goes to the database is the object with exactly the members that are meant. -/
def Op.AsIntended : Op → Prop
  | .db (.getDocument _ query _) ms         => Reads query ms
  | .db (.getDocumentsQueried _ query _) ms => Reads query ms
  | .db (.updateCollection _ filter _) ms   => Reads filter ms
  | .db (.deleteDocument _ doc) ms          => Reads doc ms
  | _                                       => True

def Filter.AsIntended (f : Filter) : Prop := Reads f.text f.members

/-- Every filter is as it is meant, whatever is answered within `A`. -/
def AsIntended (A : ∀ o, Option (Answer o) → Prop) {α : Type} (p : Prog α) : Prop :=
  p.All A Op.AsIntended fun _ => True

/-! ### The names that filters are made from -/

lemma plain_id : Plain (Bytes.ofString "_id") := plain_of_ascii (by simp [Bytes.ofString])

lemma plain_code : Plain (Bytes.ofString "code") := plain_of_ascii (by simp [Bytes.ofString])

lemma plain_number : Plain (Bytes.ofString "number") := plain_of_ascii (by simp [Bytes.ofString])

lemma plain_email : Plain (Bytes.ofString "email") := plain_of_ascii (by simp [Bytes.ofString])

lemma plain_societyId : Plain (Bytes.ofString "societyId") :=
  plain_of_ascii (by simp [Bytes.ofString])

lemma plain_subscriberId : Plain (Bytes.ofString "subscriberId") :=
  plain_of_ascii (by simp [Bytes.ofString])

/-- A filter with one member. -/
lemma concat_one {key : Bytes} (hkey : Plain key) (value : Bytes) :
    (Filter.concat [(key, value)]).AsIntended ↔ Plain value := by
  rw [Filter.AsIntended, Filter.concat, reads_concatText (List.cons_ne_nil _ _),
    List.forall_mem_singleton]
  exact and_iff_right hkey

/-- A filter with two members. -/
lemma concat_two {key key' : Bytes} (hkey : Plain key) (hkey' : Plain key') (value value' : Bytes) :
    (Filter.concat [(key, value), (key', value')]).AsIntended ↔ Plain value ∧ Plain value' := by
  rw [Filter.AsIntended, Filter.concat, reads_concatText (List.cons_ne_nil _ _),
    List.forall_mem_cons, List.forall_mem_singleton]
  exact and_congr (and_iff_right hkey) (and_iff_right hkey')

section

variable {A : ∀ o, Option (Answer o) → Prop} {α β : Type}

@[simp] lemma asIntended_pure (a : α) : AsIntended A (pure a : Prog α) := trivial

lemma asIntended_ofOption (o : Option α) : AsIntended A (Program.ofOption o : Prog α) := by
  rw [AsIntended, Program.all_ofOption]
  trivial

lemma asIntended_ofOption_bind (o : Option α) (f : α → Prog β) :
    AsIntended A (Program.ofOption o >>= f) ↔ ∀ a ∈ o, AsIntended A (f a) := by
  rw [AsIntended, Program.all_bind, Program.all_ofOption]
  cases o with
  | none => simp
  | some a =>
    simp only [Option.mem_some_iff, forall_eq']
    rfl

lemma asIntended_bind {p : Prog α} {f : α → Prog β} (hp : AsIntended A p)
    (hf : ∀ a, AsIntended A (f a)) : AsIntended A (p >>= f) := by
  rw [AsIntended, Program.all_bind]
  refine hp.mono fun r _ => ?_
  cases r with
  | none => trivial
  | some a => exact hf a

lemma AsIntended.of_bind {p : Prog α} {f : α → Prog β} (h : AsIntended A (p >>= f)) :
    AsIntended A p := by
  rw [AsIntended, Program.all_bind] at h
  exact h.mono fun _ _ => trivial

lemma asIntended_textOf_bind (c : DbCall) (ms : List (Bytes × Bytes)) (f : Bytes → Prog α) :
    AsIntended A (textOf c ms >>= f) ↔ (Op.db c ms).AsIntended ∧
      ∀ s, A (.db c ms) (some (.text s)) → AsIntended A (f s) := by
  rw [AsIntended, textOf, Program.all_bind, Program.all_bind, Program.all_perform]
  refine and_congr_right fun _ => ⟨fun h s => h (some (.text s)), fun h a ha => ?_⟩
  rcases a with _ | ⟨s⟩ | _ | _ | _
  · trivial
  · exact h s ha
  all_goals trivial

/-- A query, and what is done with its answer. -/
lemma asIntended_getDocument_bind (coll : String) (query : Filter) (f : Bytes → Prog α) :
    AsIntended Anything (getDocument coll query >>= f) ↔
      query.AsIntended ∧ ∀ s, AsIntended Anything (f s) := by
  rw [AsIntended, getDocument, Program.all_bind, all_textOf, Option.forall]
  exact and_congr_right fun _ => and_iff_right trivial

/-- A query whose exceptions are caught, and what is done with its answer. -/
lemma asIntended_getDocuments_attempt_bind (coll : String) (query : Filter)
    (f : Option Bytes → Prog α) :
    AsIntended Anything ((getDocuments coll query).attempt >>= f) ↔
      query.AsIntended ∧ ∀ s, AsIntended Anything (f s) := by
  rw [AsIntended, getDocuments, Program.all_bind, Program.all_attempt, all_textOf]
  rfl

lemma asIntended_createDocument_bind (dbName : Bytes) (coll : String) (doc : Bytes)
    {f : Bytes → Prog α} (hf : ∀ s, AsIntended A (f s)) :
    AsIntended A (createDocument dbName coll doc >>= f) :=
  (asIntended_textOf_bind _ _ _).mpr ⟨trivial, fun s _ => hf s⟩

lemma asIntended_post_bind (url : Bytes) (headers : List (Bytes × Bytes)) (body : Bytes)
    (f : ℤ → Prog α) :
    AsIntended A (Program.perform (Op.post url headers body) >>= f) ↔
      ∀ status : ℤ, A (.post url headers body) (some status) → AsIntended A (f status) := by
  rw [AsIntended, Program.all_bind, Program.all_perform]
  refine (and_iff_right trivial).trans ?_
  rw [Option.forall]
  exact and_iff_right fun _ => trivial

lemma asIntended_deleteDocument (coll : String) (doc : Filter) :
    AsIntended A (deleteDocument coll doc) ↔ doc.AsIntended := by
  rw [AsIntended, deleteDocument, Program.all_bind, Program.all_perform]
  refine and_iff_left fun a _ => ?_
  cases a <;> trivial

end

variable (env : Env)

/-! ### Societies -/

/-- The code of a request that is accepted. -/
def societyCode (req : Bytes) : Option Bytes := do
  let parsed ← Http.ofBytes env.decompress req
  let body ← Json.parse parsed.body
  let _ ← requiredText body "name"
  requiredText body "code"

lemma asIntended_society (req : Bytes) :
    AsIntended Anything (handleSocietyPOST env req) ↔
      ∀ code ∈ societyCode env req, Plain code := by
  rw [handleSocietyPOST, asIntended_ofOption_bind, societyCode]
  cases Http.ofBytes env.decompress req with
  | none => simp
  | some parsed =>
    simp only [Option.bind_eq_bind, Option.bind_some, Option.mem_some_iff, forall_eq']
    cases Json.parse parsed.body with
    | none => simp
    | some body =>
      simp only [Option.bind_some]
      cases requiredText body "name" with
      | none => simp
      | some name =>
        cases requiredText body "code" with
        | none => simp
        | some code =>
          simp only [Option.bind_some, Option.mem_some_iff, forall_eq']
          rw [asIntended_getDocument_bind, concat_one plain_code]
          refine and_iff_left fun existing => ?_
          split_ifs
          · trivial
          · refine (asIntended_ofOption_bind _ _).mpr fun text _ => ?_
            exact asIntended_createDocument_bind _ _ _ fun _ => trivial

/-! ### Call records and the directory -/

/-- The society of a query that goes to the database. -/
def queriedSociety (req : Bytes) : Option Bytes :=
  if societyIdOf req = [] then none else if env.dbAvailable then some (societyIdOf req) else none

lemma asIntended_cdr (req : Bytes) :
    AsIntended Anything (handleCdrGET env req) ↔ ∀ id ∈ queriedSociety env req, Plain id := by
  rw [handleCdrGET, queriedSociety]
  split_ifs
  · simp
  · rw [asIntended_getDocuments_attempt_bind, concat_one plain_societyId]
    simp only [Option.mem_some_iff, forall_eq']
    exact and_iff_left fun answer => trivial
  · simp

lemma asIntended_directory (req : Bytes) :
    AsIntended Anything (handleDirectoryGET env req) ↔
      ∀ id ∈ queriedSociety env req, Plain id := by
  rw [handleDirectoryGET, queriedSociety]
  split_ifs
  · simp
  · rw [asIntended_getDocuments_attempt_bind, concat_one plain_societyId]
    simp only [Option.mem_some_iff, forall_eq']
    exact and_iff_left fun answer => asIntended_ofOption _
  · simp

/-! ### The import of subscribers -/

/-- The strings of a row that filters are made from. -/
def RowPlain (header row : List Bytes) : Prop :=
  (roleOf header row = Bytes.ofString "resident" → Plain (column header row "flat_number")) ∧
    Plain (column header row "email")

lemma asIntended_findFlat_bind {α : Type} {societyId : Bytes} (hid : Plain societyId)
    (header row : List Bytes) {k : Option Bytes → Prog α} (hnone : AsIntended Anything (k none))
    {X : Prop} (hsome : ∀ flatId, AsIntended Anything (k (some flatId)) ↔ X) :
    AsIntended Anything (findFlat societyId header row >>= k) ↔
      (roleOf header row = Bytes.ofString "resident" →
        Plain (column header row "flat_number")) ∧ X := by
  rw [findFlat]
  split_ifs with hrole
  · rw [bind_assoc, asIntended_getDocument_bind, concat_two plain_societyId plain_number,
      and_iff_right hid, forall_prop_of_true hrole]
    refine and_congr_right fun _ => ⟨fun h => ?_, fun hX flatDoc => ?_⟩
    · exact (hsome _).mp (h [0])
    · split_ifs
      · exact hnone
      · exact (hsome _).mpr hX
  · rw [pure_bind, forall_prop_of_false hrole, true_and]
    exact hsome []

lemma asIntended_createSubscriber (societyId realm flatId : Bytes) (header row : List Bytes)
    (r : ℕ) : AsIntended Anything (createSubscriber env societyId realm flatId header row r) := by
  rw [createSubscriber]
  refine (asIntended_ofOption_bind _ _).mpr fun text _ => ?_
  exact asIntended_createDocument_bind _ _ _ fun _ => trivial

lemma asIntended_importRows {societyId : Bytes} (hid : Plain societyId) (realm : Bytes)
    (header : List Bytes) (rows : List (List Bytes)) (r : ℕ) (outCsv : Bytes)
    (created skipped : ℕ) :
    AsIntended Anything (importRows env societyId realm header r rows outCsv created skipped) ↔
      ∀ row ∈ rows.takeWhile (complete header), RowPlain header row := by
  induction rows generalizing r outCsv created skipped with
  | nil =>
    rw [importRows]
    simp
  | cons row rows ih =>
    rw [importRows]
    by_cases hrow : complete header row
    · rw [if_pos hrow, List.takeWhile_cons_of_pos hrow, List.forall_mem_cons, RowPlain, and_assoc]
      refine asIntended_findFlat_bind hid header row ?_ fun flatId => ?_
      · exact asIntended_pure _
      dsimp only
      rw [asIntended_getDocument_bind, concat_two plain_societyId plain_email,
        and_iff_right hid]
      refine and_congr_right fun _ => ⟨fun h => ?_, fun hrows existing => ?_⟩
      · -- the next row is reached where a subscriber exists already
        exact (ih _ _ _ _).mp (h [0])
      · split_ifs
        · exact (ih _ _ _ _).mpr hrows
        · exact asIntended_bind (asIntended_createSubscriber ..) fun line => (ih _ _ _ _).mpr hrows
    · rw [if_neg hrow, List.takeWhile_cons_of_neg hrow]
      simp

/-- The strings of an import that filters are made from: the society, and the rows up to one without
a required field. -/
def ImportPlain (req : Bytes) : Prop :=
  ∀ parsed ∈ Http.ofBytes env.decompress req, societyIdOf req ≠ [] →
    Plain (societyIdOf req) ∧ ∀ header rows, tableOf parsed.body = .ok (header, rows) →
      ∀ row ∈ rows.takeWhile (complete header), RowPlain header row

/-- The document of a society with a realm, and nothing else. -/
def realmOnly : Bytes := concatText [(Bytes.ofString "sipRealm", Bytes.ofString "r")]

lemma text_realmOnly :
    (Json.parse realmOnly).bind (·.text (Bytes.ofString "sipRealm")) =
      some (Bytes.ofString "r") := by
  have hplain : ∀ m ∈ [(Bytes.ofString "sipRealm", Bytes.ofString "r")], Plain m.1 ∧ Plain m.2 := by
    rw [List.forall_mem_singleton]
    exact ⟨plain_of_ascii (by simp [Bytes.ofString]), plain_of_ascii (by simp [Bytes.ofString])⟩
  rw [realmOnly, parse_concatText_of_plain (List.cons_ne_nil _ _) hplain]
  decide

lemma asIntended_import (req : Bytes) :
    AsIntended Anything (handleSubscriberImportPOST env req) ↔ ImportPlain env req := by
  rw [handleSubscriberImportPOST, asIntended_ofOption_bind, ImportPlain]
  refine forall_congr' fun parsed => imp_congr_right fun _ => ?_
  dsimp only
  split_ifs with hempty
  · exact iff_of_true trivial fun h => absurd hempty h
  · rw [forall_prop_of_true hempty, asIntended_getDocument_bind, concat_one plain_id]
    refine and_congr_right fun hid => ?_
    have htable : ∀ realm,
        AsIntended Anything (importTable env (societyIdOf req) realm parsed.body) ↔
        ∀ header rows, tableOf parsed.body = .ok (header, rows) →
          ∀ row ∈ rows.takeWhile (complete header), RowPlain header row := by
      intro realm
      rw [importTable]
      cases htable : tableOf parsed.body with
      | error err => exact iff_of_true trivial fun _ _ h => by cases h
      | ok table =>
        obtain ⟨header, rows⟩ := table
        dsimp only
        rw [asIntended_importRows env hid]
        constructor
        · rintro h header' rows' heq
          cases heq
          exact h
        · exact fun h => h header rows rfl
    constructor
    · intro h
      have hnext := h realmOnly
      rw [if_neg (by decide), text_realmOnly] at hnext
      exact (htable _).mp hnext
    · intro h societyDoc
      split_ifs
      · trivial
      · split
        · trivial
        · exact (htable _).mpr h

end MicroServicePbx

/-! ### Notifications -/

namespace PushSender

open MicroServicePbx

variable (cfg : Config)

/-- The database answers the query for the subscriptions with this text. -/
def Subscribed (raw : Bytes) : ∀ o, Option (Answer o) → Prop
  | .db (.getDocumentsQueried ..) _, a => a = some (.text raw)
  | _, _                               => True

/-- The subscriber, and the subscriptions that may be deleted, up to one that throws. -/
def NotifyPlain (subscriberId payload raw : Bytes) : Prop :=
  Plain subscriberId ∧
    ∀ d, some (some d) ∈
        ((subscriptions raw).map (delivery cfg payload)).takeWhile Option.isSome →
      0 ≤ cfg.maxRetries → d.subId ≠ [] → Plain d.subId

lemma asIntended_attempts_bind {raw : Bytes} {α : Type} (d : Delivery) (n : ℕ) {f : Bool → Prog α}
    {X : Prop} (hf : ∀ sent, AsIntended (Subscribed raw) (f sent) ↔ X) :
    AsIntended (Subscribed raw) (attempts d n >>= f) ↔
      (n ≠ 0 → d.subId ≠ [] → Plain d.subId) ∧ X := by
  induction n with
  | zero =>
    rw [attempts, pure_bind, hf]
    simp
  | succ n ih =>
    rw [attempts, bind_assoc, asIntended_post_bind, forall_prop_of_true (Nat.succ_ne_zero n)]
    constructor
    · intro h
      refine ⟨fun hid => ?_, (hf true).mp (h 200 trivial)⟩
      -- the subscription is deleted where the service answers that it is gone
      have hgone := h 410 trivial
      rw [if_neg (show ¬ ((200 : ℤ) ≤ 410 ∧ (410 : ℤ) < 300) by decide), if_pos rfl, if_neg hid,
        bind_assoc] at hgone
      exact (concat_one plain_id _).mp ((asIntended_deleteDocument _ _).mp hgone.of_bind)
    · rintro ⟨hplain, hX⟩ status -
      split_ifs with hok hgone hid hbusy
      · exact (hf true).mpr hX
      · exact (hf false).mpr hX
      · rw [bind_assoc]
        exact asIntended_bind ((asIntended_deleteDocument _ _).mpr
          ((concat_one plain_id _).mpr (hplain hid))) fun _ => (hf false).mpr hX
      · exact ih.mpr ⟨fun _ => hplain, hX⟩
      · exact (hf false).mpr hX

lemma asIntended_deliverAll {raw : Bytes} (payload : Bytes) (subs : List Json) (delivered : ℕ) :
    AsIntended (Subscribed raw) (deliverAll cfg payload subs delivered) ↔
      ∀ d, some (some d) ∈ (subs.map (delivery cfg payload)).takeWhile Option.isSome →
        0 ≤ cfg.maxRetries → d.subId ≠ [] → Plain d.subId := by
  induction subs generalizing delivered with
  | nil =>
    rw [deliverAll]
    simp
  | cons sub subs ih =>
    rw [deliverAll, asIntended_ofOption_bind, List.map_cons]
    cases delivery cfg payload sub with
    | none => simp
    | some r =>
      rw [List.takeWhile_cons_of_pos rfl]
      simp only [Option.mem_some_iff, forall_eq', List.mem_cons]
      cases r with
      | none => simpa using ih _
      | some d =>
        have hsome : (cfg.maxRetries + 1).toNat ≠ 0 ↔ 0 ≤ cfg.maxRetries := by omega
        dsimp only
        rw [asIntended_attempts_bind d _ fun sent => ih _, hsome]
        constructor
        · rintro ⟨hd, hrest⟩ d' (heq | hmem)
          · cases heq
            exact hd
          · exact hrest d' hmem
        · exact fun h => ⟨h d (.inl rfl), fun d' hmem => h d' (.inr hmem)⟩

/-- The notification of a subscriber. -/
lemma asIntended_notify (subscriberId payload raw : Bytes) :
    AsIntended (Subscribed raw) (notify cfg subscriberId payload) ↔
      NotifyPlain cfg subscriberId payload raw := by
  rw [notify, getDocuments, asIntended_textOf_bind, NotifyPlain]
  refine and_congr (concat_one plain_subscriberId _) ⟨fun h => ?_, fun h s hs => ?_⟩
  · exact (asIntended_deliverAll cfg payload _ _).mp (h raw rfl)
  · cases hs
    exact (asIntended_deliverAll cfg payload _ _).mpr h

end PushSender

namespace MicroServicePbx

/-! ### All of them -/

/-- The filters are what they are meant to be exactly if the strings that they are made from have no
quote, backslash or control character and are UTF-8. -/
theorem filters_as_intended_iff (env : Env) (cfg : PushSender.Config)
    (req subscriberId payload raw : Bytes) :
    (AsIntended Anything (handleSocietyPOST env req) ↔
      ∀ code ∈ societyCode env req, Plain code) ∧
    (AsIntended Anything (handleSubscriberImportPOST env req) ↔ ImportPlain env req) ∧
    (AsIntended Anything (handleCdrGET env req) ↔ ∀ id ∈ queriedSociety env req, Plain id) ∧
    (AsIntended Anything (handleDirectoryGET env req) ↔
      ∀ id ∈ queriedSociety env req, Plain id) ∧
    (AsIntended (PushSender.Subscribed raw) (PushSender.notify cfg subscriberId payload) ↔
      PushSender.NotifyPlain cfg subscriberId payload raw) :=
  ⟨asIntended_society env req, asIntended_import env req, asIntended_cdr env req,
    asIntended_directory env req, PushSender.asIntended_notify cfg subscriberId payload raw⟩

/-- The directory of a society, with a condition on a secret in the parameter. -/
def forgedRequest : Bytes :=
  Bytes.ofString
    "GET /api/v1/subscriber?societyId=s1\",\"sipHa1\":\"0f HTTP/1.1\r\nHost: pbx\r\n\r\n"

/-- The filter of the forged request asks for two members, and one was meant. -/
theorem filter_has_another_member :
    ¬ AsIntended Anything (handleDirectoryGET bareEnv forgedRequest) := by
  rw [asIntended_directory]
  intro h
  have hid := h (Bytes.ofString "s1\",\"sipHa1\":\"0f") (by decide +kernel)
  exact absurd hid (by decide)

example : (Filter.concat [(Bytes.ofString "societyId", societyIdOf forgedRequest)]).text =
    concatText [(Bytes.ofString "societyId", Bytes.ofString "s1"),
      (Bytes.ofString "sipHa1", Bytes.ofString "0f")] := by
  decide +kernel

end MicroServicePbx
