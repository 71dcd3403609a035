import OnPremPbx.Pbx.JsonStore

/-!
# The rows of an import

The import of subscribers checks a row and inserts its subscriber before it looks at the next one.
A row that is refused ends it with an error, and the subscribers of the rows before stay.
-/

open Json

namespace MicroServicePbx

/-! ### Stores -/

section

variable {σ : Type} {h : Program.Handler Answer σ}

/-- A query changes nothing, and a document that is created is added to its collection, or nothing
is. -/
structure DocumentStore.Appends (st : DocumentStore h) : Prop where
  query : ∀ coll query projection members s,
    (h (.db (.getDocument coll query projection) members) s).2 = s
  create : ∀ dbName coll doc members s,
    (h (.db (.createDocument dbName coll doc) members) s).2 = s ∨
    ∃ d, st.docs (h (.db (.createDocument dbName coll doc) members) s).2 coll =
      st.docs s coll ++ [d]
  others : ∀ dbName coll doc members s coll' query projection members', coll' ≠ coll →
    (h (.db (.getDocument coll' query projection) members')
        (h (.db (.createDocument dbName coll doc) members) s).2).1 =
      (h (.db (.getDocument coll' query projection) members') s).1

/-- The subscribers of a store. -/
def DocumentStore.subscribers (st : DocumentStore h) (s : σ) : List Json :=
  st.docs s (Bytes.ofString "subscribers")

variable {st : DocumentStore h} {s s' : σ}

/-- An operation that answers with a text leaves the state that its handler leaves. -/
lemma run_textOf_state (c : DbCall) (members : List (Bytes × Bytes)) (s : σ) :
    ((textOf c members).run h s).2 = (h (.db c members) s).2 := by
  rw [textOf, Program.run_bind, Program.run_perform]
  split
  · rfl
  · rename_i a _
    rcases a with s | _ | _ | _ <;> rfl

/-- Its text is the one that is answered. -/
lemma run_textOf_congr {c : DbCall} {members : List (Bytes × Bytes)}
    (hc : (h (.db c members) s').1 = (h (.db c members) s).1) :
    ((textOf c members).run h s').1 = ((textOf c members).run h s).1 := by
  rw [textOf, Program.run_bind, Program.run_bind, Program.run_perform, Program.run_perform, hc]
  split
  · rfl
  · rename_i a _
    rcases a with s | _ | _ | _ <;> rfl

lemma getDocument_state (hst : st.Appends) (coll : String) (query : Filter) (s : σ) :
    ((getDocument coll query).run h s).2 = s :=
  (run_textOf_state _ _ s).trans (hst.query _ _ _ _ s)

end

/-! ### Responses -/

/-- The status of a response is 200. -/
def IsOk (resp : Bytes) : Prop := Bytes.ofString "HTTP/1.1 200 " <+: resp

instance (resp : Bytes) : Decidable (IsOk resp) := inferInstanceAs (Decidable (_ <+: _))

lemma isOk_importResponse (outCsv : Bytes) (created skipped : ℕ) :
    IsOk (importResponse outCsv created skipped) := by
  have hstatus : Bytes.ofString "HTTP/1.1 200 OK\r\n" =
      Bytes.ofString "HTTP/1.1 200 " ++ Bytes.ofString "OK\r\n" := by decide
  rw [IsOk, importResponse, hstatus]
  simp only [List.append_assoc]
  exact List.prefix_append _ _

lemma not_isOk_responseError {code : ℕ} (hcode : (ofNat code).take 3 ≠ Bytes.ofString "200")
    (hlen : (ofNat code).length = 3) (reason : String) (cause : Bytes) :
    ¬ IsOk (responseError code reason cause) := by
  intro hok
  have hsplit : Bytes.ofString "HTTP/1.1 200 " =
      Bytes.ofString "HTTP/1.1 " ++ (Bytes.ofString "200" ++ [0x20]) := by decide
  rw [IsOk, hsplit, responseError, httpResponse] at hok
  simp only [List.append_assoc] at hok
  have hnumber := (List.prefix_append_right_inj _).mp hok
  have htake := List.prefix_iff_eq_take.mp ((List.prefix_append _ _).trans hnumber)
  rw [show (Bytes.ofString "200").length = 3 from rfl, List.take_append_of_le_length hlen.ge]
    at htake
  exact hcode htake.symm

lemma not_isOk_rowError (r : ℕ) (cause : Bytes) : ¬ IsOk (rowError r cause) :=
  not_isOk_responseError (by decide) (by decide) _ _

lemma not_isOk_tableOf {csv err : Bytes} (h : tableOf csv = .error err) : ¬ IsOk err := by
  rw [tableOf] at h
  split at h
  · split_ifs at h
    cases h
    exact not_isOk_responseError (by decide) (by decide) _ _
  · cases h
    exact not_isOk_responseError (by decide) (by decide) _ _

/-! ### One row -/

/-- The filter for the subscriber with the email of a row. -/
def emailFilter (societyId : Bytes) (header row : List Bytes) : Filter :=
  .concat [(Bytes.ofString "societyId", societyId),
    (Bytes.ofString "email", column header row "email")]

/-- The line of a row with a subscriber already. -/
def skippedLine (header row : List Bytes) : Bytes :=
  csvLine [csvEscape (column header row "flat_number"), csvEscape (column header row "name"),
    csvEscape (column header row "email"), [], [], [], Bytes.ofString "skipped"]

section

variable {σ : Type} {h : Program.Handler Answer σ} (st : DocumentStore h) (env : Env)
  (societyId realm : Bytes) (header : List Bytes)

/-- The row ends the import with an error: a required field is missing, or its flat is unknown. -/
def RefusedRow (h : Program.Handler Answer σ) (societyId : Bytes) (header : List Bytes) (s : σ)
    (row : List Bytes) : Prop :=
  complete header row = false ∨ ((findFlat societyId header row).run h s).1 = some none

/-- There is no subscriber for the row, and its flat is known. -/
structure FreshRow (h : Program.Handler Answer σ) (societyId : Bytes) (header : List Bytes) (s : σ)
    (row : List Bytes) (flatId : Bytes) : Prop where
  complete : complete header row = true
  flat : ((findFlat societyId header row).run h s).1 = some (some flatId)
  absent : ((getDocument "subscribers" (emailFilter societyId header row)).run h s).1 = some []

/-- The row has a subscriber inserted. -/
def InsertedRow (s : σ) (r : ℕ) (row : List Bytes) : Prop :=
  ∃ flatId, FreshRow h societyId header s row flatId ∧
    st.subscribers ((createSubscriber env societyId realm flatId header row r).run h s).2 ≠
      st.subscribers s

/-- What becomes of the row at the head of the loop, and of the rest of it. -/
inductive RowStep (h : Program.Handler Answer σ) (r : ℕ) (row : List Bytes)
    (rows : List (List Bytes)) (outCsv : Bytes) (created skipped : ℕ) (s : σ)
    (result : Option Bytes × σ) : Prop where
  | refused (resp : Bytes) : RefusedRow h societyId header s row → ¬ IsOk resp →
    result = (some resp, s) → RowStep h r row rows outCsv created skipped s result
  | skipped (text : Bytes) : ¬ RefusedRow h societyId header s row →
    ((getDocument "subscribers" (emailFilter societyId header row)).run h s).1 = some text →
    text ≠ [] →
    result = (importRows env societyId realm header (r + 1) rows
      (outCsv ++ skippedLine header row) created (skipped + 1)).run h s →
    RowStep h r row rows outCsv created skipped s result
  | created (flatId line : Bytes) (s' : σ) : ¬ RefusedRow h societyId header s row →
    FreshRow h societyId header s row flatId →
    (createSubscriber env societyId realm flatId header row r).run h s = (some line, s') →
    result = (importRows env societyId realm header (r + 1) rows (outCsv ++ line) (created + 1)
      skipped).run h s' →
    RowStep h r row rows outCsv created skipped s result
  | thrown (s' : σ) : result = (none, s') →
    RowStep h r row rows outCsv created skipped s result

variable {st env societyId realm header} {s s' : σ}

lemma run_findFlat_state (hst : st.Appends) (societyId : Bytes) (header row : List Bytes) (s : σ) :
    ((findFlat societyId header row).run h s).2 = s := by
  rw [findFlat]
  split_ifs
  · refine Program.run_bind_of_state (R := fun p => p.2 = s) (getDocument_state hst _ _ s) rfl
      fun flatDoc => ?_
    split_ifs <;> rfl
  · rfl

/-- One iteration of the loop. -/
lemma rowStep (hst : st.Appends) (r : ℕ) (row : List Bytes) (rows : List (List Bytes))
    (outCsv : Bytes) (created skipped : ℕ) (s : σ) :
    RowStep env societyId realm header h r row rows outCsv created skipped s
      ((importRows env societyId realm header r (row :: rows) outCsv created skipped).run h s) := by
  have hflatState := run_findFlat_state hst societyId header row s
  have hqueryState := getDocument_state hst "subscribers" (emailFilter societyId header row) s
  rw [importRows]
  by_cases hcomplete : complete header row = true
  · rw [if_pos hcomplete, Program.run_bind, hflatState]
    have hrefused : RefusedRow h societyId header s row ↔
        ((findFlat societyId header row).run h s).1 = some none := by
      rw [RefusedRow, hcomplete]
      simp
    cases hflat : ((findFlat societyId header row).run h s).1 with
    | none => exact RowStep.thrown s rfl
    | some flat =>
      rw [hflat] at hrefused
      cases flat with
      | none => exact RowStep.refused _ (hrefused.mpr rfl) (not_isOk_rowError _ _) rfl
      | some flatId =>
        have hnot : ¬ RefusedRow h societyId header s row := fun hx => nomatch hrefused.mp hx
        dsimp only
        rw [Program.run_bind, ← emailFilter, hqueryState]
        cases hquery :
            ((getDocument "subscribers" (emailFilter societyId header row)).run h s).1 with
        | none => exact RowStep.thrown s rfl
        | some text =>
          dsimp only
          by_cases htext : text = []
          · subst htext
            rw [if_neg (not_not.mpr rfl), Program.run_bind]
            cases hcreate :
                (createSubscriber env societyId realm flatId header row r).run h s with
            | mk line s' =>
              cases line with
              | none => exact RowStep.thrown s' rfl
              | some line =>
                exact RowStep.created flatId line s' hnot ⟨hcomplete, hflat, hquery⟩ hcreate rfl
          · rw [if_pos htext]
            exact RowStep.skipped text hnot hquery htext rfl
  · rw [if_neg hcomplete]
    exact RowStep.refused _ (Or.inl (Bool.eq_false_iff.mpr hcomplete)) (not_isOk_rowError _ _) rfl

/-! ### The flats -/

/-- Queries for flats are answered in the same way. -/
def SameFlats (h : Program.Handler Answer σ) (s s' : σ) : Prop :=
  ∀ query, ((getDocument "flats" query).run h s').1 = ((getDocument "flats" query).run h s).1

lemma findFlat_congr (hflats : SameFlats h s s') (row : List Bytes) :
    ((findFlat societyId header row).run h s').1 = ((findFlat societyId header row).run h s).1 := by
  rw [findFlat]
  split_ifs
  · rw [Program.run_bind, Program.run_bind, hflats]
    split
    · rfl
    · split_ifs <;> rfl
  · rfl

/-- The insertion of a subscriber changes no flats. -/
lemma refused_congr (hflats : SameFlats h s s') (row : List Bytes) :
    RefusedRow h societyId header s' row ↔ RefusedRow h societyId header s row := by
  rw [RefusedRow, RefusedRow, findFlat_congr hflats]

/-- What the creation of a subscriber leaves. -/
lemma createSubscriber_state (hst : st.Appends) {flatId : Bytes} {row : List Bytes} {r : ℕ}
    {line : Option Bytes}
    (hrun : (createSubscriber env societyId realm flatId header row r).run h s = (line, s')) :
    (s' = s ∨ ∃ d, st.subscribers s' = st.subscribers s ++ [d]) ∧ SameFlats h s s' := by
  rw [createSubscriber, Program.run_bind, Env.dumped, Program.run_ofOption] at hrun
  dsimp only at hrun
  split at hrun
  · cases hrun
    exact ⟨Or.inl rfl, fun _ => rfl⟩
  · rename_i text _
    rw [Program.run_bind] at hrun
    have hs' : s' = (h (.db (.createDocument env.database (Bytes.ofString "subscribers") text) [])
        s).2 := by
      rw [← run_textOf_state]
      split at hrun
      · exact (congrArg Prod.snd hrun).symm
      · exact (congrArg Prod.snd hrun).symm
    subst hs'
    refine ⟨hst.create _ _ _ _ _, fun query => run_textOf_congr ?_⟩
    exact hst.others _ _ _ _ _ _ _ _ _ (by decide)

/-! ### The loop -/

/-- After an insertion: the response tells whether a row is refused, and no subscriber is taken
away. -/
lemma importRows_after (hst : st.Appends) {r created skipped : ℕ} {rows : List (List Bytes)}
    {outCsv resp : Bytes} {s₁ s₂ : σ} (hflats : SameFlats h s s₁)
    (hrun : (importRows env societyId realm header r rows outCsv created skipped).run h s₁ =
      (some resp, s₂)) :
    (IsOk resp ↔ ∀ row ∈ rows, ¬ RefusedRow h societyId header s row) ∧
      st.subscribers s₁ <+: st.subscribers s₂ := by
  induction rows generalizing r created skipped outCsv s₁ with
  | nil =>
    cases hrun
    exact ⟨iff_of_true (isOk_importResponse _ _ _) (by simp), List.prefix_rfl⟩
  | cons row rows ih =>
    rw [List.forall_mem_cons]
    cases hrun ▸ rowStep hst r row rows outCsv created skipped s₁ with
    | refused resp' hrefused hresp heq =>
      cases heq
      rw [refused_congr hflats] at hrefused
      exact ⟨iff_of_false hresp fun hall => hall.1 hrefused, List.prefix_rfl⟩
    | skipped text hnot _ _ heq =>
      rw [refused_congr hflats] at hnot
      obtain ⟨hok, hprefix⟩ := ih hflats heq.symm
      exact ⟨hok.trans (and_iff_right hnot).symm, hprefix⟩
    | created flatId line s' hnot _ hcreate heq =>
      rw [refused_congr hflats] at hnot
      obtain ⟨hstate, hflats'⟩ := createSubscriber_state hst hcreate
      obtain ⟨hok, hprefix⟩ := ih (fun query => (hflats' query).trans (hflats query)) heq.symm
      refine ⟨hok.trans (and_iff_right hnot).symm, List.IsPrefix.trans ?_ hprefix⟩
      rcases hstate with rfl | ⟨d, hd⟩
      · exact List.prefix_rfl
      · rw [hd]
        exact List.prefix_append _ _
    | thrown s' heq => cases heq

variable (st env societyId realm header)

/-- No row is refused, or no row before the first one that is refused has a subscriber inserted. -/
def Undivided (s : σ) : ℕ → List (List Bytes) → Prop
  | _, []          => True
  | r, row :: rows =>
    (∀ row' ∈ row :: rows, ¬ RefusedRow h societyId header s row') ∨
      RefusedRow h societyId header s row ∨
      ¬ InsertedRow st env societyId realm header s r row ∧ Undivided s (r + 1) rows

variable {st env societyId realm header}

lemma undivided_step {P Q : Prop} {r : ℕ} {row : List Bytes} {rows : List (List Bytes)}
    (hnot : ¬ RefusedRow h societyId header s row)
    (hins : ¬ InsertedRow st env societyId realm header s r row)
    (ih : (¬ P → Q) ↔ Undivided st env societyId realm header s (r + 1) rows) :
    (¬ P → Q) ↔ P ∨ RefusedRow h societyId header s row ∨
      ¬ InsertedRow st env societyId realm header s r row ∧
        Undivided st env societyId realm header s (r + 1) rows := by
  rw [← ih]
  constructor
  · exact fun hsame => Or.inr (Or.inr ⟨hins, hsame⟩)
  · rintro (hok | hrefused | ⟨-, hsame⟩)
    · exact fun hfails => absurd hok hfails
    · exact absurd hrefused hnot
    · exact hsame

/-- The subscribers are left as they were by an import that fails, exactly if no row before the
refused one is inserted. -/
lemma undivided_iff (hst : st.Appends) {r created skipped : ℕ} {rows : List (List Bytes)}
    {outCsv resp : Bytes} {s₂ : σ}
    (hrun : (importRows env societyId realm header r rows outCsv created skipped).run h s =
      (some resp, s₂)) :
    (¬ IsOk resp → st.subscribers s₂ = st.subscribers s) ↔
      Undivided st env societyId realm header s r rows := by
  induction rows generalizing r created skipped outCsv with
  | nil =>
    cases hrun
    exact iff_of_true (fun _ => rfl) trivial
  | cons row rows ih =>
    have hafter := importRows_after hst (s := s) (fun _ => rfl) hrun
    rw [Undivided, ← hafter.1]
    cases hrun ▸ rowStep hst r row rows outCsv created skipped s with
    | refused resp' hrefused hresp heq =>
      cases heq
      exact iff_of_true (fun _ => rfl) (Or.inr (Or.inl hrefused))
    | skipped text hnot hquery htext heq =>
      have hins : ¬ InsertedRow st env societyId realm header s r row := by
        rintro ⟨flatId, hfresh, -⟩
        exact htext (Option.some.inj (hquery.symm.trans hfresh.absent))
      exact undivided_step hnot hins (ih heq.symm)
    | created flatId line s' hnot hfresh hcreate heq =>
      have hinserted : InsertedRow st env societyId realm header s r row ↔
          st.subscribers s' ≠ st.subscribers s := by
        constructor
        · rintro ⟨flatId', hfresh', hne⟩
          have hflat := hfresh.flat.symm.trans hfresh'.flat
          cases hflat
          rw [hcreate] at hne
          exact hne
        · intro hne
          refine ⟨flatId, hfresh, ?_⟩
          rw [hcreate]
          exact hne
      obtain ⟨rfl | ⟨d, hd⟩, hflats⟩ := createSubscriber_state hst hcreate
      · exact undivided_step hnot (fun hins => hinserted.mp hins rfl) (ih heq.symm)
      · -- the subscriber of this row is there at the end
        obtain ⟨-, hprefix⟩ := importRows_after hst hflats heq.symm
        have hne : ∀ l, st.subscribers s ++ [d] <+: l → l ≠ st.subscribers s := by
          rintro _ hle rfl
          have hlen := hle.length_le
          rw [List.length_append, List.length_singleton] at hlen
          omega
        have hins : InsertedRow st env societyId realm header s r row :=
          hinserted.mpr (hne _ (by rw [hd]))
        rw [hd] at hprefix
        constructor
        · intro hunchanged
          by_contra hnotOk
          exact hne _ hprefix (hunchanged fun hok => hnotOk (Or.inl hok))
        · rintro (hok | hrefused | ⟨hnotIns, -⟩) hfails
          · exact absurd hok hfails
          · exact absurd hrefused hnot
          · exact absurd hins hnotIns
    | thrown s' heq => cases heq

/-! ### The whole import -/

/-- The filter for the society of a request. -/
def societyFilter (societyId : Bytes) : Filter := .concat [(Bytes.ofString "_id", societyId)]

/-- The request names a society with a realm, and has a table with rows. -/
structure IsImport (h : Program.Handler Answer σ) (env : Env) (req : Bytes) (s : σ)
    (societyId realm : Bytes) (header : List Bytes) (rows : List (List Bytes)) : Prop where
  table : ∃ parsed, Http.ofBytes env.decompress req = some parsed ∧
    tableOf parsed.body = .ok (header, rows)
  society : societyIdOf req = societyId ∧ societyId ≠ []
  realm : ∃ doc, ((getDocument "societies" (societyFilter societyId)).run h s).1 = some doc ∧
    doc ≠ [] ∧ (parse doc).bind (·.text (Bytes.ofString "sipRealm")) = some realm

lemma IsImport.unique {req societyId' realm' : Bytes} {header' : List Bytes}
    {rows rows' : List (List Bytes)} (himport : IsImport h env req s societyId realm header rows)
    (himport' : IsImport h env req s societyId' realm' header' rows') :
    societyId' = societyId ∧ realm' = realm ∧ header' = header ∧ rows' = rows := by
  obtain ⟨rfl, -⟩ := himport.society
  obtain ⟨rfl, -⟩ := himport'.society
  obtain ⟨parsed, hparsed, htable⟩ := himport.table
  obtain ⟨parsed', hparsed', htable'⟩ := himport'.table
  obtain ⟨doc, hdoc, -, hrealm⟩ := himport.realm
  obtain ⟨doc', hdoc', -, hrealm'⟩ := himport'.realm
  obtain rfl := Option.some.inj (hparsed.symm.trans hparsed')
  obtain rfl := Option.some.inj (hdoc.symm.trans hdoc')
  rw [htable] at htable'
  rw [hrealm] at hrealm'
  cases htable'
  cases hrealm'
  exact ⟨rfl, rfl, rfl, rfl⟩

/-- The first line of the report. -/
def reportHeader : Bytes :=
  Bytes.ofString "flat_number,name,email,sipUsername,sipPassword,portalPassword,status\r\n"

/-- A run that returns is the one of the loop, or has changed nothing. -/
lemma handleSubscriberImportPOST_inv (hst : st.Appends) {req resp : Bytes}
    (hrun : (handleSubscriberImportPOST env req).run h s = (some resp, s')) :
    (s' = s ∧ ¬ IsOk resp ∧
      ∀ societyId realm header rows, ¬ IsImport h env req s societyId realm header rows) ∨
    ∃ societyId realm header rows, IsImport h env req s societyId realm header rows ∧
      (importRows env societyId realm header 1 rows reportHeader 0 0).run h s =
        (some resp, s') := by
  rw [handleSubscriberImportPOST, Program.run_bind, Program.run_ofOption] at hrun
  cases hparsed : Http.ofBytes env.decompress req with
  | none =>
    rw [hparsed] at hrun
    cases hrun
  | some parsed =>
    rw [hparsed] at hrun
    dsimp only at hrun
    by_cases hsociety : societyIdOf req = []
    · rw [if_pos hsociety] at hrun
      cases hrun
      exact Or.inl ⟨rfl, not_isOk_responseError (by decide) (by decide) _ _,
        fun _ _ _ _ himport => himport.society.2 (himport.society.1 ▸ hsociety)⟩
    · rw [if_neg hsociety, Program.run_bind, ← societyFilter,
        getDocument_state hst] at hrun
      cases hdoc : ((getDocument "societies" (societyFilter (societyIdOf req))).run h s).1 with
      | none =>
        rw [hdoc] at hrun
        cases hrun
      | some doc =>
        rw [hdoc] at hrun
        dsimp only at hrun
        by_cases hnil : doc = []
        · rw [if_pos hnil] at hrun
          cases hrun
          refine Or.inl ⟨rfl, not_isOk_responseError (by decide) (by decide) _ _, ?_⟩
          rintro _ realm header rows ⟨-, ⟨rfl, -⟩, doc', hdoc', hne, -⟩
          exact hne ((Option.some.inj (hdoc'.symm.trans hdoc)).trans hnil)
        · rw [if_neg hnil] at hrun
          cases hrealm : (parse doc).bind (·.text (Bytes.ofString "sipRealm")) with
          | none =>
            rw [hrealm] at hrun
            cases hrun
            refine Or.inl ⟨rfl, not_isOk_responseError (by decide) (by decide) _ _, ?_⟩
            rintro _ realm header rows ⟨-, ⟨rfl, -⟩, doc', hdoc', -, hrealm'⟩
            obtain rfl := Option.some.inj (hdoc'.symm.trans hdoc)
            rw [hrealm] at hrealm'
            cases hrealm'
          | some realm =>
            rw [hrealm] at hrun
            dsimp only at hrun
            rw [importTable] at hrun
            cases htable : tableOf parsed.body with
            | error err =>
              rw [htable] at hrun
              cases hrun
              refine Or.inl ⟨rfl, not_isOk_tableOf htable, ?_⟩
              rintro _ realm' header rows ⟨⟨parsed', hparsed', htable'⟩, -, -⟩
              obtain rfl := Option.some.inj (hparsed'.symm.trans hparsed)
              rw [htable] at htable'
              cases htable'
            | ok table =>
              obtain ⟨header, rows⟩ := table
              rw [htable] at hrun
              exact Or.inr ⟨_, realm, header, rows,
                ⟨⟨parsed, hparsed, htable⟩, ⟨rfl, hsociety⟩, doc, hdoc, hnil, hrealm⟩, hrun⟩

end

/-- An import that returns an error has left the subscribers as they were, exactly if no row before
the first one that is refused is inserted. -/
theorem import_all_or_nothing_iff {σ : Type} {h : Program.Handler Answer σ} {st : DocumentStore h}
    (hst : st.Appends) {env : Env} {req resp : Bytes} {s s' : σ}
    (hrun : (handleSubscriberImportPOST env req).run h s = (some resp, s')) :
    (¬ IsOk resp → st.subscribers s' = st.subscribers s) ↔
      ∀ societyId realm header rows, IsImport h env req s societyId realm header rows →
        Undivided st env societyId realm header s 1 rows := by
  rcases handleSubscriberImportPOST_inv hst hrun with
    ⟨rfl, -, hnone⟩ | ⟨societyId, realm, header, rows, himport, hloop⟩
  · exact iff_of_true (fun _ => rfl) fun _ _ _ _ himport => absurd himport (hnone _ _ _ _)
  · rw [undivided_iff hst hloop]
    constructor
    · intro hundivided societyId' realm' header' rows' himport'
      obtain ⟨rfl, rfl, rfl, rfl⟩ := himport.unique himport'
      exact hundivided
    · intro hall
      exact hall _ _ _ _ himport

/-! ### An import that fails after its first row -/

lemma JsonStore.appends : JsonStore.store.Appends where
  query _ _ _ _ _ := rfl
  create _ coll doc _ s := by
    change (s.insert coll doc).2 = s ∨ ∃ d, (s.insert coll doc).2.docs coll = s.docs coll ++ [d]
    rw [insert]
    split
    · split
      · exact Or.inr ⟨_, by rw [docs_append, if_pos rfl]⟩
      · exact Or.inl rfl
    · exact Or.inl rfl
  others _ coll doc _ s coll' query _ _ hne := by
    change some (DbValue.text ((((s.insert coll doc).2.docs coll').find? (selects query)).elim []
      Json.dump)) = _
    rw [insert_frame hne]
    rfl

def importEnv : Env := { bareEnv with dump := Json.dumped }

/-- A society with a realm. -/
def gardenSociety : Json :=
  .object [member "_id" (Bytes.ofString "s1"), member "sipRealm" (Bytes.ofString "r")]

/-- A store with this society, and no subscribers. -/
def gardenStore : JsonStore :=
  ⟨(JsonDoc.ofJson gardenSociety).toList.map fun d => (Bytes.ofString "societies", d), 0⟩

/-- A guard, and a guard without a name. -/
def guardsRequest : Bytes :=
  Bytes.ofString ("POST /api/v1/subscribers/import?societyId=s1 HTTP/1.1\r\n" ++
    "Content-Length: 54\r\n\r\n" ++
    "flat_number,name,email,role\n1,A,a@x,guard\n2,,b@x,guard")

/-- The run of an import. -/
def guardsRun : Option Bytes × JsonStore :=
  (handleSubscriberImportPOST importEnv guardsRequest).run JsonStore.handler gardenStore

lemma guardsRun_fails : ∃ resp s', guardsRun = (some resp, s') ∧ ¬ IsOk resp ∧
    (JsonStore.store.subscribers s').length = 1 := by
  -- the run is evaluated once for both
  have hrun : (guardsRun.1.any fun resp => !decide (IsOk resp)) = true ∧
      (JsonStore.store.subscribers guardsRun.2).length = 1 := by
    decide +kernel
  generalize guardsRun = run at hrun
  obtain ⟨hany, hlen⟩ := hrun
  obtain ⟨resp, hresp, hfails⟩ := (Option.any_eq_true _ _).mp hany
  exact ⟨resp, run.2, by rw [← hresp], by simpa using hfails, hlen⟩

theorem import_all_or_nothing_iff_guards : ∃ resp s', guardsRun = (some resp, s') ∧
    ((¬ IsOk resp → JsonStore.store.subscribers s' = JsonStore.store.subscribers gardenStore) ↔
      ∀ societyId realm header rows,
        IsImport JsonStore.handler importEnv guardsRequest gardenStore societyId realm header rows →
          Undivided JsonStore.store importEnv societyId realm header gardenStore 1 rows) := by
  obtain ⟨resp, s', hrun, -⟩ := guardsRun_fails
  exact ⟨resp, s', hrun, import_all_or_nothing_iff JsonStore.appends hrun⟩

/-- The guard of the first row is there after the import has failed. -/
theorem first_row_stays :
    ¬ ∀ (req resp : Bytes) (s s' : JsonStore),
      (handleSubscriberImportPOST importEnv req).run JsonStore.handler s = (some resp, s') →
      ¬ IsOk resp → JsonStore.store.subscribers s' = JsonStore.store.subscribers s := by
  intro hclaim
  obtain ⟨resp, s', hrun, hfails, hlen⟩ := guardsRun_fails
  have hsame := hclaim guardsRequest resp gardenStore s' hrun hfails
  have hnone : (JsonStore.store.subscribers gardenStore).length = 0 := by decide
  rw [hsame, hnone] at hlen
  cases hlen

end MicroServicePbx
