import OnPremPbx.Pbx.DocumentStore

/-!
# The operations of the administration

What the handlers behind the session of an administrator do to the collections: they read, they
create societies and subscribers, they change subscribers, and they delete subscribers and sessions.
-/

open Json

namespace MicroServicePbx

/-! ### Programs and their operations -/

section

variable {α β : Type} {P : Op → Prop}

/-- The operations of the program are in `P`, whatever is answered. -/
def Performs (P : Op → Prop) (p : Prog α) : Prop := p.All Anything P fun _ => True

lemma performs_pure (a : α) : Performs P (pure a : Prog α) := trivial

lemma performs_ofOption (o : Option α) : Performs P (Program.ofOption o : Prog α) := by
  rw [Performs, Program.all_ofOption]
  trivial

lemma performs_ofOption_bind {o : Option α} {f : α → Prog β} (h : ∀ a ∈ o, Performs P (f a)) :
    Performs P (Program.ofOption o >>= f) := by
  rw [Performs, Program.all_bind, Program.all_ofOption]
  cases o with
  | none => trivial
  | some a => exact h a rfl

lemma performs_bind {p : Prog α} {f : α → Prog β} (hp : Performs P p)
    (hf : ∀ a, Performs P (f a)) : Performs P (p >>= f) := by
  rw [Performs, Program.all_bind]
  refine hp.mono fun r _ => ?_
  cases r with
  | none => trivial
  | some a => exact hf a

lemma performs_attempt {p : Prog α} (hp : Performs P p) : Performs P p.attempt := by
  rw [Performs, Program.all_attempt]
  exact hp

lemma performs_textOf {c : DbCall} {ms : List (Bytes × Bytes)} (h : P (.db c ms)) :
    Performs P (textOf c ms) :=
  (all_textOf c ms).mpr ⟨h, fun _ => trivial⟩

lemma performs_perform {o : Op} (h : P o) : Performs P (Program.perform o) :=
  (Program.all_perform o).mpr ⟨h, fun _ _ => trivial⟩

/-- What every operation in `P` keeps, the program keeps. -/
theorem Performs.run {σ : Type} {h : Program.Handler Answer σ} {I : σ → Prop}
    (hstep : ∀ o s, P o → I s → I (h o s).2) {p : Prog α} (hp : Performs P p) {s : σ} (hs : I s) :
    I (p.run h s).2 :=
  (Program.All.run (fun o s ho hs => ⟨trivial, hstep o s ho hs⟩) hp hs).2

end

/-! ### The administration -/

/-- An operation of a handler behind the session of an administrator. -/
inductive AdminOp (env : Env) : Op → Prop
  | read {c : DbCall} {ms : List (Bytes × Bytes)} (hread : (Op.db c ms).target = none) :
    AdminOp env (.db c ms)
  | next (awb : Bytes) : AdminOp env (.db (.nextAwbno awb) [])
  | create {coll : String} (hcoll : coll = "societies" ∨ coll = "subscribers")
    (dbName doc : Bytes) : AdminOp env (.db (.createDocument dbName (Bytes.ofString coll) doc) [])
  | update {filter : Filter} (hfilter : filter.Dumped env) (doc : Bytes) :
    AdminOp env
      (.db (.updateCollection (Bytes.ofString "subscribers") filter.text doc) filter.members)
  | delete {coll : String} (hcoll : coll = "subscribers" ∨ coll = "sessions") {filter : Filter}
    (hfilter : filter.Dumped env) :
    AdminOp env (.db (.deleteDocument (Bytes.ofString coll) filter.text) filter.members)
  | revoke (societyId sipUsername : Bytes) : AdminOp env (.revoke societyId sipUsername)

section

variable {env : Env} {α β : Type} {P : Op → Prop}

/-- A filter that the library writes is there only if it was written. -/
lemma performs_filter_bind {ms : List (Bytes × Bytes)} {f : Filter → Prog β}
    (h : ∀ query : Filter, query.Dumped env → query.members = ms → Performs P (f query)) :
    Performs P (env.filter ms >>= f) := by
  refine performs_ofOption_bind fun query hquery => ?_
  obtain ⟨text, htext, rfl⟩ := Option.map_eq_some_iff.mp hquery
  exact h ⟨text, ms⟩ htext rfl

lemma acts_getDocument (coll : String) (query : Filter) :
    Performs (AdminOp env) (getDocument coll query) :=
  performs_textOf (.read rfl)

lemma acts_createDocument {coll : String} (hcoll : coll = "societies" ∨ coll = "subscribers")
    (dbName doc : Bytes) : Performs (AdminOp env) (createDocument dbName coll doc) :=
  performs_textOf (.create hcoll dbName doc)

lemma acts_society (req : Bytes) : Performs (AdminOp env) (handleSocietyPOST env req) := by
  refine performs_ofOption_bind fun parsed _ => ?_
  split
  · trivial
  · split
    · trivial
    · trivial
    · refine performs_bind (acts_getDocument _ _) fun existing => ?_
      split_ifs
      · trivial
      · refine performs_ofOption_bind fun text _ => ?_
        exact performs_bind (acts_createDocument (.inl rfl) _ _) fun _ => trivial

lemma acts_societies (req : Bytes) : Performs (AdminOp env) (handleSocietiesGET env req) := by
  rw [handleSocietiesGET]
  split_ifs
  · exact performs_bind (performs_attempt (performs_textOf (.read rfl))) fun _ =>
      performs_ofOption _
  · trivial

lemma acts_societyDetail (req : Bytes) :
    Performs (AdminOp env) (handleSocietyDetailGET env req) := by
  rw [handleSocietyDetailGET]
  split_ifs
  · trivial
  · refine performs_ofOption_bind fun query _ => performs_bind (acts_getDocument _ _) fun doc => ?_
    split_ifs <;> trivial
  · trivial

lemma acts_adminSubscribers (req : Bytes) :
    Performs (AdminOp env) (handleAdminSubscribersGET env req) := by
  rw [handleAdminSubscribersGET]
  split_ifs
  · trivial
  · refine performs_bind (performs_attempt ?_) fun _ => performs_ofOption _
    exact performs_ofOption_bind fun query _ => performs_textOf (.read rfl)
  · trivial

lemma acts_connectivity (req : Bytes) :
    Performs (AdminOp env) (handleAdminConnectivityGET env req) := by
  refine performs_bind ?_ fun mongo => performs_ofOption_bind fun text _ => performs_pure _
  rw [mongoConnected]
  split_ifs
  · trivial
  · exact performs_bind (performs_attempt (performs_textOf (.next _))) fun awb => performs_pure _

lemma acts_findFlat (societyId : Bytes) (header row : List Bytes) :
    Performs (AdminOp env) (findFlat societyId header row) := by
  rw [findFlat]
  split_ifs
  · refine performs_bind (acts_getDocument _ _) fun flatDoc => ?_
    split_ifs <;> trivial
  · trivial

lemma acts_createSubscriber (societyId realm flatId : Bytes) (header row : List Bytes) (r : ℕ) :
    Performs (AdminOp env) (createSubscriber env societyId realm flatId header row r) := by
  refine performs_ofOption_bind fun text _ => ?_
  exact performs_bind (acts_createDocument (.inr rfl) _ _) fun _ => trivial

lemma acts_importRows (societyId realm : Bytes) (header : List Bytes) (rows : List (List Bytes))
    (r : ℕ) (outCsv : Bytes) (created skipped : ℕ) :
    Performs (AdminOp env)
      (importRows env societyId realm header r rows outCsv created skipped) := by
  induction rows generalizing r outCsv created skipped with
  | nil => trivial
  | cons row rows ih =>
    rw [importRows]
    split_ifs
    · refine performs_bind (acts_findFlat _ _ _) fun flat => ?_
      cases flat with
      | none => trivial
      | some flatId =>
        refine performs_bind (acts_getDocument _ _) fun existing => ?_
        split_ifs
        · exact ih _ _ _ _
        · exact performs_bind (acts_createSubscriber _ _ _ _ _ _) fun line => ih _ _ _ _
    · trivial

lemma acts_import (req : Bytes) : Performs (AdminOp env) (handleSubscriberImportPOST env req) := by
  refine performs_ofOption_bind fun parsed _ => ?_
  dsimp only
  split_ifs
  · trivial
  · refine performs_bind (acts_getDocument _ _) fun societyDoc => ?_
    split_ifs
    · trivial
    · split
      · trivial
      · rw [importTable]
        split
        · trivial
        · exact acts_importRows _ _ _ _ _ _ _ _

/-- The target of the lifecycle comes with a filter of the library. -/
lemma all_target (req : Bytes) :
    (resolveLifecycleTarget env req).All Anything (AdminOp env) fun r =>
      ∀ target, r = some (Except.ok target) → target.2.2.Dumped env ∧ target.2.2.members =
        [(Bytes.ofString "societyId", target.2.1), (Bytes.ofString "sipUsername", target.1)] := by
  rw [resolveLifecycleTarget]
  split_ifs
  · exact fun _ h => by cases h
  · exact fun _ h => by cases h
  · rw [Program.all_bind, Env.filter, Program.all_ofOption]
    cases hdump : env.dump _ with
    | none => exact fun _ h => by cases h
    | some text =>
      rw [Option.map_some]
      dsimp only
      rw [Program.all_bind, getDocument, all_textOf]
      refine ⟨.read rfl, fun found => ?_⟩
      cases found with
      | none => exact fun _ h => by cases h
      | some found =>
        dsimp only
        split_ifs
        · exact fun _ h => by cases h
        · rintro target heq
          cases heq
          exact ⟨hdump, rfl⟩

lemma acts_lifecycle {req : Bytes} {k : Except Bytes (Bytes × Bytes × Filter) → Prog Bytes}
    (herror : ∀ err, Performs (AdminOp env) (k (.error err)))
    (hok : ∀ target, target.2.2.Dumped env → Performs (AdminOp env) (k (.ok target))) :
    Performs (AdminOp env) (resolveLifecycleTarget env req >>= k) := by
  rw [Performs, Program.all_bind]
  refine (all_target req).mono fun r hr => ?_
  rcases r with _ | err | target
  · trivial
  · exact herror err
  · exact hok target (hr target rfl).1

lemma acts_revokeOf (societyId sipUsername : Bytes) :
    Performs (AdminOp env) (revokeOf env societyId sipUsername) := by
  rw [revokeOf]
  split_ifs
  · exact performs_perform (.revoke _ _)
  · trivial

lemma acts_deleteDocument {coll : String} (hcoll : coll = "subscribers" ∨ coll = "sessions")
    {filter : Filter} (hfilter : filter.Dumped env) :
    Performs (AdminOp env) (deleteDocument coll filter) :=
  performs_bind (performs_perform (.delete hcoll hfilter)) fun _ => trivial

lemma acts_status (req : Bytes) : Performs (AdminOp env) (handleSubscriberStatusPUT env req) := by
  refine acts_lifecycle (fun err => trivial) fun target hfilter => ?_
  obtain ⟨sipUsername, societyId, filter⟩ := target
  refine performs_ofOption_bind fun parsed _ => ?_
  split
  · trivial
  · refine performs_ofOption_bind fun update _ => ?_
    refine performs_bind (performs_bind (performs_perform (.update hfilter _)) fun _ => trivial)
      fun _ => ?_
    dsimp only
    split_ifs
    · refine performs_bind (acts_deleteDocument (.inr rfl) hfilter) fun _ => ?_
      refine performs_bind (acts_revokeOf _ _) fun _ => ?_
      exact performs_ofOption_bind fun text _ => performs_pure _
    · exact performs_ofOption_bind fun text _ => performs_pure _

lemma acts_delete (req : Bytes) : Performs (AdminOp env) (handleSubscriberDELETE env req) := by
  refine acts_lifecycle (fun err => trivial) fun target hfilter => ?_
  obtain ⟨sipUsername, societyId, filter⟩ := target
  refine performs_bind (acts_deleteDocument (.inl rfl) hfilter) fun _ => ?_
  refine performs_bind (acts_deleteDocument (.inr rfl) hfilter) fun _ => ?_
  refine performs_bind (acts_revokeOf _ _) fun _ => ?_
  exact performs_ofOption_bind fun text _ => performs_pure _

/-- What the handlers of the administration do. -/
theorem acts_handler (other : OtherHandlers) {route : Route} (hadmin : route.needsAdmin)
    (req : Bytes) : Performs (AdminOp env) (route.handler env other req) := by
  cases route with
  | subscriberImport => exact acts_import req
  | subscriberStatus => exact acts_status req
  | subscriberDelete => exact acts_delete req
  | society => exact acts_society req
  | societies => exact acts_societies req
  | societyDetail => exact acts_societyDetail req
  | adminSubscribers => exact acts_adminSubscribers req
  | adminConnectivity => exact acts_connectivity req
  | _ => cases hadmin

/-- The row of an expired session is deleted. -/
lemma acts_resolveAdminSession (req : Bytes) :
    Performs (AdminOp env) (resolveAdminSession env req) := by
  refine performs_ofOption_bind fun token _ => ?_
  split_ifs
  · trivial
  · refine performs_filter_bind fun query hquery _ => ?_
    refine performs_bind (acts_getDocument _ _) fun record => ?_
    split_ifs
    · trivial
    · split
      · trivial
      · split_ifs
        · exact performs_ofOption _
        · exact performs_bind (performs_attempt (acts_deleteDocument (.inr rfl) hquery)) fun _ =>
            trivial

theorem acts_behindAdmin (other : OtherHandlers) {route : Route} (hadmin : route.needsAdmin)
    (req : Bytes) : Performs (AdminOp env) (behindAdmin env req (route.handler env other req)) := by
  refine performs_bind (acts_resolveAdminSession req) fun check => ?_
  split_ifs
  · trivial
  · exact acts_handler other hadmin req

end

end MicroServicePbx
