import OnPremPbx.Pbx.Tenants

/-!
# What a request shows of other societies

A request shows nothing of a document if its response stays the same whatever the text is that a
query answers with, where the query finds that document. Most handlers look a subscriber up only to
see whether there is one.
-/

open Json

namespace MicroServicePbx

section

variable {Db : Type} {d : Driver} {e : Engine Db} (m : Mongo d e) (society : Bytes)

/-! ### Redacted answers -/

/-- The filter of a query for subscribers. -/
def subscriberQuery : DbCall → Option Bytes
  | .getDocument coll query _         => if cStr coll = subscribersColl then some query else none
  | .getDocumentsQueried coll query _ => if cStr coll = subscribersColl then some query else none
  | .getDocumentsAll coll _           => if cStr coll = subscribersColl then some braces else none
  | _                                 => none

/-- Something was found. -/
def IsText (a : Option DbValue) : Prop := ∃ s, s ≠ [] ∧ a = some (.text s)

/-- The call is a query that finds a subscriber of another society. -/
def FindsOther (db : Db) (c : DbCall) : Prop :=
  ∃ query filter, subscriberQuery c = some query ∧ d.fromJson (cStr query) = some filter ∧
    ∃ r ∈ m.selected db subscribersColl filter, ∃ other ≠ society, societyOfDoc r = some other

/-- The same answers, but that any text may stand for one with a subscriber of another society. -/
def RedactedAnswer (db : Db) : ∀ o, Option (Answer o) → Option (Answer o) → Prop
  | .db c _, a, a'    => a' = a ∨ FindsOther m society db c ∧ IsText a ∧ IsText a'
  | .post .., a, a'   => a' = a
  | .revoke .., a, a' => a' = a

/-- A client whose answers on subscribers of other societies are redacted. -/
def Redacts (u : Undefined) (h : Program.Handler Answer Db) : Prop :=
  ∀ o db, (h o db).2 = (client d e u o db).2 ∧
    RedactedAnswer m society db o (client d e u o db).1 (h o db).1

/-- Answers that a request of the society does not tell apart. -/
def Alike : ∀ o, Option (Answer o) → Option (Answer o) → Prop
  | .db c _, a, a'    =>
    a = a' ∨ (∃ query, subscriberQuery c = some query ∧ ¬ BoundTo m society query) ∧
      IsText a ∧ IsText a'
  | .post .., a, a'   => a = a'
  | .revoke .., a, a' => a = a'

variable {m society} {dump : Json → Option Bytes}

/-- A query of the society finds no subscriber of another one. -/
lemma alike_of_redacted (hm : m.Writes dump) {db : Db} {o : Op} {a a' : Option (Answer o)}
    (h : RedactedAnswer m society db o a a') : Alike m society o a a' := by
  cases o with
  | post => exact Eq.symm h
  | revoke => exact Eq.symm h
  | db c ms =>
    rcases h with rfl | ⟨⟨query, filter, hquery, hfilter, r, hr, other, hne, hother⟩, ha, ha'⟩
    · exact .inl rfl
    · refine .inr ⟨⟨query, hquery, fun hbound => ?_⟩, ha, ha'⟩
      have hsel := (List.mem_filter.mp hr).2
      rw [not_selects hm hbound hfilter hne hother] at hsel
      cases hsel

/-! ### Programs that do not tell them apart -/

variable {α β : Type}

/-- The response is the same for answers that are alike. -/
def Hides (m : Mongo d e) (society : Bytes) (p : Prog α) : Prop := p.Blind (Alike m society)

lemma hides_textOf {c : DbCall} {ms : List (Bytes × Bytes)}
    (h : ∀ query, subscriberQuery c = some query → BoundTo m society query) :
    Hides m society (textOf c ms) := by
  refine Program.Blind.bind (Program.blind_perform fun a a' ha => ?_) fun a => ?_
  · rcases ha with rfl | ⟨⟨query, hquery, hbound⟩, -⟩
    · rfl
    · exact absurd (h query hquery) hbound
  · cases a <;> trivial

/-- A text of which the program only sees whether it is empty. -/
lemma hides_textOf_bind {c : DbCall} {ms : List (Bytes × Bytes)} {f : Bytes → Prog β}
    (hsame : ∀ s s', s ≠ [] → s' ≠ [] → f s = f s') (hf : ∀ s, Hides m society (f s)) :
    Hides m society (textOf c ms >>= f) := by
  refine ⟨fun a a' ha => ?_, fun a => ?_⟩
  · rcases ha with rfl | ⟨-, ⟨s, hs, rfl⟩, s', hs', rfl⟩
    · rfl
    · exact hsame s s' hs hs'
  · rcases a with _ | ⟨s⟩ | _ | _ | _
    · trivial
    · exact hf s
    all_goals trivial

lemma hides_call {c : DbCall} {ms : List (Bytes × Bytes)} (h : subscriberQuery c = none) :
    Hides m society (Program.perform (Op.db c ms)) := by
  refine Program.blind_perform fun a a' ha => ?_
  rcases ha with rfl | ⟨⟨query, hquery, -⟩, -⟩
  · rfl
  · rw [h] at hquery
    cases hquery

lemma hides_other {c : DbCall} {ms : List (Bytes × Bytes)} (h : subscriberQuery c = none) :
    Hides m society (textOf c ms) :=
  hides_textOf fun query hquery => by
    rw [h] at hquery
    cases hquery

lemma hides_getDocument {coll : String} (hcoll : cStr (Bytes.ofString coll) ≠ subscribersColl)
    (query : Filter) : Hides m society (getDocument coll query) :=
  hides_other (by rw [subscriberQuery, if_neg hcoll])

lemma hides_getDocumentsAll {coll : String} (hcoll : cStr (Bytes.ofString coll) ≠ subscribersColl) :
    Hides m society (getDocumentsAll coll) :=
  hides_other (by rw [subscriberQuery, if_neg hcoll])

/-! ### Handlers -/

variable {env : Env}

lemma hides_society (req : Bytes) : Hides m society (handleSocietyPOST env req) := by
  refine Program.blind_ofOption_bind fun parsed _ => ?_
  split
  · trivial
  · split
    · trivial
    · trivial
    · refine Program.Blind.bind (hides_getDocument (by decide) _) fun existing => ?_
      split_ifs
      · trivial
      · refine Program.blind_ofOption_bind fun text _ => ?_
        exact Program.Blind.bind (hides_other rfl) fun _ => trivial

lemma hides_societies (req : Bytes) : Hides m society (handleSocietiesGET env req) := by
  rw [handleSocietiesGET]
  split_ifs
  · exact Program.Blind.bind (Program.Blind.attempt (hides_getDocumentsAll (by decide)))
      fun _ => Program.blind_ofOption _
  · trivial

lemma hides_societyDetail (req : Bytes) : Hides m society (handleSocietyDetailGET env req) := by
  rw [handleSocietyDetailGET]
  split_ifs
  · trivial
  · refine Program.blind_ofOption_bind fun query _ => ?_
    refine Program.Blind.bind (hides_getDocument (by decide) _) fun doc => ?_
    split_ifs <;> trivial
  · trivial

lemma hides_connectivity (req : Bytes) : Hides m society (handleAdminConnectivityGET env req) := by
  refine Program.Blind.bind ?_ fun mongo =>
    Program.blind_ofOption_bind fun text _ => Program.blind_pure _
  rw [mongoConnected]
  split_ifs
  · trivial
  · exact Program.Blind.bind (Program.Blind.attempt (hides_other rfl)) fun awb => trivial

/-- The list is asked for with the society that the request names. -/
lemma hides_adminSubscribers (hm : m.Writes env.dump) {req : Bytes}
    (hnamed : societyIdOf req = [] ∨ societyIdOf req = society) :
    Hides m society (handleAdminSubscribersGET env req) := by
  rw [handleAdminSubscribersGET]
  split_ifs with hempty
  · trivial
  · rw [hnamed.resolve_left hempty]
    refine Program.Blind.bind (Program.Blind.attempt ?_) fun _ => Program.blind_ofOption _
    refine Program.blind_ofOption_bind fun query hquery => ?_
    obtain ⟨text, hdump, rfl⟩ := Option.map_eq_some_iff.mp hquery
    refine hides_textOf fun query hquery => ?_
    rw [subscriberQuery, if_pos (by decide)] at hquery
    cases hquery
    exact boundTo_dump hm hdump rfl
  · trivial

lemma hides_findFlat (society' : Bytes) (header row : List Bytes) :
    Hides m society (findFlat society' header row) := by
  rw [findFlat]
  split_ifs
  · refine Program.Blind.bind (hides_getDocument (by decide) _) fun flatDoc => ?_
    split_ifs <;> trivial
  · trivial

lemma hides_createSubscriber (society' realm flatId : Bytes) (header row : List Bytes) (r : ℕ) :
    Hides m society (createSubscriber env society' realm flatId header row r) := by
  refine Program.blind_ofOption_bind fun text _ => ?_
  exact Program.Blind.bind (hides_other rfl) fun _ => trivial

/-- The import looks for a subscriber only to see whether there is one. -/
lemma hides_importRows (society' realm : Bytes) (header : List Bytes)
    (rows : List (List Bytes)) (r : ℕ) (outCsv : Bytes) (created skipped : ℕ) :
    Hides m society (importRows env society' realm header r rows outCsv created skipped) := by
  induction rows generalizing r outCsv created skipped with
  | nil => trivial
  | cons row rows ih =>
    rw [importRows]
    split_ifs
    · refine Program.Blind.bind (hides_findFlat _ _ _) fun flat => ?_
      cases flat with
      | none => trivial
      | some flatId =>
        refine hides_textOf_bind (fun s s' hs hs' => ?_) fun existing => ?_
        · rw [if_pos hs, if_pos hs']
        · split_ifs
          · exact ih _ _ _ _
          · exact Program.Blind.bind (hides_createSubscriber _ _ _ _ _ _) fun line => ih _ _ _ _
    · trivial

lemma hides_import (req : Bytes) : Hides m society (handleSubscriberImportPOST env req) := by
  refine Program.blind_ofOption_bind fun parsed _ => ?_
  dsimp only
  split_ifs
  · trivial
  · refine Program.Blind.bind (hides_getDocument (by decide) _) fun societyDoc => ?_
    split_ifs
    · trivial
    · split
      · trivial
      · rw [importTable]
        split
        · trivial
        · exact hides_importRows _ _ _ _ _ _ _ _

/-- The lifecycle looks for a subscriber only to see whether there is one. -/
lemma hides_resolveLifecycleTarget (req : Bytes) :
    Hides m society (resolveLifecycleTarget env req) := by
  rw [resolveLifecycleTarget]
  split_ifs
  · trivial
  · trivial
  · refine Program.blind_ofOption_bind fun filter _ => ?_
    refine hides_textOf_bind (fun s s' hs hs' => ?_) fun found => ?_
    · rw [if_neg hs, if_neg hs']
    · split_ifs <;> trivial

lemma hides_deleteDocument (coll : String) (doc : Filter) :
    Hides m society (deleteDocument coll doc) :=
  Program.Blind.bind (hides_call rfl) fun _ => trivial

lemma hides_revokeOf (societyId sipUsername : Bytes) :
    Hides m society (revokeOf env societyId sipUsername) := by
  rw [revokeOf]
  split_ifs
  · exact Program.blind_perform fun _ _ h => h
  · trivial

lemma hides_status (req : Bytes) : Hides m society (handleSubscriberStatusPUT env req) := by
  refine Program.Blind.bind (hides_resolveLifecycleTarget req) fun target => ?_
  rcases target with err | ⟨sipUsername, societyId, filter⟩
  · trivial
  · refine Program.blind_ofOption_bind fun parsed _ => ?_
    split
    · trivial
    · refine Program.blind_ofOption_bind fun update _ => ?_
      refine Program.Blind.bind (Program.Blind.bind (hides_call rfl) fun _ => trivial) fun _ => ?_
      dsimp only
      split_ifs
      · refine Program.Blind.bind (hides_deleteDocument _ _) fun _ => ?_
        refine Program.Blind.bind (hides_revokeOf _ _) fun _ => ?_
        exact Program.blind_ofOption_bind fun text _ => Program.blind_pure _
      · exact Program.blind_ofOption_bind fun text _ => Program.blind_pure _

lemma hides_delete (req : Bytes) : Hides m society (handleSubscriberDELETE env req) := by
  refine Program.Blind.bind (hides_resolveLifecycleTarget req) fun target => ?_
  rcases target with err | ⟨sipUsername, societyId, filter⟩
  · trivial
  · refine Program.Blind.bind (hides_deleteDocument _ _) fun _ => ?_
    refine Program.Blind.bind (hides_deleteDocument _ _) fun _ => ?_
    refine Program.Blind.bind (hides_revokeOf _ _) fun _ => ?_
    exact Program.blind_ofOption_bind fun text _ => Program.blind_pure _

lemma hides_handler (hm : m.Writes env.dump) (other : OtherHandlers) {route : Route} {req : Bytes}
    (hadmin : route.needsAdmin)
    (hnamed : route.namesSociety → societyIdOf req = [] ∨ societyIdOf req = society) :
    Hides m society (route.handler env other req) := by
  cases route with
  | subscriberImport => exact hides_import req
  | subscriberStatus => exact hides_status req
  | subscriberDelete => exact hides_delete req
  | society => exact hides_society req
  | societies => exact hides_societies req
  | societyDetail => exact hides_societyDetail req
  | adminSubscribers => exact hides_adminSubscribers hm (hnamed rfl)
  | adminConnectivity => exact hides_connectivity req
  | _ => cases hadmin

/-- The session is looked up among sessions. -/
lemma hides_resolveAdminSession (req : Bytes) :
    Hides m society (resolveAdminSession env req) := by
  refine Program.blind_ofOption_bind fun token _ => ?_
  split_ifs
  · trivial
  · refine Program.blind_ofOption_bind fun query _ => ?_
    refine Program.Blind.bind (hides_getDocument (by decide) _) fun record => ?_
    split_ifs
    · trivial
    · split
      · trivial
      · split_ifs
        · exact Program.blind_ofOption _
        · exact Program.Blind.bind (Program.Blind.attempt (hides_deleteDocument _ _))
            fun _ => trivial

lemma hides_behindAdmin {req : Bytes} {handler : Prog Bytes} (h : Hides m society handler) :
    Hides m society (behindAdmin env req handler) := by
  refine Program.Blind.bind (hides_resolveAdminSession req) fun check => ?_
  split_ifs
  · trivial
  · exact h

/-- Handlers are run in the same way over redacted answers. -/
lemma Hides.run_eq (hm : m.Writes dump) {u : Undefined} {h : Program.Handler Answer Db}
    (hredacts : Redacts m society u h) {p : Prog α} (hp : Hides m society p) (db : Db) :
    p.run h db = p.run (client d e u) db :=
  Program.Blind.run_eq (fun o db => ⟨alike_of_redacted hm (hredacts o db).2, (hredacts o db).1⟩)
    hp db

end

end MicroServicePbx
