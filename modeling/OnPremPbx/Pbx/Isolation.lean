import OnPremPbx.Pbx.Redaction

/-!
# Isolation of societies

A request that is authenticated by the session of an administrator leaves the subscribers and the
sessions of other societies as they are, and shows nothing of their subscribers, where it names the
society of the session. The routes do not compare the two, so it may name any.
-/

open Json Transition

namespace MicroServicePbx

/-! ### Requests -/

/-- A request, with the environment that it is handled in. -/
structure Request where
  env : Env
  other : OtherHandlers
  req : Bytes

namespace Request

variable (i : Request)

def program : Prog Bytes := dispatchPbxRoutes i.env i.other i.req

def route : Option Route :=
  (Http.ofBytes i.env.decompress i.req).map fun http => routeOf http.method http.uriName

end Request

section

variable {Db : Type} {d : Driver} {e : Engine Db} (u : Undefined) (m : Mongo d e)

/-- The database after a request. -/
def serve (d : Driver) (e : Engine Db) (u : Undefined) (db : Db) (i : Request) : Db :=
  (i.program.run (client d e u) db).2

/-- The request is behind the session of an administrator, and it has one, of the society. -/
def Authenticated (d : Driver) (e : Engine Db) (u : Undefined) (db : Db) (i : Request)
    (society : Bytes) : Prop :=
  (∃ route ∈ i.route, route.needsAdmin) ∧
    ∃ s ∈ ((resolveAdminSession i.env i.req).run (client d e u) db).1,
      s.error = [] ∧ s.societyId = society

/-- A request of an administrator leaves other societies as they are and shows nothing of them. -/
def Isolated (db : Db) (i : Request) : Prop :=
  ∀ society, Authenticated d e u db i society →
    OthersKept m society db (serve d e u db i) ∧
    ∀ h, Redacts m society u h → (i.program.run h db).1 = (i.program.run (client d e u) db).1

/-- A request of an administrator that works on a society names none, or its own. -/
def NamesOwn (d : Driver) (e : Engine Db) (u : Undefined) (db : Db) (i : Request) : Prop :=
  ∀ society, Authenticated d e u db i society → ∀ route ∈ i.route, route.namesSociety →
    societyIdOf i.req = [] ∨ societyIdOf i.req = society

/-! ### Steps -/

variable {u m} {db : Db} {i : Request} {society : Bytes}

lemma run_getDocument_state (coll : String) (query : Filter) :
    ((getDocument coll query).run (client d e u) db).2 = db := by
  have hexec : (MongodbClient.exec d e u db
      (.getDocument (Bytes.ofString coll) query.text braces)).2 = db := by
    simp only [MongodbClient.exec, valueOf, MongodbClient.getDocument, MongodbClient.withClient,
      MongodbClient.withJson]
    split_ifs
    · cases d.fromJson (cStr braces) with
      | none => rfl
      | some projection => cases d.fromJson (cStr query.text) <;> rfl
    · rfl
  rw [getDocument, textOf, Program.run_bind, Program.run_perform, client]
  split
  · exact hexec
  · split
    · exact hexec
    · exact hexec

/-- With a session and no error the database is as it was. -/
def KeptUnlessError (db : Db) (r : Option AdminSession × Db) : Prop :=
  ∀ s ∈ r.1, s.error = [] → r.2 = db

/-- Looking up a session that holds changes nothing. -/
lemma resolveAdminSession_state {env : Env} {req : Bytes} {s : AdminSession}
    (hs : s ∈ ((resolveAdminSession env req).run (client d e u) db).1) (herror : s.error = []) :
    ((resolveAdminSession env req).run (client d e u) db).2 = db := by
  have hunauthorized : ∀ cause, (unauthorized cause).error ≠ [] := fun cause h => by
    simp [unauthorized, responseError, httpResponse, CRLF] at h
  suffices hkept : KeptUnlessError db ((resolveAdminSession env req).run (client d e u) db) from
    hkept s hs herror
  have hofOption : ∀ {α : Type} (o : Option α),
      ((Program.ofOption o : Prog α).run (client d e u) db).2 = db := fun o => by
    rw [Program.run_ofOption]
  have hnone : KeptUnlessError db (none, db) := fun _ h => by cases h
  refine Program.run_bind_of_state (hofOption _) hnone fun token => ?_
  split_ifs
  · exact fun _ _ _ => rfl
  · refine Program.run_bind_of_state (hofOption _) hnone fun query => ?_
    refine Program.run_bind_of_state (run_getDocument_state _ _) hnone fun record => ?_
    split_ifs
    · exact fun _ _ _ => rfl
    · split
      · exact fun _ _ _ => rfl
      · split_ifs
        · exact fun _ _ _ => hofOption _
        · -- the session has expired, and that is an error
          rw [Program.run_bind, Program.run_attempt]
          rintro s ⟨⟩ herror
          exact absurd herror (hunauthorized _)

/-- An authenticated request is its handler. -/
lemma run_program {route : Route} (hroute : route ∈ i.route) (hadmin : route.needsAdmin)
    (h : Program.Handler Answer Db) : i.program.run h db =
      (behindAdmin i.env i.req (route.handler i.env i.other i.req)).run h db := by
  obtain ⟨http, hhttp, rfl⟩ := Option.map_eq_some_iff.mp hroute
  rw [Request.program, dispatchPbxRoutes, Program.run_bind, hhttp, Program.run_ofOption]
  dsimp only
  rw [if_pos hadmin]

theorem isolated_of_namesOwn (hm : m.Writes i.env.dump) (hnamed : NamesOwn d e u db i) :
    Isolated u m db i := by
  rintro society hauth
  have hown := hnamed society hauth
  obtain ⟨⟨route, hroute, hadmin⟩, s, hs, herror, -⟩ := hauth
  refine ⟨?_, fun h hredacts => ?_⟩
  · rw [serve, run_program hroute hadmin, behindAdmin, Program.run_bind, hs,
      resolveAdminSession_state hs herror]
    dsimp only
    rw [if_neg (by rw [herror]; simp)]
    have hstays := stays_handler hm i.other hadmin (hown route hroute)
    exact (hstays.run (I := OthersKept m society db) (fun o db' ho hkept =>
      ⟨trivial, hkept.trans (othersKept_client hm u ho db')⟩) (.refl db)).2
  · rw [run_program hroute hadmin, run_program hroute hadmin]
    exact congrArg Prod.fst ((hides_behindAdmin
      (hides_handler hm i.other hadmin (hown route hroute))).run_eq hm hredacts db)

/-- Administrators stay in their society, as long as they name no other. -/
theorem admins_stay_in_their_society {is : List Request} (hm : ∀ i ∈ is, m.Writes i.env.dump)
    (hnamed : Along (serve d e u) (NamesOwn d e u) db is) :
    Along (serve d e u) (Isolated u m) db is := by
  induction is generalizing db with
  | nil => trivial
  | cons i is ih =>
    obtain ⟨hi, his⟩ := List.forall_mem_cons.mp hm
    exact ⟨isolated_of_namesOwn hi hnamed.1, ih his hnamed.2⟩

end

/-! ### An administrator of another society -/

lemma plain_subscriber {sipUsername society : String}
    (h : Plain (Bytes.ofString sipUsername) ∧ Plain (Bytes.ofString society)) :
    ∀ m ∈ [(Bytes.ofString "sipUsername", Bytes.ofString sipUsername),
      (Bytes.ofString "societyId", Bytes.ofString society)], Plain m.1 ∧ Plain m.2 := by
  simp only [List.forall_mem_cons, h]
  exact ⟨⟨plain_of_ascii (by simp [Bytes.ofString]), trivial⟩,
    ⟨plain_of_ascii (by simp [Bytes.ofString]), trivial⟩, fun _ hm => absurd hm List.not_mem_nil⟩

/-- A subscriber of a society. -/
def subscriber (sipUsername society : String)
    (h : Plain (Bytes.ofString sipUsername) ∧ Plain (Bytes.ofString society) := by decide +kernel) :
    PlainDoc where
  members :=
    [(Bytes.ofString "sipUsername", Bytes.ofString sipUsername),
      (Bytes.ofString "societyId", Bytes.ofString society)]
  ne_nil := List.cons_ne_nil _ _
  plain := plain_subscriber h

/-- Two subscribers in two societies, and the session of an administrator of the first. -/
def twoSocieties : PlainStore where
  rows :=
    [(subscribersColl, subscriber "u_1" "s1"), (subscribersColl, subscriber "u_2" "s2")]
  sessions :=
    [.object [member "token" (Bytes.ofString "t1"), member "societyId" (Bytes.ofString "s1"),
      member "sipUsername" (Bytes.ofString "u_1"), member "role" (Bytes.ofString "admin"),
      (Bytes.ofString "expiresAt", .number (Bytes.ofString "2000000000"))]]

/-- A request with this first line; the library writes what `dump` does. -/
def requestOf (dump : Json → Option Bytes) (line : String) : Request where
  env := { bareEnv with
    dump := dump
    toLong := fun t => digitsValue 10 0 t
    now := 1700000000 }
  other := ⟨fun _ => pure [], fun _ => pure [], fun _ => pure [], fun _ => pure [],
    fun _ => pure [], fun _ => pure [], fun _ => pure []⟩
  req := Bytes.ofString line ++ Bytes.ofString "\r\nHost: pbx\r\n\r\n"

/-- The list of the own society. -/
def ownList : Request :=
  requestOf plainDump "GET /api/v1/admin/subscribers?societyId=s1&token=t1 HTTP/1.1"

theorem admins_stay_in_their_society_list :
    Along (serve plainDriver PlainStore.engine noUndefined)
      (Isolated noUndefined PlainStore.mongo) twoSocieties [ownList] := by
  refine admins_stay_in_their_society ?_ ⟨?_, trivial⟩
  · rw [List.forall_mem_singleton]
    exact PlainStore.mongo_writes
  · rintro society ⟨-, s, hs, -, rfl⟩ route - -
    have hsession : ((resolveAdminSession ownList.env ownList.req).run
        (client plainDriver PlainStore.engine noUndefined) twoSocieties).1.map
          AdminSession.societyId = some (Bytes.ofString "s1") := by decide +kernel
    rw [hs, Option.map_some, Option.some.injEq] at hsession
    rw [hsession]
    decide +kernel

/-- The removal of a subscriber of the other society. -/
def foreignDelete : Request :=
  requestOf (fun j => some (write j)) "DELETE /api/v1/subscriber/u_2?societyId=s2&token=t1 HTTP/1.1"

/-- An administrator of the first society removes a subscriber of the second one. -/
theorem foreign_subscriber_deleted :
    ¬ Along (serve plainDriver PlainStore.engine noUndefined)
      (Isolated noUndefined PlainStore.mongo) twoSocieties [foreignDelete] := by
  rintro ⟨hisolated, -⟩
  have hauth : Authenticated plainDriver PlainStore.engine noUndefined twoSocieties foreignDelete
      (Bytes.ofString "s1") := by
    refine ⟨⟨.subscriberDelete, by decide +kernel, rfl⟩,
      { societyId := Bytes.ofString "s1", sipUsername := Bytes.ofString "u_1",
        role := Bytes.ofString "admin" }, by decide +kernel, rfl, rfl⟩
  have hkept := (hisolated _ hauth).1 (Bytes.ofString "s2") (by decide) subscribersColl (.inl rfl)
  exact absurd (congrArg List.length hkept) (by decide +kernel)

end MicroServicePbx
