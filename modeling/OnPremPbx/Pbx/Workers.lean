import OnPremPbx.Pbx.GrantSteps
import OnPremPbx.Transition.Pool

/-!
# Requests side by side

The requests that touch the sessions, each handled by a worker of its own, over one store. Between
two operations of one of them there may be operations of the others. What the model adds to a
handler is which session it has accepted.
-/

open Json
open Decimal (ofInt)

namespace MicroServicePbx

/-! ### Programs -/

/-- How a request ends. -/
inductive Outcome where
  /-- a response before a session was accepted, or without one -/
  | answered (response : Bytes)
  /-- the session of the token was accepted, with what came of it, if no exception -/
  | accepted (token societyId sipUsername : Bytes) (response : Option Bytes)
  deriving DecidableEq

def Outcome.response : Outcome → Option Bytes
  | .answered response       => some response
  | .accepted _ _ _ response => response

/-- The rest of a request whose session was accepted. -/
def accept (token societyId sipUsername : Bytes) (p : Prog Bytes) : Prog Outcome := do
  let response ← p.attempt
  pure (.accepted token societyId sipUsername response)

/-- The upgrade of a session that has passed the checks. -/
def admitUpgrade (env : SessionEnv) (req token : Bytes) (session : Json) : Prog Bytes := do
  let role ← .ofOption (sessionRole session)
  slideExpiry env token (env.now + ttlSecForRole role)
  openMeta env req session

/-- The program of a request. -/
def SessionRequest.code (other : OtherHandlers) (r : SessionRequest) : Prog Outcome :=
  match r.kind with
  | .login       => do
    let response ← handleSubscriberLoginPOST r.env r.req
    pure (.answered response)
  | .ping        => do
    let response ← handlePingGET r.env r.req
    pure (.answered response)
  | .upgrade     => do
    let token ← .ofOption (upgradeToken r.env r.req)
    match ← upgradeSession r.env token with
    | .error err  => pure (.answered err)
    | .ok session =>
      accept token ((session.text (Bytes.ofString "societyId")).getD [])
        ((session.text (Bytes.ofString "sipUsername")).getD [])
        (admitUpgrade r.env r.req token session)
  | .admin route => do
    let check ← resolveAdminSession r.env.toEnv r.req
    if check.error ≠ [] then pure (.answered check.error)
    else
      accept ((extractSessionToken r.env.decompress r.req).getD []) check.societyId
        check.sipUsername (route.handler r.env.toEnv other r.req)

/-- The handler of a request; of an upgrade it is what is sent on. -/
def SessionRequest.handler (other : OtherHandlers) (r : SessionRequest) : Prog Bytes :=
  match r.kind with
  | .login       => handleSubscriberLoginPOST r.env r.req
  | .ping        => handlePingGET r.env r.req
  | .upgrade     => do
    let u ← handleSipwsUpgrade r.env r.req
    pure (if u.error = [] then u.openMetaJson else u.error)
  | .admin route => behindAdmin r.env.toEnv r.req (route.handler r.env.toEnv other r.req)

section

variable {other : OtherHandlers} {α : Type}

lemma admit_response (token societyId sipUsername : Bytes) (p : Prog Bytes) :
    (accept token societyId sipUsername p >>= fun o => .ofOption o.response) = p := by
  rw [accept, bind_assoc]
  exact Program.attempt_bind_ofOption p

/-- Which session was accepted makes no difference to the response. -/
theorem code_response (r : SessionRequest) :
    (r.code other >>= fun o => .ofOption o.response) = r.handler other := by
  obtain ⟨env, req, kind⟩ := r
  cases kind with
  | login => exact (bind_assoc _ _ _).trans (bind_pure _)
  | ping => exact (bind_assoc _ _ _).trans (bind_pure _)
  | upgrade =>
    simp only [SessionRequest.code, SessionRequest.handler, handleSipwsUpgrade, bind_assoc]
    refine congrArg (_ >>= ·) (funext fun token => congrArg (_ >>= ·) (funext fun r => ?_))
    cases r with
    | error err =>
      change (pure err : Prog Bytes) = pure (if err = [] then [] else err)
      split_ifs with herr
      · rw [herr]
      · rfl
    | ok session =>
      refine (admit_response _ _ _ _).trans ?_
      simp only [admitUpgrade, bind_assoc, pure_bind, if_pos]
      exact congrArg (_ >>= ·) (funext fun role => congrArg (_ >>= ·) (funext fun _ =>
        (bind_pure _).symm))
  | admin route =>
    simp only [SessionRequest.code, SessionRequest.handler, behindAdmin, bind_assoc]
    refine congrArg (_ >>= ·) (funext fun check => ?_)
    split_ifs
    · rfl
    · exact admit_response _ _ _ _

/-! ### Operations -/

/-- What a request does to the sessions: it moves the end of those with its token, it deletes those
of a filter, and a log-in stores one. -/
inductive SessionOp (r : SessionRequest) : Op → Prop
  | elsewhere {o : Op} (ho : o.target ≠ some (Bytes.ofString "sessions")) : SessionOp r o
  | slide {token query update : Bytes} {t : ℤ} (hquery : Asks r.env.toEnv token query)
    (hupdate : r.env.dump (expiryUpdate t) = some update) (ht : IsLong t) :
    SessionOp r (.db (.updateCollection (Bytes.ofString "sessions") query update)
      [(Bytes.ofString "token", token)])
  | drop {filter : Filter} (hfilter : filter.Dumped r.env.toEnv) :
    SessionOp r (.db (.deleteDocument (Bytes.ofString "sessions") filter.text) filter.members)
  | store (hlogin : r.kind = .login) {who : Identity} {doc : Bytes}
    (hdoc : r.env.dump (.object (sessionDoc r.env (mintBearerToken r.env) who)) = some doc) :
    SessionOp r (.db (.createDocument r.env.database (Bytes.ofString "sessions") doc) [])

variable {r : SessionRequest} {o : Op}

lemma SessionOp.of_read (ho : o.target = none) : SessionOp r o :=
  .elsewhere (by rw [ho]; exact nofun)

lemma SessionOp.of_adminOp (ho : AdminOp r.env.toEnv o) : SessionOp r o := by
  cases ho with
  | read hread => exact .of_read hread
  | next awb => exact .elsewhere (by simp only [Op.target]; decide)
  | create hcoll dbName doc =>
    rcases hcoll with rfl | rfl <;> exact .elsewhere (by simp only [Op.target]; decide)
  | update hfilter doc => exact .elsewhere (by simp only [Op.target]; decide)
  | delete hcoll hfilter =>
    rcases hcoll with rfl | rfl
    · exact .elsewhere (by simp only [Op.target]; decide)
    · exact .drop hfilter
  | revoke societyId sipUsername => exact .of_read rfl

lemma Performs.mono {P Q : Op → Prop} {p : Prog α} (hp : Performs P p) (h : ∀ o, P o → Q o) :
    Performs Q p := by
  induction p with
  | ret a => trivial
  | throw => trivial
  | call o k ih => exact ⟨h o hp.1, fun a ha => ih a (hp.2 a ha)⟩

lemma performs_slideExpiry (token : Bytes) {t : ℤ} (ht : IsLong t) :
    Performs (SessionOp r) (slideExpiry r.env token t) := by
  refine performs_bind (performs_attempt ?_) fun _ => performs_pure _
  refine performs_filter_bind fun query hquery hmembers => performs_ofOption_bind fun update hu => ?_
  obtain ⟨text, members⟩ := query
  cases hmembers
  exact performs_bind (performs_perform (.slide hquery hu ht)) fun _ => performs_pure _

lemma performs_refresh (htime : r.env.InTime) (token : Bytes) :
    Performs (SessionOp r) (refreshSessionExpiry r.env token) := by
  rw [refreshSessionExpiry]
  split_ifs
  · trivial
  · refine performs_bind (performs_attempt ?_) fun record => ?_
    · exact performs_filter_bind fun query _ _ => performs_textOf (.of_read rfl)
    · split
      · trivial
      · split_ifs
        · exact performs_ofOption_bind fun role _ =>
            performs_slideExpiry token (isLong_of_inTime htime role)
        · trivial

lemma performs_finishLogin (hlogin : r.kind = .login) (who : Identity) :
    Performs (SessionOp r) (finishLogin r.env who) := by
  rw [finishLogin]
  split_ifs
  · trivial
  · refine performs_bind ?_ fun _ => performs_ofOption_bind fun _ _ => performs_pure _
    exact performs_ofOption_bind fun doc hdoc =>
      performs_bind (performs_textOf (.store hlogin hdoc)) fun _ => performs_pure _

lemma performs_admit {token societyId sipUsername : Bytes} {p : Prog Bytes} {P : Op → Prop}
    (hp : Performs P p) : Performs P (accept token societyId sipUsername p) :=
  performs_bind (performs_attempt hp) fun _ => performs_pure _

/-- The operations of a request. -/
theorem performs_code {dump : Json → Option Bytes} {toLong : Bytes → ℤ}
    (hr : r.Fits dump toLong) : Performs (SessionOp r) (r.code other) := by
  obtain ⟨env, req, kind⟩ := r
  obtain ⟨-, -, htime, hadmin⟩ := hr
  cases kind with
  | login =>
    refine performs_bind (performs_bind ((reads_checkLogin req).mono fun o => .of_read)
      fun check => ?_) fun _ => performs_pure _
    cases check with
    | error err => trivial
    | ok who => exact performs_finishLogin rfl who
  | ping =>
    refine performs_bind (performs_ofOption_bind fun token _ => ?_) fun _ => performs_pure _
    exact performs_bind (performs_refresh htime token) fun _ =>
      performs_ofOption_bind fun _ _ => performs_pure _
  | upgrade =>
    refine performs_ofOption_bind fun token _ => ?_
    refine performs_bind ((reads_upgradeSession token).mono fun o => .of_read) fun check => ?_
    cases check with
    | error err => trivial
    | ok session =>
      refine performs_admit (performs_ofOption_bind fun role _ => ?_)
      refine performs_bind (performs_slideExpiry token (isLong_of_inTime htime role)) fun _ => ?_
      exact (silent_openMeta req session).mono fun o ho => ho.elim
  | admin route =>
    have hop : ∀ o, AdminOp env.toEnv o → SessionOp ⟨env, req, .admin route⟩ o :=
      fun _ ho => .of_adminOp ho
    refine performs_bind ((acts_resolveAdminSession req).mono hop) fun check => ?_
    dsimp only
    split_ifs
    · trivial
    · exact performs_admit ((acts_handler other (hadmin route rfl) req).mono hop)

/-! ### Rows -/

variable {σ : Type} {h : Program.Handler Answer σ} {st : DocumentStore h}

/-- A row after an operation was there before, apart from its end, or it is the one that the
operation stores. -/
theorem SessionOp.rows (hst : st.Lawful r.env.dump) (htime : r.env.InTime) (ho : SessionOp r o)
    {s : σ} {d : Json} (hd : d ∈ st.sessions (h o s).2) :
    (∃ d₀ ∈ st.sessions s, ∀ name ≠ Bytes.ofString "expiresAt", d.text name = d₀.text name) ∨
      ∃ who doc, r.env.dump (.object (sessionDoc r.env (mintBearerToken r.env) who)) = some doc ∧
        o = .db (.createDocument r.env.database (Bytes.ofString "sessions") doc) [] ∧
        ∀ name ≠ Bytes.ofString "_id",
          d.text name = (Json.object (sessionDoc r.env (mintBearerToken r.env) who)).text name := by
  cases ho with
  | elsewhere ho =>
    rw [DocumentStore.sessions, hst.frame _ _ _ ho] at hd
    exact .inl ⟨d, hd, fun _ _ => rfl⟩
  | slide hquery hupdate ht =>
    have hname : IsFieldName (Bytes.ofString "expiresAt") := by decide
    obtain ⟨f, hf, hdocs⟩ := hst.updateCollection hquery hupdate
      (List.forall_mem_singleton.mpr ⟨hname, .inr (.inr ⟨_, ht, rfl⟩)⟩)
      (Bytes.ofString "sessions") _ s
    rw [DocumentStore.sessions, hdocs] at hd
    obtain ⟨d₀, hd₀, rfl⟩ := List.mem_map.mp hd
    refine .inl ⟨d₀, hd₀, fun name hname => ?_⟩
    split_ifs
    · exact (hf d₀).text_of_ne hname
    · rfl
  | @store hlogin who doc hdoc =>
    obtain ⟨oid, d', -, hdocs, -, hfield⟩ := hst.createDocument hdoc
      (scalars_sessionDoc htime _ who) r.env.database (Bytes.ofString "sessions") [] s
    rw [DocumentStore.sessions, hdocs, List.mem_append, List.mem_singleton] at hd
    rcases hd with hd | rfl
    · exact .inl ⟨d, hd, fun _ _ => rfl⟩
    · exact .inr ⟨who, doc, hdoc, rfl, fun name hname => by rw [text, text, hfield name hname]⟩
  | drop hfilter =>
    rw [DocumentStore.sessions, hst.deleteDocument hfilter] at hd
    exact .inl ⟨d, List.mem_of_mem_filter hd, fun _ _ => rfl⟩

end

end MicroServicePbx
