import OnPremPbx.Pbx.Lifetime
import OnPremPbx.Pbx.Workers

/-!
# Revocation

A subscriber is disabled or deleted while other requests are handled. The revocation deletes the
sessions of the subscriber, so that a token is let pass afterwards only if a log-in has stored its
session later. In strict mode a log-in stores a session only right after it has read the record of a
subscriber that is active; between the two the revocation may delete the sessions.
-/

open Json

namespace MicroServicePbx

/-! ### Log-ins and revocations -/

/-- A subscriber, as the paths and the sessions name it. -/
structure SubscriberId where
  societyId : Bytes
  sipUsername : Bytes
  deriving DecidableEq

namespace SubscriberId

variable (u : SubscriberId)

def members : List (Bytes × Bytes) :=
  [(Bytes.ofString "societyId", u.societyId), (Bytes.ofString "sipUsername", u.sipUsername)]

/-- The session is one of the subscriber. -/
def Has (d : Json) : Prop := ∀ m ∈ u.members, d.text m.1 = some m.2

/-- The operation that deletes the sessions of the subscriber. -/
def DeletesSessions (dump : Json → Option Bytes) (o : Op) : Prop :=
  ∃ query, dump (.object (strings u.members)) = some query ∧
    o = .db (.deleteDocument (Bytes.ofString "sessions") query) u.members

end SubscriberId

/-- The requests that are handled, and the store. -/
abbrev Workers (σ : Type) := Program.Pool σ SessionRequest Answer Outcome

section

variable {σ : Type} {h : Program.Handler Answer σ} (st : DocumentStore h) (other : OtherHandlers)

/-- The next operation of a request stores a session of the subscriber. -/
def StoresNext (x : Workers σ) (i : ℕ) (token : Bytes) (u : SubscriberId) : Prop :=
  ∃ job who doc k,
    x.Calls i (.db (.createDocument job.request.env.database (Bytes.ofString "sessions") doc) [])
      job k ∧
    job.request.env.dump
      (.object (sessionDoc job.request.env (mintBearerToken job.request.env) who)) = some doc ∧
    token = mintBearerToken job.request.env ∧
    who.societyId = u.societyId ∧ who.sipUsername = u.sipUsername

/-- A log-in reads the record of the subscriber, who is active, and goes on to store a session. -/
def IssuesSession (x : Workers σ) (i : ℕ) (token : Bytes) (u : SubscriberId) : Prop :=
  (∃ job query flat d k,
    x.Calls i (.db (.getDocument (Bytes.ofString "subscribers") query braces)
      [(Bytes.ofString "societyId", u.societyId), (Bytes.ofString "flatNumber", flat)]) job k ∧
    job.request.kind = .login ∧ st.found x.store "subscribers" query = some d ∧
    valueOr d "sipUsername" = some u.sipUsername ∧ isDisabled d = false) ∧
  StoresNext (x.next h (SessionRequest.code other) (.step i)) i token u

/-- The checks have let a session of the subscriber pass: however the request goes on, it ends as
one that was accepted. -/
def Accepted (x : Workers σ) (i : ℕ) (token : Bytes) (u : SubscriberId) : Prop :=
  ∃ job, x.jobs[i]? = some job ∧ job.rest.All Anything (fun _ => True) fun r =>
    ∃ response, r = some (.accepted token u.societyId u.sipUsername response)

/-- The response has the status 200. -/
def Succeeds (response : Bytes) : Prop := Bytes.ofString "HTTP/1.1 200" <+: response

instance (response : Bytes) : Decidable (Succeeds response) :=
  inferInstanceAs (Decidable (_ <+: _))

/-- The request deletes the subscriber, or disables it. -/
def Revokes (r : SessionRequest) (u : SubscriberId) : Prop :=
  (r.kind = .admin .subscriberDelete ∨ r.kind = .admin .subscriberStatus ∧
    ∀ parsed ∈ Http.ofBytes r.env.decompress r.req,
      statusOf (parse parsed.body) = .ok (Bytes.ofString "disabled")) ∧
  pathSuffix r.req (Bytes.ofString "/api/v1/subscriber/") = u.sipUsername ∧
  societyIdOf r.req = u.societyId

/-- The outcome of a request of an administrator that was successful. -/
def Outcome.Succeeds (o : Outcome) : Prop :=
  ∃ token societyId sipUsername response, o = .accepted token societyId sipUsername (some response) ∧
    MicroServicePbx.Succeeds response

/-- The request has revoked the subscriber, and has returned. -/
def HasRevoked (x : Workers σ) (i : ℕ) (u : SubscriberId) : Prop :=
  ∃ job o, x.jobs[i]? = some job ∧ Revokes job.request u ∧ job.rest = .ret o ∧ o.Succeeds

/-- Once a revocation has returned, a request that starts later is accepted with a session of the
subscriber only if a log-in has read the record of the subscriber, active again, after the
revocation deleted the sessions, and the token is the one that this log-in has issued. -/
def RevocationLasts (dump : Json → Option Bytes) (x₀ : Workers σ)
    (es : List (Program.Event SessionRequest)) (u : SubscriberId) : Prop :=
  let run := x₀.run h (SessionRequest.code other)
  ∀ before after i, es = before ++ after → HasRevoked (run before) i u →
    ∀ j token, (run before).jobs.length ≤ j → Accepted (run es) j token u →
      ∃ first between l last o job k, es = first ++ .step i :: (between ++ .step l :: last) ∧
        (run first).Calls i o job k ∧ u.DeletesSessions dump o ∧
        IssuesSession st other (run (first ++ .step i :: between)) l token u

/-- No log-in of the subscriber is between its checks and its session when a revocation deletes the
sessions. -/
def Quiet (dump : Json → Option Bytes) (u : SubscriberId) (x : Workers σ) :
    Program.Event SessionRequest → Prop
  | .start _ => True
  | .step i  => ∀ o job k, x.Calls i o job k → u.DeletesSessions dump o →
    ∀ j token, ¬ StoresNext x j token u

end

/-! ### What a log-in does before it stores a session -/

/-- The operation creates a session. -/
def CreatesSession (o : Op) : Prop :=
  ∃ dbName doc ms, o = .db (.createDocument dbName (Bytes.ofString "sessions") doc) ms

/-- The operation has read the record of a subscriber that is active. -/
def RecordRead (env : Env) (who : Identity) : ∀ o : Op, Option (Answer o) → Prop
  | .db (.getDocument coll query fields) ms, some (.text record) =>
    coll = Bytes.ofString "subscribers" ∧ fields = braces ∧
    env.dump (.object (strings ms)) = some query ∧
    (∃ flat, ms =
      [(Bytes.ofString "societyId", who.societyId), (Bytes.ofString "flatNumber", flat)]) ∧
    ∃ d, parse record = some d ∧ valueOr d "sipUsername" = some who.sipUsername ∧
      isDisabled d = false
  | _, _                                                          => False

/-- A session is created only after a record was read, and for its subscriber. -/
def AfterRecord (env : SessionEnv) (o : Op) (a : Option (Answer o)) (o' : Op) : Prop :=
  CreatesSession o' → ∃ who doc, RecordRead env.toEnv who o a ∧
    env.dump (.object (sessionDoc env (mintBearerToken env) who)) = some doc ∧
    o' = .db (.createDocument env.database (Bytes.ofString "sessions") doc) []

section

variable {env : SessionEnv} {α β : Type} {P : Op → Prop}
  {R : ∀ o, Option (Answer o) → Op → Prop}

lemma follows_textOf_bind {c : DbCall} {ms : List (Bytes × Bytes)} {f : Bytes → Prog α}
    (hP : P (.db c ms))
    (hf : ∀ text, (f text).Follows R (R (.db c ms) (some (.text text)))) :
    (textOf c ms >>= f).Follows R P := by
  refine ⟨hP, fun a => ?_⟩
  rcases a with _ | ⟨text⟩ | _ | _ | _
  · trivial
  · exact hf text
  all_goals trivial

lemma follows_of_silent {p : Prog α} (hp : Performs (fun _ => False) p) : p.Follows R P :=
  hp.follows (fun _ _ => trivial) (fun _ ho => ho.elim) fun _ _ _ ho => ho.elim

lemma not_createsSession_of_read {o : Op} (ho : o.target = none) : ¬ CreatesSession o := by
  rintro ⟨dbName, doc, ms, rfl⟩
  cases ho

lemma follows_findSubscriber {societyId flatNumber password : Bytes}
    {f : Except Bytes Identity → Prog α}
    (herror : ∀ err, Performs (fun _ => False) (f (.error err)))
    (hok : ∀ who o a, RecordRead env.toEnv who o a →
      (f (.ok who)).Follows (AfterRecord env) (AfterRecord env o a)) :
    (findSubscriber env societyId flatNumber password >>= f).Follows (AfterRecord env)
      fun o => ¬ CreatesSession o := by
  rw [findSubscriber, bind_assoc, Env.filter]
  refine Program.follows_ofOption_bind fun query hquery => ?_
  obtain ⟨text, htext, rfl⟩ := Option.map_eq_some_iff.mp hquery
  rw [bind_assoc]
  refine follows_textOf_bind (not_createsSession_of_read rfl) fun record => ?_
  split_ifs with hempty
  · exact follows_of_silent (herror _)
  · cases hparse : parse record with
    | none => exact follows_of_silent (herror _)
    | some d =>
      dsimp only
      split_ifs with hpassword hdisabled
      · exact follows_of_silent (herror _)
      · rw [bind_assoc]
        refine Program.follows_ofOption_bind fun who hwho => hok who _ _ ?_
        obtain ⟨hsip, rfl, -⟩ := identityOf_eq_some hwho
        exact ⟨rfl, rfl, htext, ⟨_, rfl⟩, d, hparse, hsip, Bool.eq_false_iff.mpr hdisabled⟩
      · exact follows_of_silent (herror _)

lemma follows_findSociety {societyCode : Bytes} {f : Except Bytes Bytes → Prog α}
    (herror : ∀ err, Performs (fun _ => False) (f (.error err)))
    (hok : ∀ societyId, (f (.ok societyId)).Follows (AfterRecord env)
      fun o => ¬ CreatesSession o) :
    (findSociety env societyCode >>= f).Follows (AfterRecord env) fun o => ¬ CreatesSession o := by
  rw [findSociety, bind_assoc, Env.filter]
  refine Program.follows_ofOption_bind fun query _ => ?_
  rw [bind_assoc]
  refine follows_textOf_bind (not_createsSession_of_read rfl) fun record => ?_
  split_ifs
  · exact follows_of_silent (herror _)
  · split
    · exact follows_of_silent (herror _)
    · exact follows_of_silent (herror _)
    · exact (hok _).mono fun o ho hcreates => absurd hcreates ho

lemma follows_finishLogin {o : Op} {a : Option (Answer o)} {who : Identity}
    (hread : RecordRead env.toEnv who o a) :
    (finishLogin env who >>= fun response => pure (Outcome.answered response)).Follows
      (AfterRecord env) (AfterRecord env o a) := by
  rw [finishLogin]
  split_ifs
  · trivial
  · rw [storeSession, bind_assoc, bind_assoc]
    refine Program.follows_ofOption_bind fun doc hdoc => ?_
    rw [bind_assoc]
    refine follows_textOf_bind (fun _ => ⟨who, doc, hread, hdoc, rfl⟩) fun oid => ?_
    exact follows_of_silent (performs_bind (performs_pure ()) fun _ =>
      performs_bind (performs_ofOption_bind fun _ _ => performs_pure _) fun _ => performs_pure _)

/-- A log-in in strict mode. -/
lemma follows_login (hstrict : env.strict = true) (req : Bytes) :
    (handleSubscriberLoginPOST env req >>= fun response => pure (Outcome.answered response)).Follows
      (AfterRecord env) fun o => ¬ CreatesSession o := by
  rw [handleSubscriberLoginPOST, bind_assoc, checkLogin, bind_assoc]
  refine Program.follows_ofOption_bind fun parsed _ => ?_
  split
  · trivial
  · split
    · trivial
    · dsimp only
      split_ifs
      · trivial
      · rw [bind_assoc]
        refine follows_findSociety (fun err => trivial) fun societyId => ?_
        exact follows_findSubscriber (fun err => trivial) fun who o a => follows_finishLogin

lemma not_createsSession {r : SessionRequest} {o : Op} (hkind : r.kind ≠ .login)
    (ho : SessionOp r o) : ¬ CreatesSession o := by
  rintro ⟨dbName, doc, ms, rfl⟩
  cases ho with
  | elsewhere ho => exact ho rfl
  | store hlogin => exact hkind hlogin

/-- Every request creates sessions only in that way. -/
theorem follows_code {other : OtherHandlers} {r : SessionRequest} {dump : Json → Option Bytes}
    {toLong : Bytes → ℤ} (hr : r.Fits dump toLong) (hstrict : r.env.strict = true) :
    (r.code other).Follows (AfterRecord r.env) fun o => ¬ CreatesSession o := by
  by_cases hkind : r.kind = .login
  · obtain ⟨env, req, kind⟩ := r
    cases hkind
    exact follows_login hstrict req
  · exact (performs_code hr).follows (fun _ _ => trivial) (fun _ ho => not_createsSession hkind ho)
      fun _ _ _ ho hcreates => absurd hcreates (not_createsSession hkind ho)

end

/-! ### Runs -/

section

variable {σ : Type} {h : Program.Handler Answer σ} {st : DocumentStore h} {other : OtherHandlers}
  {dump : Json → Option Bytes} {toLong : Bytes → ℤ} {u : SubscriberId} {x : Workers σ}
  {e : Program.Event SessionRequest} {i : ℕ} {token : Bytes}

/-- What every request has while it is handled. -/
structure InProgress (dump : Json → Option Bytes) (toLong : Bytes → ℤ) (r : SessionRequest)
    (rest : Prog Outcome) : Prop where
  fits : r.Fits dump toLong
  performs : Performs (SessionOp r) rest
  follows : ∃ P, rest.Follows (AfterRecord r.env) P

/-- The request is one of strict mode. -/
def Strict (dump : Json → Option Bytes) (toLong : Bytes → ℤ) (r : SessionRequest) : Prop :=
  r.Fits dump toLong ∧ r.env.strict = true

lemma inProgress_code {r : SessionRequest} (hr : Strict dump toLong r) :
    InProgress dump toLong r (r.code other) :=
  ⟨hr.1, performs_code hr.1, _, follows_code hr.1 hr.2⟩

lemma InProgress.answer {r : SessionRequest} {o : Op} {k : Option (Answer o) → Prog Outcome}
    (hp : InProgress dump toLong r (.call o k)) (a : Option (Answer o)) :
    InProgress dump toLong r (k a) := by
  obtain ⟨hr, hperforms, P, hfollows⟩ := hp
  exact ⟨hr, hperforms.2 a trivial, _, hfollows.2 a⟩

variable (h other) in
lemma inProgress_run (es : List (Program.Event SessionRequest))
    (hx : x.Every fun _ job => InProgress dump toLong job.request job.rest)
    (hstart : ∀ r, .start r ∈ es → Strict dump toLong r) :
    (x.run h (SessionRequest.code other) es).Every fun _ job =>
      InProgress dump toLong job.request job.rest :=
  Program.Pool.every_run (fun _ _ _ hp a => hp.answer a) hx fun r hr => inProgress_code (hstart r hr)

/-- A session that is written names its subscriber. -/
lemma names_of_sessionDoc {env : SessionEnv} (hst : st.Lawful env.dump) (htime : env.InTime) (s : σ)
    {who who' : Identity} {doc : Bytes}
    (hdoc : env.dump (.object (sessionDoc env token who)) = some doc)
    (hdoc' : env.dump (.object (sessionDoc env token who')) = some doc) :
    who.societyId = who'.societyId ∧ who.sipUsername = who'.sipUsername := by
  obtain ⟨_, d, -, hdocs, -, hfield⟩ := hst.createDocument hdoc
    (scalars_sessionDoc htime token who) [] [] [] s
  obtain ⟨_, d', -, hdocs', -, hfield'⟩ := hst.createDocument hdoc'
    (scalars_sessionDoc htime token who') [] [] [] s
  obtain rfl : d = d' := by
    have := hdocs.symm.trans hdocs'
    simpa using this
  obtain ⟨-, -, hsociety, hsip, -⟩ := @field_sessionDoc env token who
  obtain ⟨-, -, hsociety', hsip', -⟩ := @field_sessionDoc env token who'
  rw [← hfield _ (by decide), hfield' _ (by decide), hsociety'] at hsociety
  rw [← hfield _ (by decide), hfield' _ (by decide), hsip'] at hsip
  simp only [Option.some.injEq, Json.string.injEq] at hsociety hsip
  exact ⟨hsociety.symm, hsip.symm⟩

lemma RecordRead.found {env : Env} (hst : st.Lawful env.dump) {who : Identity} {o : Op} {s : σ}
    (hread : RecordRead env who o (h o s).1) :
    ∃ query flat d, o = .db (.getDocument (Bytes.ofString "subscribers") query braces)
        [(Bytes.ofString "societyId", who.societyId), (Bytes.ofString "flatNumber", flat)] ∧
      st.found s "subscribers" query = some d ∧ valueOr d "sipUsername" = some who.sipUsername ∧
      isDisabled d = false := by
  cases o with
  | post => exact hread.elim
  | revoke => exact hread.elim
  | db c ms =>
    cases c with
    | getDocument coll query fields =>
      cases hanswer : (h (.db (.getDocument coll query fields) ms) s).1 with
      | none =>
        rw [hanswer] at hread
        exact hread.elim
      | some v =>
        rw [hanswer] at hread
        cases v with
        | text record =>
          obtain ⟨rfl, rfl, hquery, ⟨flat, rfl⟩, d, hparse, hsip, hactive⟩ := hread
          rw [hst.getDocument hquery, Option.some.injEq, DbValue.text.injEq] at hanswer
          refine ⟨query, flat, d, rfl, ?_, hsip, hactive⟩
          subst hanswer
          rw [DocumentStore.found]
          cases hfound : (st.docs s (Bytes.ofString "subscribers")).find? (st.selects query) with
          | none =>
            rw [hfound] at hparse
            cases hparse
          | some d' =>
            rw [hfound, Option.elim_some,
              hst.parse_text s _ d' (List.mem_of_find?_eq_some hfound)] at hparse
            exact hparse
        | _ => exact hread.elim
    | _ => exact hread.elim

/-- A log-in comes to store a session only by the step that reads the record. -/
theorem storesNext_next (hst : st.Lawful dump)
    (hx : x.Every fun _ job => InProgress dump toLong job.request job.rest)
    (hstart : ∀ r, e = .start r → Strict dump toLong r)
    (hstores : StoresNext (x.next h (SessionRequest.code other) e) i token u) :
    StoresNext x i token u ∨ e = .step i ∧ IssuesSession st other x i token u := by
  obtain ⟨job, who, doc, k, ⟨hjob, hrest⟩, hdoc, htoken, hnames⟩ := id hstores
  rcases Program.Pool.next_cases h (SessionRequest.code other) x e with
    ⟨r, rfl, heq⟩ | ⟨j, o, job', k', rfl, hcalls⟩ | heq
  · rw [heq, List.getElem?_append] at hjob
    split_ifs at hjob with hlt
    · exact .inl ⟨job, who, doc, k, ⟨hjob, hrest⟩, hdoc, htoken, hnames⟩
    · obtain ⟨hlt', rfl⟩ := List.getElem?_eq_some_iff.mp hjob
      simp only [List.length_singleton, Nat.lt_one_iff] at hlt'
      simp only [hlt', List.getElem_singleton] at hrest
      have hfirst : (r.code other).Follows _ _ := follows_code (hstart r rfl).1 (hstart r rfl).2
      rw [hrest] at hfirst
      exact absurd ⟨_, _, _, rfl⟩ hfirst.1
  · rw [hcalls.next_eq, List.getElem?_set] at hjob
    split_ifs at hjob with hij hlt
    · cases hjob
      subst hij
      obtain ⟨⟨rfl, rfl, htime, -⟩, hperforms, P, hfollows⟩ := hx j job' hcalls.1
      rw [hcalls.2] at hfollows hperforms
      have hafter := hfollows.2 (h o x.store).1
      have hop := hperforms.2 (h o x.store).1 trivial
      dsimp only at hrest hdoc
      rw [hrest] at hafter hop
      have hlogin : job'.request.kind = .login :=
        not_not.mp fun hkind => not_createsSession hkind hop.1 ⟨_, _, _, rfl⟩
      obtain ⟨who', doc', hread, hdoc', heq⟩ := hafter.1 ⟨_, _, _, rfl⟩
      cases heq
      obtain ⟨hsociety, hsip⟩ := names_of_sessionDoc hst htime x.store hdoc hdoc'
      obtain ⟨query, flat, d, rfl, hfound, hname, hactive⟩ := hread.found hst
      rw [← hsociety, hnames.1] at hcalls
      rw [← hsip, hnames.2] at hname
      exact .inr ⟨rfl, ⟨job', query, flat, d, _, hcalls, hlogin, hfound, hname, hactive⟩, hstores⟩
    · exact .inl ⟨job, who, doc, k, ⟨hjob, hrest⟩, hdoc, htoken, hnames⟩
  · rw [heq] at hstores
    exact .inl hstores

/-! ### What is known after the sessions were deleted -/

/-- A session of the subscriber is found only for a token in `N`. -/
def Knows (dump : Json → Option Bytes) (u : SubscriberId) (N : Set Bytes) :
    ∀ o : Op, Option (Answer o) → Prop
  | .db (.getDocument coll query fields) ms, some (.text record) =>
    coll = Bytes.ofString "sessions" → fields = braces →
    dump (.object (strings ms)) = some query → ∀ token, ms = [(Bytes.ofString "token", token)] →
    ∀ d, parse record = some d → u.Has d → token ∈ N
  | _, _                                                          => True

/-- A session of the subscriber is accepted only with a token in `N`. -/
def AcceptsIn (u : SubscriberId) (N : Set Bytes) (o : Outcome) : Prop :=
  ∀ token response, o = .accepted token u.societyId u.sipUsername response → token ∈ N

section

variable {env : SessionEnv} {N : Set Bytes}

lemma yields_textOf_bind {c : DbCall} {ms : List (Bytes × Bytes)} {α : Type} {f : Bytes → Prog α}
    {A : ∀ o, Option (Answer o) → Prop} {Q : α → Prop}
    (hf : ∀ text, A (.db c ms) (some (.text text)) → (f text).Yields A Q) :
    (textOf c ms >>= f).Yields A Q := by
  refine ⟨trivial, fun a ha => ?_⟩
  rcases a with _ | ⟨text⟩ | _ | _ | _
  · rintro _ ⟨⟩
  · exact hf text ha
  all_goals rintro _ ⟨⟩

lemma yields_answered {A : ∀ o, Option (Answer o) → Prop} (p : Prog Bytes) :
    (p >>= fun response => pure (Outcome.answered response)).Yields A (AcceptsIn u N) :=
  Program.yields_bind fun _ => Program.yields_pure fun _ _ => nofun

lemma yields_admit {A : ∀ o, Option (Answer o) → Prop} {societyId sipUsername : Bytes}
    (p : Prog Bytes) (hN : societyId = u.societyId → sipUsername = u.sipUsername → token ∈ N) :
    (accept token societyId sipUsername p).Yields A (AcceptsIn u N) := by
  refine Program.yields_bind fun r => Program.yields_pure fun token' response heq => ?_
  cases heq
  exact hN rfl rfl

/-- What was found under a name that is not empty is a string of the session. -/
lemma text_of_valueOr {d : Json} {key : String} {v default : Bytes}
    (hv : valueOr d key default = some v) (hne : v ≠ default) :
    d.text (Bytes.ofString key) = some v := by
  rw [valueOr] at hv
  split_ifs at hv
  rw [text_eq_some]
  cases hfield : d.field (Bytes.ofString key) with
  | none =>
    rw [hfield] at hv
    exact absurd (Option.some.inj hv).symm hne
  | some w =>
    rw [hfield] at hv
    cases w with
    | string s =>
      cases hv
      rfl
    | _ => cases hv

lemma has_iff {d : Json} : u.Has d ↔ d.text (Bytes.ofString "societyId") = some u.societyId ∧
    d.text (Bytes.ofString "sipUsername") = some u.sipUsername := by
  simp [SubscriberId.Has, SubscriberId.members]

lemma yields_upgradeSession (token : Bytes) :
    (upgradeSession env token).Yields (Knows env.dump u N)
      fun check => ∀ session, check = .ok session → u.Has session → token ∈ N := by
  rw [upgradeSession]
  split_ifs
  · exact Program.yields_pure (by rintro _ ⟨⟩)
  · refine Program.yields_ofOption_bind fun query hquery => ?_
    obtain ⟨text, htext, rfl⟩ := Option.map_eq_some_iff.mp hquery
    refine yields_textOf_bind fun record hknows => ?_
    cases hsession : sessionOf env record with
    | error err => exact Program.yields_pure (by rintro _ ⟨⟩)
    | ok session =>
      have hN : u.Has session → token ∈ N := by
        rw [sessionOf] at hsession
        split_ifs at hsession
        cases hparse : parse record with
        | none =>
          rw [hparse] at hsession
          cases hsession
        | some d =>
          rw [hparse] at hsession
          dsimp only at hsession
          split_ifs at hsession
          cases hsession
          exact hknows rfl rfl htext token rfl session hparse
      dsimp only
      rw [gatedSession]
      split_ifs
      · refine Program.yields_bind fun gate => Program.yields_pure fun session' heq => ?_
        cases gate with
        | none =>
          cases heq
          exact hN
        | some err => cases heq
      · refine Program.yields_pure fun session' heq => ?_
        cases heq
        exact hN

/-- The session of an administrator who is let pass is the one that was found. -/
lemma adminOf_names {session : Json} {check : AdminSession} (hcheck : adminOf session = some check)
    (herror : check.error = []) :
    valueOr session "societyId" = some check.societyId ∧
      valueOr session "sipUsername" = some check.sipUsername := by
  obtain ⟨role, -, hrole⟩ := Option.bind_eq_some_iff.mp hcheck
  split_ifs at hrole
  · obtain ⟨societyId, hsociety, hrest⟩ := Option.bind_eq_some_iff.mp hrole
    obtain ⟨sipUsername, hsip, hrest⟩ := Option.bind_eq_some_iff.mp hrest
    cases hrest
    exact ⟨hsociety, hsip⟩
  · cases hrole
    exact absurd herror (responseError_ne_nil _ _ _)

lemma yields_resolveAdminSession (hu : u.societyId ≠ [] ∧ u.sipUsername ≠ []) (req : Bytes) :
    (resolveAdminSession env.toEnv req).Yields (Knows env.dump u N) fun check =>
      check.error = [] → check.societyId = u.societyId → check.sipUsername = u.sipUsername →
        (extractSessionToken env.decompress req).getD [] ∈ N := by
  rw [resolveAdminSession]
  refine Program.yields_ofOption_bind fun token htoken => ?_
  rw [Option.mem_def.mp htoken, Option.getD_some]
  split_ifs
  · exact Program.yields_pure fun herror => absurd herror (responseError_ne_nil _ _ _)
  · refine Program.yields_ofOption_bind fun query hquery => ?_
    obtain ⟨text, htext, rfl⟩ := Option.map_eq_some_iff.mp hquery
    refine yields_textOf_bind fun record hknows => ?_
    split_ifs
    · exact Program.yields_pure fun herror => absurd herror (responseError_ne_nil _ _ _)
    · cases hparse : parse record with
      | none => exact Program.yields_pure fun herror => absurd herror (responseError_ne_nil _ _ _)
      | some session =>
        dsimp only
        split_ifs
        · refine (Program.all_ofOption _).mpr fun check hcheck herror hsociety hsip => ?_
          obtain ⟨hs, hu'⟩ := adminOf_names hcheck herror
          rw [hsociety] at hs
          rw [hsip] at hu'
          exact hknows rfl rfl htext token rfl session hparse
            (has_iff.mpr ⟨text_of_valueOr hs hu.1, text_of_valueOr hu' hu.2⟩)
        · exact Program.yields_bind fun _ =>
            Program.yields_pure fun herror => absurd herror (responseError_ne_nil _ _ _)

lemma getD_eq {o : Option Bytes} {v : Bytes} (h : o.getD [] = v) (hne : v ≠ []) : o = some v := by
  cases o with
  | none => exact absurd h.symm hne
  | some w => rw [← h, Option.getD_some]

/-- A request that starts when the sessions of the subscriber have only tokens in `N`. -/
theorem yields_code {r : SessionRequest} (hu : u.societyId ≠ [] ∧ u.sipUsername ≠ []) :
    (r.code other).Yields (Knows r.env.dump u N) (AcceptsIn u N) := by
  obtain ⟨env, req, kind⟩ := r
  cases kind with
  | login => exact yields_answered _
  | ping => exact yields_answered _
  | upgrade =>
    refine Program.yields_ofOption_bind fun token _ => ?_
    refine (yields_upgradeSession token).bind fun check hcheck => ?_
    cases check with
    | error err => exact Program.yields_pure fun _ _ => nofun
    | ok session =>
      exact yields_admit _ fun hsociety hsip => hcheck session rfl
        (has_iff.mpr ⟨getD_eq hsociety hu.1, getD_eq hsip hu.2⟩)
  | admin route =>
    refine (yields_resolveAdminSession hu req).bind fun check hcheck => ?_
    split_ifs with herror
    · exact Program.yields_pure fun _ _ => nofun
    · exact yields_admit _ (hcheck (not_not.mp herror))

/-! ### After the sessions were deleted -/

variable (st) in
/-- The sessions of the subscriber, those that are about to be stored and those that the requests
from `n` on may be accepted with have only tokens in `N`. -/
structure Clean (dump : Json → Option Bytes) (u : SubscriberId) (N : Set Bytes) (n : ℕ)
    (x : Workers σ) : Prop where
  rows : ∀ d ∈ st.sessions x.store, u.Has d → ∃ token ∈ N, tokenOf d = some token
  storing : ∀ i token, StoresNext x i token u → token ∈ N
  later : x.Every fun i job => n ≤ i → job.rest.Yields (Knows dump u N) (AcceptsIn u N)

/-- The answers of the store. -/
lemma knows_answer (hst : st.Lawful dump) {s : σ}
    (hrows : ∀ d ∈ st.sessions s, u.Has d → ∃ token ∈ N, tokenOf d = some token) (o : Op) :
    Knows dump u N o (h o s).1 := by
  cases o with
  | post => trivial
  | revoke => trivial
  | db c ms =>
    cases c with
    | getDocument coll query fields =>
      cases hanswer : (h (.db (.getDocument coll query fields) ms) s).1 with
      | none => trivial
      | some v =>
        cases v with
        | text record =>
          rintro rfl rfl hquery token rfl d hparse hd
          have hquery' : dump (.object (strings [(Bytes.ofString "token", token)])) = some query :=
            hquery
          rw [hst.getDocument hquery', Option.some.injEq, DbValue.text.injEq] at hanswer
          subst hanswer
          cases hfound : (st.docs s (Bytes.ofString "sessions")).find? (st.selects query) with
          | none =>
            rw [hfound] at hparse
            cases hparse
          | some d' =>
            have hmem := List.mem_of_find?_eq_some hfound
            rw [hfound, Option.elim_some, hst.parse_text s _ d' hmem, Option.some.injEq] at hparse
            subst hparse
            obtain ⟨token', hN, htoken⟩ := hrows d' hmem hd
            have hname : IsFieldName (Bytes.ofString "token") := by decide
            have hselects := (hst.selects_iff hquery' (List.forall_mem_singleton.mpr hname) d'
              (List.forall_mem_singleton.mpr fun es hes => by
                rw [tokenOf, text_eq_some, hes] at htoken
                cases htoken)).mp (by simpa using List.find?_some hfound)
            have hsame := text_eq_some.mpr (hselects _ (List.mem_singleton_self _))
            rw [tokenOf] at htoken
            obtain rfl : token = token' := Option.some.inj (hsame.symm.trans htoken)
            exact hN
        | _ => trivial
    | _ => trivial

/-- The rows after a step: those that were there, with their ends moved, and one that was about to
be stored. -/
lemma Clean.rows_next {n : ℕ} (hst : st.Lawful dump)
    (hx : x.Every fun _ job => InProgress dump toLong job.request job.rest)
    (hclean : Clean st dump u N n x) :
    ∀ d ∈ st.sessions (x.next h (SessionRequest.code other) e).store, u.Has d →
      ∃ token ∈ N, tokenOf d = some token := by
  refine Program.Pool.store_next (I := fun s => ∀ d ∈ st.sessions s, u.Has d →
    ∃ token ∈ N, tokenOf d = some token) hclean.rows ?_
  intro i o job k _ hcalls d hd hhas
  obtain ⟨⟨rfl, rfl, htime, -⟩, hperforms, -⟩ := hx i job hcalls.1
  rw [hcalls.2] at hperforms
  rcases hperforms.1.rows hst htime hd with ⟨d₀, hd₀, hsame⟩ | ⟨who, doc, hdoc, rfl, hfield⟩
  · obtain ⟨hsociety, hsip⟩ := has_iff.mp hhas
    rw [hsame _ (by decide)] at hsociety hsip
    rw [tokenOf, hsame _ (by decide)]
    exact hclean.rows d₀ hd₀ (has_iff.mpr ⟨hsociety, hsip⟩)
  · obtain ⟨hsociety, hsip⟩ := has_iff.mp hhas
    rw [hfield _ (by decide)] at hsociety hsip
    refine ⟨mintBearerToken job.request.env,
      hclean.storing i _ ⟨job, who, doc, k, hcalls, hdoc, rfl, ?_, ?_⟩, ?_⟩
    · exact Option.some.inj hsociety
    · exact Option.some.inj hsip
    · rw [tokenOf, hfield _ (by decide)]
      rfl

/-- A step keeps the tokens within `N`, if those of the log-ins are. -/
theorem Clean.next {n : ℕ} (hst : st.Lawful dump) (hu : u.societyId ≠ [] ∧ u.sipUsername ≠ [])
    (hx : x.Every fun _ job => InProgress dump toLong job.request job.rest)
    (hstart : ∀ r, e = .start r → Strict dump toLong r)
    (hlogs : ∀ i token, e = .step i → IssuesSession st other x i token u → token ∈ N)
    (hclean : Clean st dump u N n x) :
    Clean st dump u N n (x.next h (SessionRequest.code other) e) where
  rows := hclean.rows_next hst hx
  storing i token hstores := by
    rcases storesNext_next hst hx hstart hstores with hbefore | ⟨rfl, hlogin⟩
    · exact hclean.storing i token hbefore
    · exact hlogs i token rfl hlogin
  later := by
    refine hclean.later.next (fun r he _ => ?_) ?_
    · rw [← (hstart r he).1.dump_eq]
      exact yields_code hu
    · intro i o job k _ hcalls hjob hn
      have hyields := hjob hn
      rw [hcalls.2] at hyields
      exact hyields.2 _ (knows_answer hst hclean.rows o)

/-- A run keeps the tokens within `N`, if those of its log-ins are. -/
theorem Clean.run {n : ℕ} (hst : st.Lawful dump) (hu : u.societyId ≠ [] ∧ u.sipUsername ≠ [])
    {es : List (Program.Event SessionRequest)}
    (hx : x.Every fun _ job => InProgress dump toLong job.request job.rest)
    (hstart : ∀ r, .start r ∈ es → Strict dump toLong r)
    (hlogs : ∀ first l last token, es = first ++ .step l :: last →
      IssuesSession st other (x.run h (SessionRequest.code other) first) l token u → token ∈ N)
    (hclean : Clean st dump u N n x) :
    Clean st dump u N n (x.run h (SessionRequest.code other) es) := by
  induction es generalizing x with
  | nil => exact hclean
  | cons e es ih =>
    have hstart' : ∀ r, e = .start r → Strict dump toLong r := fun r he =>
      hstart r (he ▸ List.mem_cons_self)
    have hx' := inProgress_run h other [e] hx fun r hr =>
      hstart' r (List.mem_singleton.mp hr).symm
    refine ih hx' (fun r hr => hstart r (List.mem_cons_of_mem _ hr))
      (fun first l last token hes => hlogs (e :: first) l last token (by rw [hes]; rfl)) ?_
    refine hclean.next hst hu hx hstart' fun l token he => hlogs [] l es token ?_
    rw [he]
    rfl

/-- The sessions of the subscriber have been deleted, and none is about to be stored. -/
theorem clean_of_deletes (hst : st.Lawful dump) {o : Op}
    {job : Program.Job SessionRequest Answer Outcome} {k : Option (Answer o) → Prog Outcome}
    (hx : x.Every fun _ job => InProgress dump toLong job.request job.rest)
    (hcalls : x.Calls i o job k) (hdeletes : u.DeletesSessions dump o)
    (hquiet : ∀ j token, ¬ StoresNext x j token u) :
    Clean st dump u N x.jobs.length (x.next h (SessionRequest.code other) (.step i)) where
  rows d hd hhas := by
    obtain ⟨query, hquery, rfl⟩ := hdeletes
    rw [hcalls.next_eq, DocumentStore.sessions, hst.deleteDocument hquery, List.mem_filter,
      Bool.not_eq_true'] at hd
    have hnames : ∀ m ∈ u.members, IsFieldName m.1 := by
      have hdecide : ∀ name ∈ ["societyId", "sipUsername"].map Bytes.ofString,
          IsFieldName name := by decide
      exact fun m hm => hdecide m.1 (List.mem_map_of_mem (f := Prod.fst) hm)
    have hselects := (hst.selects_iff hquery hnames d fun m hm es hes => by
      have htext := hhas m hm
      rw [text_eq_some, hes] at htext
      cases htext).mpr fun m hm => text_eq_some.mp (hhas m hm)
    rw [hselects] at hd
    cases hd.2
  storing j token hstores := by
    rcases storesNext_next hst hx (fun _ hr => by cases hr) hstores with hbefore | ⟨heq, hlogin⟩
    · exact absurd hbefore (hquiet j token)
    · cases heq
      obtain ⟨query, -, rfl⟩ := hdeletes
      obtain ⟨⟨job', query', flat, d, k', hcalls', -⟩, -⟩ := hlogin
      obtain rfl : job' = job := Option.some.inj (hcalls'.1.symm.trans hcalls.1)
      have hrest := hcalls'.2.symm.trans hcalls.2
      simp at hrest
  later j job' hjob hn := by
    rw [hcalls.next_eq] at hjob
    have hlt := (List.getElem?_eq_some_iff.mp hjob).1
    rw [List.length_set] at hlt
    exact absurd hn (not_le.mpr hlt)

/-! ### What a revocation does -/

lemma not_succeeds_responseError {code : ℕ} (hcode : code = 400 ∨ code = 404) (reason : String)
    (cause : Bytes) : ¬ Succeeds (responseError code reason cause) := by
  rw [Succeeds, responseError, httpResponse]
  have hok : Bytes.ofString "HTTP/1.1 200" = Bytes.ofString "HTTP/1.1 " ++ [0x32, 0x30, 0x30] := by
    decide
  simp only [hok, List.append_assoc, List.prefix_append_right_inj]
  rcases hcode with rfl | rfl
  · have h400 : ofNat 400 = [0x34, 0x30, 0x30] := by decide
    simp [h400]
  · have h404 : ofNat 404 = [0x34, 0x30, 0x34] := by decide
    simp [h404]

/-- The subscriber that the path and the query of a request name. -/
def targetOf (req : Bytes) : SubscriberId :=
  ⟨societyIdOf req, pathSuffix req (Bytes.ofString "/api/v1/subscriber/")⟩

/-- The sessions of the target are deleted, and the target has names. -/
def DeletesTarget (dump : Json → Option Bytes) (req : Bytes) (o : Op) : Prop :=
  ((targetOf req).societyId ≠ [] ∧ (targetOf req).sipUsername ≠ []) ∧
    (targetOf req).DeletesSessions dump o

/-- A target that is found is the subscriber that the request names. -/
lemma through_lifecycle {env : Env} {req : Bytes}
    {f : Except Bytes (Bytes × Bytes × Filter) → Prog Bytes}
    (herror : ∀ err, ¬ Succeeds err → (f (.error err)).Through (DeletesTarget env.dump req) Succeeds)
    (hok : ∀ query, (∀ α (g : Unit → Prog α) (Q : α → Prop),
        (deleteDocument "sessions" ⟨query, (targetOf req).members⟩ >>= g).Through
          (DeletesTarget env.dump req) Q) →
      (f (.ok ((targetOf req).sipUsername, (targetOf req).societyId,
        ⟨query, (targetOf req).members⟩))).Through (DeletesTarget env.dump req) Succeeds) :
    (resolveLifecycleTarget env req >>= f).Through (DeletesTarget env.dump req) Succeeds := by
  rw [resolveLifecycleTarget]
  split_ifs with hsip hsociety
  · exact herror _ (not_succeeds_responseError (.inl rfl) _ _)
  · exact herror _ (not_succeeds_responseError (.inl rfl) _ _)
  · rw [bind_assoc, Env.filter]
    refine Program.through_ofOption_bind fun query hquery => ?_
    obtain ⟨text, htext, rfl⟩ := Option.map_eq_some_iff.mp hquery
    rw [bind_assoc]
    refine Program.through_bind fun found => ?_
    split_ifs
    · exact herror _ (not_succeeds_responseError (.inr rfl) _ _)
    · refine hok text fun α g Q => Program.Through.bind (Program.Through.bind ?_)
      exact Program.through_perform ⟨⟨hsociety, hsip⟩, text, htext, rfl⟩

lemma through_status {env : Env} {req : Bytes}
    (hstatus : ∀ parsed ∈ Http.ofBytes env.decompress req,
      statusOf (parse parsed.body) = .ok (Bytes.ofString "disabled")) :
    (handleSubscriberStatusPUT env req).Through (DeletesTarget env.dump req) Succeeds := by
  refine through_lifecycle (fun _ herr => herr) fun query hdeletes => ?_
  refine Program.through_ofOption_bind fun parsed hparsed => ?_
  rw [hstatus parsed hparsed]
  refine Program.through_ofOption_bind fun update _ => Program.through_bind fun _ => ?_
  dsimp only
  rw [if_pos rfl]
  exact hdeletes _ _ _

lemma through_delete {env : Env} {req : Bytes} :
    (handleSubscriberDELETE env req).Through (DeletesTarget env.dump req) Succeeds :=
  through_lifecycle (fun _ herr => herr) fun _ hdeletes =>
    Program.through_bind fun _ => hdeletes _ _ _

variable (other) in
/-- A revocation that returns has deleted the sessions of the subscriber. -/
theorem through_revokes {r : SessionRequest} (hr : Revokes r u) :
    u = targetOf r.req ∧
      (r.code other).Through (DeletesTarget r.env.dump r.req) Outcome.Succeeds := by
  obtain ⟨env, req, kind⟩ := r
  obtain ⟨hkind, hsip, hsociety⟩ := hr
  refine ⟨by rw [targetOf, hsip, hsociety], ?_⟩
  have hadmit : ∀ {token societyId sipUsername : Bytes} {p : Prog Bytes},
      p.Through (DeletesTarget env.dump req) Succeeds →
      (accept token societyId sipUsername p).Through (DeletesTarget env.dump req)
        Outcome.Succeeds := by
    refine fun hp => Program.Through.map (hp.attempt ?_ ?_)
    · rintro ⟨_, _, _, _, heq, -⟩
      cases heq
    · rintro response ⟨_, _, _, _, heq, hok⟩
      cases heq
      exact hok
  have hcode : ∀ route : Route,
      (route.handler env.toEnv other req).Through (DeletesTarget env.dump req) Succeeds →
      (SessionRequest.code other ⟨env, req, .admin route⟩).Through (DeletesTarget env.dump req)
        Outcome.Succeeds := by
    intro route hp
    refine Program.through_bind fun check => ?_
    split_ifs
    · rintro ⟨_, _, _, _, heq, -⟩
      cases heq
    · exact hadmit hp
  rcases hkind with rfl | ⟨rfl, hstatus⟩
  · exact hcode .subscriberDelete through_delete
  · exact hcode .subscriberStatus (through_status hstatus)

/-! ### Sessions that are stored late -/

/-- A session that is about to be stored is there after the next step of its log-in, whatever has
been deleted. -/
theorem session_of_storesNext (hst : st.Lawful dump)
    (hx : x.Every fun _ job => InProgress dump toLong job.request job.rest)
    (hstores : StoresNext x i token u) :
    ∃ d ∈ st.sessions (x.next h (SessionRequest.code other) (.step i)).store,
      u.Has d ∧ tokenOf d = some token := by
  obtain ⟨job, who, doc, k, hcalls, hdoc, rfl, hsociety, hsip⟩ := hstores
  obtain ⟨⟨rfl, rfl, htime, -⟩, -, -⟩ := hx i job hcalls.1
  obtain ⟨_, d, -, hdocs, -, hfield⟩ := hst.createDocument hdoc
    (scalars_sessionDoc htime _ who) job.request.env.database (Bytes.ofString "sessions") [] x.store
  refine ⟨d, ?_, has_iff.mpr ⟨?_, ?_⟩, ?_⟩
  · rw [hcalls.next_eq, DocumentStore.sessions, hdocs]
    exact List.mem_append_right _ (List.mem_singleton_self d)
  · rw [text, hfield _ (by decide), ← hsociety]
    rfl
  · rw [text, hfield _ (by decide), ← hsip]
    rfl
  · rw [tokenOf, text, hfield _ (by decide)]
    rfl

/-! ### Revocations -/

/-- In strict mode a revocation lasts, in every order of steps in which no log-in of the subscriber
is between its checks and its session when the sessions are deleted. -/
theorem revocation_lasts (hst : st.Lawful dump) {s₀ : σ}
    {es : List (Program.Event SessionRequest)} (hstart : ∀ r, .start r ∈ es → Strict dump toLong r)
    (hquiet : Transition.Along (Program.Pool.next h (SessionRequest.code other)) (Quiet dump u)
      ⟨s₀, []⟩ es) : RevocationLasts st other dump ⟨s₀, []⟩ es u := by
  unfold RevocationLasts
  intro run before after i hes hrevoked j token hlater ⟨job', hjob', hends⟩
  have hprogress : ∀ es', es' <+: es → (run es').Every fun _ job =>
      InProgress dump toLong job.request job.rest := fun es' hes' =>
    inProgress_run h other es' (fun _ _ hjob => by cases hjob) fun r hr => hstart r (hes'.subset hr)
  -- The revocation has deleted the sessions at some step.
  obtain ⟨job, o, hjob, hrevokes, hrest, hsucceeds⟩ := hrevoked
  obtain ⟨rfl, hthrough⟩ := through_revokes other hrevokes
  obtain ⟨first, last, op, job₁, k, rfl, hcalls, -, hne, hdeletes⟩ :=
    (Program.Pool.through_run (h := h) rfl i job hjob hthrough).resolve_left fun hnot => by
      rw [hrest] at hnot
      exact hnot hsucceeds
  have hdump : job.request.env.dump = dump :=
    (hprogress _ ⟨after, hes.symm⟩ i job hjob).fits.dump_eq
  rw [hdump] at hdeletes
  have hsplit : es = first ++ .step i :: (last ++ after) := by rw [hes]; simp
  have hfirst := hprogress first ⟨_, hsplit.symm⟩
  have hquiet' := Transition.along_iff_cut.mp hquiet first (.step i) _ hsplit
  have hrun : ∀ between, run (first ++ .step i :: between) =
      ((run first).next h (SessionRequest.code other) (.step i)).run h (SessionRequest.code other)
        between := fun between => by
    rw [show run (first ++ .step i :: between) = _ from Program.Pool.run_append]
    rfl
  -- From there on the tokens are those of the log-ins.
  let N : Set Bytes := {token | ∃ between l rest, last ++ after = between ++ .step l :: rest ∧
    IssuesSession st other (run (first ++ .step i :: between)) l token (targetOf job.request.req)}
  have hclean : Clean st dump (targetOf job.request.req) N (run first).jobs.length (run es) := by
    rw [hsplit, hrun]
    have hdeleted := inProgress_run h other [.step i] hfirst fun r hr => by
      simp at hr
    refine Clean.run hst hne hdeleted (fun r hr => hstart r (by rw [hsplit]; simp [hr]))
      (fun between l rest token hcut hlogs => ?_)
      (clean_of_deletes hst hfirst hcalls hdeletes (hquiet' op job₁ k hcalls hdeletes))
    exact ⟨between, l, rest, hcut, by rwa [hrun]⟩
  have hn : (run first).jobs.length ≤ j := le_trans (by
    rw [show run (first ++ .step i :: last) = _ from Program.Pool.run_append]
    exact Program.Pool.length_le_run) hlater
  obtain ⟨r, hin, response, rfl⟩ := Program.All.exists_result (hclean.later j job' hjob' hn) hends
    (fun o => by cases o with
      | db c ms => cases c <;> trivial
      | _ => trivial) fun _ => trivial
  obtain ⟨between, l, rest, hcut, hlogs⟩ := hin _ rfl token response rfl
  exact ⟨first, between, l, rest, op, job₁, k, by rw [hsplit, hcut], hcalls, hdeletes, hlogs⟩

end

end

/-! ### A log-in, a deletion and a token -/

/-- The next operation stores a session, or it deletes some. -/
def storing : Prog Outcome → Bool
  | .call (.db (.createDocument _ coll _) _) _ => coll = Bytes.ofString "sessions"
  | _                                          => false

def deleting : Prog Outcome → Bool
  | .call (.db (.deleteDocument coll _) _) _ => coll = Bytes.ofString "sessions"
  | _                                        => false

/-- No session is about to be stored while others are about to be deleted. -/
def calm {σ : Type} (x : Workers σ) : Bool :=
  (x.jobs.all fun job => !deleting job.rest) || x.jobs.all fun job => !storing job.rest

lemma quiet_of_calm {σ : Type} {x : Workers σ} (dump : Json → Option Bytes) (u : SubscriberId)
    (e : Program.Event SessionRequest) (hcalm : calm x = true) : Quiet dump u x e := by
  cases e with
  | start r => trivial
  | step i =>
    rintro o job k hcalls ⟨query, -, rfl⟩ j token ⟨job', who, doc, k', hcalls', -⟩
    rw [calm, Bool.or_eq_true, List.all_eq_true, List.all_eq_true] at hcalm
    rcases hcalm with hcalm | hcalm
    · have := hcalm job (List.mem_of_getElem? hcalls.1)
      rw [hcalls.2] at this
      cases this
    · have := hcalm job' (List.mem_of_getElem? hcalls'.1)
      rw [hcalls'.2] at this
      cases this

/-- The outcome of a program that has ended; `none` is an exception. -/
def outcomeOf : Prog Outcome → Option (Option Outcome)
  | .ret o    => some (some o)
  | .throw    => some none
  | .call _ _ => none

def portalEnv : SessionEnv where
  toEnv := { bareEnv with dump := Json.dumped, toLong := Decimal.toInt, now := 1000 }
  strict := true
  randBytes := some [0xA1, 0x0F]
  verifyPassword := fun _ _ => true
  nowMs := 1000000

def rowOfTexts (coll : String) (ms : List (String × String)) : List (Bytes × JsonDoc) :=
  (JsonDoc.ofJson (.object (ms.map fun m => member m.1 (Bytes.ofString m.2)))).toList.map fun d =>
    (Bytes.ofString coll, d)

/-- The session of an administrator. -/
def adminRowOf (token : String) : List (Bytes × JsonDoc) :=
  (JsonDoc.ofJson (.object [member "token" (Bytes.ofString token),
    member "role" (Bytes.ofString "admin"), (Bytes.ofString "expiresAt", .number (ofNat 2000))]
    )).toList.map fun d => (Bytes.ofString "sessions", d)

/-- A subscriber who is an administrator, and the session of another one. -/
def portalStore : JsonStore where
  rows := rowOfTexts "societies" [("_id", "s"), ("code", "gm")] ++
    rowOfTexts "subscribers" [("societyId", "s"), ("flatNumber", "1"), ("sipUsername", "u1"),
      ("portalPasswordHash", "x"), ("status", "active"), ("role", "admin")] ++ adminRowOf "ad"

def portalLogin : SessionRequest where
  env := portalEnv
  req := laxLogin.req
  kind := .login

def portalDelete : SessionRequest where
  env := portalEnv
  req := Bytes.ofString "DELETE /api/v1/subscriber/u1?societyId=s&token=ad HTTP/1.1\r\n\r\n"
  kind := .admin .subscriberDelete

def portalList : SessionRequest where
  env := portalEnv
  req := Bytes.ofString "GET /api/v1/societies?token=a10f HTTP/1.1\r\n\r\n"
  kind := .admin .societies

/-- A log-in, the deletion of its subscriber, and a request with the token of the log-in. -/
def portalRun : List (Program.Event SessionRequest) :=
  [.start portalLogin, .step 0, .step 0, .step 0, .start portalDelete, .step 1, .step 1, .step 1,
    .step 1, .start portalList, .step 2]

/-- How the deletion and the later request end. -/
def portalOutcomes (es : List (Program.Event SessionRequest)) : List (Option (Option Outcome)) :=
  let x := (⟨portalStore, []⟩ : Workers JsonStore).run JsonStore.handler
    (SessionRequest.code noOther) es
  (x.jobs.map fun job => outcomeOf job.rest).drop 1

def portalDeleted : Outcome :=
  .accepted (Bytes.ofString "ad") [] [] (some (httpResponse 200 "OK"
    (Bytes.ofString "\x7b\"status\":\"success\",\"sipUsername\":\"u1\",\"removed\":true\x7d")))

lemma portal_strict {r : SessionRequest} (hr : r ∈ [portalLogin, portalDelete, portalList]) :
    Strict Json.dumped Decimal.toInt r := by
  have hfits : r.env = portalEnv → (∀ route, r.kind = .admin route → route.needsAdmin) →
      Strict Json.dumped Decimal.toInt r := fun henv hadmin => by
    refine ⟨⟨?_, ?_, ?_, hadmin⟩, ?_⟩ <;> rw [henv]
    · rfl
    · rfl
    · exact ⟨⟨by decide, by decide⟩, by decide, by decide⟩
    · rfl
  simp only [List.mem_cons, List.not_mem_nil, or_false] at hr
  rcases hr with rfl | rfl | rfl
  · exact hfits rfl fun route h => by cases h
  · exact hfits rfl fun route h => by cases h; rfl
  · exact hfits rfl fun route h => by cases h; rfl

/-- The deletion lasts, and the token is refused. -/
theorem revocation_lasts_deleted :
    RevocationLasts JsonStore.store noOther Json.dumped ⟨portalStore, []⟩ portalRun
      ⟨Bytes.ofString "s", Bytes.ofString "u1"⟩ ∧
    portalOutcomes portalRun = [some (some portalDeleted),
      some (some (.answered (unauthorized "Missing or invalid session").error))] := by
  have hcalm : Transition.Along (Program.Pool.next JsonStore.handler (SessionRequest.code noOther))
      (fun x _ => calm x = true) ⟨portalStore, []⟩ portalRun := by
    decide +kernel
  refine ⟨revocation_lasts JsonStore.lawful (fun r hr => portal_strict ?_)
    (hcalm.mono fun x e => quiet_of_calm _ _ e), ?_⟩
  · simp only [portalRun, List.mem_cons, Program.Event.start.injEq, reduceCtorEq, List.not_mem_nil,
      or_false, false_or] at hr
    rcases hr with rfl | rfl | rfl <;> simp
  · decide +kernel

/-- Where the log-in stores its session after the deletion, the token is accepted. -/
example : (portalOutcomes [.start portalLogin, .step 0, .step 0, .start portalDelete, .step 1,
    .step 1, .step 1, .step 1, .step 0, .start portalList, .step 2, .step 2]).map
      (Option.map (Option.map fun o => decide (o = portalDeleted ∨ ∃ response ∈ o.response,
        o = .accepted (Bytes.ofString "a10f") (Bytes.ofString "s") (Bytes.ofString "u1")
          (some response)))) = [some (some true), some (some true)] := by
  decide +kernel

end MicroServicePbx
