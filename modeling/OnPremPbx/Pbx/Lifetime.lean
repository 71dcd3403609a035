import OnPremPbx.Pbx.GrantSteps
import OnPremPbx.Pbx.JsonStore

/-!
# The lifetime of sessions

A token that a log-in has issued is good for as long as the time to live of its role, counted from
the log-in or from the last ping or upgrade that was accepted with it, unless its row is deleted.
Once it has expired no request makes it good again.
-/

open Json
open Decimal (ofInt)

namespace MicroServicePbx

section

variable {σ : Type} {h : Program.Handler Answer σ} {st : DocumentStore h} {env : SessionEnv}
  {w : World σ} {g : Grant} {d : Json} {token : Bytes}

/-! ### Runs -/

variable {dump : Json → Option Bytes} {toLong : Bytes → ℤ} {r : SessionRequest} {w' : World σ}

lemma drawn_eq_some (hdrawn : r.drawn = some token) :
    token ≠ [] ∧ Utf8.Valid token := by
  rw [SessionRequest.drawn] at hdrawn
  split_ifs at hdrawn with hmint
  cases hdrawn
  exact ⟨hmint.2, valid_mintBearerToken r.env⟩

lemma Tracks.of_sublist (hw : Tracks st w) {s : σ}
    (hs : (st.sessions s).Sublist (st.sessions w.store)) : Tracks st ⟨s, w.grants⟩ :=
  ⟨fun d hd => hw.rows d (hs.subset hd), hw.rowsNodup.sublist (hs.map tokenOf), hw.grantsNodup,
    hw.tokens⟩

lemma Does.tracks (hdoes : Does st r w w') (hw : Tracks st w) (htime : r.env.InTime)
    (hfresh : ∀ token ∈ r.drawn, token ∉ w.grants.map Grant.token) : Tracks st w' := by
  obtain ⟨s', grants'⟩ := w'
  cases hdoes with
  | drops hrows hgrants =>
    cases hgrants
    exact hw.of_sublist hrows
  | refreshes hvalid hd hslides hgrants =>
    cases hgrants
    exact hw.touch hd (isLong_of_inTime htime _) hslides
  | issues hdrawn hrow hrows hgrants =>
    cases hgrants
    exact hw.append hrow (hfresh _ hdrawn) (drawn_eq_some hdrawn) hrows

/-- What handling a request does. -/
lemma Tracks.does (hlib : JsonLibrary dump toLong) (hst : st.Lawful dump) (hw : Tracks st w)
    (other : OtherHandlers) (hr : r.Fits dump toLong) : Does st r w (w.step st other r) := by
  obtain ⟨env, req, kind⟩ := r
  obtain ⟨rfl, rfl, htime, hadmin⟩ := hr
  cases kind with
  | login => exact does_login st other hlib hst htime w req
  | ping => exact hw.does_ping st other hlib hst htime req
  | upgrade => exact hw.does_upgrade st other hlib hst htime req
  | admin route => exact does_admin other hst (hadmin route rfl) w req

/-- A token was issued, and it is not good any more. -/
def Expired (st : DocumentStore h) (w : World σ) (token : Bytes) (t : ℤ) : Prop :=
  token ∈ w.grants.map Grant.token ∧ w.isValid st token t = false

/-- The rows and the grants of the token were there before. -/
lemma isValid_of_leaves {t t' : ℤ} (hrows : ∀ d ∈ st.sessions w'.store, tokenOf d = some token →
      d ∈ st.sessions w.store)
    (hgrants : ∀ g ∈ w'.grants, g.token = token → g ∈ w.grants) (ht : t ≤ t')
    (hvalid : w'.isValid st token t' = true) : w.isValid st token t = true := by
  simp only [World.isValid, List.any_eq_true, Bool.and_eq_true, decide_eq_true_eq] at hvalid ⊢
  obtain ⟨g, hg, hgtoken, d, hd, hdtoken, hlt⟩ := hvalid
  exact ⟨g, hgrants g hg hgtoken, hgtoken, d, hrows d hd hdtoken, hdtoken, lt_of_le_of_lt ht hlt⟩

/-- No request makes an expired token good again. -/
lemma Does.expired (hdoes : Does st r w w') {t : ℤ} (hexpired : Expired st w token t)
    (ht : t ≤ r.env.now) (hfresh : ∀ token ∈ r.drawn, token ∉ w.grants.map Grant.token) :
    Expired st w' token t := by
  obtain ⟨hmem, hinvalid⟩ := hexpired
  cases hdoes with
  | drops hrows hgrants =>
    refine ⟨hgrants ▸ hmem, Bool.eq_false_iff.mpr fun hvalid => ?_⟩
    rw [isValid_of_leaves (w := w) (fun d hd _ => hrows.subset hd)
      (fun g hg _ => hgrants ▸ hg) le_rfl hvalid] at hinvalid
    cases hinvalid
  | @refreshes token' d hvalid' hd hslides hgrants =>
    have hne : token' ≠ token := by
      rintro rfl
      rw [isValid_of_leaves (w := w) (fun _ hd _ => hd) (fun _ hg _ => hg) ht hvalid'] at hinvalid
      cases hinvalid
    obtain ⟨f, hf, hdocs⟩ := hslides
    refine ⟨?_, Bool.eq_false_iff.mpr fun hvalid => ?_⟩
    · rw [hgrants, map_token_touch]
      exact hmem
    rw [isValid_of_leaves (w := w) (fun d' hd' htoken => ?_) (fun g hg htoken => ?_) le_rfl hvalid]
      at hinvalid
    · cases hinvalid
    · -- A row of the token is none of those that are refreshed.
      rw [hdocs] at hd'
      obtain ⟨d₀, hd₀, rfl⟩ := List.mem_map.mp hd'
      split_ifs at htoken ⊢ with hsame
      · rw [tokenOf, (hf d₀).text_of_ne (by decide)] at htoken
        exact absurd (Option.some.inj (hsame.symm.trans htoken)) hne
      · exact hd₀
    · rw [hgrants] at hg
      obtain ⟨g₀, hg₀, rfl⟩ := List.mem_map.mp hg
      split_ifs at htoken ⊢ with hsame
      · exact absurd (hsame.symm.trans htoken) hne
      · exact hg₀
  | @issues token' d hdrawn hrow hrows hgrants =>
    have hne : token' ≠ token := by
      rintro rfl
      exact hfresh _ hdrawn hmem
    refine ⟨?_, Bool.eq_false_iff.mpr fun hvalid => ?_⟩
    · rw [hgrants, List.map_append]
      exact List.mem_append_left _ hmem
    rw [isValid_of_leaves (w := w) (fun d' hd' htoken => ?_) (fun g hg htoken => ?_) le_rfl hvalid]
      at hinvalid
    · cases hinvalid
    · rw [hrows] at hd'
      rcases List.mem_append.mp hd' with hd' | hd'
      · exact hd'
      · rw [List.mem_singleton] at hd'
        subst hd'
        obtain ⟨role, -, -, htok, -⟩ := hrow
        exact absurd (Option.some.inj (htok.symm.trans htoken)) hne
    · rw [hgrants] at hg
      rcases List.mem_append.mp hg with hg | hg
      · exact hg
      · rw [List.mem_singleton] at hg
        subst hg
        exact absurd htoken hne

/-- The tokens that will be drawn are none of those that were issued, and are not drawn twice. -/
def Fresh (w : World σ) (rs : List SessionRequest) : Prop :=
  (w.grants.map Grant.token ++ rs.filterMap SessionRequest.drawn).Nodup

lemma Does.tokens (hdoes : Does st r w w') :
    (w'.grants.map Grant.token).Sublist (w.grants.map Grant.token ++ r.drawn.toList) := by
  cases hdoes with
  | drops hrows hgrants =>
    rw [hgrants]
    exact List.sublist_append_left _ _
  | refreshes hvalid hd hslides hgrants =>
    rw [hgrants, map_token_touch]
    exact List.sublist_append_left _ _
  | issues hdrawn hrow hrows hgrants =>
    rw [hgrants, hdrawn, List.map_append]
    exact List.Sublist.refl _

lemma filterMap_drawn_cons (r : SessionRequest) (rs : List SessionRequest) :
    (r :: rs).filterMap SessionRequest.drawn =
      r.drawn.toList ++ rs.filterMap SessionRequest.drawn := by
  rw [List.filterMap_cons]
  cases r.drawn <;> rfl

lemma Fresh.drawn {rs : List SessionRequest} (hfresh : Fresh w (r :: rs)) :
    ∀ token ∈ r.drawn, token ∉ w.grants.map Grant.token := by
  intro token htoken hmem
  rw [Fresh, filterMap_drawn_cons] at hfresh
  exact (List.nodup_append'.mp hfresh).2.2 hmem
    (List.mem_append_left _ (Option.mem_toList.mpr htoken))

lemma Fresh.step {rs : List SessionRequest} (hfresh : Fresh w (r :: rs)) (hdoes : Does st r w w') :
    Fresh w' rs := by
  rw [Fresh, filterMap_drawn_cons, ← List.append_assoc] at hfresh
  exact hfresh.sublist (hdoes.tokens.append_right _)

variable (other : OtherHandlers)

/-- A run of requests, of which more may come. -/
lemma Tracks.run (hlib : JsonLibrary dump toLong) (hst : st.Lawful dump)
    {rs rs' : List SessionRequest} (hw : Tracks st w) (hfits : ∀ r ∈ rs, r.Fits dump toLong)
    (hfresh : Fresh w (rs ++ rs')) :
    Tracks st (w.run st other rs) ∧ Fresh (w.run st other rs) rs' := by
  induction rs generalizing w with
  | nil => exact ⟨hw, hfresh⟩
  | cons r rs ih =>
    obtain ⟨hr, hrs⟩ := List.forall_mem_cons.mp hfits
    have hdoes := hw.does hlib hst other hr
    exact ih (hdoes.tracks hw hr.inTime hfresh.drawn) hrs (hfresh.step hdoes)

/-- What has expired stays so over a run. -/
lemma Expired.run (hlib : JsonLibrary dump toLong) (hst : st.Lawful dump) {rs : List SessionRequest}
    (hw : Tracks st w) (hfits : ∀ r ∈ rs, r.Fits dump toLong) (hfresh : Fresh w rs) {t : ℤ}
    (hclock : ∀ r ∈ rs, t ≤ r.env.now) (hexpired : Expired st w token t) :
    Expired st (w.run st other rs) token t := by
  induction rs generalizing w with
  | nil => exact hexpired
  | cons r rs ih =>
    obtain ⟨hr, hrs⟩ := List.forall_mem_cons.mp hfits
    obtain ⟨ht, hclock⟩ := List.forall_mem_cons.mp hclock
    have hdoes := hw.does hlib hst other hr
    exact ih (hdoes.tracks hw hr.inTime hfresh.drawn) hrs (hfresh.step hdoes) hclock
      (hdoes.expired hexpired ht hfresh.drawn)

/-! ### What is accepted -/

lemma responseError_ne_nil (code : ℕ) (reason : String) (cause : Bytes) :
    responseError code reason cause ≠ [] := by
  rw [responseError, httpResponse]
  simp [Bytes.ofString]

/-- The session of an administrator: the row of the token, if it is live. -/
lemma Tracks.run_resolveAdminSession (hst : st.Lawful env.dump) (hw : Tracks st w)
    {req query : Bytes} (htoken : extractSessionToken env.decompress req = some token)
    (hquery : Asks env.toEnv token query) (hne : token ≠ []) :
    ∃ s : AdminSession, s.error ≠ [] ∧
      ((resolveAdminSession env.toEnv req).run h w.store).1 =
        (st.liveRow env.toEnv w.store token).elim (some s) adminOf := by
  have hfilter : (env.toEnv.filter [(Bytes.ofString "token", token)]).run h w.store =
      (some ⟨query, [(Bytes.ofString "token", token)]⟩, w.store) := run_tokenFilter hquery w.store
  rw [resolveAdminSession, Program.run_bind, Program.run_ofOption, htoken]
  dsimp only
  rw [if_neg hne, Program.run_bind, hfilter]
  dsimp only
  rw [Program.run_bind, run_getDocument hst ⟨query, _⟩ hquery, hw.found hst hquery,
    DocumentStore.liveRow]
  dsimp only
  cases hrow : st.rowOf w.store token with
  | none =>
    rw [Option.elim_none, if_pos rfl]
    exact ⟨_, responseError_ne_nil _ _ _, rfl⟩
  | some d =>
    obtain ⟨hparse, htext⟩ := parse_found hst ((hw.found hst hquery).trans hrow)
    rw [Option.elim_some, if_neg htext, hparse, Option.filter_some]
    dsimp only
    by_cases hlive : isLive env.toEnv d = true
    · rw [if_pos hlive, if_pos hlive, Program.run_ofOption]
      exact ⟨unauthorized "", responseError_ne_nil _ _ _, rfl⟩
    · rw [if_neg hlive, if_neg hlive, Program.run_bind, Program.run_attempt]
      exact ⟨_, responseError_ne_nil _ _ _, rfl⟩

/-- The row of an administrator is let pass. -/
lemma Row.adminOf_iff (hrow : Row g d) :
    (∃ check, adminOf d = some check ∧ check.error = []) ↔
      d.text (Bytes.ofString "role") = some (Bytes.ofString "admin") := by
  obtain ⟨role, societyId, sipUsername, -, hrole, hsociety, hsip, -⟩ := hrow
  rw [adminOf, valueOr_of_text _ hrole, hrole, Option.bind_eq_bind, Option.bind_some,
    Option.some.injEq]
  split_ifs with hadmin
  · rw [valueOr_of_text _ hsociety, valueOr_of_text _ hsip]
    exact iff_of_true ⟨_, rfl, rfl⟩ hadmin
  · refine iff_of_false ?_ hadmin
    rintro ⟨check, heq, herror⟩
    cases heq
    exact responseError_ne_nil _ _ _ herror

/-- The role of the row with a token. -/
def DocumentStore.roleOf (st : DocumentStore h) (s : σ) (token : Bytes) : Option Bytes :=
  (st.rowOf s token).bind (·.text (Bytes.ofString "role"))

/-- An administrator's session is resolved for the tokens that are good and of that role. -/
lemma Tracks.admin_iff (hlib : JsonLibrary env.dump env.toLong) (hst : st.Lawful env.dump)
    (hw : Tracks st w) {req : Bytes}
    (htoken : extractSessionToken env.decompress req = some token) :
    (∃ check, ((resolveAdminSession env.toEnv req).run h w.store).1 = some check ∧
      check.error = []) ↔
      w.isValid st token env.now = true ∧
        st.roleOf w.store token = some (Bytes.ofString "admin") := by
  by_cases hne : token = []
  · refine iff_of_false ?_ fun hvalid => (hw.of_isValid hlib hvalid.1).1 hne
    rintro ⟨check, hcheck, herror⟩
    rw [resolveAdminSession, Program.run_bind, Program.run_ofOption, htoken] at hcheck
    dsimp only at hcheck
    rw [if_pos hne] at hcheck
    cases hcheck
    exact responseError_ne_nil _ _ _ herror
  cases hquery : env.dump (.object (strings [(Bytes.ofString "token", token)])) with
  | none =>
    refine iff_of_false ?_ fun hvalid => ?_
    · rintro ⟨check, hcheck, -⟩
      have hfilter : (env.toEnv.filter [(Bytes.ofString "token", token)]).run h w.store =
          (none, w.store) := by
        rw [Env.filter, Program.run_ofOption, hquery]
        rfl
      rw [resolveAdminSession, Program.run_bind, Program.run_ofOption, htoken] at hcheck
      dsimp only at hcheck
      rw [if_neg hne, Program.run_bind, hfilter] at hcheck
      cases hcheck
    · obtain ⟨-, -, query, hasks⟩ := hw.of_isValid hlib hvalid.1
      rw [Asks, hquery] at hasks
      cases hasks
  | some query =>
    obtain ⟨s, hs, hrun⟩ := hw.run_resolveAdminSession hst htoken hquery hne
    rw [hrun, ← hw.liveRow_isSome hlib, DocumentStore.roleOf]
    cases hlive : st.liveRow env.toEnv w.store token with
    | none =>
      refine iff_of_false ?_ fun hvalid => Bool.false_ne_true hvalid.1
      rintro ⟨check, heq, herror⟩
      cases heq
      exact hs herror
    | some d =>
      have hrow := (Option.filter_eq_some_iff.mp hlive).1
      obtain ⟨g, -, hd⟩ := hw.rows d (List.mem_of_find?_eq_some hrow)
      rw [hrow, Option.elim_some, hd.adminOf_iff, Option.bind_some]
      exact (and_iff_right rfl).symm

/-- A response to a problem is not empty. -/
def Refused (r : Except Bytes Json) : Prop := ∀ err, r = .error err → err ≠ []

lemma refused_error (code : ℕ) (reason : String) (cause : Bytes) :
    Refused (.error (responseError code reason cause)) := by
  rintro err ⟨⟩
  exact responseError_ne_nil code reason cause

lemma refused_ok (session : Json) : Refused (.ok session) := by
  rintro err ⟨⟩

lemma refused_gateOf (session : Json) (record : Bytes) :
    Refused ((gateOf record).elim (.ok session) .error) := by
  rw [gateOf]
  split_ifs
  · exact refused_error _ _ _
  · exact refused_error _ _ _
  · exact refused_ok session

lemma refused_sessionOf (env : SessionEnv) (record : Bytes) : Refused (sessionOf env record) := by
  rw [sessionOf]
  split_ifs
  · exact refused_error _ _ _
  · cases Json.parse record with
    | none => exact refused_error _ _ _
    | some session =>
      dsimp only
      split_ifs
      · exact refused_ok session
      · exact refused_error _ _ _

lemma yields_subscriberGate (session : Json) :
    (subscriberGate env session).Yields Anything fun gate => ∃ record, gate = gateOf record :=
  Program.yields_ofOption_bind fun _ _ => Program.yields_ofOption_bind fun _ _ =>
    Program.yields_bind fun _ => Program.yields_bind fun record => Program.yields_pure ⟨record, rfl⟩

lemma refused_upgradeSession (token : Bytes) :
    (upgradeSession env token).Yields Anything Refused := by
  rw [upgradeSession]
  split_ifs
  · exact Program.yields_pure (refused_error _ _ _)
  · refine Program.yields_bind fun query => Program.yields_bind fun record => ?_
    have hsession := refused_sessionOf env record
    cases hr : sessionOf env record with
    | error err =>
      rw [hr] at hsession
      exact Program.yields_pure hsession
    | ok session =>
      dsimp only
      rw [gatedSession]
      split_ifs
      · refine (yields_subscriberGate session).bind fun gate hgate => ?_
        obtain ⟨record, rfl⟩ := hgate
        exact Program.yields_pure (refused_gateOf session record)
      · exact Program.yields_pure (refused_ok session)

/-- The request is upgraded. -/
def Upgraded (h : Program.Handler Answer σ) (env : SessionEnv) (req : Bytes) (s : σ) : Prop :=
  ∃ u, ((handleSipwsUpgrade env req).run h s).1 = some u ∧ u.error = []

/-- The agent that the request names. -/
def userAgent (env : SessionEnv) (req : Bytes) : Bytes :=
  ((Http.ofBytes env.decompress req).map fun parsed =>
    parsed.getElement (Bytes.ofString "User-Agent")).getD []

lemma fst_slideExpiry (token : Bytes) (t : ℤ) (s : σ) :
    ((slideExpiry env token t).run h s).1 = some () := by
  rw [slideExpiry, Program.run_bind, Program.run_attempt]
  rfl

/-- The metadata of a row can be written if the agent can. -/
lemma Row.openMeta_isSome (hlib : JsonLibrary env.dump env.toLong) (hrow : Row g d) {req : Bytes}
    (htoken : upgradeToken env req = some token) (s : σ) :
    ((openMeta env req d).run h s).1.isSome ↔ Utf8.Valid (userAgent env req) := by
  obtain ⟨role, societyId, sipUsername, -, -, hsociety, hsip, -, -, hutf8⟩ := hrow
  obtain ⟨parsed, hparsed, -⟩ := Option.map_eq_some_iff.mp htoken
  have hnames : ∀ name ∈ ["societyId", "sipUsername", "clientUA"],
      Utf8.Valid (Bytes.ofString name) := by decide
  simp only [List.forall_mem_cons] at hnames
  rw [openMeta, Program.run_bind, Program.run_ofOption, hparsed]
  dsimp only
  rw [Program.run_bind, Program.run_ofOption, valueOr_of_text _ hsociety]
  dsimp only
  rw [Program.run_bind, Program.run_ofOption, valueOr_of_text _ hsip]
  dsimp only
  rw [Env.dumped, Program.run_ofOption, hlib.dump_isSome, userAgent, hparsed]
  simp [member, writable, writableMembers, hnames, hutf8]

/-- An upgrade is that of a token that is good, by an agent that can be written. -/
lemma Tracks.upgraded_iff (hlib : JsonLibrary env.dump env.toLong) (hst : st.Lawful env.dump)
    (hw : Tracks st w) (hstrict : env.strict = false) {req : Bytes}
    (htoken : upgradeToken env req = some token) :
    Upgraded h env req w.store ↔
      w.isValid st token env.now = true ∧ Utf8.Valid (userAgent env req) := by
  rw [← hw.accepts_eq hlib hst hstrict, accepts, Upgraded, handleSipwsUpgrade, Program.run_bind,
    Program.run_ofOption, htoken]
  dsimp only
  rw [Program.run_bind]
  have hrefused := (@refused_upgradeSession env token).run (h := h)
    (fun _ _ => trivial) w.store
  cases hok : ((upgradeSession env token).run h w.store).1 with
  | none => simp
  | some r =>
    rw [hok] at hrefused
    cases r with
    | error err => simpa using hrefused _ rfl err rfl
    | ok session =>
      obtain ⟨hrow, -⟩ := hw.session_of_accepts hlib hst hok
      obtain ⟨g, -, hg⟩ := hw.rows session (List.mem_of_find?_eq_some hrow)
      obtain ⟨role, -, -, -, hrole, -⟩ := id hg
      dsimp only
      rw [Program.run_bind, Program.run_ofOption, sessionRole, valueOr_of_text _ hrole]
      dsimp only
      rw [Program.run_bind, fst_slideExpiry]
      dsimp only
      rw [Program.run_bind, and_iff_right rfl, ← hg.openMeta_isSome hlib htoken]
      cases ((openMeta env req session).run h _).1 <;> simp

lemma run_append (w : World σ) (rs rs' : List SessionRequest) :
    w.run st other (rs ++ rs') = (w.run st other rs).run st other rs' := List.foldl_append

/-- A run from a store without sessions. -/
lemma IsSequence.tracks (hlib : JsonLibrary dump toLong) (hst : st.Lawful dump) {s₀ : σ}
    (hempty : st.sessions s₀ = []) {rs rs' : List SessionRequest}
    (hseq : IsSequence dump toLong (rs ++ rs')) :
    Tracks st (World.run st other ⟨s₀, []⟩ rs) ∧ Fresh (World.run st other ⟨s₀, []⟩ rs) rs' := by
  have hw : Tracks st ⟨s₀, []⟩ := by
    refine ⟨fun d hd => ?_, ?_, List.nodup_nil, fun g hg => nomatch hg⟩
    · rw [hempty] at hd
      cases hd
    · rw [hempty]
      exact List.nodup_nil
  exact hw.run other hlib hst (fun r hr => hseq.fits r (List.mem_append_left _ hr)) hseq.drawn

end

/-! ### A log-in and its token -/

/-- The library of the store, without the strict mode. -/
def laxEnv (now : ℤ) : SessionEnv where
  toEnv := { bareEnv with dump := Json.dumped, toLong := Decimal.toInt, now := now }
  strict := false
  randBytes := some [0xA1, 0x0F]
  verifyPassword := fun _ _ => false
  nowMs := now * 1000

def laxLogin : SessionRequest where
  env := laxEnv 1000
  req := Bytes.ofString ("POST /api/v1/subscriber/login HTTP/1.1\r\nContent-Length: 55\r\n\r\n" ++
    "\x7b\"societyCode\":\"gm\",\"flatNumber\":\"1\",\"password\":\"pw\"\x7d")
  kind := .login

def noOther : OtherHandlers :=
  ⟨fun _ => pure [], fun _ => pure [], fun _ => pure [], fun _ => pure [], fun _ => pure [],
    fun _ => pure [], fun _ => pure []⟩

end MicroServicePbx
