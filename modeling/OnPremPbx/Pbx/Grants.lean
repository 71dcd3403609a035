import OnPremPbx.Pbx.Operations

/-!
# Grants

The requests that touch the sessions, one after the other, and the tokens that were issued. Every
row of the store is that of a grant, and a token is good if its row is live.
-/

open Json
open Decimal (ofInt)

namespace MicroServicePbx

/-! ### Requests and grants -/

inductive Kind where
  | login
  | ping
  | upgrade
  | admin (route : Route)
  deriving DecidableEq

/-- A request, with what its handler uses. -/
structure SessionRequest where
  env : SessionEnv
  req : Bytes
  kind : Kind

/-- A token that was issued, and the time of the last event that refreshed it. -/
structure Grant where
  token : Bytes
  refreshed : ℤ
  deriving DecidableEq

/-- The store, and the tokens that were issued. No handler reads the grants. -/
structure World (σ : Type) where
  store : σ
  grants : List Grant := []

section

variable {σ : Type} {h : Program.Handler Answer σ} (st : DocumentStore h)

/-- The rows of the sessions. -/
def DocumentStore.sessions (s : σ) : List Json := st.docs s (Bytes.ofString "sessions")

/-- The token of a row. -/
def tokenOf (d : Json) : Option Bytes := d.text (Bytes.ofString "token")

/-- The time to live of the row's role. -/
def ttlOf (d : Json) : ℤ := ttlSecForRole ((sessionRole d).getD [])

/-- The token was issued, its row has not been deleted, and the time to live has not passed since
the last event that refreshed it. -/
def World.isValid (w : World σ) (token : Bytes) (t : ℤ) : Bool :=
  w.grants.any fun g => g.token = token &&
    (st.sessions w.store).any fun d => tokenOf d = some token && t < g.refreshed + ttlOf d

variable (h) in
/-- The checks of the upgrade let the token pass. -/
def accepts (env : SessionEnv) (token : Bytes) (s : σ) : Bool :=
  match ((upgradeSession env token).run h s).1 with
  | some (.ok _) => true
  | _            => false

variable (h) in
/-- The token of a log-in whose session was stored. -/
def issued (env : SessionEnv) (req : Bytes) (s : σ) : Option Bytes :=
  match (checkLogin env req).run h s with
  | (some (.ok who), s) =>
    let token := mintBearerToken env
    if token ≠ [] ∧ ((storeSession env token who).run h s).1.isSome then some token else none
  | _                   => none

/-- The token is refreshed. -/
def touch (token : Bytes) (t : ℤ) (grants : List Grant) : List Grant :=
  grants.map fun g => if g.token = token then { g with refreshed := t } else g

/-- A request is handled. -/
def World.step (other : OtherHandlers) (w : World σ) (r : SessionRequest) : World σ :=
  match r.kind with
  | .login       =>
    { store := ((handleSubscriberLoginPOST r.env r.req).run h w.store).2
      grants := w.grants ++ (issued h r.env r.req w.store).toList.map fun token =>
        ⟨token, r.env.now⟩ }
  | .ping        =>
    { store := ((handlePingGET r.env r.req).run h w.store).2
      grants := match extractSessionToken r.env.decompress r.req with
        | none       => w.grants
        | some token =>
          if w.isValid st token r.env.now then touch token r.env.now w.grants else w.grants }
  | .upgrade     =>
    { store := ((handleSipwsUpgrade r.env r.req).run h w.store).2
      grants := match upgradeToken r.env r.req with
        | none       => w.grants
        | some token =>
          if accepts h r.env token w.store then touch token r.env.now w.grants else w.grants }
  | .admin route =>
    { store := ((behindAdmin r.env.toEnv r.req (route.handler r.env.toEnv other r.req)).run h
        w.store).2
      grants := w.grants }

def World.run (other : OtherHandlers) : World σ → List SessionRequest → World σ :=
  List.foldl (World.step st other)

/-- The token that a log-in draws, if there are random bytes. -/
def SessionRequest.drawn (r : SessionRequest) : Option Bytes :=
  if r.kind = .login ∧ mintBearerToken r.env ≠ [] then some (mintBearerToken r.env) else none

/-- The clock is one of a `long`, as is the end of a session. -/
def Env.InTime (env : Env) : Prop := IsLong env.now ∧ IsLong (env.now + kSessionTtlGuardSec)

/-- The request is one of the kinds, with this library and this clock. -/
structure SessionRequest.Fits (dump : Json → Option Bytes) (toLong : Bytes → ℤ)
    (r : SessionRequest) : Prop where
  dump_eq : r.env.dump = dump
  toLong_eq : r.env.toLong = toLong
  inTime : r.env.InTime
  admin : ∀ route, r.kind = .admin route → route.needsAdmin

/-- One request after the other: the clock does not go back, and no token is drawn twice. -/
structure IsSequence (dump : Json → Option Bytes) (toLong : Bytes → ℤ) (rs : List SessionRequest) :
    Prop where
  fits : ∀ r ∈ rs, r.Fits dump toLong
  clock : (rs.map fun r => r.env.now).Pairwise (· ≤ ·)
  drawn : (rs.filterMap SessionRequest.drawn).Nodup

end

/-! ### Rows -/

/-- A row of a grant. -/
def Row (g : Grant) (d : Json) : Prop :=
  ∃ role societyId sipUsername, tokenOf d = some g.token ∧
    d.text (Bytes.ofString "role") = some role ∧
    d.text (Bytes.ofString "societyId") = some societyId ∧
    d.text (Bytes.ofString "sipUsername") = some sipUsername ∧
    d.field (Bytes.ofString "expiresAt") =
      some (.number (ofInt (g.refreshed + ttlSecForRole role))) ∧
    IsLong (g.refreshed + ttlSecForRole role) ∧ Utf8.Valid societyId ∧ Utf8.Valid sipUsername

lemma valueOr_of_text {d : Json} {key : String} {s : Bytes} (default : Bytes)
    (hd : d.text (Bytes.ofString key) = some s) : valueOr d key default = some s := by
  have hfield := text_eq_some.mp hd
  have hobject : d.isObject = true := by
    cases d with
    | object ms => rfl
    | _ => cases hfield
  rw [valueOr, hobject, hfield]
  rfl

lemma ttlOf_of_role {d : Json} {role : Bytes} (hrole : d.text (Bytes.ofString "role") = some role) :
    ttlOf d = ttlSecForRole role := by
  rw [ttlOf, sessionRole, valueOr_of_text _ hrole]
  rfl

lemma ttlSecForRole_le (role : Bytes) :
    0 < ttlSecForRole role ∧ ttlSecForRole role ≤ kSessionTtlGuardSec := by
  rw [ttlSecForRole]
  split_ifs <;> decide

section

variable {σ : Type} {h : Program.Handler Answer σ} {st : DocumentStore h} {env : SessionEnv}
  {w : World σ} {g : Grant} {d : Json} {token : Bytes}

/-- A row is live until its time to live has passed. -/
lemma Row.isLive_eq (hlib : JsonLibrary env.dump env.toLong) (hrow : Row g d) :
    isLive env.toEnv d = decide (env.now < g.refreshed + ttlOf d) := by
  obtain ⟨role, -, -, -, hrole, -, -, hexpires, hlong, -⟩ := id hrow
  rw [isLive, hexpires, ttlOf_of_role hrole]
  dsimp only
  rw [hlib.toLong_ofInt _ hlong]

variable (st) in
/-- Every row is that of a grant, and tokens tell rows and grants apart. -/
structure Tracks (w : World σ) : Prop where
  rows : ∀ d ∈ st.sessions w.store, ∃ g ∈ w.grants, Row g d
  rowsNodup : ((st.sessions w.store).map tokenOf).Nodup
  grantsNodup : (w.grants.map Grant.token).Nodup
  tokens : ∀ g ∈ w.grants, g.token ≠ [] ∧ Utf8.Valid g.token

/-- The text of the filter that asks for a token. -/
def Asks (env : Env) (token query : Bytes) : Prop :=
  env.dump (.object (strings [(Bytes.ofString "token", token)])) = some query

/-- The row with a token. -/
def DocumentStore.rowOf (st : DocumentStore h) (s : σ) (token : Bytes) : Option Json :=
  (st.sessions s).find? fun d => tokenOf d = some token

lemma Tracks.selects_iff (hst : st.Lawful env.dump) (hw : Tracks st w) {query : Bytes}
    (hquery : Asks env.toEnv token query) (hd : d ∈ st.sessions w.store) :
    st.selects query d = decide (tokenOf d = some token) := by
  have hname : IsFieldName (Bytes.ofString "token") := by decide
  obtain ⟨g, -, role, -, -, htoken, -⟩ := hw.rows d hd
  have harray : ∀ es, d.field (Bytes.ofString "token") ≠ some (.array es) := fun es hes => by
    rw [text_eq_some.mp htoken] at hes
    cases hes
  rw [Bool.eq_iff_iff, hst.selects_iff hquery (List.forall_mem_singleton.mpr hname) d
    (List.forall_mem_singleton.mpr harray), List.forall_mem_singleton, decide_eq_true_eq, tokenOf,
    text_eq_some]

lemma Tracks.found (hst : st.Lawful env.dump) (hw : Tracks st w) {query : Bytes}
    (hquery : Asks env.toEnv token query) :
    st.found w.store "sessions" query = st.rowOf w.store token :=
  List.find?_congr fun _ hd => hw.selects_iff hst hquery hd

/-- A grant is the one of its row. -/
lemma Tracks.grant_unique (hw : Tracks st w) {g' : Grant} (hg : g ∈ w.grants) (hg' : g' ∈ w.grants)
    (heq : g.token = g'.token) : g = g' :=
  List.inj_on_of_nodup_map hw.grantsNodup hg hg' heq

lemma Tracks.row_unique (hw : Tracks st w) {d' : Json} (hd : d ∈ st.sessions w.store)
    (hd' : d' ∈ st.sessions w.store) (heq : tokenOf d = tokenOf d') : d = d' :=
  List.inj_on_of_nodup_map hw.rowsNodup hd hd' heq

/-- A token is good if there is a row with it that is live. -/
lemma Tracks.isValid_iff (hw : Tracks st w) {t : ℤ} :
    w.isValid st token t = true ↔
      ∃ d g, st.rowOf w.store token = some d ∧ g ∈ w.grants ∧ Row g d ∧
        t < g.refreshed + ttlOf d := by
  rw [World.isValid, List.any_eq_true]
  constructor
  · rintro ⟨g, hg, hvalid⟩
    rw [Bool.and_eq_true, decide_eq_true_eq, List.any_eq_true] at hvalid
    obtain ⟨htoken, d, hd, hrow⟩ := hvalid
    rw [Bool.and_eq_true, decide_eq_true_eq, decide_eq_true_eq] at hrow
    obtain ⟨g', hg', hrow'⟩ := hw.rows d hd
    have heq : g' = g := hw.grant_unique hg' hg (by
      obtain ⟨role, -, -, htoken', -⟩ := hrow'
      rw [hrow.1] at htoken'
      exact (Option.some.inj htoken').symm.trans htoken.symm)
    subst heq
    obtain ⟨d', hd'⟩ : ∃ d', st.rowOf w.store token = some d' :=
      Option.isSome_iff_exists.mp (List.find?_isSome.mpr ⟨d, hd, by simpa using hrow.1⟩)
    have hsame : d' = d := hw.row_unique (List.mem_of_find?_eq_some hd') hd (by
      have := List.find?_some hd'
      rw [decide_eq_true_eq] at this
      rw [this, hrow.1])
    exact ⟨d, g', hsame ▸ hd', hg', hrow', hrow.2⟩
  · rintro ⟨d, g, hd, hg, hrow, hlt⟩
    have htoken := List.find?_some hd
    rw [decide_eq_true_eq] at htoken
    refine ⟨g, hg, ?_⟩
    rw [Bool.and_eq_true, decide_eq_true_eq, List.any_eq_true]
    refine ⟨?_, d, List.mem_of_find?_eq_some hd, by simp [htoken, hlt]⟩
    obtain ⟨role, -, -, htoken', -⟩ := hrow
    rw [htoken] at htoken'
    exact (Option.some.inj htoken').symm

/-! ### What the handlers do with a token -/

lemma asks_of_valid (hlib : JsonLibrary env.dump env.toLong) (htoken : Utf8.Valid token) :
    ∃ query, Asks env.toEnv token query := by
  refine Option.isSome_iff_exists.mp ((hlib.dump_isSome _).mpr ?_)
  have hname : Utf8.Valid (Bytes.ofString "token") := by decide
  simp [strings, writable, writableMembers, hname, htoken]

lemma run_tokenFilter {query : Bytes} (hquery : Asks env.toEnv token query) (s : σ) :
    (tokenFilter env token).run h s =
      (some ⟨query, [(Bytes.ofString "token", token)]⟩, s) := by
  rw [tokenFilter, Env.filter, Program.run_ofOption, hquery]
  rfl

/-- The text of what is found is the text of a session that is live, or none is. -/
lemma sessionOf_found (hst : st.Lawful env.dump) {query : Bytes} {s : σ} :
    sessionOf env ((st.found s "sessions" query).elim [] st.text) =
      match (st.found s "sessions" query).filter (isLive env.toEnv) with
      | none   => .error unknownSession
      | some d => .ok d := by
  rw [sessionOf]
  cases hfound : st.found s "sessions" query with
  | none => rfl
  | some d =>
    obtain ⟨hparse, htext⟩ := parse_found hst hfound
    rw [Option.elim_some, if_neg htext, hparse, Option.filter_some]
    dsimp only
    cases isLive env.toEnv d <;> rfl

/-- The row of a token, if it is live. -/
def DocumentStore.liveRow (st : DocumentStore h) (env : Env) (s : σ) (token : Bytes) :
    Option Json :=
  (st.rowOf s token).filter (isLive env)

lemma Tracks.liveRow_isSome (hlib : JsonLibrary env.dump env.toLong) (hw : Tracks st w) :
    (st.liveRow env.toEnv w.store token).isSome = w.isValid st token env.now := by
  rw [Bool.eq_iff_iff, hw.isValid_iff, Option.isSome_iff_exists]
  constructor
  · rintro ⟨d, hd⟩
    obtain ⟨hd, hlive⟩ := Option.filter_eq_some_iff.mp hd
    obtain ⟨g, hg, hrow⟩ := hw.rows d (List.mem_of_find?_eq_some hd)
    rw [hrow.isLive_eq hlib, decide_eq_true_eq] at hlive
    exact ⟨d, g, hd, hg, hrow, hlive⟩
  · rintro ⟨d, g, hd, hg, hrow, hlt⟩
    refine ⟨d, Option.filter_eq_some_iff.mpr ⟨hd, ?_⟩⟩
    rw [hrow.isLive_eq hlib]
    exact decide_eq_true hlt

/-- The checks of an upgrade: the row has to be live, and the gate open. -/
lemma run_upgradeSession (hst : st.Lawful env.dump) (hw : Tracks st w) {query : Bytes}
    (hquery : Asks env.toEnv token query) (hne : token ≠ []) :
    (upgradeSession env token).run h w.store =
      match st.liveRow env.toEnv w.store token with
      | none   => (some (.error unknownSession), w.store)
      | some d => (gatedSession env d).run h w.store := by
  rw [upgradeSession, if_neg hne, Program.run_bind, run_tokenFilter hquery]
  dsimp only
  rw [Program.run_bind, run_getDocument hst ⟨query, _⟩ hquery]
  dsimp only
  rw [sessionOf_found hst, hw.found hst hquery, DocumentStore.liveRow]
  cases (st.rowOf w.store token).filter (isLive env.toEnv) <;> rfl

/-- A token that is good can be asked for. -/
lemma Tracks.of_isValid (hlib : JsonLibrary env.dump env.toLong) (hw : Tracks st w) {t : ℤ}
    (hvalid : w.isValid st token t = true) :
    token ≠ [] ∧ Utf8.Valid token ∧ ∃ query, Asks env.toEnv token query := by
  obtain ⟨d, g, hd, hg, ⟨role, -, -, htoken, -⟩, -⟩ := hw.isValid_iff.mp hvalid
  have hsame := List.find?_some hd
  rw [decide_eq_true_eq, htoken] at hsame
  cases hsame
  obtain ⟨hne, hutf8⟩ := hw.tokens g hg
  exact ⟨hne, hutf8, asks_of_valid hlib hutf8⟩

/-- A token that the checks let pass is good. -/
lemma Tracks.isValid_of_accepts (hlib : JsonLibrary env.dump env.toLong)
    (hst : st.Lawful env.dump) (hw : Tracks st w) (haccepts : accepts h env token w.store = true) :
    w.isValid st token env.now = true := by
  rw [accepts] at haccepts
  by_cases hne : token = []
  · rw [upgradeSession, if_pos hne] at haccepts
    cases haccepts
  cases hquery : env.dump (.object (strings [(Bytes.ofString "token", token)])) with
  | none =>
    have hfilter : (tokenFilter env token).run h w.store = (none, w.store) := by
      rw [tokenFilter, Env.filter, Program.run_ofOption, hquery]
      rfl
    rw [upgradeSession, if_neg hne, Program.run_bind, hfilter] at haccepts
    cases haccepts
  | some query =>
    rw [run_upgradeSession hst hw hquery hne] at haccepts
    rw [← hw.liveRow_isSome hlib]
    cases hrow : st.liveRow env.toEnv w.store token with
    | none =>
      rw [hrow] at haccepts
      cases haccepts
    | some d => rfl

/-- Without the strict mode they let every token pass that is good. -/
lemma Tracks.accepts_eq (hlib : JsonLibrary env.dump env.toLong) (hst : st.Lawful env.dump)
    (hw : Tracks st w) (hstrict : env.strict = false) :
    accepts h env token w.store = w.isValid st token env.now := by
  rw [Bool.eq_iff_iff]
  refine ⟨hw.isValid_of_accepts hlib hst, fun hvalid => ?_⟩
  obtain ⟨hne, -, query, hquery⟩ := hw.of_isValid hlib hvalid
  rw [← hw.liveRow_isSome hlib, Option.isSome_iff_exists] at hvalid
  obtain ⟨d, hd⟩ := hvalid
  rw [accepts, run_upgradeSession hst hw hquery hne, hd]
  dsimp only
  rw [gatedSession, hstrict]
  rfl

end

end MicroServicePbx
