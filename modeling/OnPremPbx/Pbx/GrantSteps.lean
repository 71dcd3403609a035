import OnPremPbx.Pbx.Grants

/-!
# What a request does to the sessions

A ping and an upgrade move the end of a row whose token is good, a log-in adds a row with a new
token, and a request of an administrator at most removes rows.
-/

open Json
open Decimal (ofInt)

namespace MicroServicePbx

section

variable {σ : Type} {h : Program.Handler Answer σ} {st : DocumentStore h} {env : SessionEnv}
  {w : World σ} {g : Grant} {d : Json} {token : Bytes}

/-! ### Refreshing -/

/-- Only the end of the row with the token is moved. -/
def Slides (st : DocumentStore h) (token : Bytes) (t : ℤ) (s s' : σ) : Prop :=
  ∃ f : Json → Json, (∀ d, Sets [(Bytes.ofString "expiresAt", .number (ofInt t))] d (f d)) ∧
    st.sessions s' = (st.sessions s).map fun d => if tokenOf d = some token then f d else d

lemma run_updateCollection {s s' : σ} {coll : String} {filter : Filter} {document : Bytes}
    (hs : (h (.db (.updateCollection (Bytes.ofString coll) filter.text document) filter.members)
      s).2 = s') :
    ((updateCollection coll filter document).run h s).2 = s' := by
  rw [updateCollection, Program.run_bind, Program.run_perform, ← hs]
  cases (h (.db (.updateCollection (Bytes.ofString coll) filter.text document)
    filter.members) s).1 <;> rfl

lemma Tracks.slides (hlib : JsonLibrary env.dump env.toLong) (hst : st.Lawful env.dump)
    (hw : Tracks st w) {query : Bytes} (hquery : Asks env.toEnv token query) {t : ℤ}
    (ht : IsLong t) {s : σ} (hs : st.sessions s = st.sessions w.store) :
    Slides st token t s ((slideExpiry env token t).run h s).2 := by
  obtain ⟨update, hupdate⟩ : ∃ update, env.dump (expiryUpdate t) = some update := by
    refine Option.isSome_iff_exists.mp ((hlib.dump_isSome _).mpr ?_)
    have hset : Utf8.Valid (Bytes.ofString "$set") := by decide
    have hname : Utf8.Valid (Bytes.ofString "expiresAt") := by decide
    simp [expiryUpdate, writable, writableMembers, hset, hname, Decimal.isNumber_ofInt]
  have hname : IsFieldName (Bytes.ofString "expiresAt") := by decide
  obtain ⟨f, hf, hdocs⟩ := hst.updateCollection hquery hupdate
    (List.forall_mem_singleton.mpr ⟨hname, .inr (.inr ⟨t, ht, rfl⟩)⟩) (Bytes.ofString "sessions")
    [(Bytes.ofString "token", token)] s
  refine ⟨f, hf, ?_⟩
  have hrun : ((slideExpiry env token t).run h s).2 =
      (h (.db (.updateCollection (Bytes.ofString "sessions") query update)
        [(Bytes.ofString "token", token)]) s).2 := by
    rw [slideExpiry, Program.run_bind, Program.run_attempt, Program.run_bind,
      run_tokenFilter hquery]
    dsimp only
    rw [Program.run_bind, Env.dumped, Program.run_ofOption, hupdate]
    dsimp only
    exact run_updateCollection rfl
  rw [DocumentStore.sessions, hrun, hdocs]
  refine List.map_congr_left fun d hd => ?_
  rw [← DocumentStore.sessions, hs] at hd
  rw [hw.selects_iff hst hquery hd]
  simp only [decide_eq_true_eq]

lemma Sets.field_of_ne {d' v : Json} {name name' : Bytes} (hd : Sets [(name, v)] d d')
    (hne : name' ≠ name) : d'.field name' = d.field name' := by
  have hnone : (Json.object [(name, v)]).field name' = none := by
    simp [field, Ne.symm hne]
  rw [hd, hnone, Option.none_or]

lemma Sets.field_self {d' v : Json} {name : Bytes} (hd : Sets [(name, v)] d d') :
    d'.field name = some v := by
  have hsome : (Json.object [(name, v)]).field name = some v := by
    simp [field]
  rw [hd, hsome, Option.some_or]

lemma Sets.text_of_ne {d' v : Json} {name name' : Bytes} (hd : Sets [(name, v)] d d')
    (hne : name' ≠ name) : d'.text name' = d.text name' := by
  rw [text, text, hd.field_of_ne hne]

/-- A refreshed row is that of the refreshed grant. -/
lemma Row.refresh {d' : Json} {t : ℤ} (hrow : Row g d) (hlong : IsLong (t + ttlOf d))
    (hsets : Sets [(Bytes.ofString "expiresAt", .number (ofInt (t + ttlOf d)))] d d') :
    Row { g with refreshed := t } d' := by
  obtain ⟨role, societyId, sipUsername, htoken, hrole, hsociety, hsip, -, -, hutf8⟩ := hrow
  rw [ttlOf_of_role hrole] at hlong hsets
  refine ⟨role, societyId, sipUsername, ?_, ?_, ?_, ?_, hsets.field_self, hlong, hutf8⟩
  · rw [tokenOf, hsets.text_of_ne (by decide)]
    exact htoken
  · rw [hsets.text_of_ne (by decide), hrole]
  · rw [hsets.text_of_ne (by decide), hsociety]
  · rw [hsets.text_of_ne (by decide), hsip]

lemma map_token_touch (t : ℤ) (grants : List Grant) :
    (touch token t grants).map Grant.token = grants.map Grant.token := by
  rw [touch, List.map_map]
  refine List.map_congr_left fun g _ => ?_
  rw [Function.comp_apply]
  split_ifs <;> rfl

/-- The row with the token and its grant are refreshed together. -/
lemma Tracks.touch (hw : Tracks st w) (hd : st.rowOf w.store token = some d) {t : ℤ} {s : σ}
    (hlong : IsLong (t + ttlOf d)) (hslides : Slides st token (t + ttlOf d) w.store s) :
    Tracks st ⟨s, MicroServicePbx.touch token t w.grants⟩ := by
  obtain ⟨f, hf, hdocs⟩ := hslides
  have htoken : ∀ d', tokenOf (f d') = tokenOf d' := fun d' => (hf d').text_of_ne (by decide)
  refine ⟨fun d' hd' => ?_, ?_, ?_, fun g hg => ?_⟩
  · rw [hdocs] at hd'
    obtain ⟨d₀, hd₀, rfl⟩ := List.mem_map.mp hd'
    obtain ⟨g, hg, hrow⟩ := hw.rows d₀ hd₀
    have hmem : (if g.token = token then { g with refreshed := t } else g) ∈
        MicroServicePbx.touch token t w.grants := List.mem_map_of_mem hg
    have hiff : tokenOf d₀ = some token ↔ g.token = token := by
      obtain ⟨role, -, -, htok, -⟩ := hrow
      rw [htok, Option.some.injEq]
    refine ⟨_, hmem, ?_⟩
    by_cases hsame : g.token = token
    · rw [if_pos hsame, if_pos (hiff.mpr hsame)]
      have hself := List.find?_some hd
      rw [decide_eq_true_eq] at hself
      have heq : d₀ = d := hw.row_unique hd₀ (List.mem_of_find?_eq_some hd)
        ((hiff.mpr hsame).trans hself.symm)
      subst heq
      exact hrow.refresh hlong (hf d₀)
    · rw [if_neg hsame, if_neg fun h => hsame (hiff.mp h)]
      exact hrow
  · have hmap : (st.sessions s).map tokenOf = (st.sessions w.store).map tokenOf := by
      rw [hdocs, List.map_map]
      refine List.map_congr_left fun d' _ => ?_
      rw [Function.comp_apply]
      split_ifs
      · exact htoken d'
      · rfl
    rw [hmap]
    exact hw.rowsNodup
  · rw [map_token_touch]
    exact hw.grantsNodup
  · have hmem : g.token ∈ w.grants.map Grant.token := by
      rw [← map_token_touch]
      exact List.mem_map_of_mem hg
    obtain ⟨g₀, hg₀, heq⟩ := List.mem_map.mp hmem
    rw [← heq]
    exact hw.tokens g₀ hg₀

variable (st) in
/-- What handling a request does to the sessions and the grants. -/
inductive Does (r : SessionRequest) (w w' : World σ) : Prop
  | drops (hrows : (st.sessions w'.store).Sublist (st.sessions w.store))
    (hgrants : w'.grants = w.grants)
  | refreshes {token : Bytes} {d : Json} (hvalid : w.isValid st token r.env.now = true)
    (hd : st.rowOf w.store token = some d)
    (hslides : Slides st token (r.env.now + ttlOf d) w.store w'.store)
    (hgrants : w'.grants = MicroServicePbx.touch token r.env.now w.grants)
  | issues {token : Bytes} {d : Json} (hdrawn : r.drawn = some token)
    (hrow : Row ⟨token, r.env.now⟩ d) (hrows : st.sessions w'.store = st.sessions w.store ++ [d])
    (hgrants : w'.grants = w.grants ++ [⟨token, r.env.now⟩])

/-- Nothing is done where the sessions stay as they are. -/
lemma Does.nothing {r : SessionRequest} {s : σ} (hs : st.sessions s = st.sessions w.store) :
    Does st r w ⟨s, w.grants⟩ :=
  .drops (hs ▸ List.Sublist.refl _) rfl

/-- Programs that only read leave the collections. -/
lemma docs_of_reads {dump : Json → Option Bytes} (hst : st.Lawful dump) {α : Type} {p : Prog α}
    (hp : Performs (fun o => o.target = none) p) (s : σ) (coll : Bytes) :
    st.docs (p.run h s).2 coll = st.docs s coll :=
  hp.run (h := h) (I := fun s' => st.docs s' coll = st.docs s coll)
    (fun o s' ho hs' => (hst.frame o s' coll (by rw [ho]; exact nofun)).trans hs') rfl

/-- Programs without operations leave the state. -/
lemma snd_of_silent {α : Type} {p : Prog α} (hp : Performs (fun _ => False) p) (s : σ) :
    (p.run h s).2 = s :=
  hp.run (h := h) (I := (· = s)) (fun _ _ ho _ => ho.elim) rfl

/-- What comes after the last operation makes no difference. -/
lemma snd_bind_of_silent {α β : Type} {p : Prog α} {f : α → Prog β}
    (hf : ∀ a, Performs (fun _ => False) (f a)) (s : σ) :
    ((p >>= f).run h s).2 = (p.run h s).2 := by
  rw [Program.run_bind]
  cases (p.run h s).1 with
  | none => rfl
  | some a => exact snd_of_silent (hf a) _

/-! ### Pings -/

lemma isLong_of_inTime {env : Env} (htime : env.InTime) (role : Bytes) :
    IsLong (env.now + ttlSecForRole role) := by
  obtain ⟨⟨hlow, -⟩, -, hhigh⟩ := htime
  obtain ⟨hpos, hle⟩ := ttlSecForRole_le role
  exact ⟨by omega, by omega⟩

/-- A refresh moves the end of a session that is good, and does nothing else. -/
lemma Tracks.refresh (hlib : JsonLibrary env.dump env.toLong) (hst : st.Lawful env.dump)
    (htime : env.InTime) (hw : Tracks st w) (token : Bytes) :
    let s := ((refreshSessionExpiry env token).run h w.store).2
    if w.isValid st token env.now then
      ∃ d, st.rowOf w.store token = some d ∧ Slides st token (env.now + ttlOf d) w.store s
    else s = w.store := by
  dsimp only
  rw [refreshSessionExpiry]
  by_cases hne : token = []
  · have hinvalid : w.isValid st token env.now = false := by
      rw [Bool.eq_false_iff]
      exact fun hvalid => (hw.of_isValid hlib hvalid).1 hne
    rw [hinvalid, if_pos hne]
    rfl
  rw [if_neg hne, Program.run_bind, Program.run_attempt]
  cases hquery : env.dump (.object (strings [(Bytes.ofString "token", token)])) with
  | none =>
    have hinvalid : w.isValid st token env.now = false := by
      rw [Bool.eq_false_iff]
      intro hvalid
      obtain ⟨-, -, query, hasks⟩ := hw.of_isValid hlib hvalid
      rw [Asks, hquery] at hasks
      cases hasks
    have hfilter : (tokenFilter env token).run h w.store = (none, w.store) := by
      rw [tokenFilter, Env.filter, Program.run_ofOption, hquery]
      rfl
    rw [hinvalid, Program.run_bind, hfilter]
    rfl
  | some query =>
    rw [Program.run_bind, run_tokenFilter hquery]
    dsimp only
    rw [run_getDocument hst ⟨query, _⟩ hquery]
    dsimp only
    have hrecord : ((some ((st.found w.store "sessions" query).elim [] st.text)).filter
        (· ≠ [])).bind Json.parse = st.found w.store "sessions" query := by
      cases hfound : st.found w.store "sessions" query with
      | none => rfl
      | some d =>
        obtain ⟨hparse, htext⟩ := parse_found hst hfound
        rw [Option.elim_some, Option.filter_some, if_pos (decide_eq_true htext)]
        exact hparse
    rw [hrecord, hw.found hst hquery, ← hw.liveRow_isSome hlib, DocumentStore.liveRow]
    cases hrow : st.rowOf w.store token with
    | none => rfl
    | some d =>
      rw [Option.filter_some]
      dsimp only
      by_cases hlive : isLive env.toEnv d = true
      · rw [if_pos hlive, if_pos hlive, Option.isSome_some, if_pos rfl]
        obtain ⟨g, -, role, -, -, -, hrole, -⟩ := hw.rows d (List.mem_of_find?_eq_some hrow)
        refine ⟨d, rfl, ?_⟩
        rw [Program.run_bind, Program.run_ofOption, sessionRole, valueOr_of_text _ hrole]
        dsimp only
        rw [← ttlOf_of_role hrole]
        exact hw.slides hlib hst hquery (isLong_of_inTime htime _) rfl
      · rw [if_neg hlive, if_neg hlive]
        rfl

lemma snd_ping {req : Bytes} (htoken : extractSessionToken env.decompress req = some token)
    (s : σ) :
    ((handlePingGET env req).run h s).2 = ((refreshSessionExpiry env token).run h s).2 := by
  rw [handlePingGET, Program.run_bind, Program.run_ofOption, htoken]
  exact snd_bind_of_silent (fun _ => performs_ofOption_bind fun _ _ => performs_pure _) s

variable (st) in
lemma Tracks.does_ping (other : OtherHandlers) (hlib : JsonLibrary env.dump env.toLong)
    (hst : st.Lawful env.dump) (htime : env.InTime) (hw : Tracks st w) (req : Bytes) :
    Does st ⟨env, req, .ping⟩ w (w.step st other ⟨env, req, .ping⟩) := by
  rw [World.step]
  dsimp only
  cases htoken : extractSessionToken env.decompress req with
  | none =>
    refine .nothing (congrArg st.sessions ?_)
    rw [handlePingGET, Program.run_bind, Program.run_ofOption, htoken]
  | some token =>
    have hrefresh := hw.refresh hlib hst htime token
    dsimp only at hrefresh ⊢
    rw [snd_ping htoken]
    split_ifs at hrefresh ⊢ with hvalid
    · obtain ⟨d, hd, hslides⟩ := hrefresh
      exact .refreshes hvalid hd hslides rfl
    · exact .nothing (congrArg st.sessions hrefresh)

/-! ### Upgrades -/

lemma reads_upgradeSession (token : Bytes) :
    Performs (fun o => o.target = none) (upgradeSession env token) := by
  rw [upgradeSession]
  split_ifs
  · trivial
  · refine performs_filter_bind fun query _ _ => performs_bind (performs_textOf rfl) fun r => ?_
    split
    · trivial
    · rw [gatedSession]
      split_ifs
      · refine performs_bind ?_ fun gate => performs_pure _
        refine performs_ofOption_bind fun _ _ => performs_ofOption_bind fun _ _ => ?_
        exact performs_filter_bind fun query _ _ =>
          performs_bind (performs_textOf rfl) fun _ => performs_pure _
      · trivial

/-- The session that the checks let pass is the row of the token. -/
lemma Tracks.session_of_accepts (hlib : JsonLibrary env.dump env.toLong)
    (hst : st.Lawful env.dump) (hw : Tracks st w)
    {session : Json} (hok : ((upgradeSession env token).run h w.store).1 = some (.ok session)) :
    st.rowOf w.store token = some session ∧ ∃ query, Asks env.toEnv token query := by
  have haccepts : accepts h env token w.store = true := by rw [accepts, hok]
  have hvalid := hw.isValid_of_accepts hlib hst haccepts
  obtain ⟨hne, -, query, hquery⟩ := hw.of_isValid hlib hvalid
  refine ⟨?_, query, hquery⟩
  rw [run_upgradeSession hst hw hquery hne] at hok
  cases hrow : st.liveRow env.toEnv w.store token with
  | none =>
    rw [hrow] at hok
    cases hok
  | some d =>
    rw [hrow] at hok
    dsimp only at hok
    have heq : d = session := by
      rw [gatedSession] at hok
      split_ifs at hok
      · rw [Program.run_bind] at hok
        cases hgate : ((subscriberGate env d).run h w.store).1 with
        | none =>
          rw [hgate] at hok
          cases hok
        | some gate =>
          rw [hgate] at hok
          cases gate with
          | none =>
            cases hok
            rfl
          | some err => cases hok
      · cases hok
        rfl
    exact heq ▸ (Option.filter_eq_some_iff.mp hrow).1

lemma silent_openMeta (req : Bytes) (session : Json) :
    Performs (fun _ => False) (openMeta env req session) :=
  performs_ofOption_bind fun _ _ => performs_ofOption_bind fun _ _ =>
    performs_ofOption_bind fun _ _ => performs_ofOption _

variable (st) in
lemma Tracks.does_upgrade (other : OtherHandlers) (hlib : JsonLibrary env.dump env.toLong)
    (hst : st.Lawful env.dump) (htime : env.InTime) (hw : Tracks st w) (req : Bytes) :
    Does st ⟨env, req, .upgrade⟩ w (w.step st other ⟨env, req, .upgrade⟩) := by
  rw [World.step]
  dsimp only
  cases htoken : upgradeToken env req with
  | none =>
    refine .nothing (congrArg st.sessions ?_)
    rw [handleSipwsUpgrade, Program.run_bind, Program.run_ofOption, htoken]
  | some token =>
    have hread := docs_of_reads hst (@reads_upgradeSession env token) w.store
      (Bytes.ofString "sessions")
    rw [handleSipwsUpgrade, Program.run_bind, Program.run_ofOption, htoken]
    dsimp only
    rw [Program.run_bind, accepts]
    cases hok : ((upgradeSession env token).run h w.store).1 with
    | none => exact .nothing hread
    | some r =>
      cases r with
      | error err => exact .nothing hread
      | ok session =>
        have haccepts : accepts h env token w.store = true := by rw [accepts, hok]
        obtain ⟨hrow, query, hquery⟩ := hw.session_of_accepts hlib hst hok
        obtain ⟨g, hg, role, -, -, -, hrole, -⟩ := hw.rows session (List.mem_of_find?_eq_some hrow)
        have hlong : IsLong (env.now + ttlOf session) := isLong_of_inTime htime _
        obtain ⟨f, hf, hdocs⟩ := hw.slides hlib hst hquery hlong hread
        dsimp only
        rw [if_pos rfl, Program.run_bind, Program.run_ofOption, sessionRole,
          valueOr_of_text _ hrole]
        dsimp only
        rw [← ttlOf_of_role hrole]
        refine .refreshes (hw.isValid_of_accepts hlib hst haccepts) hrow ⟨f, hf, ?_⟩ rfl
        rw [snd_bind_of_silent fun _ => performs_bind (silent_openMeta req session) fun _ =>
          performs_pure _, hdocs]
        exact congrArg _ hread

/-! ### Log-ins -/

lemma hexChar_ascii : ∀ n < 16, hexChar n < 0x80 := by decide

lemma valid_mintBearerToken (env : SessionEnv) : Utf8.Valid (mintBearerToken env) := by
  refine valid_of_ascii fun c hc => ?_
  rw [mintBearerToken] at hc
  cases hbytes : env.randBytes with
  | none =>
    rw [hbytes] at hc
    cases hc
  | some bytes =>
    rw [hbytes, Option.map_some, Option.getD_some, hexEncode, List.mem_flatMap] at hc
    obtain ⟨b, -, hb⟩ := hc
    have hlt := b.toNat_lt
    rw [List.mem_cons, List.mem_singleton] at hb
    rcases hb with rfl | rfl
    · exact hexChar_ascii _ (by omega)
    · exact hexChar_ascii _ (by omega)

lemma reads_checkLogin (req : Bytes) :
    Performs (fun o => o.target = none) (checkLogin env req) := by
  refine performs_ofOption_bind fun parsed _ => ?_
  split
  · trivial
  · split
    · trivial
    · dsimp only
      split_ifs
      · trivial
      · refine performs_bind ?_ fun r => ?_
        · rw [findSociety]
          refine performs_filter_bind fun query _ _ => ?_
          refine performs_bind (performs_textOf rfl) fun doc => ?_
          split_ifs
          · trivial
          · split <;> trivial
        · cases r with
          | error err => trivial
          | ok societyId =>
            refine performs_filter_bind fun query _ _ =>
              performs_bind (performs_textOf rfl) fun record => ?_
            split_ifs
            · trivial
            · split
              · trivial
              · split_ifs
                · trivial
                · exact performs_ofOption_bind fun who _ => performs_pure _
                · trivial
      · trivial

/-- The fields of a new session. -/
lemma field_sessionDoc (token : Bytes) (who : Identity) :
    let doc := Json.object (sessionDoc env token who)
    doc.field (Bytes.ofString "token") = some (.string token) ∧
      doc.field (Bytes.ofString "role") = some (.string who.role) ∧
      doc.field (Bytes.ofString "societyId") = some (.string who.societyId) ∧
      doc.field (Bytes.ofString "sipUsername") = some (.string who.sipUsername) ∧
      doc.field (Bytes.ofString "expiresAt") =
        some (.number (ofInt (env.now + ttlSecForRole who.role))) :=
  ⟨rfl, rfl, rfl, rfl, rfl⟩

lemma scalars_sessionDoc (htime : env.InTime) (token : Bytes) (who : Identity) :
    ∀ m ∈ sessionDoc env token who,
      m.1 ≠ Bytes.ofString "_id" ∧ IsFieldName m.1 ∧ IsScalar m.2 := by
  have hstring : ∀ s, IsScalar (.string s) := fun s => .inl ⟨s, rfl⟩
  have hnumber : ∀ n, IsLong n → IsScalar (.number (ofInt n)) :=
    fun n hn => .inr (.inr ⟨n, hn, rfl⟩)
  have hnames : ∀ name ∈ ["token", "email", "societyId", "sipUsername", "role", "createdAt",
      "expiresAt"].map Bytes.ofString, name ≠ Bytes.ofString "_id" ∧ IsFieldName name := by
    decide
  intro m hm
  obtain ⟨hid, hname⟩ := hnames m.1 (List.mem_map_of_mem (f := Prod.fst) hm)
  refine ⟨hid, hname, ?_⟩
  simp only [sessionDoc, member, List.mem_cons, List.not_mem_nil, or_false] at hm
  rcases hm with rfl | rfl | rfl | rfl | rfl | rfl | rfl
  · exact hstring _
  · exact hstring _
  · exact hstring _
  · exact hstring _
  · exact hstring _
  · exact hnumber _ htime.1
  · exact hnumber _ (isLong_of_inTime htime _)

/-- A new row with a token that was not issued before. -/
lemma Tracks.append (hw : Tracks st w) (hrow : Row g d)
    (hfresh : g.token ∉ w.grants.map Grant.token) (htoken : g.token ≠ [] ∧ Utf8.Valid g.token)
    {s : σ} (hs : st.sessions s = st.sessions w.store ++ [d]) : Tracks st ⟨s, w.grants ++ [g]⟩ := by
  refine ⟨fun d' hd' => ?_, ?_, ?_, fun g' hg' => ?_⟩
  · rw [hs] at hd'
    rcases List.mem_append.mp hd' with hd' | hd'
    · obtain ⟨g', hg', hrow'⟩ := hw.rows d' hd'
      exact ⟨g', List.mem_append_left _ hg', hrow'⟩
    · rw [List.mem_singleton] at hd'
      subst hd'
      exact ⟨g, List.mem_append_right _ List.mem_cons_self, hrow⟩
  · rw [hs, List.map_append, List.map_singleton]
    refine List.Nodup.append hw.rowsNodup (List.nodup_singleton _) ?_
    rw [List.disjoint_singleton]
    intro hmem
    obtain ⟨d', hd', heq⟩ := List.mem_map.mp hmem
    obtain ⟨g', hg', role, -, -, htoken', -⟩ := hw.rows d' hd'
    obtain ⟨role, -, -, htok, -⟩ := hrow
    rw [heq, htok, Option.some.injEq] at htoken'
    exact hfresh (htoken' ▸ List.mem_map_of_mem hg')
  · rw [List.map_append, List.map_singleton]
    exact List.Nodup.append hw.grantsNodup (List.nodup_singleton _)
      (List.disjoint_singleton.mpr hfresh)
  · rcases List.mem_append.mp hg' with hg' | hg'
    · exact hw.tokens g' hg'
    · rw [List.mem_singleton] at hg'
      subst hg'
      exact htoken

/-- The names of a session that can be written are UTF-8. -/
lemma utf8_of_sessionDoc (hlib : JsonLibrary env.dump env.toLong) {who : Identity} {doc : Bytes}
    (hdoc : env.dump (.object (sessionDoc env token who)) = some doc) :
    Utf8.Valid who.societyId ∧ Utf8.Valid who.sipUsername := by
  have hwritable := (hlib.dump_isSome _).mp (Option.isSome_of_eq_some hdoc)
  simp only [sessionDoc, member, writable, writableMembers, Bool.and_eq_true,
    decide_eq_true_eq] at hwritable
  exact ⟨hwritable.2.2.1.2, hwritable.2.2.2.1.2⟩

/-- A session that can be written is stored, with its fields. -/
lemma run_storeSession (hst : st.Lawful env.dump) (htime : env.InTime) {who : Identity}
    {doc : Bytes} (hdoc : env.dump (.object (sessionDoc env token who)) = some doc) (s : σ) :
    ∃ s' d, (storeSession env token who).run h s = (some (), s') ∧
      st.sessions s' = st.sessions s ++ [d] ∧
      ∀ name ≠ Bytes.ofString "_id",
        d.field name = (Json.object (sessionDoc env token who)).field name := by
  obtain ⟨oid, d, hanswer, hdocs, -, hfield⟩ := hst.createDocument hdoc
    (scalars_sessionDoc htime token who) env.database (Bytes.ofString "sessions") [] s
  have hrun : (createDocument env.database "sessions" doc).run h s =
      (some oid,
        (h (.db (.createDocument env.database (Bytes.ofString "sessions") doc) []) s).2) :=
    run_textOf_of (Prod.ext hanswer rfl)
  refine ⟨_, d, ?_, hdocs, hfield⟩
  rw [storeSession, Program.run_bind, Env.dumped, Program.run_ofOption, hdoc]
  dsimp only
  rw [Program.run_bind, hrun]
  rfl

/-- The session of a log-in is a row of its grant, if it can be written. -/
lemma storeSession_spec (hlib : JsonLibrary env.dump env.toLong) (hst : st.Lawful env.dump)
    (htime : env.InTime) (token : Bytes)
    (who : Identity) (s : σ) :
    (storeSession env token who).run h s = (none, s) ∨
      ∃ s' d, (storeSession env token who).run h s = (some (), s') ∧ Row ⟨token, env.now⟩ d ∧
        st.sessions s' = st.sessions s ++ [d] := by
  cases hdump : env.dump (.object (sessionDoc env token who)) with
  | none =>
    left
    rw [storeSession, Program.run_bind, Env.dumped, Program.run_ofOption, hdump]
  | some doc =>
    obtain ⟨s', d, hrun, hdocs, hfield⟩ := run_storeSession hst htime hdump s
    refine .inr ⟨s', d, hrun, ?_, hdocs⟩
    obtain ⟨htoken, hrole, hsociety, hsip, hexpires⟩ := @field_sessionDoc env token who
    refine ⟨who.role, who.societyId, who.sipUsername, ?_, ?_, ?_, ?_, ?_,
      isLong_of_inTime htime _, utf8_of_sessionDoc hlib hdump⟩
    · rw [tokenOf, text_eq_some, hfield _ (by decide)]
      exact htoken
    · rw [text_eq_some, hfield _ (by decide)]
      exact hrole
    · rw [text_eq_some, hfield _ (by decide)]
      exact hsociety
    · rw [text_eq_some, hfield _ (by decide)]
      exact hsip
    · rw [hfield _ (by decide)]
      exact hexpires

variable (st) in
lemma does_login (other : OtherHandlers) (hlib : JsonLibrary env.dump env.toLong)
    (hst : st.Lawful env.dump) (htime : env.InTime) (w : World σ) (req : Bytes) :
    Does st ⟨env, req, .login⟩ w (w.step st other ⟨env, req, .login⟩) := by
  have hread := docs_of_reads hst (@reads_checkLogin env req) w.store
    (Bytes.ofString "sessions")
  rw [World.step]
  dsimp only
  rw [handleSubscriberLoginPOST, Program.run_bind, issued]
  rcases hcheck : (checkLogin env req).run h w.store with ⟨_ | err | who, s⟩
  · rw [hcheck] at hread
    simpa using Does.nothing hread
  · rw [hcheck] at hread
    simpa using Does.nothing hread
  · rw [hcheck] at hread
    dsimp only
    rw [finishLogin]
    by_cases hempty : mintBearerToken env = []
    · simpa [hempty] using Does.nothing hread
    · rw [if_neg hempty, snd_bind_of_silent fun _ => ?_]
      · rcases storeSession_spec hlib hst htime (mintBearerToken env) who s with
          hnone | ⟨s', d, hsome, hrow, hdocs⟩
        · rw [hnone]
          simpa using Does.nothing hread
        · rw [hsome]
          refine .issues (if_pos ⟨rfl, hempty⟩) hrow (hdocs.trans (congrArg (· ++ [d]) hread)) ?_
          simp [hempty]
      · exact performs_ofOption_bind fun _ _ => performs_pure _

/-! ### The administration -/

lemma sublist_of_adminOp {env : Env} (hst : st.Lawful env.dump) {rows : List Json} {o : Op} {s : σ}
    (ho : AdminOp env o) (hs : (st.sessions s).Sublist rows) :
    (st.sessions (h o s).2).Sublist rows := by
  have hframe : ∀ {o : Op} {s : σ}, o.target ≠ some (Bytes.ofString "sessions") →
      (st.sessions s).Sublist rows → (st.sessions (h o s).2).Sublist rows := fun ho hs => by
    rw [DocumentStore.sessions, hst.frame _ _ _ ho]
    exact hs
  cases ho with
  | read hread => exact hframe (by rw [hread]; exact nofun) hs
  | next awb => exact hframe (by simp only [Op.target]; decide) hs
  | create hcoll dbName doc =>
    rcases hcoll with rfl | rfl <;> exact hframe (by simp only [Op.target]; decide) hs
  | update hfilter doc => exact hframe (by simp only [Op.target]; decide) hs
  | delete hcoll hfilter =>
    rcases hcoll with rfl | rfl
    · exact hframe (by simp only [Op.target]; decide) hs
    · rw [DocumentStore.sessions, hst.deleteDocument hfilter]
      exact List.filter_sublist.trans hs
  | revoke societyId sipUsername => exact hframe nofun hs

lemma does_admin (other : OtherHandlers) (hst : st.Lawful env.dump) {route : Route}
    (hadmin : route.needsAdmin) (w : World σ) (req : Bytes) :
    Does st ⟨env, req, .admin route⟩ w (w.step st other ⟨env, req, .admin route⟩) :=
  .drops ((@acts_behindAdmin env.toEnv other _ hadmin req).run
    (I := fun s => (st.sessions s).Sublist (st.sessions w.store))
    (fun _ _ ho hs => sublist_of_adminOp hst ho hs) (List.Sublist.refl _)) rfl

end

end MicroServicePbx
