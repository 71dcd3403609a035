import OnPremPbx.Ari.AriRestClient
import OnPremPbx.Http.HeaderText

/-!
# What is read of a request to Asterisk

A request is read line by line, its path between the slashes and its query between the ampersands,
and the pieces are decoded. Whatever the strings are that a request is made from, the pieces are
these strings again, and no others.
-/

open Text Http

namespace AriRestClient

/-! ### Percent-encoding -/

/-- Two digits in upper case after a percent sign. -/
def escape (c : UInt8) : Bytes := [0x25, hexDigit (c.toNat / 0x10), hexDigit (c.toNat % 0x10)]

lemma encodeChar_eq (c : UInt8) : encodeChar c = if isUnreserved c then [c] else escape c := by
  rw [encodeChar]
  by_cases hc : c < 0x10
  · have hlt : c.toNat < 0x10 := hc
    rw [if_pos hc, hexText, if_pos hlt, escape, Nat.div_eq_of_lt hlt, Nat.mod_eq_of_lt hlt]
    rfl
  · have hle : ¬ c.toNat < 0x10 := hc
    rw [if_neg hc, hexText, if_neg hle, escape]
    rfl

lemma hexDigit_mem : ∀ n < 0x10, hexDigit n ∈ Bytes.ofString "0123456789ABCDEF" := by decide

/-- The digits of an escape are read as the character. -/
lemma stoiHexPair_hexDigit : ∀ hi < 0x10, ∀ lo < 0x10,
    stoiHexPair (hexDigit hi) (hexDigit lo) = some (UInt8.ofNat (hi * 0x10 + lo)) := by
  decide +kernel

lemma pctDecode_escape (c : UInt8) (s : Bytes) :
    pctDecode (escape c ++ s) = (pctDecode s).map (c :: ·) := by
  have hlt : c.toNat < 0x100 := c.toNat_lt
  have hpair : stoiHexPair (hexDigit (c.toNat / 0x10)) (hexDigit (c.toNat % 0x10)) = some c := by
    rw [stoiHexPair_hexDigit _ (by omega) _ (by omega), Nat.div_add_mod', UInt8.ofNat_toNat]
  rw [escape, List.cons_append, List.cons_append, List.cons_append, List.nil_append, pctDecode,
    if_pos rfl, hpair]
  cases pctDecode s <;> rfl

/-- What has no escape is no percent sign and no plus sign. -/
lemma ne_of_isUnreserved {c : UInt8} (h : isUnreserved c = true) (k : UInt8)
    (hk : isUnreserved k = false) : c ≠ k := by
  rintro rfl
  rw [h] at hk
  cases hk

lemma pctDecode_encodeChar (c : UInt8) (s : Bytes) :
    pctDecode (encodeChar c ++ s) = (pctDecode s).map (c :: ·) := by
  rw [encodeChar_eq]
  split_ifs with hc
  · have hplus : c ≠ 0x2B := ne_of_isUnreserved hc 0x2B (by decide)
    have hpercent : c ≠ 0x25 := ne_of_isUnreserved hc 0x25 (by decide)
    rw [List.singleton_append, pctDecode_cons hpercent, if_neg hplus]
  · exact pctDecode_escape c s

/-- What was encoded is decoded again. -/
theorem pctDecode_urlEncode (s : Bytes) : pctDecode (urlEncode s) = some s := by
  induction s with
  | nil => rfl
  | cons c s ih =>
    rw [urlEncode, List.flatMap_cons, pctDecode_encodeChar]
    rw [urlEncode] at ih
    rw [ih, Option.map_some]

lemma urlEncode_injective : Function.Injective urlEncode := by
  intro s t h
  have hdecode := congrArg pctDecode h
  rw [pctDecode_urlEncode, pctDecode_urlEncode] at hdecode
  exact Option.some.inj hdecode

/-- A piece of an encoded string. -/
def IsPiece (p : Bytes) : Prop :=
  (∃ c, p = [c] ∧ isUnreserved c = true) ∨
  ∃ hi lo, p = [0x25, hi, lo] ∧ hi ∈ Bytes.ofString "0123456789ABCDEF" ∧
    lo ∈ Bytes.ofString "0123456789ABCDEF"

lemma isPiece_encodeChar (c : UInt8) : IsPiece (encodeChar c) := by
  rw [encodeChar_eq]
  split_ifs with hc
  · exact .inl ⟨c, rfl, hc⟩
  · have hlt : c.toNat < 0x100 := c.toNat_lt
    exact .inr ⟨_, _, rfl, hexDigit_mem _ (by omega), hexDigit_mem _ (Nat.mod_lt _ (by decide))⟩

/-- A character that is neither unreserved nor in an escape is in no encoded string. -/
lemma not_mem_urlEncode {k : UInt8} (hk : isUnreserved k = false) (hpercent : k ≠ 0x25)
    (s : Bytes) : k ∉ urlEncode s := by
  intro hmem
  obtain ⟨c, -, hkc⟩ := List.mem_flatMap.mp hmem
  have hhex : ∀ c ∈ Bytes.ofString "0123456789ABCDEF", isUnreserved c = true :=
    List.all_eq_true.mp (by decide)
  rcases isPiece_encodeChar c with ⟨d, hpiece, hd⟩ | ⟨hi, lo, hpiece, hhi, hlo⟩
  · rw [hpiece, List.mem_singleton] at hkc
    exact ne_of_isUnreserved hd k hk hkc.symm
  · rw [hpiece, List.mem_cons, List.mem_cons, List.mem_singleton] at hkc
    rcases hkc with h | h | h
    · exact hpercent h
    · exact ne_of_isUnreserved (hhex hi hhi) k hk h.symm
    · exact ne_of_isUnreserved (hhex lo hlo) k hk h.symm

lemma urlEncode_of_unreserved {s : Bytes} (h : ∀ c ∈ s, isUnreserved c = true) :
    urlEncode s = s := by
  induction s with
  | nil => rfl
  | cons c s ih =>
    have hrest := ih fun d hd => h d (List.mem_cons_of_mem _ hd)
    rw [urlEncode] at hrest
    rw [urlEncode, List.flatMap_cons, hrest, encodeChar, if_pos (h c List.mem_cons_self)]
    rfl

/-! ### Reading -/

/-- A request, with the strings of its path and of its query. -/
structure Request where
  verb : Bytes
  segments : List Bytes
  params : List (Bytes × Bytes)
  fields : List (Bytes × Bytes)
  body : Bytes
  deriving DecidableEq, Repr

/-- A parameter has one equals sign. -/
def readParam (token : Bytes) : Option (Bytes × Bytes) :=
  match token.splitOn 0x3D with
  | [name, value] => do
    let name ← pctDecode name
    let value ← pctDecode value
    some (name, value)
  | _             => none

def readQuery (query : Bytes) : Option (List (Bytes × Bytes)) :=
  if query = [] then some [] else (query.splitOn 0x26).mapM readParam

/-- A path from the root. -/
def readPath (path : Bytes) : Option (List Bytes) :=
  if path.head? = some 0x2F then (path.tail.splitOn 0x2F).mapM pctDecode else none

/-- A path, and a query if there is a question mark. -/
def readTarget (target : Bytes) : Option (List Bytes × List (Bytes × Bytes)) :=
  match target.splitOn 0x3F with
  | [path]        => (readPath path).map fun segments => (segments, [])
  | [path, query] => do
    let segments ← readPath path
    let params ← readQuery query
    some (segments, params)
  | _             => none

/-- The lines up to the empty one, and the body after them. -/
def readRequest (text : Bytes) : Option Request :=
  match (getlines 0x0A (extractHeader text)).map chopCR with
  | []            => none
  | line :: lines =>
    match line.splitOn 0x20 with
    | [verb, target, version] =>
      if version = Bytes.ofString "HTTP/1.1" ∧ lines.getLast? = some [] then do
        let (segments, params) ← readTarget target
        let fields ← lines.dropLast.mapM splitField
        some ⟨verb, segments, params, fields, text.drop (extractHeader text).length⟩
      else none
    | _                       => none

/-! ### Targets -/

def paramText (p : Bytes × Bytes) : Bytes := urlEncode p.1 ++ 0x3D :: urlEncode p.2

/-- The text of a path and a query. -/
def targetText (segments : List Bytes) (query : Option (List (Bytes × Bytes))) : Bytes :=
  0x2F :: List.intercalate [0x2F] (segments.map urlEncode) ++
    query.elim [] fun params => 0x3F :: List.intercalate [0x26] (params.map paramText)

lemma mapM_pctDecode (segments : List Bytes) :
    (segments.map urlEncode).mapM pctDecode = some segments := by
  induction segments with
  | nil => rfl
  | cons s segments ih =>
    rw [List.map_cons, List.mapM_cons, pctDecode_urlEncode, ih]
    rfl

lemma not_mem_path {k : UInt8} (hk : isUnreserved k = false) (hpercent : k ≠ 0x25)
    (hslash : k ≠ 0x2F) (segments : List Bytes) :
    k ∉ List.intercalate [0x2F] (segments.map urlEncode) := by
  refine not_mem_intercalate hslash fun l hl => ?_
  obtain ⟨s, -, rfl⟩ := List.mem_map.mp hl
  exact not_mem_urlEncode hk hpercent s

lemma not_mem_query {k : UInt8} (hk : isUnreserved k = false) (hpercent : k ≠ 0x25)
    (heq : k ≠ 0x3D) (hand : k ≠ 0x26) (params : List (Bytes × Bytes)) :
    k ∉ List.intercalate [0x26] (params.map paramText) := by
  refine not_mem_intercalate hand fun l hl => ?_
  obtain ⟨p, -, rfl⟩ := List.mem_map.mp hl
  rw [paramText, List.mem_append, List.mem_cons]
  rintro (h | h | h)
  · exact not_mem_urlEncode hk hpercent p.1 h
  · exact heq h
  · exact not_mem_urlEncode hk hpercent p.2 h

lemma readParam_paramText (p : Bytes × Bytes) : readParam (paramText p) = some p := by
  have hsplit : (paramText p).splitOn 0x3D = [urlEncode p.1, urlEncode p.2] := by
    have hnot : ∀ s, (0x3D : UInt8) ∉ urlEncode s := not_mem_urlEncode (by decide) (by decide)
    have hpieces : ∀ l ∈ [urlEncode p.1, urlEncode p.2], (0x3D : UInt8) ∉ l := by
      simp [hnot]
    rw [← List.splitOn_intercalate 0x3D hpieces (List.cons_ne_nil _ _)]
    simp [paramText, List.intercalate_cons_cons]
  rw [readParam, hsplit]
  simp [pctDecode_urlEncode]

lemma mapM_readParam (params : List (Bytes × Bytes)) :
    (params.map paramText).mapM readParam = some params := by
  induction params with
  | nil => rfl
  | cons p params ih =>
    rw [List.map_cons, List.mapM_cons, readParam_paramText, ih]
    rfl

lemma readQuery_intercalate (params : List (Bytes × Bytes)) :
    readQuery (List.intercalate [0x26] (params.map paramText)) = some params := by
  cases params with
  | nil => rfl
  | cons p params =>
    have hne : List.intercalate [0x26] ((p :: params).map paramText) ≠ [] := by
      cases params <;> simp [List.intercalate_cons_cons, paramText]
    have hpieces : ∀ l ∈ (p :: params).map paramText, (0x26 : UInt8) ∉ l := by
      intro l hl
      obtain ⟨q, -, rfl⟩ := List.mem_map.mp hl
      have hnot : ∀ s, (0x26 : UInt8) ∉ urlEncode s := not_mem_urlEncode (by decide) (by decide)
      simp [paramText, hnot]
    rw [readQuery, if_neg hne, List.splitOn_intercalate 0x26 hpieces (by simp), mapM_readParam]

lemma readPath_intercalate {segments : List Bytes} (hne : segments ≠ []) :
    readPath (0x2F :: List.intercalate [0x2F] (segments.map urlEncode)) = some segments := by
  have hsplit : (List.intercalate [0x2F] (segments.map urlEncode)).splitOn 0x2F =
      segments.map urlEncode := by
    refine List.splitOn_intercalate 0x2F (fun l hl => ?_) (by simpa using hne)
    obtain ⟨s, -, rfl⟩ := List.mem_map.mp hl
    exact not_mem_urlEncode (by decide) (by decide) s
  rw [readPath, List.head?_cons, if_pos rfl, List.tail_cons, hsplit, mapM_pctDecode]

/-- The pieces of a target are the strings that it was made from. -/
theorem readTarget_targetText {segments : List Bytes} (hne : segments ≠ [])
    (query : Option (List (Bytes × Bytes))) :
    readTarget (targetText segments query) = some (segments, query.getD []) := by
  have hpath : (0x3F : UInt8) ∉ 0x2F :: List.intercalate [0x2F] (segments.map urlEncode) := by
    rw [List.mem_cons, not_or]
    exact ⟨by decide, not_mem_path (by decide) (by decide) (by decide) segments⟩
  cases query with
  | none =>
    have hsplit := List.splitOn_intercalate 0x3F (List.forall_mem_singleton.mpr hpath)
      (List.cons_ne_nil _ _)
    rw [List.intercalate_singleton] at hsplit
    rw [readTarget, targetText, Option.elim_none, List.append_nil, hsplit]
    dsimp only
    rw [readPath_intercalate hne]
    rfl
  | some params =>
    have hquery : (0x3F : UInt8) ∉ List.intercalate [0x26] (params.map paramText) :=
      not_mem_query (by decide) (by decide) (by decide) (by decide) params
    have hsplit := @List.splitOn_intercalate UInt8
      [0x2F :: List.intercalate [0x2F] (segments.map urlEncode),
        List.intercalate [0x26] (params.map paramText)] _ _ 0x3F (by
          rw [List.forall_mem_cons, List.forall_mem_singleton]
          exact ⟨hpath, hquery⟩) (List.cons_ne_nil _ _)
    rw [List.intercalate_cons_cons, List.intercalate_singleton, List.append_assoc,
      List.singleton_append] at hsplit
    rw [readTarget, targetText, Option.elim_some, hsplit]
    dsimp only
    rw [readPath_intercalate hne, readQuery_intercalate]
    rfl

/-! ### Requests -/

/-- The line of a request. -/
def requestLine (verb target : Bytes) : Bytes :=
  List.intercalate [0x20] [verb, target, Bytes.ofString "HTTP/1.1"]

/-- A verb of the requests, which stands in their lines as it is. -/
def IsVerb (verb : Bytes) : Prop := (0x20 : UInt8) ∉ verb ∧ CR ∉ verb ∧ LF ∉ verb

instance (verb : Bytes) : Decidable (IsVerb verb) := inferInstanceAs (Decidable (_ ∧ _ ∧ _))

lemma not_mem_targetText {k : UInt8} (hk : isUnreserved k = false) (hpercent : k ≠ 0x25)
    (hdelims : k ≠ 0x2F ∧ k ≠ 0x3F ∧ k ≠ 0x3D ∧ k ≠ 0x26) (segments : List Bytes)
    (query : Option (List (Bytes × Bytes))) : k ∉ targetText segments query := by
  obtain ⟨hslash, hquestion, heq, hand⟩ := hdelims
  rw [targetText, List.mem_append, List.mem_cons]
  rintro ((h | h) | h)
  · exact hslash h
  · exact not_mem_path hk hpercent hslash segments h
  · cases query with
    | none => exact List.not_mem_nil h
    | some params =>
      rcases List.mem_cons.mp h with h | h
      · exact hquestion h
      · exact not_mem_query hk hpercent heq hand params h

lemma mapM_splitField {fields : List (Bytes × Bytes)} (hfields : ∀ f ∈ fields, IsField f) :
    (fields.map fieldLine).mapM splitField = some fields := by
  induction fields with
  | nil => rfl
  | cons f fields ih =>
    rw [List.map_cons, List.mapM_cons, splitField_fieldLine (hfields f List.mem_cons_self),
      ih fun g hg => hfields g (List.mem_cons_of_mem _ hg)]
    rfl

/-- A text of a request line, fields and a body is read as what it was made from. -/
theorem readRequest_text {verb : Bytes} (hverb : IsVerb verb) {segments : List Bytes}
    (hne : segments ≠ []) (query : Option (List (Bytes × Bytes))) {fields : List (Bytes × Bytes)}
    (hfields : ∀ f ∈ fields, IsField f) (body : Bytes) :
    readRequest (headerText (requestLine verb (targetText segments query)) fields ++ body) =
      some ⟨verb, segments, query.getD [], fields, body⟩ := by
  obtain ⟨hspace, hcr, hlf⟩ := hverb
  have hnot : ∀ k : UInt8, k ∉ verb → isUnreserved k = false → k ≠ 0x25 →
      (k ≠ 0x2F ∧ k ≠ 0x3F ∧ k ≠ 0x3D ∧ k ≠ 0x26) → k ∉ Bytes.ofString "HTTP/1.1" →
      ∀ l ∈ [verb, targetText segments query, Bytes.ofString "HTTP/1.1"], k ∉ l := by
    intro k hv hk hpercent hdelims hversion
    simp [hv, hversion, not_mem_targetText hk hpercent hdelims segments query]
  have hlineCR : CR ∉ requestLine verb (targetText segments query) :=
    not_mem_intercalate (by decide) (hnot CR hcr (by decide) (by decide) (by decide) (by decide))
  have hlineLF : LF ∉ requestLine verb (targetText segments query) :=
    not_mem_intercalate (by decide) (hnot LF hlf (by decide) (by decide) (by decide) (by decide))
  have hsplit := List.splitOn_intercalate 0x20
    (hnot 0x20 hspace (by decide) (by decide) (by decide) (by decide)) (List.cons_ne_nil _ _)
  have hlines : (getlines 0x0A (headerText (requestLine verb (targetText segments query))
      fields)).map chopCR =
        requestLine verb (targetText segments query) :: (fields.map fieldLine ++ [[]]) := by
    have hchop : chopCR ∘ (· ++ [CR]) = id := funext chopCR_append
    rw [show (0x0A : UInt8) = LF from rfl, getlines_headerText hlineLF hfields, List.map_append,
      List.map_map, hchop, List.map_id]
    rfl
  rw [readRequest, extractHeader_headerText hlineCR hfields, hlines]
  dsimp only
  rw [requestLine, hsplit]
  dsimp only
  rw [if_pos ⟨rfl, List.getLast?_concat⟩, readTarget_targetText hne, List.dropLast_concat,
    mapM_splitField hfields, List.drop_left]
  rfl

/-! ### The requests of the client -/

/-- A call of `IAriRest`. -/
inductive Call where
  | subscribe (app : Bytes) (sources : List Bytes)
  | continueInDialplan (channelId context extension : Bytes) (priority : ℤ)
  | originate (endpoint app appArgs channelId callerId : Bytes)
  | createBridge (bridgeId type : Bytes)
  | addChannelToBridge (bridgeId channelId : Bytes)
  | hangup (channelId reason : Bytes)
  | answer (channelId : Bytes)
  | getEndpoint (tech resource : Bytes)
  | listEndpoints (tech : Bytes)
  | createDynamicConfig (cfgClass objType id fieldsJson : Bytes)
  | deleteDynamicConfig (cfgClass objType id : Bytes)

namespace Call

/-- The text that is sent for a call. -/
def text (host basicAuth : Bytes) : Call → Bytes
  | .subscribe app sources => buildSubscribeRequest app sources host basicAuth
  | .continueInDialplan channelId context extension priority =>
    buildContinueRequest channelId context extension priority host basicAuth
  | .originate endpoint app appArgs channelId callerId =>
    buildOriginateRequest endpoint app appArgs channelId callerId host basicAuth
  | .createBridge bridgeId type => buildCreateBridgeRequest bridgeId type host basicAuth
  | .addChannelToBridge bridgeId channelId =>
    buildAddChannelRequest bridgeId channelId host basicAuth
  | .hangup channelId reason => buildHangupRequest channelId reason host basicAuth
  | .answer channelId => buildAnswerRequest channelId host basicAuth
  | .getEndpoint tech resource => buildGetEndpointRequest tech resource host basicAuth
  | .listEndpoints tech => buildListEndpointsRequest tech host basicAuth
  | .createDynamicConfig cfgClass objType id fieldsJson =>
    buildCreateDynamicConfigRequest cfgClass objType id fieldsJson host basicAuth
  | .deleteDynamicConfig cfgClass objType id =>
    buildDeleteDynamicConfigRequest cfgClass objType id host basicAuth

def verb : Call → String
  | .hangup .. | .deleteDynamicConfig .. => "DELETE"
  | .getEndpoint .. | .listEndpoints ..  => "GET"
  | .createDynamicConfig ..              => "PUT"
  | _                                    => "POST"

/-- The segments of the path: the fixed ones, and the strings of the call. -/
def segments : Call → List Bytes
  | .subscribe app _               => ["ari", "applications"].map Bytes.ofString ++
      [app, Bytes.ofString "subscription"]
  | .continueInDialplan chan _ _ _ => ["ari", "channels"].map Bytes.ofString ++
      [chan, Bytes.ofString "continue"]
  | .originate ..                  => ["ari", "channels"].map Bytes.ofString
  | .createBridge ..               => ["ari", "bridges"].map Bytes.ofString
  | .addChannelToBridge bridge _   => ["ari", "bridges"].map Bytes.ofString ++
      [bridge, Bytes.ofString "addChannel"]
  | .hangup chan _                 => ["ari", "channels"].map Bytes.ofString ++ [chan]
  | .answer chan                   => ["ari", "channels"].map Bytes.ofString ++
      [chan, Bytes.ofString "answer"]
  | .getEndpoint tech resource     => ["ari", "endpoints"].map Bytes.ofString ++ [tech, resource]
  | .listEndpoints tech            => ["ari", "endpoints"].map Bytes.ofString ++ [tech]
  | .createDynamicConfig cls obj id _ | .deleteDynamicConfig cls obj id =>
      ["ari", "asterisk", "config", "dynamic"].map Bytes.ofString ++ [cls, obj, id]

/-- The parameters of the query, with `none` where there is no question mark. -/
def query : Call → Option (List (Bytes × Bytes))
  | .subscribe _ sources => some (sources.map fun s => (Bytes.ofString "eventSource", s))
  | .continueInDialplan _ context extension priority => some
      [(Bytes.ofString "context", context), (Bytes.ofString "extension", extension),
        (Bytes.ofString "priority", Decimal.ofInt priority)]
  | .originate endpoint app appArgs channelId callerId => some <|
      [(Bytes.ofString "endpoint", endpoint), (Bytes.ofString "app", app),
        (Bytes.ofString "appArgs", appArgs), (Bytes.ofString "channelId", channelId),
        (Bytes.ofString "formats", Bytes.ofString "opus,ulaw,alaw")] ++
      if callerId ≠ [] then [(Bytes.ofString "callerId", callerId)] else []
  | .createBridge bridgeId type => some
      [(Bytes.ofString "type", type), (Bytes.ofString "bridgeId", bridgeId)]
  | .addChannelToBridge _ channelId => some [(Bytes.ofString "channel", channelId)]
  | .hangup _ reason => some [(Bytes.ofString "reason", reason)]
  | _ => none

def body : Call → Bytes
  | .createDynamicConfig _ _ _ fieldsJson => fieldsJson
  | _                                     => []

/-- The type of a body, if there is one. -/
def typeFields : Call → List (Bytes × Bytes)
  | .createDynamicConfig .. =>
    [(Bytes.ofString "Content-Type", Bytes.ofString "application/json")]
  | _                       => []

/-- The fields: of the configuration, and those that frame the body. -/
def fields (host basicAuth : Bytes) (call : Call) : List (Bytes × Bytes) :=
  [(Bytes.ofString "Host", host),
    (Bytes.ofString "Authorization", Bytes.ofString "Basic " ++ basicAuth)] ++ call.typeFields ++
  [(Bytes.ofString "Content-Length", Decimal.ofNat call.body.length),
    (Bytes.ofString "Connection", Bytes.ofString "close")]

/-- What a call means. -/
def request (host basicAuth : Bytes) (call : Call) : Request where
  verb := Bytes.ofString call.verb
  segments := call.segments
  params := call.query.getD []
  fields := call.fields host basicAuth
  body := call.body

/-- The fixed strings of the requests are written as they are. -/
lemma urlEncode_fixed : ∀ s ∈ ["ari", "applications", "subscription", "channels", "continue",
    "bridges", "addChannel", "answer", "endpoints", "asterisk", "config", "dynamic", "eventSource",
    "context", "extension", "priority", "endpoint", "app", "appArgs", "channelId", "formats",
    "callerId", "type", "bridgeId", "channel", "reason"],
    urlEncode (Bytes.ofString s) = Bytes.ofString s := by
  decide

lemma urlEncode_ofInt (n : ℤ) : urlEncode (Decimal.ofInt n) = Decimal.ofInt n := by
  have hdigits : ∀ n, ∀ c ∈ Decimal.ofNat n, isUnreserved c = true := by
    intro n c hc
    have hdigit := (Decimal.isDigit_of_mem hc).1
    simp only [Json.isDigit, Bool.decide_and, Bool.and_eq_true, decide_eq_true_eq] at hdigit
    simp [isUnreserved, isAlnum, hdigit]
  refine urlEncode_of_unreserved fun c hc => ?_
  rw [Decimal.ofInt_eq] at hc
  split_ifs at hc
  · exact hdigits _ c hc
  · rcases List.mem_cons.mp hc with rfl | hc
    · decide
    · exact hdigits _ c hc

lemma opening_append (verb : String) (target host basicAuth : Bytes) (lines : List Bytes) :
    opening verb target host basicAuth ++ textLines lines =
      textLines (requestLine (Bytes.ofString verb) target ::
        fieldLine (Bytes.ofString "Host", host) ::
        fieldLine (Bytes.ofString "Authorization", Bytes.ofString "Basic " ++ basicAuth) ::
        lines) := by
  simp [opening, textLines, requestLine, fieldLine, List.intercalate_cons_cons, Bytes.ofString,
    CRLF]

lemma bodiless_eq (verb : String) (target host basicAuth : Bytes) :
    bodiless verb target host basicAuth =
      opening verb target host basicAuth ++ textLines
        [fieldLine (Bytes.ofString "Content-Length", Decimal.ofNat 0),
          fieldLine (Bytes.ofString "Connection", Bytes.ofString "close")] := by
  have hzero : Decimal.ofNat 0 = [0x30] := by decide
  simp [bodiless, textLines, fieldLine, hzero, Bytes.ofString, CRLF]

lemma buildCreateDynamicConfigRequest_eq (cfgClass objType id fieldsJson host basicAuth : Bytes) :
    buildCreateDynamicConfigRequest cfgClass objType id fieldsJson host basicAuth =
      opening "PUT" (configTarget cfgClass objType id) host basicAuth ++ textLines
        [fieldLine (Bytes.ofString "Content-Type", Bytes.ofString "application/json"),
          fieldLine (Bytes.ofString "Content-Length", Decimal.ofNat fieldsJson.length),
          fieldLine (Bytes.ofString "Connection", Bytes.ofString "close")] ++ fieldsJson := by
  simp [buildCreateDynamicConfigRequest, textLines, fieldLine, Bytes.ofString, CRLF]

/-- The request of a call without a body. -/
lemma text_eq_bodiless (host basicAuth : Bytes) {call : Call}
    (hcall : ∀ cfgClass objType id fieldsJson,
      call ≠ .createDynamicConfig cfgClass objType id fieldsJson) :
    call.text host basicAuth =
      bodiless call.verb (targetText call.segments call.query) host basicAuth := by
  cases call with
  | createDynamicConfig cfgClass objType id fieldsJson =>
    exact absurd rfl (hcall cfgClass objType id fieldsJson)
  | subscribe app sources =>
    have hparam : (paramText ∘ fun s => (Bytes.ofString "eventSource", s)) =
        fun s => Bytes.ofString "eventSource=" ++ urlEncode s := by
      funext s
      rw [Function.comp_apply, paramText, urlEncode_fixed _ (by decide)]
      simp [Bytes.ofString]
    simp (disch := decide) only [text, buildSubscribeRequest, verb, targetText, segments, query,
      List.map_cons, List.map_nil, List.map_map, List.cons_append, List.nil_append, hparam,
      List.intercalate_cons_cons, List.intercalate_singleton, Option.elim_some, urlEncode_fixed]
    simp [Bytes.ofString]
  | originate endpoint app appArgs channelId callerId =>
    -- the last parameter is there if the caller id is not empty
    by_cases hcaller : callerId = []
    all_goals
      simp (disch := decide) only [text, buildOriginateRequest, verb, targetText, segments, query,
        hcaller, ne_eq, not_true_eq_false, not_false_eq_true, if_true, if_false, List.append_nil,
        List.map_cons, List.map_nil, List.cons_append, List.nil_append, paramText,
        List.intercalate_cons_cons, List.intercalate_singleton, Option.elim_some, urlEncode_fixed]
      simp [Bytes.ofString]
  | _ =>
    simp (disch := decide) only [text, buildContinueRequest, buildCreateBridgeRequest,
      buildAddChannelRequest, buildHangupRequest, buildAnswerRequest, buildGetEndpointRequest,
      buildListEndpointsRequest, buildDeleteDynamicConfigRequest, configTarget, verb, targetText,
      segments, query, List.map_cons, List.map_nil, List.cons_append, List.nil_append, paramText,
      List.intercalate_cons_cons, List.intercalate_singleton, Option.elim_some, Option.elim_none,
      List.append_nil, urlEncode_fixed, urlEncode_ofInt]
    simp [Bytes.ofString]

/-- The texts of the requests, as lines and a body. -/
lemma text_eq (host basicAuth : Bytes) (call : Call) :
    call.text host basicAuth =
      headerText (requestLine (Bytes.ofString call.verb) (targetText call.segments call.query))
        (call.fields host basicAuth) ++ call.body := by
  by_cases hcall : ∃ cfgClass objType id fieldsJson,
      call = .createDynamicConfig cfgClass objType id fieldsJson
  · obtain ⟨cfgClass, objType, id, fieldsJson, rfl⟩ := hcall
    have htarget : configTarget cfgClass objType id =
        targetText (createDynamicConfig cfgClass objType id fieldsJson).segments none := by
      simp (disch := decide) only [configTarget, targetText, segments, List.map_cons, List.map_nil,
        List.cons_append, List.nil_append, List.intercalate_cons_cons, List.intercalate_singleton,
        Option.elim_none, List.append_nil, urlEncode_fixed]
      simp [Bytes.ofString]
    rw [text, buildCreateDynamicConfigRequest_eq, htarget, opening_append]
    simp [verb, query, fields, typeFields, body, headerText]
  · have hnone : ∀ cfgClass objType id fieldsJson,
        call ≠ .createDynamicConfig cfgClass objType id fieldsJson := by
      simpa using hcall
    rw [text_eq_bodiless host basicAuth hnone, bodiless_eq, opening_append]
    cases call with
    | createDynamicConfig cfgClass objType id fieldsJson => exact absurd rfl (hnone _ _ _ _)
    | _ => simp [fields, typeFields, body, headerText]

end Call

/-! ### No injection -/

/-- A name of a host, or any other text that stands in one line. -/
def InLine (s : Bytes) : Prop := CR ∉ s ∧ LF ∉ s

instance (s : Bytes) : Decidable (InLine s) := inferInstanceAs (Decidable (_ ∧ _))

lemma letter_mem (n : ℕ) : letter n ∈ alpha := by
  have hlt : n &&& 0x3F < alpha.length := Nat.lt_succ_of_le Nat.and_le_right
  rw [letter, List.getD_eq_getElem?_getD, List.getElem?_eq_getElem hlt, Option.getD_some]
  exact List.getElem_mem hlt

lemma mem_base64Encode (s : Bytes) : ∀ c ∈ base64Encode s, c ∈ alpha ∨ c = 0x3D := by
  fun_induction base64Encode s with
  | case1 b₀ b₁ b₂ s ih =>
    simp only [List.forall_mem_cons]
    exact ⟨.inl (letter_mem _), .inl (letter_mem _), .inl (letter_mem _), .inl (letter_mem _), ih⟩
  | case2 b₀ b₁ => simp [letter_mem]
  | case3 b₀ => simp [letter_mem]
  | case4 => simp

lemma inLine_base64Encode (s : Bytes) : InLine (base64Encode s) := by
  have hnot : ∀ c ∈ alpha, c ≠ CR ∧ c ≠ LF := by
    have hall : (alpha.all fun c => decide (c ≠ CR ∧ c ≠ LF)) = true := by decide
    simpa using hall
  constructor
  all_goals
    intro hmem
    rcases mem_base64Encode s _ hmem with h | h
    · have := hnot _ h
      simp at this
    · revert h
      decide

lemma isField_of {name value : Bytes} (hname : 0x3A ∉ name ∧ InLine name)
    (hvalue : InLine value) : IsField (name, value) :=
  ⟨hname.1, fun h => (List.mem_append.mp h).elim hname.2.1 hvalue.1,
    fun h => (List.mem_append.mp h).elim hname.2.2 hvalue.2⟩

lemma inLine_append {s t : Bytes} (hs : InLine s) (ht : InLine t) : InLine (s ++ t) :=
  ⟨fun h => (List.mem_append.mp h).elim hs.1 ht.1, fun h => (List.mem_append.mp h).elim hs.2 ht.2⟩

lemma inLine_ofNat (n : ℕ) : InLine (Decimal.ofNat n) :=
  ⟨fun h => absurd (Decimal.isDigit_of_mem h).2 (by decide),
    fun h => absurd (Decimal.isDigit_of_mem h).2 (by decide)⟩

lemma isField_fields {host : Bytes} (hhost : InLine host) (credentials : Bytes) (call : Call) :
    ∀ f ∈ call.fields host (base64Encode credentials), IsField f := by
  have hbasic : InLine (Bytes.ofString "Basic " ++ base64Encode credentials) :=
    inLine_append (by decide) (inLine_base64Encode credentials)
  have htype : ∀ f ∈ call.typeFields, IsField f := by
    cases call with
    | createDynamicConfig =>
      exact List.forall_mem_singleton.mpr (isField_of (by decide) (by decide))
    | _ => exact fun f hf => absurd hf List.not_mem_nil
  rw [Call.fields, List.forall_mem_append, List.forall_mem_append]
  refine ⟨⟨?_, htype⟩, ?_⟩
  · rw [List.forall_mem_cons, List.forall_mem_singleton]
    exact ⟨isField_of (by decide) hhost, isField_of (by decide) hbasic⟩
  · rw [List.forall_mem_cons, List.forall_mem_singleton]
    exact ⟨isField_of (by decide) (inLine_ofNat _), isField_of (by decide) (by decide)⟩

/-- The verbs of the requests. -/
lemma isVerb_ofString : ∀ v ∈ ["POST", "DELETE", "GET", "PUT"], IsVerb (Bytes.ofString v) := by
  decide

/-- Each request has one line and the fields that it is meant to have, and its path and its query
are decoded to the strings that it was made from. An encoded string is made of unreserved characters
and escapes, and is the one of no other string. -/
theorem no_injection {host : Bytes} (hhost : InLine host) (credentials : Bytes) :
    (∀ call : Call, readRequest (call.text host (base64Encode credentials)) =
      some (call.request host (base64Encode credentials))) ∧
    Function.Injective urlEncode ∧
    ∀ s, ∃ pieces : List Bytes, urlEncode s = pieces.flatten ∧ ∀ p ∈ pieces, IsPiece p := by
  refine ⟨fun call => ?_, urlEncode_injective, fun s => ⟨s.map encodeChar, ?_, ?_⟩⟩
  · have hverb : IsVerb (Bytes.ofString call.verb) :=
      isVerb_ofString _ (by cases call <;> simp [Call.verb])
    have hsegments : call.segments ≠ [] := by cases call <;> simp [Call.segments]
    rw [Call.text_eq, readRequest_text hverb hsegments _ (isField_fields hhost credentials call)]
    rfl
  · rfl
  · intro p hp
    obtain ⟨c, -, rfl⟩ := List.mem_map.mp hp
    exact isPiece_encodeChar c

/-- A channel whose id would be a second request. -/
theorem no_injection_answer :
    readRequest (Call.text (Bytes.ofString "localhost") (base64Encode (Bytes.ofString "a:b"))
        (.answer (Bytes.ofString "x HTTP/1.1\r\n\r\nGET /"))) =
      some (Call.request (Bytes.ofString "localhost") (base64Encode (Bytes.ofString "a:b"))
        (.answer (Bytes.ofString "x HTTP/1.1\r\n\r\nGET /"))) :=
  (no_injection (by decide) (Bytes.ofString "a:b")).1 _

end AriRestClient
