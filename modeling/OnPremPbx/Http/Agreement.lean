import OnPremPbx.Http.Parser

/-!
# Framing and parsing

`message_length` decides from the header where a request ends, and the constructor of `Http` reads
the header again to find the body. The first takes the last field with exactly the name it looks
for; the second takes the first one in any spelling, from a map that the parameters of the query
string are in already. They agree where there is only one to take.
-/

open Text

namespace Http

variable {decompress : Bytes → Bytes → Bytes}

/-! ### What the constructor reads -/

/-- What the map of a request is made of. -/
structure HeaderRead (s : Bytes) (h : Http) (params : List (Bytes × Bytes)) : Prop where
  header : h.header = extractHeader s
  query : ∃ method path,
    parseRequestLine (requestLine (extractHeader s)) = some (method, path, params)
  tokenMap : h.tokenMap =
    (params ++ headerFields (extractHeader s)).map fun f => (toLower f.1, f.2)

lemma foldl_addElement (fs : List (Bytes × Bytes)) (m : MessageParser) :
    fs.foldl MessageParser.addElement m =
      { m with tokenMap := m.tokenMap ++ fs.map fun f => (toLower f.1, f.2) } := by
  induction fs generalizing m with
  | nil => simp
  | cons f fs ih =>
    rw [List.foldl_cons, ih]
    simp [MessageParser.addElement]

lemma readHeader_spec {s : Bytes} {h : Http} (hh : readHeader s = some h) :
    ∃ params, HeaderRead s h params := by
  simp only [readHeader] at hh
  split_ifs at hh with hnil
  · cases hh
    have hnone : headerFields (extractHeader s) = [] := by rw [hnil]; rfl
    exact ⟨[], rfl, ⟨[], [], by rw [hnil]; rfl⟩, by rw [hnone]; rfl⟩
  · obtain ⟨h', hh', rfl⟩ := Option.map_eq_some_iff.mp hh
    obtain ⟨⟨method, path, params⟩, hline, rfl⟩ := Option.map_eq_some_iff.mp hh'
    refine ⟨params, ?_, ⟨method, path, hline⟩, ?_⟩
    · simp [MessageParser.parseMimeHeader, foldl_addElement]
    · simp [MessageParser.parseMimeHeader, foldl_addElement]

lemma ofBytes_spec {s : Bytes} {h : Http} (hh : ofBytes decompress s = some h) :
    ∃ params raw h₀, HeaderRead s h₀ params ∧ rawBody s h₀ = some raw ∧
      h = { h₀ with body := decodeContent decompress (h₀.getElement contentEncoding) raw } := by
  simp only [ofBytes, Option.bind_eq_bind, Option.bind_eq_some_iff] at hh
  obtain ⟨h₀, hread, body, hbody, hh⟩ := hh
  obtain ⟨params, hspec⟩ := readHeader_spec hread
  obtain ⟨raw, hraw, rfl⟩ := Option.map_eq_some_iff.mp hbody
  exact ⟨params, raw, h₀, hspec, hraw, (Option.some.inj hh).symm⟩

/-! ### The two look-ups -/

/-- There is at most one value of the field to take. -/
structure Single (params fields : List (Bytes × Bytes)) (name : Bytes) : Prop where
  query : ∀ f ∈ params, toLower f.1 ≠ toLower name
  spelling : ∀ f ∈ fields, toLower f.1 = toLower name → f.1 = name
  value : ∀ f ∈ fields, ∀ g ∈ fields, f.1 = name → g.1 = name → f.2 = g.2

lemma lastField_eq_of_mem {fields : List (Bytes × Bytes)} {name : Bytes}
    (hvalue : ∀ f ∈ fields, ∀ g ∈ fields, f.1 = name → g.1 = name → f.2 = g.2) {f : Bytes × Bytes}
    (hf : f ∈ fields) (hname : f.1 = name) : lastField fields name = f.2 := by
  rw [lastField]
  cases hfind : fields.reverse.find? fun f => f.1 == name with
  | none =>
    have := List.find?_eq_none.mp hfind f (List.mem_reverse.mpr hf)
    exact absurd hname (by simpa using this)
  | some g =>
    have hg := List.mem_reverse.mp (List.mem_of_find?_eq_some hfind)
    have hgname : g.1 = name := by simpa using List.find?_some hfind
    exact hvalue g hg f hf hgname hname

lemma lastField_eq_nil {fields : List (Bytes × Bytes)} {name : Bytes}
    (h : ∀ f ∈ fields, f.1 ≠ name) : lastField fields name = [] := by
  have hfind : (fields.reverse.find? fun f => f.1 == name) = none := by
    rw [List.find?_eq_none]
    intro f hf
    simpa using h f (List.mem_reverse.mp hf)
  rw [lastField, hfind]
  rfl

/-- The value of the first field with the name, in any spelling. -/
def firstField (fields : List (Bytes × Bytes)) (name : Bytes) : Bytes :=
  ((fields.find? fun f => toLower f.1 == toLower name).map (·.2)).getD []

/-- The constructor takes the first value, where the parameters of the query come first. -/
lemma getElement_eq {s : Bytes} {h : Http} {params : List (Bytes × Bytes)}
    (hspec : HeaderRead s h params) (name : Bytes) :
    h.getElement name = firstField (params ++ headerFields (extractHeader s)) name := by
  rw [MessageParser.getElement, hspec.tokenMap, List.find?_map, Option.map_map]
  rfl

lemma getElement_eq_firstField {s : Bytes} {h : Http} {params : List (Bytes × Bytes)}
    (hspec : HeaderRead s h params) {name : Bytes}
    (hquery : ∀ f ∈ params, toLower f.1 ≠ toLower name) :
    h.getElement name = firstField (headerFields (extractHeader s)) name := by
  have hnone : (params.find? fun f => toLower f.1 == toLower name) = none := by
    rw [List.find?_eq_none]
    intro f hf
    simpa using hquery f hf
  rw [getElement_eq hspec, firstField, List.find?_append, hnone, Option.none_or]
  rfl

/-- Where there is only one value to take, both look-ups take it. -/
lemma getElement_eq_lastField {s : Bytes} {h : Http} {params : List (Bytes × Bytes)}
    (hspec : HeaderRead s h params) {name : Bytes}
    (hsingle : Single params (headerFields (extractHeader s)) name) :
    h.getElement name = lastField (headerFields (extractHeader s)) name := by
  rw [getElement_eq_firstField hspec hsingle.query, firstField]
  cases hfind : (headerFields (extractHeader s)).find? fun f => toLower f.1 == toLower name with
  | none =>
    rw [lastField_eq_nil]
    · rfl
    · rintro f hf rfl
      have hnot := List.find?_eq_none.mp hfind f hf
      simp at hnot
  | some f =>
    have hf := List.mem_of_find?_eq_some hfind
    have hname : f.1 = name := hsingle.spelling f hf (by simpa using List.find?_some hfind)
    exact (lastField_eq_of_mem hsingle.value hf hname).symm

/-! ### The rule that determines the length -/

/-- The four rules of `message_length`. -/
inductive Framing where
  | chunked
  | length
  | multipart
  | none
  deriving DecidableEq, Repr

/-- The rule that `message_length` goes by. -/
def framing (buf : Bytes) : Framing :=
  let fields := headerFields (extractHeader buf)
  if lastField fields transferEncoding = Http.chunked then .chunked
  else if lastField fields contentLength ≠ [] then .length
  else if multipartBoundary (lastField fields contentType) ≠ [] then .multipart
  else .none

lemma framing_spec (buf : Bytes) :
    let fields := headerFields (extractHeader buf)
    match framing buf with
    | .chunked   => lastField fields transferEncoding = Http.chunked
    | .length    => lastField fields transferEncoding ≠ Http.chunked ∧
      lastField fields contentLength ≠ []
    | .multipart => lastField fields transferEncoding ≠ Http.chunked ∧
      lastField fields contentLength = [] ∧
      multipartBoundary (lastField fields contentType) ≠ []
    | .none      => lastField fields transferEncoding ≠ Http.chunked ∧
      lastField fields contentLength = [] ∧
      multipartBoundary (lastField fields contentType) = [] := by
  intro fields
  rw [framing]
  split_ifs with hte hcl hct
  · exact hte
  · exact ⟨hte, hcl⟩
  · exact ⟨hte, not_not.mp hcl, hct⟩
  · exact ⟨hte, not_not.mp hcl, not_not.mp hct⟩

/-- The fields that the rule is read off. -/
def Framing.names : Framing → List Bytes
  | .chunked   => [transferEncoding]
  | .length    => [transferEncoding, contentLength]
  | .multipart => [transferEncoding, contentLength, contentType]
  | .none      => [transferEncoding, contentLength, contentType]

/-- What the request says of its framing is said once, in the header: no parameter of the query has
the name of a framing field, and the fields have the usual spelling and one value. -/
def Unambiguous (buf : Bytes) : Prop :=
  ∀ method path params,
    parseRequestLine (requestLine (extractHeader buf)) = some (method, path, params) →
    ∀ name ∈ (framing buf).names, Single params (headerFields (extractHeader buf)) name

/-- The bytes of the request after its header. -/
def afterHeader (buf : Bytes) : Bytes :=
  (buf.take (messageLength buf)).drop (extractHeader buf).length

/-- The body is computed from the framing that determined the length. -/
def BodyAgrees (buf raw : Bytes) : Prop :=
  match framing buf with
  | .chunked   => decodeChunked (afterHeader buf) = some raw
  | .length    => raw = afterHeader buf
  | .multipart => raw = afterHeader buf
  | .none      => raw = []

lemma extractHeader_of_find {buf : Bytes} {i : ℕ} (h : find sep buf = some i) :
    extractHeader buf = buf.take (i + sep.length) := by rw [extractHeader, h]

lemma length_extractHeader {buf : Bytes} {i : ℕ} (h : find sep buf = some i) :
    (extractHeader buf).length = i + sep.length := by
  rw [extractHeader_of_find h, List.length_take, min_eq_left (find_add_le h)]

lemma extractHeader_take {buf : Bytes} {i n : ℕ} (h : find sep buf = some i)
    (hn : i + sep.length ≤ n) : extractHeader (buf.take n) = extractHeader buf := by
  rw [extractHeader_of_find (find_take h hn), extractHeader_of_find h, List.take_take,
    min_eq_left hn]

/-- A part of the buffer without the end of the header has no header to cut off. -/
lemma extractHeader_take_of_lt {buf : Bytes} {i n : ℕ} (h : find sep buf = some i)
    (hn : n < i + sep.length) : extractHeader (buf.take n) = buf.take n := by
  have hnone : find sep (buf.take n) = none := by
    cases hfind : find sep (buf.take n) with
    | none => rfl
    | some j =>
      have hj := find_append hfind (buf.drop n)
      rw [List.take_append_drop, h] at hj
      cases hj
      have hend := find_add_le hfind
      rw [List.length_take] at hend
      omega
  rw [extractHeader, hnone]

lemma messageLength_of_find {buf : Bytes} {i : ℕ} (h : find sep buf = some i) :
    messageLength buf =
      match framing buf with
      | .chunked   =>
        match findFrom terminal buf (extractHeader buf).length with
        | none     => 0
        | some pos => pos + terminal.length
      | .length    =>
        match stoul 10 (lastField (headerFields (extractHeader buf)) contentLength) with
        | none   => 0
        | some n => ((extractHeader buf).length + n) % 2 ^ 64
      | .multipart =>
        (multipartEnd (multipartBoundary (lastField (headerFields (extractHeader buf)) contentType))
          buf (extractHeader buf).length).getD 0
      | .none      => (extractHeader buf).length := by
  rw [length_extractHeader h, framing, extractHeader_of_find h, messageLength, h]
  dsimp only
  split_ifs <;> rfl

/-- The bytes after the header are the ones that the length was computed for. -/
lemma multipartEnd_take {boundary buf : Bytes} {start fin : ℕ}
    (h : multipartEnd boundary buf start = some fin) :
    multipartEnd boundary (buf.take fin) start = some fin := by
  obtain ⟨pos, hpos, hfin⟩ := Option.map_eq_some_iff.mp h
  rw [multipartEnd]
  dsimp only at hfin ⊢
  split_ifs at hfin with hcrlf <;> subst hfin
  · rw [findFrom_take hpos (Nat.le_add_right _ 2), Option.map_some,
      if_pos (by rw [List.drop_take, List.take_take]; simpa using hcrlf)]
  · rw [findFrom_take hpos le_rfl, Option.map_some, if_neg]
    rw [List.drop_take, Nat.sub_self, List.take_zero, List.take_nil]
    exact nofun

/-- A buffer that ends before its header does has no body. -/
lemma rawBody_of_not_find {s raw : Bytes} {h : Http} (hheader : h.header = s)
    (hraw : rawBody s h = some raw) : raw = [] := by
  have hnil : s.drop h.header.length = [] := by rw [hheader, List.drop_length]
  simp only [rawBody, hnil] at hraw
  split_ifs at hraw
  · exact (Option.some.inj hraw).symm
  · obtain ⟨n, -, rfl⟩ := Option.map_eq_some_iff.mp hraw
    exact List.take_nil
  · exact (Option.some.inj hraw).symm
  · split at hraw
    · exact (Option.some.inj hraw).symm
    · rename_i fin _
      have hdrop : (s.take fin).drop h.header.length = [] := by
        rw [List.drop_eq_nil_iff, hheader, List.length_take]
        exact min_le_right _ _
      rw [hdrop] at hraw
      exact (Option.some.inj hraw).symm
  · exact (Option.some.inj hraw).symm

/-- The body of a whole header, under the rule that determined the length. -/
lemma bodyAgrees_of_le {buf raw : Bytes} {h₀ : Http} {params : List (Bytes × Bytes)} {i : ℕ}
    (hfind : find sep buf = some i) (hpos : 0 < messageLength buf)
    (hle : messageLength buf ≤ buf.length) (hn : i + sep.length ≤ messageLength buf)
    (hbuf : Unambiguous buf) (hspec : HeaderRead (buf.take (messageLength buf)) h₀ params)
    (hraw : rawBody (buf.take (messageLength buf)) h₀ = some raw) : BodyAgrees buf raw := by
  have hheader := extractHeader_take hfind hn
  obtain ⟨method, path, hline⟩ := hspec.query
  rw [hheader] at hline
  have hget : ∀ name ∈ (framing buf).names,
      h₀.getElement name = lastField (headerFields (extractHeader buf)) name := by
    intro name hname
    have hsingle := hbuf method path params hline name hname
    rw [← hheader] at hsingle ⊢
    exact getElement_eq_lastField hspec hsingle
  have hlen := messageLength_of_find hfind
  have hheaderLen : h₀.header.length = (extractHeader buf).length := by
    rw [hspec.header, hheader]
  rw [rawBody, hheaderLen] at hraw
  rw [BodyAgrees]
  have hrule := framing_spec buf
  cases hframing : framing buf with
  | chunked =>
    rw [hframing] at hrule hget
    rw [hget transferEncoding (by simp [Framing.names]), if_pos hrule] at hraw
    exact hraw
  | length =>
    rw [hframing] at hrule hlen hget
    rw [hget transferEncoding (by simp [Framing.names]),
      hget contentLength (by simp [Framing.names]), if_neg hrule.1, if_pos hrule.2,
      if_pos (by rw [length_extractHeader hfind]; exact Nat.add_pos_right i (by decide))] at hraw
    obtain ⟨n, hn', rfl⟩ := Option.map_eq_some_iff.mp hraw
    rw [hn'] at hlen
    dsimp only at hlen
    -- the number of the field counts at least the bytes up to the length
    refine List.take_of_length_le ?_
    rw [List.length_drop, List.length_take, min_eq_left hle, hlen]
    exact Nat.sub_le_iff_le_add'.mpr (Nat.mod_le _ _)
  | multipart =>
    rw [hframing] at hrule hlen hget
    cases hend : multipartEnd (multipartBoundary (lastField (headerFields (extractHeader buf))
        contentType)) buf (extractHeader buf).length with
    | none =>
      rw [hend] at hlen
      exact absurd hlen (Nat.pos_iff_ne_zero.mp hpos)
    | some fin =>
      rw [hend] at hlen
      dsimp only [Option.getD_some] at hlen
      rw [hget transferEncoding (by simp [Framing.names]),
        hget contentLength (by simp [Framing.names]), hget contentType (by simp [Framing.names]),
        if_neg hrule.1, if_neg (not_not.mpr hrule.2.1)] at hraw
      dsimp only at hraw
      rw [if_pos hrule.2.2, hlen, multipartEnd_take hend] at hraw
      dsimp only at hraw ⊢
      rw [afterHeader, hlen, ← Option.some.inj hraw, List.take_take, min_self]
  | none =>
    rw [hframing] at hrule hget
    rw [hget transferEncoding (by simp [Framing.names]),
      hget contentLength (by simp [Framing.names]), hget contentType (by simp [Framing.names]),
      if_neg hrule.1, if_neg (not_not.mpr hrule.2.1)] at hraw
    dsimp only at hraw
    rw [if_neg (not_not.mpr hrule.2.2)] at hraw
    exact (Option.some.inj hraw).symm

/-- The rule of a length that ends before the header does is the one of a number that wrapped
around. -/
lemma bodyAgrees_of_lt {buf raw : Bytes} {h₀ : Http} {params : List (Bytes × Bytes)} {i : ℕ}
    (hfind : find sep buf = some i) (hn : messageLength buf < i + sep.length)
    (hspec : HeaderRead (buf.take (messageLength buf)) h₀ params)
    (hraw : rawBody (buf.take (messageLength buf)) h₀ = some raw) : BodyAgrees buf raw := by
  have hnil : raw = [] :=
    rawBody_of_not_find (by rw [hspec.header, extractHeader_take_of_lt hfind hn]) hraw
  have hafter : afterHeader buf = [] := by
    rw [afterHeader, List.drop_eq_nil_iff, List.length_take, length_extractHeader hfind]
    omega
  rw [BodyAgrees, hafter, hnil]
  cases framing buf <;> rfl

/-- Where the framing of a request is said once, the body is computed from what determined the
length: the decoded chunks, the bytes after the header, or nothing. -/
theorem framing_agrees (decompress : Bytes → Bytes → Bytes) (buf : Bytes)
    (hpos : 0 < messageLength buf) (hle : messageLength buf ≤ buf.length) (hbuf : Unambiguous buf)
    (h : Http) (hh : ofBytes decompress (buf.take (messageLength buf)) = some h) :
    ∃ raw, BodyAgrees buf raw ∧
      h.body = decodeContent decompress (h.getElement contentEncoding) raw := by
  obtain ⟨params, raw, h₀, hspec, hraw, rfl⟩ := ofBytes_spec hh
  refine ⟨raw, ?_, rfl⟩
  cases hfind : find sep buf with
  | none =>
    rw [messageLength, hfind] at hpos
    exact absurd hpos (lt_irrefl 0)
  | some i =>
    rcases le_or_gt (i + sep.length) (messageLength buf) with hn | hn
    · exact bodyAgrees_of_le hfind hpos hle hn hbuf hspec hraw
    · exact bodyAgrees_of_lt hfind hn hspec hraw

/-- A POST with a length, and the first byte of what follows it. -/
def lengthRequest : Bytes := Bytes.ofString "POST /a HTTP/1.1\r\nContent-Length: 2\r\n\r\nxyG"

theorem framing_agrees_length :
    (0 < messageLength lengthRequest ∧ messageLength lengthRequest < lengthRequest.length) ∧
    ∃ raw, BodyAgrees lengthRequest raw ∧
      Bytes.ofString "xy" = decodeContent (fun s _ => s) [] raw := by
  have hh : ofBytes (fun s _ => s) (lengthRequest.take (messageLength lengthRequest)) =
      some
        { header := Bytes.ofString "POST /a HTTP/1.1\r\nContent-Length: 2\r\n\r\n"
          tokenMap := [(Bytes.ofString "content-length", Bytes.ofString "2")]
          method := Bytes.ofString "POST"
          uriName := Bytes.ofString "/a"
          body := Bytes.ofString "xy" } := by
    decide +kernel
  have hfields : headerFields (extractHeader lengthRequest) =
      [(contentLength, Bytes.ofString "2")] := by
    decide +kernel
  have hline : parseRequestLine (requestLine (extractHeader lengthRequest)) =
      some (Bytes.ofString "POST", Bytes.ofString "/a", []) := by
    decide +kernel
  have hbuf : Unambiguous lengthRequest := by
    intro method path params hparams name hname
    rw [hline] at hparams
    cases hparams
    rw [hfields]
    have hframing : framing lengthRequest = .length := by decide +kernel
    rw [hframing] at hname
    refine ⟨fun f hf => absurd hf List.not_mem_nil, ?_, ?_⟩
    · intro f hf heq
      rw [List.mem_singleton.mp hf] at heq ⊢
      rcases List.mem_pair.mp hname with rfl | rfl
      · exact absurd heq (by decide)
      · rfl
    · intro f hf g hg _ _
      rw [List.mem_singleton.mp hf, List.mem_singleton.mp hg]
  have hlen : messageLength lengthRequest = 41 := by decide +kernel
  have hpos : 0 < messageLength lengthRequest := by rw [hlen]; exact Nat.succ_pos 40
  have hle : messageLength lengthRequest < lengthRequest.length := by rw [hlen]; decide
  exact ⟨⟨hpos, hle⟩, framing_agrees (fun s _ => s) lengthRequest hpos hle.le hbuf _ hh⟩

/-- The body where only a length or chunks give one. -/
def BodyOfLengthOrChunks (buf raw : Bytes) : Prop :=
  match framing buf with
  | .chunked   => decodeChunked (afterHeader buf) = some raw
  | .length    => raw = afterHeader buf
  | .multipart => raw = []
  | .none      => raw = []

/-- A form without a length, which ends at its boundary. -/
def formRequest : Bytes :=
  Bytes.ofString
    "POST /a HTTP/1.1\r\nContent-Type: multipart/form-data; boundary=b\r\n\r\n--b--\r\n"

/-- A form without a length has a body all the same. -/
theorem form_body_not_empty :
    ¬ ∀ (buf : Bytes) (h : Http), 0 < messageLength buf → messageLength buf ≤ buf.length →
      ofBytes (fun s _ => s) (buf.take (messageLength buf)) = some h →
      ∃ raw, BodyOfLengthOrChunks buf raw ∧
        h.body = decodeContent (fun s _ => s) (h.getElement contentEncoding) raw := by
  intro hclaim
  have hlen : messageLength formRequest = 74 := by decide +kernel
  have hh : (ofBytes (fun s _ => s) (formRequest.take (messageLength formRequest))).map
      (·.body) = some (Bytes.ofString "--b--\r\n") := by
    decide +kernel
  obtain ⟨h, hread, hbody⟩ := Option.map_eq_some_iff.mp hh
  have hframing : framing formRequest = .multipart := by decide +kernel
  obtain ⟨raw, hraw, heq⟩ := hclaim formRequest h (by rw [hlen]; exact Nat.succ_pos 73)
    (by rw [hlen]; decide) hread
  rw [BodyOfLengthOrChunks, hframing] at hraw
  dsimp only at hraw
  rw [hraw, hbody] at heq
  cases heq

end Http
