import OnPremPbx.Http.RequestText
import OnPremPbx.Http.Url
import OnPremPbx.Pbx.PushSender
import OnPremPbx.Text.Dump

/-!
# Requests to push services

`AceHttpsClient` (`ace_https_client.cpp`) takes the endpoint of a subscription apart at its first
slash and its first colon, and puts the parts into a request as they are. The request is the one
that is meant if the parts have no characters but those of a URL.
-/

open Text

namespace PushSender

/-! ### The headers of a notification -/

def kB64Alphabet : Bytes :=
  Bytes.ofString "ABCDEFGHIJKLMNOPQRSTUVWXYZabcdefghijklmnopqrstuvwxyz0123456789-_"

/-- The letter for the last six bits of a number. -/
def b64Letter (n : ℕ) : UInt8 := kB64Alphabet.getD (n &&& 0x3F) 0

def b64urlEncode : Bytes → Bytes
  | b₀ :: b₁ :: b₂ :: raw =>
    b64Letter (b₀.toNat >>> 2) :: b64Letter (b₀.toNat <<< 4 ||| b₁.toNat >>> 4) ::
      b64Letter (b₁.toNat <<< 2 ||| b₂.toNat >>> 6) :: b64Letter b₂.toNat :: b64urlEncode raw
  | [b₀, b₁]              =>
    [b64Letter (b₀.toNat >>> 2), b64Letter (b₀.toNat <<< 4 ||| b₁.toNat >>> 4),
      b64Letter (b₁.toNat <<< 2)]
  | [b₀]                  => [b64Letter (b₀.toNat >>> 2), b64Letter (b₀.toNat <<< 4)]
  | []                    => []

/-- The part of a URL before its path. -/
def originOf (url : Bytes) : Bytes :=
  match find (Bytes.ofString "://") url with
  | none        => url
  | some scheme =>
    match findFrom [0x2F] url (scheme + 3) with
    | none         => url
    | some hostEnd => url.take hostEnd

/-- What the signature of a notification is made with. -/
structure Vapid where
  /-- `json::dump` -/
  dump : Json → Option Bytes
  /-- `ecdsa_sign` with the private key, with `none` where it throws -/
  sign : Bytes → Option Bytes
  /-- `p256_public_from_pem` of the private key -/
  publicKey : Bytes
  subject : Bytes
  jwtExpSeconds : ℤ

variable (v : Vapid)

def signVapidJwt (endpointOrigin : Bytes) (now : ℤ) : Option Bytes := do
  let claims ← v.dump (.object [(Bytes.ofString "aud", .string endpointOrigin),
    (Bytes.ofString "exp", .number (Decimal.ofInt (now + v.jwtExpSeconds))),
    (Bytes.ofString "sub", .string v.subject)])
  let signingInput :=
    b64urlEncode (Bytes.ofString "\x7b\"typ\":\"JWT\",\"alg\":\"ES256\"\x7d") ++
      Bytes.ofString "." ++ b64urlEncode claims
  let sig ← v.sign signingInput
  some (signingInput ++ Bytes.ofString "." ++ b64urlEncode sig)

def buildVapidAuth (endpointOrigin : Bytes) (now : ℤ) : Option Bytes :=
  (signVapidJwt v endpointOrigin now).map fun jwt =>
    Bytes.ofString "vapid t=" ++ jwt ++ Bytes.ofString ", k=" ++ b64urlEncode v.publicKey

/-- The headers of `notify`. -/
def notifyHeaders (vapidAuth : Bytes) : List (Bytes × Bytes) :=
  [(Bytes.ofString "Authorization", vapidAuth),
    (Bytes.ofString "Content-Encoding", Bytes.ofString "aes128gcm"),
    (Bytes.ofString "Content-Type", Bytes.ofString "application/octet-stream"),
    (Bytes.ofString "TTL", Bytes.ofString "60")]

/-- A delivery has the headers with the signature for its endpoint. -/
lemma headers_of_delivery {cfg : Config} {payload : Bytes} {sub : Json} {d : Delivery}
    (h : delivery cfg payload sub = some (some d)) :
    ∃ auth, cfg.vapidAuth d.endpoint = some auth ∧ d.headers = notifyHeaders auth := by
  rw [delivery] at h
  split at h
  · simp only [Option.bind_eq_bind, Option.bind_eq_some_iff, Option.some.injEq] at h
    obtain ⟨subId, -, body, -, auth, hauth, rfl⟩ := h
    exact ⟨auth, hauth, rfl⟩
  · cases h
  · cases h

end PushSender

namespace AceHttpsClient

/-! ### The client -/

structure ParsedUrl where
  host : Bytes
  port : ℕ
  pathAndQuery : Bytes
  deriving DecidableEq, Repr

/-- The port of an authority, with `none` where there is a colon and no port after it. -/
def portOf (authority : Bytes) : Option ℕ :=
  match authority.dropWhile (· ≠ 0x3A) with
  | []           => some 443
  | _ :: portStr =>
    (stoi portStr).bind fun p => if p ≤ 0 ∨ p > 65535 then none else some p.toNat

/-- The URL is cut at its first slash. -/
def authorityOf (url : Bytes) : Bytes := (url.drop 8).takeWhile (· ≠ 0x2F)

def pathOf (url : Bytes) : Bytes := (url.drop 8).dropWhile (· ≠ 0x2F)

/-- `parse_url`, with `none` where `ok` is false. -/
def parseUrl (url : Bytes) : Option ParsedUrl :=
  if Bytes.ofString "https://" <+: url then
    let authority := authorityOf url
    if authority = [] then none
    else
      (portOf authority).bind fun port =>
        let host := authority.takeWhile (· ≠ 0x3A)
        if host = [] then none
        else some ⟨host, port, if pathOf url = [] then Bytes.ofString "/" else pathOf url⟩
  else none

/-- The headers that the client controls. -/
def controlled : List Bytes := ["Host", "Content-Length", "Connection"].map Bytes.ofString

def buildRequest (host path : Bytes) (headers : List (Bytes × Bytes)) (body : Bytes) : Bytes :=
  Bytes.ofString "POST " ++ path ++ Bytes.ofString " HTTP/1.1\r\n" ++
    Bytes.ofString "Host: " ++ host ++ CRLF ++
    ((headers.filter fun h => h.1 ∉ controlled).map fun h =>
      h.1 ++ Bytes.ofString ": " ++ h.2 ++ CRLF).flatten ++
    Bytes.ofString "Content-Length: " ++ Decimal.ofNat body.length ++ CRLF ++
    Bytes.ofString "Connection: close\r\n" ++ CRLF ++ body

/-- The fields of a request. -/
def requestFields (host : Bytes) (headers : List (Bytes × Bytes)) (body : Bytes) :
    List (Bytes × Bytes) :=
  (Bytes.ofString "Host", host) :: headers ++
    [(Bytes.ofString "Content-Length", Decimal.ofNat body.length),
      (Bytes.ofString "Connection", Bytes.ofString "close")]

lemma textLines_append (ls ms : List Bytes) :
    Http.textLines (ls ++ ms) = (ls.map (· ++ CRLF)).flatten ++ Http.textLines ms := by
  induction ls with
  | nil => rfl
  | cons l ls ih =>
    rw [List.cons_append, Http.textLines, ih, List.map_cons, List.flatten_cons]
    simp only [List.append_assoc]

lemma buildRequest_eq (host path : Bytes) {headers : List (Bytes × Bytes)}
    (hheaders : ∀ h ∈ headers, h.1 ∉ controlled) (body : Bytes) :
    buildRequest host path headers body =
      Http.headerText (AriRestClient.requestLine (Bytes.ofString "POST") path)
        (requestFields host headers body) ++ body := by
  have hfilter : headers.filter (fun h => h.1 ∉ controlled) = headers :=
    List.filter_eq_self.mpr fun h hh => decide_eq_true (hheaders h hh)
  have hlines : (headers.map fun h => h.1 ++ Bytes.ofString ": " ++ h.2 ++ CRLF) =
      (headers.map Http.fieldLine).map (· ++ CRLF) := by
    rw [List.map_map]
    congr 1
    funext h
    rw [Function.comp_apply, Http.fieldLine, show Bytes.ofString ": " = [0x3A, 0x20] by decide]
    simp only [List.append_assoc, List.cons_append, List.nil_append]
  have hline : Bytes.ofString "POST " ++ path ++ Bytes.ofString " HTTP/1.1\r\n" =
      AriRestClient.requestLine (Bytes.ofString "POST") path ++ CRLF := by
    have hpost : Bytes.ofString "POST " = Bytes.ofString "POST" ++ [0x20] := by decide
    have hversion : Bytes.ofString " HTTP/1.1\r\n" = 0x20 :: Bytes.ofString "HTTP/1.1" ++ CRLF := by
      decide
    rw [AriRestClient.requestLine, hpost, hversion]
    simp [List.intercalate_cons_cons]
  have hlength : Bytes.ofString "Content-Length: " =
      Bytes.ofString "Content-Length" ++ [0x3A, 0x20] := by decide
  have hclose : Bytes.ofString "Connection: close\r\n" =
      Bytes.ofString "Connection" ++ 0x3A :: 0x20 :: Bytes.ofString "close" ++ CRLF := by decide
  have hhost : Bytes.ofString "Host: " = Bytes.ofString "Host" ++ [0x3A, 0x20] := by decide
  rw [buildRequest, hfilter, hlines, hline, hlength, hclose, hhost, Http.headerText, requestFields,
    List.map_append, List.map_cons, List.cons_append, Http.textLines, Http.textLines,
    textLines_append]
  simp only [List.map_cons, List.map_nil, Http.textLines, Http.fieldLine, List.append_assoc,
    List.cons_append, List.nil_append]

/-! ### The meaning of a URL -/

open AriRestClient PushSender

/-- The request is the one that the URL stands for, and so is the origin that is signed. -/
structure Exact (v : Vapid) (url : Bytes) (u : ParsedUrl) : Prop where
  reading : Url.read url = some ⟨u.host, u.port, u.pathAndQuery⟩
  origin : originOf url = Url.origin url
  request : ∀ now auth body, buildVapidAuth v (originOf url) now = some auth →
    Http.readOne (buildRequest u.host u.pathAndQuery (notifyHeaders auth) body) =
      some ⟨Bytes.ofString "POST", u.pathAndQuery, requestFields u.host (notifyHeaders auth) body,
        body⟩

/-- A URL that is not refused has a meaning, and the requests for it have the same. -/
structure Meant (v : Vapid) (url : Bytes) : Prop where
  exact : ∀ u, parseUrl url = some u → Exact v url u
  refused : Url.read url = none → parseUrl url = none

/-- What is taken for the host, for the port and for the path has the characters of one. -/
structure WellFormed (url : Bytes) : Prop where
  host : ∀ c ∈ (authorityOf url).takeWhile (· ≠ 0x3A), Url.isHostChar c = true
  port : ∀ c ∈ ((authorityOf url).dropWhile (· ≠ 0x3A)).tail, isDigit 10 c = true
  path : ∀ c ∈ pathOf url, Url.isPathChar c = true

lemma wellFormed_iff {url : Bytes} : WellFormed url ↔
    (∀ c ∈ (authorityOf url).takeWhile (· ≠ 0x3A), Url.isHostChar c = true) ∧
    (∀ c ∈ ((authorityOf url).dropWhile (· ≠ 0x3A)).tail, isDigit 10 c = true) ∧
    ∀ c ∈ pathOf url, Url.isPathChar c = true :=
  ⟨fun h => ⟨h.host, h.port, h.path⟩, fun ⟨hhost, hport, hpath⟩ => ⟨hhost, hport, hpath⟩⟩

instance (url : Bytes) : Decidable (WellFormed url) :=
  decidable_of_iff
    ((((authorityOf url).takeWhile (· ≠ 0x3A)).all Url.isHostChar &&
      ((((authorityOf url).dropWhile (· ≠ 0x3A)).tail).all (isDigit 10) &&
        (pathOf url).all Url.isPathChar)) = true) (by
    rw [wellFormed_iff, Bool.and_eq_true, Bool.and_eq_true, List.all_eq_true, List.all_eq_true,
      List.all_eq_true])

variable {url : Bytes} {u : ParsedUrl} {v : Vapid}

/-- A URL that is not refused, in its parts. -/
structure Parsed (url : Bytes) (u : ParsedUrl) : Prop where
  scheme : Url.scheme <+: url
  host : u.host = (authorityOf url).takeWhile (· ≠ 0x3A)
  host_ne_nil : u.host ≠ []
  port : portOf (authorityOf url) = some u.port
  path : u.pathAndQuery = if pathOf url = [] then Bytes.ofString "/" else pathOf url

lemma parsed_of_some (h : parseUrl url = some u) : Parsed url u := by
  rw [parseUrl, Option.ite_none_right_eq_some] at h
  obtain ⟨hscheme, h⟩ := h
  dsimp only at h
  rw [Option.ite_none_left_eq_some] at h
  obtain ⟨port, hport, h⟩ := Option.bind_eq_some_iff.mp h.2
  rw [Option.ite_none_left_eq_some] at h
  obtain ⟨hhost, heq⟩ := h
  cases heq
  exact ⟨hscheme, rfl, hhost, hport, rfl⟩

lemma authority_append_path (url : Bytes) : authorityOf url ++ pathOf url = url.drop 8 :=
  List.takeWhile_append_dropWhile

lemma slash_of_mem_head : ∀ c ∈ (pathOf url).head?, c = 0x2F := by
  intro c hc
  simpa using Url.head_dropWhile (p := fun c : UInt8 => c ≠ 0x2F) (url.drop 8) c hc

lemma slash_not_mem_authority : (0x2F : UInt8) ∉ authorityOf url := by
  intro hmem
  have hne := List.mem_takeWhile_imp (p := fun c : UInt8 => decide (c ≠ 0x2F)) hmem
  exact absurd rfl (of_decide_eq_true hne)

/-! ### The two cuts -/

/-- A port of digits is read as it is. -/
lemma readPort_of_digits {ds : Bytes} {port : ℕ} (hds : ∀ c ∈ ds, isDigit 10 c = true)
    (h : (stoi ds).bind (fun p => if p ≤ 0 ∨ p > 65535 then none else some p.toNat) = some port) :
    Url.readPort ds = some port := by
  obtain ⟨p, hp, h⟩ := Option.bind_eq_some_iff.mp h
  split_ifs at h with hrange
  cases h
  rw [not_or, not_le, not_lt] at hrange
  have hne : ds ≠ [] := by
    rintro rfl
    cases hp
  rw [stoi, readNumber_digits (by decide) hne hds] at hp
  simp only [Bool.false_eq_true, if_false, Option.ite_none_right_eq_some, Option.some.injEq] at hp
  obtain ⟨-, rfl⟩ := hp
  rw [Url.readPort, if_pos ⟨hne, List.all_eq_true.mpr hds⟩, if_pos (by omega), Int.toNat_natCast]

lemma WellFormed.readAuthority (h : WellFormed url) (hu : Parsed url u) :
    Url.readAuthority (authorityOf url) = some (u.host, u.port) := by
  have hhost := hu.host_ne_nil
  rw [hu.host] at hhost
  rw [Url.readAuthority, if_pos ⟨hhost, List.all_eq_true.mpr h.host⟩, hu.host]
  have hport := hu.port
  have hdigits := h.port
  rw [portOf] at hport
  cases hdrop : (authorityOf url).dropWhile (· ≠ 0x3A) with
  | nil =>
    rw [hdrop] at hport
    rw [← Option.some.inj hport]
  | cons colon ds =>
    rw [hdrop, List.tail_cons] at hdigits
    rw [hdrop] at hport
    dsimp only
    rw [readPort_of_digits hdigits hport, Option.map_some]

/-- Where the characters are those of a URL, the authority has no mark that ends it before. -/
lemma WellFormed.inAuthority (h : WellFormed url) :
    ∀ c ∈ authorityOf url, Url.inAuthority c = true := by
  intro c hc
  rw [← List.takeWhile_append_dropWhile (p := fun c : UInt8 => c ≠ 0x3A) (l := authorityOf url)]
    at hc
  rcases List.mem_append.mp hc with hc | hc
  · exact Url.inAuthority_of_isHostChar (h.host c hc)
  · cases hdrop : (authorityOf url).dropWhile (· ≠ 0x3A) with
    | nil =>
      rw [hdrop] at hc
      exact absurd hc List.not_mem_nil
    | cons colon ds =>
      have hport := h.port
      have hcolon := Url.head_dropWhile (p := fun c : UInt8 => c ≠ 0x3A) (authorityOf url) colon
        (by rw [hdrop]; rfl)
      rw [hdrop] at hc hport
      rcases List.mem_cons.mp hc with rfl | hc
      · rw [show c = 0x3A by simpa using hcolon]
        decide
      · exact Url.inAuthority_of_isHostChar (Url.isHostChar_of_isDigit (hport c hc))

lemma WellFormed.cut (h : WellFormed url) :
    Url.authorityOf url = authorityOf url ∧ Url.restOf url = pathOf url := by
  have hcut := Url.cut_append (p := Url.inAuthority) h.inAuthority (r := pathOf url) fun c hc => by
    rw [slash_of_mem_head c hc]
    decide
  rw [authority_append_path] at hcut
  exact hcut

lemma WellFormed.read (h : WellFormed url) (hu : Parsed url u) :
    Url.read url = some ⟨u.host, u.port, u.pathAndQuery⟩ := by
  obtain ⟨hauthority, hrest⟩ := h.cut
  rw [Url.read, if_pos hu.scheme, hauthority, hrest, h.readAuthority hu, hu.path, Url.readPath]
  split_ifs with hnil hpath
  · rfl
  · rfl
  · refine absurd ⟨?_, List.all_eq_true.mpr h.path⟩ hpath
    obtain ⟨c, path, hcons⟩ := List.exists_cons_of_ne_nil hnil
    rw [hcons, List.head?_cons, slash_of_mem_head c (by rw [hcons]; rfl)]

/-- A URL with a meaning is cut where its parts are. -/
lemma wellFormed_of_read {t : Url.Target} (h : Url.read url = some t) : WellFormed url := by
  rw [Url.read] at h
  split_ifs at h with hscheme
  simp only [Option.bind_eq_bind, Option.bind_eq_some_iff] at h
  obtain ⟨⟨host, port⟩, hauthority, path, hpath, -⟩ := h
  have hhead : ∀ c ∈ (Url.restOf url).head?, c = 0x2F := by
    rw [Url.readPath] at hpath
    split_ifs at hpath with hnil hslash
    · rw [hnil]
      nofun
    · rw [hslash.1]
      rintro _ ⟨⟩
      rfl
  have hchars : ∀ c ∈ Url.restOf url, Url.isPathChar c = true := by
    rw [Url.readPath] at hpath
    split_ifs at hpath with hnil hslash
    · rw [hnil]
      nofun
    · exact List.all_eq_true.mp hslash.2
  have hcut := Url.cut_append (p := fun c : UInt8 => c ≠ 0x2F) (l := Url.authorityOf url)
    (r := Url.restOf url)
    (fun c hc => decide_eq_true fun heq => by
      have hin := List.mem_takeWhile_imp hc
      rw [heq] at hin
      exact absurd hin (by decide))
    (fun c hc => by rw [hhead c hc]; decide)
  rw [show Url.authorityOf url ++ Url.restOf url = url.drop 8 from
    List.takeWhile_append_dropWhile] at hcut
  have hauth : authorityOf url = Url.authorityOf url := hcut.1
  have hrest : pathOf url = Url.restOf url := hcut.2
  rw [Url.readAuthority] at hauthority
  split_ifs at hauthority with hhost
  refine ⟨?_, ?_, ?_⟩
  · rw [hauth]
    exact List.all_eq_true.mp hhost.2
  · rw [hauth]
    split at hauthority
    · next hdrop =>
      rw [hdrop]
      nofun
    · next colon ds hdrop =>
      rw [hdrop]
      obtain ⟨p, hp, -⟩ := Option.map_eq_some_iff.mp hauthority
      rw [Url.readPort] at hp
      split_ifs at hp with hdigits
      exact List.all_eq_true.mp hdigits.2
  · rw [hrest]
    exact hchars

/-! ### The origin -/

lemma originOf_eq (hscheme : Url.scheme <+: url) :
    originOf url = Url.scheme ++ authorityOf url := by
  obtain ⟨remainder, rfl⟩ := hscheme
  have hsplit : Url.scheme ++ remainder =
      Bytes.ofString "https" ++ (0x3A :: [0x2F, 0x2F] ++ remainder) := by
    rw [show Url.scheme = Bytes.ofString "https" ++ 0x3A :: [0x2F, 0x2F] by decide,
      List.append_assoc]
  have hdrop : (Url.scheme ++ remainder).drop 8 = remainder := List.drop_left' (by decide)
  have hfind : find (Bytes.ofString "://") (Url.scheme ++ remainder) = some 5 := by
    rw [hsplit, show Bytes.ofString "://" = 0x3A :: [0x2F, 0x2F] by decide,
      find_skip (by decide), find_of_prefix (List.prefix_append _ _)]
    rfl
  have hle : 5 + 3 ≤ (Url.scheme ++ remainder).length := by
    rw [List.length_append, show Url.scheme.length = 8 by decide]
    omega
  have hcut := authority_append_path (Url.scheme ++ remainder)
  rw [hdrop] at hcut
  have hslash := @slash_not_mem_authority (Url.scheme ++ remainder)
  have hhead := @slash_of_mem_head (Url.scheme ++ remainder)
  rw [originOf, hfind]
  dsimp only
  rw [findFrom, if_pos hle, show (Url.scheme ++ remainder).drop (5 + 3) = remainder from hdrop]
  -- the slash that is found is the one that ends the authority
  cases hpath : pathOf (Url.scheme ++ remainder) with
  | nil =>
    rw [hpath, List.append_nil] at hcut
    rw [hcut] at hslash
    rw [find_char_of_not_mem hslash, Option.map_none, hcut]
  | cons c path =>
    rw [hpath] at hcut hhead
    rw [show c = 0x2F from hhead c rfl] at hcut
    have hfound : find [0x2F] remainder = some (authorityOf (Url.scheme ++ remainder)).length := by
      nth_rewrite 1 [← hcut]
      exact find_char hslash path
    rw [hfound, Option.map_some]
    dsimp only
    nth_rewrite 2 [← hcut]
    rw [← List.append_assoc]
    apply List.take_left'
    rw [List.length_append, show Url.scheme.length = 8 by decide]
    omega

/-! ### The request -/

lemma b64Letter_mem (n : ℕ) : b64Letter n ∈ kB64Alphabet := by
  have hlt : n &&& 0x3F < kB64Alphabet.length := Nat.lt_succ_of_le Nat.and_le_right
  rw [b64Letter, List.getD_eq_getElem?_getD, List.getElem?_eq_getElem hlt, Option.getD_some]
  exact List.getElem_mem hlt

lemma mem_b64urlEncode (raw : Bytes) : ∀ c ∈ b64urlEncode raw, c ∈ kB64Alphabet := by
  fun_induction b64urlEncode raw with
  | case1 b₀ b₁ b₂ raw ih =>
    simp only [List.forall_mem_cons]
    exact ⟨b64Letter_mem _, b64Letter_mem _, b64Letter_mem _, b64Letter_mem _, ih⟩
  | case2 b₀ b₁ => simp [b64Letter_mem]
  | case3 b₀ => simp [b64Letter_mem]
  | case4 => simp

lemma inLine_b64urlEncode (raw : Bytes) : InLine (b64urlEncode raw) := by
  have hnot : Http.CR ∉ kB64Alphabet ∧ Http.LF ∉ kB64Alphabet := by decide
  exact ⟨fun hmem => hnot.1 (mem_b64urlEncode raw _ hmem),
    fun hmem => hnot.2 (mem_b64urlEncode raw _ hmem)⟩

lemma inLine_of_buildVapidAuth {origin auth : Bytes} {now : ℤ}
    (h : buildVapidAuth v origin now = some auth) : InLine auth := by
  obtain ⟨jwt, hjwt, rfl⟩ := Option.map_eq_some_iff.mp h
  simp only [signVapidJwt, Option.bind_eq_bind, Option.bind_eq_some_iff, Option.some.injEq] at hjwt
  obtain ⟨claims, -, sig, -, rfl⟩ := hjwt
  repeat' apply inLine_append
  all_goals first | exact inLine_b64urlEncode _ | decide

lemma not_controlled_notifyHeaders {auth : Bytes} :
    ∀ h ∈ notifyHeaders auth, h.1 ∉ controlled := by
  simp only [notifyHeaders, List.forall_mem_cons, List.not_mem_nil, false_implies, implies_true,
    and_true]
  decide

lemma isField_requestFields {host auth body : Bytes} (hhost : InLine host) (hauth : InLine auth) :
    ∀ f ∈ requestFields host (notifyHeaders auth) body, Http.IsField f := by
  simp only [requestFields, notifyHeaders, List.cons_append, List.nil_append, List.forall_mem_cons,
    List.not_mem_nil, false_implies, implies_true, and_true]
  exact ⟨isField_of (by decide) hhost, isField_of (by decide) hauth,
    isField_of (by decide) (by decide), isField_of (by decide) (by decide),
    isField_of (by decide) (by decide), isField_of (by decide) (inLine_ofNat _),
    isField_of (by decide) (by decide)⟩

/-- What a text of URL characters has none of. -/
lemma isWord_of_isPathChar {path : Bytes} (h : ∀ c ∈ path, Url.isPathChar c = true) :
    Http.IsWord path :=
  ⟨fun hmem => Url.ne_of_isPathChar (h _ hmem) (by decide) rfl,
    fun hmem => Url.ne_of_isPathChar (h _ hmem) (by decide) rfl,
    fun hmem => Url.ne_of_isPathChar (h _ hmem) (by decide) rfl⟩

lemma inLine_of_isHostChar {host : Bytes} (h : ∀ c ∈ host, Url.isHostChar c = true) :
    InLine host :=
  ⟨fun hmem => Url.ne_of_isHostChar (h _ hmem) (by decide) rfl,
    fun hmem => Url.ne_of_isHostChar (h _ hmem) (by decide) rfl⟩

lemma readOne_buildRequest {host path auth : Bytes} (hhost : InLine host)
    (hpath : Http.IsWord path) (hauth : InLine auth) (body : Bytes) :
    Http.readOne (buildRequest host path (notifyHeaders auth) body) =
      some ⟨Bytes.ofString "POST", path, requestFields host (notifyHeaders auth) body, body⟩ := by
  rw [buildRequest_eq host path not_controlled_notifyHeaders]
  exact Http.readOne_headerText (by decide) hpath (isField_requestFields hhost hauth)
    (Http.bodyLength_ofNat rfl)

lemma WellFormed.exact (h : WellFormed url) (hu : Parsed url u) : Exact v url u where
  reading := h.read hu
  origin := by rw [originOf_eq hu.scheme, Url.origin, h.cut.1]
  request now auth body hauth := by
    have hhost : InLine u.host := by
      rw [hu.host]
      exact inLine_of_isHostChar h.host
    have hpath : Http.IsWord u.pathAndQuery := by
      rw [hu.path]
      split_ifs
      · decide
      · exact isWord_of_isPathChar h.path
    exact readOne_buildRequest hhost hpath (inLine_of_buildVapidAuth hauth) body

lemma meant_iff : Meant v url ↔ ((parseUrl url).isSome → WellFormed url) := by
  constructor
  · intro hmeant hsome
    obtain ⟨u, hu⟩ := Option.isSome_iff_exists.mp hsome
    exact wellFormed_of_read (hmeant.exact u hu).reading
  · intro h
    have hwell : ∀ u, parseUrl url = some u → WellFormed url := fun u hu =>
      h (Option.isSome_iff_exists.mpr ⟨u, hu⟩)
    refine ⟨fun u hu => (hwell u hu).exact (parsed_of_some hu), fun hnone => ?_⟩
    cases hu : parseUrl url with
    | none => rfl
    | some u =>
      have hread := (hwell u hu).read (parsed_of_some hu)
      rw [hnone] at hread
      cases hread

/-- A URL is refused or its requests are the ones that are meant, exactly if it is refused or has
the characters of a URL where they are looked for. -/
theorem push_request_meant_iff (v : Vapid) (url : Bytes) :
    Meant v url ↔ ((parseUrl url).isSome → WellFormed url) := meant_iff

/-- A key pair that signs a text with its first bytes. -/
def fixedVapid : Vapid where
  dump := Json.dumped
  sign := fun text => some (text.take 64)
  publicKey := List.replicate 65 0x04
  subject := Bytes.ofString "mailto:admin@example.com"
  jwtExpSeconds := 43200

/-- Lines that are put into the path, a query where the path should be, and a port that ends with
something else. -/
theorem endpoint_not_meant :
    ¬ Meant fixedVapid (Bytes.ofString "https://h/ HTTP/1.1\r\nX-Extra: 1\r\n") ∧
    ¬ Meant fixedVapid (Bytes.ofString "https://h?x=1") ∧
    ¬ Meant fixedVapid (Bytes.ofString "https://h:80h:90/x") := by
  refine ⟨?_, ?_, ?_⟩
  · rw [meant_iff]
    decide +kernel
  · rw [meant_iff]
    decide +kernel
  · rw [meant_iff]
    decide +kernel

end AceHttpsClient
