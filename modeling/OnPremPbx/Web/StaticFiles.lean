import OnPremPbx.Accounts.Handlers
import OnPremPbx.Text.RelativePath

/-!
# Static files

`handle_GET` (`webservice.cpp`) serves the user interface: the path of the request is put behind the
web root as it is. The files that are opened are the ones below the web root as long as the dots of
the path lead out of it no further than the path comes in again.
-/

open Text

namespace MicroService

/-! ### The handler -/

/-- What `handle_GET` calls: a method of `IMongodbClient`, or the constructor of `std::ifstream`. -/
inductive GetCall where
  | db (c : DbCall)
  | ifstream (name : Bytes)
  deriving DecidableEq, Repr

/-- The contents of a file that could be opened. -/
abbrev GetCall.Answer : GetCall → Type
  | .db _       => DbValue
  | .ifstream _ => Option Bytes

abbrev GetProg := Program GetCall.Answer

/-- The JSON library and the decompressor, and the handlers for the paths of the API. -/
structure GetEnv where
  decompress : Bytes → Bytes → Bytes
  dump : Json → Option Bytes
  shipmentGET : Bytes → GetProg Bytes
  inventoryGET : Bytes → GetProg Bytes
  documentGET : Bytes → GetProg Bytes
  accountGET : Bytes → GetProg Bytes

/-- A stream of the file with the name `newFile.c_str()`. -/
def ifstream (newFile : Bytes) : GetProg (Option Bytes) :=
  Program.perform (GetCall.ifstream (cStr newFile))

def contentTypes : List (String × String) :=
  [("woff", "font/woff"), ("woff2", "font/woff2"), ("ttf", "font/ttf"), ("otf", "font/otf"),
    ("css", "text/css"), ("js", "text/javascript"), ("eot", "application/vnd.ms-fontobject"),
    ("html", "text/html"), ("svg", "image/svg+xml"), ("gif", "image/gif"), ("png", "image/png"),
    ("ico", "image/vnd.microsoft.icon"), ("jpg", "image/jpeg"), ("json", "application/json")]

def getContentType (ext : Bytes) : Bytes :=
  match contentTypes.find? fun t => Bytes.ofString t.1 = ext with
  | some t => Bytes.ofString t.2
  | none   => Bytes.ofString "text/html"

def getCacheControl (fileName ext : Bytes) : Bytes :=
  if (find (Bytes.ofString "index.html") fileName).isSome then Bytes.ofString "no-cache"
  else if ext ∈ ["js", "css"].map Bytes.ofString then Bytes.ofString "no-cache"
  else if ext ∈ ["woff", "woff2", "ttf", "otf", "eot", "svg", "png", "jpg", "gif", "ico"].map
      Bytes.ofString then
    Bytes.ofString "public, max-age=604800"
  else Bytes.ofString "public, max-age=86400"

variable (env : GetEnv) (req : Bytes)

/-- The response where a file could not be opened. -/
def unableToOpen (newFile : Bytes) : GetProg Bytes :=
  (fun cause => httpBuildError cause "400 Bad Request") <$> Program.ofOption
    (env.dump (.object [(Bytes.ofString "cause", .string newFile),
      (Bytes.ofString "error", .number (Bytes.ofString "400")),
      (Bytes.ofString "status", .string (Bytes.ofString "failure"))]))

def indexGET : GetProg Bytes := do
  let newFile := Bytes.ofString "../webgui/webui/index.html"
  match ← ifstream newFile with
  | none     => unableToOpen env newFile
  | some str => pure (httpBuildOk str (Bytes.ofString "text/html") (Bytes.ofString "no-cache"))

/-- A path that starts with `/webui/`. -/
def webuiGET (uri : Bytes) : GetProg Bytes :=
  match rfind 0x2E uri with
  | none       => indexGET env
  | some found => do
    let ext := uri.drop (found + 1)
    let fileName := uri.drop 6
    let newFile := Bytes.ofString "../webgui/webui/" ++ fileName
    match ← ifstream newFile with
    | none     => unableToOpen env newFile
    | some str => pure (httpBuildOk str (getContentType ext) (getCacheControl fileName ext))

/-- A path that starts with `/assets/`. -/
def assetsGET (uri : Bytes) : GetProg Bytes :=
  match rfind 0x2E uri with
  | none       => pure (buildResponseOK "")
  | some found => do
    let ext := uri.drop (found + 1)
    match ← ifstream (Bytes.ofString "../webgui/webui" ++ uri) with
    | none     => pure (buildResponseOK "")
    | some str => pure (httpBuildOk str (getContentType ext) (getCacheControl uri ext))

def routeGET (uri : Bytes) : GetProg Bytes :=
  if Bytes.ofString "/api/v1/shipment" <+: uri then env.shipmentGET req
  else if Bytes.ofString "/api/v1/inventory" <+: uri then env.inventoryGET req
  else if Bytes.ofString "/api/v1/document" <+: uri then env.documentGET req
  else if Bytes.ofString "/api/v1/account" <+: uri then env.accountGET req
  else if Bytes.ofString "/webui/" <+: uri then webuiGET env uri
  else if Bytes.ofString "/assets/" <+: uri then assetsGET uri
  else if Bytes.ofString "/" <+: uri then indexGET env
  else pure (buildResponseOK "")

def handleGET : GetProg Bytes := do
  let http ← Program.ofOption (Http.ofBytes env.decompress req)
  routeGET env req http.uriName

/-! ### The web root -/

def IsWebui (uri : Bytes) : Prop := Bytes.ofString "/webui/" <+: uri

def IsAssets (uri : Bytes) : Prop := Bytes.ofString "/assets/" <+: uri

instance (uri : Bytes) : Decidable (IsWebui uri) := inferInstanceAs (Decidable (_ <+: _))

instance (uri : Bytes) : Decidable (IsAssets uri) := inferInstanceAs (Decidable (_ <+: _))

/-- The path that a file name stands for. -/
def pathOf (name : Bytes) : RelativePath Bytes := RelativePath.ofText 0x2F 0x2E name

def webRoot : Bytes := Bytes.ofString "../webgui/webui"

/-- The name is one of a file below the web root. -/
def IsBelowRoot (name : Bytes) : Prop := RelativePath.Within (pathOf webRoot) (pathOf name)

instance (name : Bytes) : Decidable (IsBelowRoot name) :=
  inferInstanceAs (Decidable (RelativePath.Within _ _))

/-- Only files below the web root are opened, whatever they answer. -/
def OpensBelowRoot (p : GetProg Bytes) : Prop :=
  p.All (fun _ _ => True) (fun o => ∀ name, o = .ifstream name → IsBelowRoot name) fun _ => True

/-- A request for a static file opens none that is not below the web root. -/
def StaysInside : Prop :=
  ∀ http, Http.ofBytes env.decompress req = some http →
    IsWebui http.uriName ∨ IsAssets http.uriName → OpensBelowRoot (handleGET env req)

/-- What is put behind the web root. -/
def appended (uri : Bytes) : Bytes := if IsWebui uri then uri.drop 6 else uri

/-- If there is a dot in the path, the path comes back to the web root from wherever its dots lead
to. -/
def ComesBack (uri : Bytes) : Prop :=
  0x2E ∈ uri → RelativePath.Returns (pathOf webRoot) (pathOf (cStr (appended uri)))

instance (uri : Bytes) : Decidable (ComesBack uri) := inferInstanceAs (Decidable (_ → _))

/-! ### What is opened -/

lemma exists_rfind {c : UInt8} {s : Bytes} (h : c ∈ s) : ∃ i, rfind c s = some i := by
  obtain ⟨l, r, heq, hl⟩ := List.eq_append_cons_of_mem (List.mem_reverse.mpr h)
  rw [rfind, heq, find_char hl]
  exact ⟨_, rfl⟩

lemma rfind_of_not_mem {c : UInt8} {s : Bytes} (h : c ∉ s) : rfind c s = none := by
  rw [rfind, find_char_of_not_mem (mt List.mem_reverse.mp h)]
  rfl

lemma opensBelowRoot_pure (a : Bytes) : OpensBelowRoot (pure a) := trivial

variable {env req}

/-- What a program does with the stream opens nothing more. -/
lemma opensBelowRoot_ifstream {newFile : Bytes} {f : Option Bytes → GetProg Bytes}
    (hf : ∀ a, OpensBelowRoot (f a)) :
    OpensBelowRoot (ifstream newFile >>= f) ↔ IsBelowRoot (cStr newFile) := by
  rw [OpensBelowRoot, Program.all_bind, ifstream]
  refine (Program.all_perform (GetCall.ifstream (cStr newFile))).trans ?_
  constructor
  · intro h
    exact h.1 _ rfl
  · refine fun h => ⟨?_, fun a _ => ?_⟩
    · rintro name ⟨⟩
      exact h
    · cases a with
      | none => trivial
      | some a => exact hf a

lemma opensBelowRoot_unableToOpen (newFile : Bytes) :
    OpensBelowRoot (unableToOpen env newFile) := by
  rw [unableToOpen]
  cases env.dump _ <;> exact trivial

lemma opensBelowRoot_indexGET : OpensBelowRoot (indexGET env) := by
  refine (opensBelowRoot_ifstream fun a => ?_).mpr (by decide)
  cases a with
  | none => exact opensBelowRoot_unableToOpen _
  | some str => exact opensBelowRoot_pure _

/-- A name with a path behind the web root. -/
lemma isBelowRoot_append (path : Bytes) :
    IsBelowRoot (cStr (webRoot ++ 0x2F :: path)) ↔
      RelativePath.Returns (pathOf webRoot) (pathOf (cStr path)) := by
  have hcStr : cStr (webRoot ++ 0x2F :: path) = webRoot ++ 0x2F :: cStr path := by
    have hroot : ∀ c ∈ webRoot, decide (c ≠ 0) = true := List.all_eq_true.mp (by decide)
    rw [cStr, List.takeWhile_append_of_pos hroot, List.takeWhile_cons_of_pos (by decide)]
    rfl
  rw [hcStr, IsBelowRoot, pathOf, pathOf, RelativePath.ofText_append]
  exact RelativePath.within_join_iff _ _

lemma opensBelowRoot_webuiGET {uri : Bytes} (h : IsWebui uri) :
    OpensBelowRoot (webuiGET env uri) ↔ ComesBack uri := by
  rw [webuiGET, ComesBack, appended, if_pos h]
  by_cases hdot : 0x2E ∈ uri
  · obtain ⟨found, hfound⟩ := exists_rfind hdot
    rw [hfound, ← isBelowRoot_append]
    simp only [hdot, true_imp_iff]
    refine opensBelowRoot_ifstream fun a => ?_
    cases a with
    | none => exact opensBelowRoot_unableToOpen _
    | some str => exact opensBelowRoot_pure _
  · rw [rfind_of_not_mem hdot]
    exact iff_of_true opensBelowRoot_indexGET fun hmem => absurd hmem hdot

lemma opensBelowRoot_assetsGET {uri : Bytes} (h : IsAssets uri) (hwebui : ¬ IsWebui uri) :
    OpensBelowRoot (assetsGET uri) ↔ ComesBack uri := by
  obtain ⟨rest, rfl⟩ := h
  rw [assetsGET, ComesBack, appended, if_neg hwebui]
  by_cases hdot : 0x2E ∈ Bytes.ofString "/assets/" ++ rest
  · obtain ⟨found, hfound⟩ := exists_rfind hdot
    -- the path brings the slash along
    have hpath : pathOf (cStr (Bytes.ofString "/assets/" ++ rest)) =
        pathOf (cStr (Bytes.ofString "assets/" ++ rest)) := RelativePath.ofText_slash _
    rw [hfound, hpath, ← isBelowRoot_append]
    simp only [hdot, true_imp_iff]
    refine opensBelowRoot_ifstream fun a => ?_
    cases a <;> exact opensBelowRoot_pure _
  · rw [rfind_of_not_mem hdot]
    exact iff_of_true (opensBelowRoot_pure _) fun hmem => absurd hmem hdot

/-- Two texts that both start a path start each other. -/
lemma not_startsWith {uri a b : Bytes} (h : a <+: uri) (hab : ¬ a <+: b) (hba : ¬ b <+: a) :
    ¬ b <+: uri :=
  fun hb => (List.prefix_or_prefix_of_prefix h hb).elim hab hba

lemma routeGET_webui {uri : Bytes} (h : IsWebui uri) : routeGET env req uri = webuiGET env uri := by
  rw [routeGET, if_neg (not_startsWith h (by decide) (by decide)),
    if_neg (not_startsWith h (by decide) (by decide)),
    if_neg (not_startsWith h (by decide) (by decide)),
    if_neg (not_startsWith h (by decide) (by decide))]
  exact if_pos h

lemma not_isWebui {uri : Bytes} (h : IsAssets uri) : ¬ IsWebui uri :=
  not_startsWith h (by decide) (by decide)

lemma routeGET_assets {uri : Bytes} (h : IsAssets uri) : routeGET env req uri = assetsGET uri := by
  rw [routeGET, if_neg (not_startsWith h (by decide) (by decide)),
    if_neg (not_startsWith h (by decide) (by decide)),
    if_neg (not_startsWith h (by decide) (by decide)),
    if_neg (not_startsWith h (by decide) (by decide)),
    if_neg (not_startsWith h (by decide) (by decide))]
  exact if_pos h

lemma opensBelowRoot_routeGET {uri : Bytes} (h : IsWebui uri ∨ IsAssets uri) :
    OpensBelowRoot (routeGET env req uri) ↔ ComesBack uri := by
  rcases h with hwebui | hassets
  · rw [routeGET_webui hwebui]
    exact opensBelowRoot_webuiGET hwebui
  · rw [routeGET_assets hassets]
    exact opensBelowRoot_assetsGET hassets (not_isWebui hassets)

lemma handleGET_eq {http : Http} (h : Http.ofBytes env.decompress req = some http) :
    handleGET env req = routeGET env req http.uriName := by
  rw [handleGET, h]
  rfl

lemma staysInside_of_some {http : Http} (h : Http.ofBytes env.decompress req = some http) :
    StaysInside env req ↔
      (IsWebui http.uriName ∨ IsAssets http.uriName → ComesBack http.uriName) := by
  rw [StaysInside, handleGET_eq h]
  simp only [h, Option.some.injEq, forall_eq']
  exact imp_congr_right fun hstatic => opensBelowRoot_routeGET hstatic

variable (env req)

/-- The files of a request are below the web root exactly if its path comes back to it. -/
theorem handleGET_staysInside_iff :
    StaysInside env req ↔ ∀ http, Http.ofBytes env.decompress req = some http →
      IsWebui http.uriName ∨ IsAssets http.uriName → ComesBack http.uriName := by
  constructor
  · intro h http hhttp
    exact (staysInside_of_some hhttp).mp h
  · intro h http hhttp
    exact (staysInside_of_some hhttp).mpr (h http hhttp) http hhttp

def plainGetEnv : GetEnv where
  decompress _ s := s
  dump := Json.dumped
  shipmentGET _ := pure []
  inventoryGET _ := pure []
  documentGET _ := pure []
  accountGET _ := pure []

/-- A path with escaped dots leads out of the web root. -/
theorem escaped_dots_leave_root :
    ¬ StaysInside plainGetEnv
      (Bytes.ofString "GET /webui/%2e%2e/%2E%2E/../../etc/passwd HTTP/1.1\r\n\r\n") := by
  have hsome : ((Http.ofBytes plainGetEnv.decompress
      (Bytes.ofString "GET /webui/%2e%2e/%2E%2E/../../etc/passwd HTTP/1.1\r\n\r\n")).map
        Http.uriName) = some (Bytes.ofString "/webui/../../../../etc/passwd") := by decide +kernel
  obtain ⟨http, hhttp, huri⟩ := Option.map_eq_some_iff.mp hsome
  rw [staysInside_of_some hhttp, huri]
  decide

end MicroService
