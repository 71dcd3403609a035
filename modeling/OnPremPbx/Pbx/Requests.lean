import OnPremPbx.Http.Parser

/-!
# Requests and responses of the PBX

The helpers of `microservice_pbx.cpp` that read the raw text of a request and write the text of a
response. Unlike the constructor of `Http` they decode no escapes.
-/

open Text

namespace MicroServicePbx

/-! ### Requests -/

/-- The value of a pair with this key, if it is one. -/
def pairValue (key pair : Bytes) : Option Bytes :=
  (find [0x3D] pair).bind fun eq => if pair.take eq = key then some (pair.drop (eq + 1)) else none

/-- `query_param`, empty if the parameter is absent. -/
def queryParam (uri key : Bytes) : Bytes :=
  match find [0x3F] uri with
  | none   => []
  | some q => ((getlines 0x26 (uri.drop (q + 1))).findSome? (pairValue key)).getD []

/-- The text between the first two blanks of the request line. -/
def rawUriWithQuery (req : Bytes) : Bytes :=
  match find CRLF req with
  | none      => []
  | some fin =>
    let line := req.take fin
    match find [0x20] line with
    | none     => []
    | some sp₁ =>
      match findFrom [0x20] line (sp₁ + 1) with
      | none     => []
      | some sp₂ => (line.take sp₂).drop (sp₁ + 1)

/-- What stands after a fixed part at the front of the path. -/
def pathSuffix (req start : Bytes) : Bytes :=
  let uri := (rawUriWithQuery req).takeWhile (· ≠ 0x3F)
  if uri.length ≤ start.length ∨ uri.take start.length ≠ start then [] else uri.drop start.length

/-- `cookie_value`. A pair of blanks alone has no equals sign, trimmed or not. -/
def cookieValue (header key : Bytes) : Bytes :=
  ((getlines 0x3B header).findSome? fun pair =>
    pairValue key (pair.dropWhile fun c => c == 0x20 || c == 0x09)).getD []

/-- `extract_session_token`, with `none` where the constructor of `Http` throws. -/
def extractSessionToken (decompress : Bytes → Bytes → Bytes) (req : Bytes) : Option Bytes :=
  let tok := queryParam (rawUriWithQuery req) (Bytes.ofString "token")
  if tok ≠ [] then some tok
  else (Http.ofBytes decompress req).map fun parsed =>
    cookieValue (parsed.getElement (Bytes.ofString "Cookie")) (Bytes.ofString "session")

/-! ### Tables -/

def splitCsvRow (line : Bytes) : List Bytes := (chopCR line).splitOn 0x2C

/-- The rows of a table, without the empty lines. -/
def csvRows (csv : Bytes) : List (List Bytes) :=
  ((getlines 0x0A csv).filter fun line => line ≠ [] ∧ line ≠ [0x0D]).map splitCsvRow

def csvEscape (field : Bytes) : Bytes :=
  if field.all fun c => c != 0x2C && c != 0x22 && c != 0x0D && c != 0x0A then field
  else 0x22 :: (field.flatMap fun c => if c = 0x22 then [0x22, 0x22] else [c]) ++ [0x22]

/-! ### Responses -/

/-- `std::to_string` of a number. -/
def ofNat (n : ℕ) : Bytes := Bytes.ofString (toString n)

def httpResponse (code : ℕ) (reason : String) (body : Bytes)
    (contentType : Bytes := Bytes.ofString "application/json") (extraHeaders : Bytes := []) :
    Bytes :=
  Bytes.ofString "HTTP/1.1 " ++ ofNat code ++ Bytes.ofString " " ++ Bytes.ofString reason ++ CRLF ++
    Bytes.ofString "Connection: keep-alive\r\nAccess-Control-Allow-Origin: *\r\n" ++
    Bytes.ofString "Content-Length: " ++ ofNat body.length ++ CRLF ++
    Bytes.ofString "Content-Type: " ++ contentType ++ CRLF ++ extraHeaders ++ CRLF ++ body

def responseError (code : ℕ) (reason : String) (cause : Bytes) : Bytes :=
  httpResponse code reason
    (Bytes.ofString "\x7b\"status\":\"failure\",\"error\":" ++ ofNat code ++
      Bytes.ofString ",\"cause\":\"" ++ cause ++ Bytes.ofString "\"\x7d")

end MicroServicePbx
