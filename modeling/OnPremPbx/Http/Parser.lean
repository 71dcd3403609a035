import OnPremPbx.Http.MessageParser

/-!
# HTTP requests

`Http` (`http_parser.cpp`) is the request that a buffer holds, and `message_length` the number of
bytes of the first request of a receive buffer, 0 while it is not complete. The decompressor of
zlib is a parameter. A result of `none` is an exception, or a loop that does not end.
-/

open Text

namespace Http

variable (decompress : Bytes → Bytes → Bytes)

/-! ### Bodies -/

/-- An iteration of `decode_chunked` at `pos`: the data it appends, and where it goes on. The
positions are computed in 64 bits. -/
def chunkStep (s : Bytes) (pos : ℕ) : Option (Bytes × ℕ) :=
  if s.length ≤ pos then none
  else
    match findFrom CRLF s pos with
    | none      => none
    | some crlf =>
      match stoul 16 (((s.take crlf).drop pos).takeWhile (· ≠ 0x3B)) with
      | none      => none
      | some 0    => none
      | some size =>
        let pos := crlf + 2
        if s.length < (pos + size) % 2 ^ 64 then none
        else some ((s.drop pos).take size, (pos + (size + 2)) % 2 ^ 64)

/-- The loop of `decode_chunked`, with the number of iterations it may make. -/
def decodeChunkedLoop (s : Bytes) : ℕ → ℕ → Option Bytes
  | 0, _       => none
  | n + 1, pos =>
    match chunkStep s pos with
    | none             => some []
    | some (data, pos) => (decodeChunkedLoop s n pos).map (data ++ ·)

/-- `decode_chunked`. It is at a position before the end in each iteration but the last, so a loop
that makes more iterations than there are positions does not end. -/
def decodeChunked (s : Bytes) : Option Bytes := decodeChunkedLoop s (s.length + 1) 0

/-- Blanks and line ends are cut off at the end. -/
def trimEnd (s : Bytes) : Bytes :=
  (s.reverse.dropWhile fun c => c == 0x20 || c == 0x0D || c == 0x0A).reverse

def multipartBoundary (ct : Bytes) : Bytes :=
  if (find (Bytes.ofString "multipart/form-data") ct).isNone then []
  else
    match find (Bytes.ofString "boundary=") ct with
    | none     => []
    | some pos => trimEnd ((ct.drop (pos + 9)).takeWhile (· ≠ 0x3B))

def multipartTerminal (boundary : Bytes) : Bytes :=
  Bytes.ofString "--" ++ boundary ++ Bytes.ofString "--"

/-- Where a multipart body ends that starts at `start`. -/
def multipartEnd (boundary s : Bytes) (start : ℕ) : Option ℕ :=
  (findFrom (multipartTerminal boundary) s start).map fun pos =>
    let fin := pos + (multipartTerminal boundary).length
    if (s.drop fin).take 2 = CRLF then fin + 2 else fin

/-! ### The length of a request -/

/-- The value of the last field with exactly this name. -/
def lastField (fields : List (Bytes × Bytes)) (name : Bytes) : Bytes :=
  ((fields.reverse.find? fun f => f.1 == name).map (·.2)).getD []

def transferEncoding : Bytes := Bytes.ofString "Transfer-Encoding"
def contentLength : Bytes := Bytes.ofString "Content-Length"
def contentType : Bytes := Bytes.ofString "Content-Type"
def contentEncoding : Bytes := Bytes.ofString "Content-Encoding"
def chunked : Bytes := Bytes.ofString "chunked"

/-- The end of a chunked body. -/
def terminal : Bytes := 0x30 :: sep

def messageLength (buf : Bytes) : ℕ :=
  match find sep buf with
  | none        => 0
  | some sepPos =>
    let headerLen := sepPos + sep.length
    let fields := headerFields (buf.take headerLen)
    let te := lastField fields transferEncoding
    let cl := lastField fields contentLength
    let boundary := multipartBoundary (lastField fields contentType)
    if te = chunked then
      match findFrom terminal buf headerLen with
      | none     => 0
      | some pos => pos + terminal.length
    else if cl ≠ [] then
      match stoul 10 cl with
      | none   => 0
      | some n => (headerLen + n) % 2 ^ 64
    else if boundary ≠ [] then (multipartEnd boundary buf headerLen).getD 0
    else headerLen

end Http

/-! ### Requests -/

structure Http extends MessageParser where
  uriName : Bytes := []
  method : Bytes := []
  deriving DecidableEq, Repr

namespace Http

variable (decompress : Bytes → Bytes → Bytes)

/-- The first line. -/
def requestLine (header : Bytes) : Bytes :=
  match find CRLF header with
  | none   => header
  | some i => header.take i

/-- The part of the request line between its first and its last blank. -/
def uriPart (line : Bytes) (firstSp : ℕ) : Bytes :=
  match rfind 0x20 line with
  | none        => line.drop (firstSp + 1)
  | some lastSp =>
    if firstSp < lastSp then (line.take lastSp).drop (firstSp + 1) else line.drop (firstSp + 1)

/-- A parameter of the query string, if the token has an equals sign. -/
def queryParam (token : Bytes) : Option (Option (Bytes × Bytes)) :=
  match find [0x3D] token with
  | none    => some none
  | some eq => do
    let key ← pctDecode (token.take eq)
    let value ← pctDecode (token.drop (eq + 1))
    some (some (key, value))

/-- The tokens between the ampersands. -/
def queryParams : List Bytes → Option (List (Bytes × Bytes))
  | []              => some []
  | token :: tokens => do
    let param ← queryParam token
    let params ← queryParams tokens
    some (param.toList ++ params)

/-- What `parse_uri` reads off the request line: the method, the path, and the parameters that it
adds to the map. -/
def parseRequestLine (line : Bytes) : Option (Bytes × Bytes × List (Bytes × Bytes)) :=
  match find [0x20] line with
  | none         => some ([], [], [])
  | some firstSp =>
    let uri := uriPart line firstSp
    match find [0x3F] uri with
    | none   => (pctDecode uri).map fun path => (line.take firstSp, path, [])
    | some q => do
      let path ← pctDecode (uri.take q)
      let params ← queryParams (getlines 0x26 (uri.drop (q + 1)))
      some (line.take firstSp, path, params)

def parseUri (header : Bytes) (h : Http) : Option Http :=
  (parseRequestLine (requestLine header)).map fun (method, path, params) =>
    { h with toMessageParser := params.foldl MessageParser.addElement h.toMessageParser
             uriName := path
             method := method }

/-- The body before content decoding. -/
def rawBody (s : Bytes) (h : Http) : Option Bytes :=
  let bodyOffset := h.header.length
  if h.getElement transferEncoding = chunked then decodeChunked (s.drop bodyOffset)
  else if h.getElement contentLength ≠ [] then
    if 0 < bodyOffset then
      (stoul 10 (h.getElement contentLength)).map fun n => (s.drop bodyOffset).take n
    else some []
  else
    let boundary := multipartBoundary (h.getElement contentType)
    if boundary ≠ [] then
      match multipartEnd boundary s bodyOffset with
      | none     => some []
      | some fin => some ((s.take fin).drop bodyOffset)
    else some []

/-- Undo the content encoding. -/
def decodeContent (ce raw : Bytes) : Bytes :=
  if raw ≠ [] ∧ (ce = Bytes.ofString "gzip" ∨ ce = Bytes.ofString "deflate") then decompress raw ce
  else raw

def getBody (s : Bytes) (h : Http) : Option Bytes :=
  (rawBody s h).map (decodeContent decompress (h.getElement contentEncoding))

/-- The request before its body is read. -/
def readHeader (s : Bytes) : Option Http :=
  let h : Http := { header := extractHeader s }
  if h.header = [] then some h
  else
    (h.parseUri h.header).map fun h =>
      { h with toMessageParser := h.parseMimeHeader h.header }

/-- The constructor. -/
def ofBytes (s : Bytes) : Option Http := do
  let h ← readHeader s
  let body ← getBody decompress s h
  some { h with body := body }

end Http

namespace WebConnection

/-- The loop of `handle_input` over a receive buffer: the requests it cuts off, and what it leaves
for the next call. -/
def cutRequests : ℕ → Bytes → List Bytes × Bytes
  | 0, buf     => ([], buf)
  | n + 1, buf =>
    let len := Http.messageLength buf
    if buf = [] ∨ len = 0 ∨ buf.length < len then ([], buf)
    else
      let (requests, rest) := cutRequests n (buf.drop len)
      (buf.take len :: requests, rest)

end WebConnection
