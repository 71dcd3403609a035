import OnPremPbx.Http.MessageParser

/-!
# SIP messages

`Sip` (`sip_parser.cpp`) is the message that a buffer holds, and `message_length` the number of
bytes of the first message of a receive buffer. Short names of fields stand for the long ones, and
some fields may have several values. A result of `none` is an exception.
-/

open Text

namespace Sip

/-! ### Names -/

/-- The short names of the fields. -/
def compactToCanonical : List (Bytes × Bytes) :=
  [("l", "content-length"), ("v", "via"), ("i", "call-id"), ("f", "from"), ("t", "to"),
    ("m", "contact"), ("c", "content-type"), ("s", "subject"), ("k", "supported"),
    ("e", "content-encoding"), ("o", "event")].map fun p =>
      (Bytes.ofString p.1, Bytes.ofString p.2)

/-- The fields that may have several values. -/
def multiValueNames : List Bytes :=
  ["via", "record-route", "route", "contact", "proxy-authenticate", "www-authenticate"].map
    Bytes.ofString

def isMultiValue (lcKey : Bytes) : Bool := multiValueNames.contains lcKey

def canonicalize (lcKey : Bytes) : Bytes := (compactToCanonical.lookup lcKey).getD lcKey

/-- The name under which the values of a field are kept. -/
def canonicalName (key : Bytes) : Bytes := canonicalize (toLower key)

def contentLength : Bytes := Bytes.ofString "content-length"
def transferEncoding : Bytes := Bytes.ofString "transfer-encoding"

end Sip

/-! ### Messages -/

structure Sip extends MessageParser where
  isRequest : Bool := false
  error : Bool := false
  method : Bytes := []
  uri : Bytes := []
  statusCode : ℤ := 0
  reasonPhrase : Bytes := []
  /-- the values of all fields, in the order in which they came -/
  multiMap : List (Bytes × Bytes) := []
  deriving DecidableEq, Repr

namespace Sip

def addElement (s : Sip) (f : Bytes × Bytes) : Sip :=
  let canonical := canonicalName f.1
  let multiMap := s.multiMap ++ [(canonical, f.2)]
  if isMultiValue canonical then
    -- only the first value is kept
    if (s.tokenMap.lookup canonical).isNone then
      { s with multiMap := multiMap, tokenMap := s.tokenMap ++ [(canonical, f.2)] }
    else { s with multiMap := multiMap }
  else
    -- the last value is kept
    { s with multiMap := multiMap
             tokenMap := (s.tokenMap.filter fun g => g.1 ≠ canonical) ++ [(canonical, f.2)] }

def getElement (s : Sip) (key : Bytes) : Bytes := (s.tokenMap.lookup (canonicalName key)).getD []

def getAll (s : Sip) (key : Bytes) : List Bytes :=
  (s.multiMap.filter fun f => f.1 = canonicalName key).map (·.2)

def parseMimeHeader (header : Bytes) (s : Sip) : Sip := (headerFields header).foldl addElement s

def version : Bytes := Bytes.ofString "SIP/2.0"

/-- A line `SIP/2.0 code reason`. -/
def parseStatusLine (line : Bytes) (s : Sip) : Sip :=
  let s := { s with isRequest := false }
  match find [0x20] line with
  | none     => { s with error := true }
  | some sp₁ =>
    match findFrom [0x20] line (sp₁ + 1) with
    | none     => { s with error := true }
    | some sp₂ =>
      match stoi ((line.take sp₂).drop (sp₁ + 1)) with
      | none      => { s with error := true }
      | some code => { s with statusCode := code, reasonPhrase := line.drop (sp₂ + 1) }

/-- A line `METHOD uri SIP/2.0`. -/
def parseRequestLine (line : Bytes) (s : Sip) : Option Sip :=
  let s := { s with isRequest := true }
  match find [0x20] line, rfind 0x20 line with
  | some firstSp, some lastSp =>
    if lastSp = firstSp ∨ line.drop (lastSp + 1) ≠ version then some { s with error := true }
    else
      (pctDecode ((line.take lastSp).drop (firstSp + 1))).map fun uri =>
        { s with method := line.take firstSp, uri := uri }
  | _, _                      => some { s with error := true }

def parseFirstLine (line : Bytes) (s : Sip) : Option Sip :=
  if version <+: line then some (parseStatusLine line s) else parseRequestLine line s

/-- The first line of a header. -/
def firstLine (header : Bytes) : Bytes :=
  match find CRLF header with
  | none   => header
  | some i => header.take i

/-- The body, by its length only. The end of the body is computed in 64 bits. -/
def readBody (bytes : Bytes) (s : Sip) : Sip :=
  let cl := s.getElement contentLength
  let bodyOffset := s.header.length
  if cl ≠ [] ∧ 0 < bodyOffset then
    match stoul 10 cl with
    | none   => { s with error := true }
    | some n =>
      if (bodyOffset + n) % 2 ^ 64 ≤ bytes.length then
        { s with body := (bytes.drop bodyOffset).take n }
      else s
  else s

/-- The constructor. -/
def ofBytes (bytes : Bytes) : Option Sip := do
  let s : Sip := { header := extractHeader bytes }
  if s.header = [] then some { s with error := true }
  else do
    let s ← parseFirstLine (firstLine s.header) s
    if s.error then some s
    else
      let s := parseMimeHeader s.header s
      -- chunks are forbidden
      if s.getElement transferEncoding ≠ [] then some { s with error := true }
      else some (readBody bytes s)

/-! ### The length of a message -/

/-- The value of the last field whose name in lower case is one of these. -/
def lastValue (fields : List (Bytes × Bytes)) (names : List Bytes) : Bytes :=
  ((fields.reverse.find? fun f => names.contains (toLower f.1)).map (·.2)).getD []

/-- The two names of the length. -/
def lengthNames : List Bytes := [contentLength, Bytes.ofString "l"]

def messageLength (buf : Bytes) : ℕ :=
  match find sep buf with
  | none        => 0
  | some sepPos =>
    let headerLen := sepPos + sep.length
    let fields := headerFields (buf.take headerLen)
    let cl := lastValue fields lengthNames
    if fields.any fun f => toLower f.1 = transferEncoding then 0
    else if cl = [] then headerLen
    else
      match stoul 10 cl with
      | none   => 0
      | some n => (headerLen + n) % 2 ^ 64

end Sip
