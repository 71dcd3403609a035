import OnPremPbx.Http.Agreement
import OnPremPbx.Http.HeaderText
import OnPremPbx.Pbx.Requests

/-!
# Two readers of a URI

The route of a request is chosen by what `Http` reads of its request line, and the arguments of the
handlers are taken by `path_suffix` and `query_param` from the same line. `Http` decodes the path
and the parameters, and looks a parameter up in any spelling; the handlers take the texts as they
stand there. A request is made here from strings, which a client encodes as it likes.
-/

open Text

namespace MicroServicePbx

/-! ### Percent-encoding -/

def isAlnum (c : UInt8) : Bool :=
  (0x30 ≤ c && c ≤ 0x39) || (0x41 ≤ c && c ≤ 0x5A) || (0x61 ≤ c && c ≤ 0x7A)

/-- The marks that may stand in a path segment as they are. -/
def pathMarks : Bytes := Bytes.ofString "-._~!$&'()*+,;=:@"

/-- The marks that may stand in a name or a value of a query as they are. -/
def queryMarks : Bytes := Bytes.ofString "-._~!$'()*,;:@/?"

/-- The character `c` of a path segment may be written `t`. -/
def AsPath (c t : UInt8) : Prop := t = c ∧ (isAlnum c ∨ c ∈ pathMarks)

/-- The character `c` of a name or a value may be written `t`: a blank is a plus sign. -/
def AsQuery (c t : UInt8) : Prop := t = c ∧ (isAlnum c ∨ c ∈ queryMarks) ∨ c = 0x20 ∧ t = 0x2B

/-- Two digits of base 16, in upper or lower case, stand for a character. -/
def IsEscape (c hi lo : UInt8) : Prop :=
  ∃ a b, digit 16 hi = some a ∧ digit 16 lo = some b ∧ c.toNat = a * 16 + b

/-- A string and a text that an encoder makes from it. Any character may be escaped. -/
inductive Encodes (as : UInt8 → UInt8 → Prop) : Bytes → Bytes → Prop where
  | nil : Encodes as [] []
  | char {c t : UInt8} {s text : Bytes} : as c t → Encodes as s text →
    Encodes as (c :: s) (t :: text)
  | escape {c hi lo : UInt8} {s text : Bytes} : IsEscape c hi lo → Encodes as s text →
    Encodes as (c :: s) (0x25 :: hi :: lo :: text)

/-- Letters and digits may be written as they are. -/
lemma encodes_of_isAlnum {as : UInt8 → UInt8 → Prop} (has : ∀ c, isAlnum c = true → as c c)
    {s : Bytes} (hs : ∀ c ∈ s, isAlnum c = true) : Encodes as s s := by
  induction s with
  | nil => exact Encodes.nil
  | cons c s ih =>
    obtain ⟨hc, hs⟩ := List.forall_mem_cons.mp hs
    exact Encodes.char (has c hc) (ih hs)

lemma isDigit_of_isEscape {c hi lo : UInt8} (h : IsEscape c hi lo) :
    isDigit 16 hi = true ∧ isDigit 16 lo = true := by
  obtain ⟨a, b, hhi, hlo, -⟩ := h
  exact ⟨by rw [isDigit, hhi]; rfl, by rw [isDigit, hlo]; rfl⟩

/-- The digits are read as the character. -/
lemma stoiHexPair_of_isEscape {c hi lo : UInt8} (h : IsEscape c hi lo) :
    stoiHexPair hi lo = some c := by
  obtain ⟨hhi, hlo⟩ := isDigit_of_isEscape h
  obtain ⟨a, b, ha, hb, hc⟩ := h
  have hdigits : ∀ d ∈ [hi, lo], isDigit 16 d = true := by simp [hhi, hlo]
  have hvalue : digitsValue 16 0 [hi, lo] = c.toNat := by
    rw [hc]
    simp [digitsValue, ha, hb]
  rw [stoiHexPair, readNumber_digits (by decide) (List.cons_ne_nil _ _) hdigits, hvalue]
  simp

lemma ne_of_queryChar {c : UInt8} (h : isAlnum c ∨ c ∈ queryMarks) (k : UInt8)
    (hk : ¬ (isAlnum k ∨ k ∈ queryMarks)) : c ≠ k := by
  rintro rfl
  exact hk h

namespace Encodes

variable {as : UInt8 → UInt8 → Prop} {s text : Bytes}

lemma length_le (h : Encodes as s text) : s.length ≤ text.length := by
  induction h with
  | nil => exact le_rfl
  | char _ _ ih => exact Nat.succ_le_succ ih
  | escape _ _ ih =>
    simp only [List.length_cons]
    omega

/-- A text as long as its string has no escape. -/
lemma not_mem_percent (hpercent : ∀ c, ¬ as c 0x25) (h : Encodes as s text)
    (hlen : text.length = s.length) : 0x25 ∉ text := by
  induction h with
  | nil => exact List.not_mem_nil
  | char has _ ih =>
    rw [List.mem_cons, not_or]
    refine ⟨?_, ih (Nat.succ_injective hlen)⟩
    rintro rfl
    exact hpercent _ has
  | escape _ hrest _ =>
    have hle := hrest.length_le
    simp only [List.length_cons] at hlen
    omega

/-- What no character is written as, and no digit is, is not in the text. -/
lemma not_mem {k : UInt8} (has : ∀ c, ¬ as c k) (hpercent : k ≠ 0x25)
    (hdigit : isDigit 16 k = false) (h : Encodes as s text) : k ∉ text := by
  induction h with
  | nil => exact List.not_mem_nil
  | char hchar _ ih =>
    rw [List.mem_cons, not_or]
    refine ⟨?_, ih⟩
    rintro rfl
    exact has _ hchar
  | escape hescape _ ih =>
    obtain ⟨hhi, hlo⟩ := isDigit_of_isEscape hescape
    have hne : ∀ d, isDigit 16 d = true → k ≠ d := by
      rintro d hd rfl
      rw [hdigit] at hd
      cases hd
    simp [hpercent, hne _ hhi, hne _ hlo, ih]

/-- A name or a value is decoded to the string that it was made from. -/
lemma pctDecode_query (h : Encodes AsQuery s text) : pctDecode text = some s := by
  induction h with
  | nil => rfl
  | char has _ ih =>
    rcases has with ⟨rfl, hplain⟩ | ⟨rfl, rfl⟩
    · have hpercent := ne_of_queryChar hplain 0x25 (by decide)
      have hplus := ne_of_queryChar hplain 0x2B (by decide)
      rw [pctDecode_cons hpercent, ih, Option.map_some, if_neg hplus]
    · rw [pctDecode_cons (by decide), ih]
      rfl
  | escape hescape _ ih =>
    rw [pctDecode, if_pos rfl, stoiHexPair_of_isEscape hescape, ih]
    rfl

end Encodes

/-! ### Requests -/

/-- A parameter, and how a client has written it. -/
structure Param where
  name : Bytes
  value : Bytes
  nameText : Bytes
  valueText : Bytes
  encodedName : Encodes AsQuery name nameText
  encodedValue : Encodes AsQuery value valueText

def Param.text (p : Param) : Bytes := p.nameText ++ 0x3D :: p.valueText

/-- A request for `start` and a segment, where `start` is a path that the server has fixed. -/
structure UriRequest where
  method : Bytes
  start : Bytes
  segment : Bytes
  segmentText : Bytes
  params : List Param
  isMethod : 0x20 ∉ method ∧ 0x0D ∉ method
  isStart : ∀ c ∈ start, isAlnum c ∨ c ∈ Bytes.ofString "/-._~"
  encodedSegment : Encodes AsPath segment segmentText

def httpVersion : Bytes := Bytes.ofString "HTTP/1.1"

namespace UriRequest

variable (r : UriRequest)

def path : Bytes := r.start ++ r.segmentText

def query : Bytes := List.intercalate [0x26] (r.params.map Param.text)

def uri : Bytes := r.path ++ 0x3F :: r.query

def line : Bytes := r.method ++ 0x20 :: (r.uri ++ 0x20 :: httpVersion)

/-- The request, with its other lines and its body. -/
def bytes (rest : Bytes) : Bytes := r.line ++ (CRLF ++ rest)

/-- The first value of a parameter. -/
def firstValue (name : Bytes) : Bytes :=
  ((r.params.find? fun p => p.name == name).map (·.value)).getD []

/-- The value text of the first parameter whose name is written like this. -/
def writtenValue (name : Bytes) : Bytes :=
  ((r.params.find? fun p => p.nameText == name).map (·.valueText)).getD []

/-- The value of the first parameter with this name, in any letter case. -/
def foldedValue (name : Bytes) : Bytes :=
  ((r.params.find? fun p => toLower p.name == toLower name).map (·.value)).getD []

/-- Both readers give the strings that the request was made from. -/
structure ReadersAgree (rest : Bytes) (h : Http) : Prop where
  pathSuffix : pathSuffix (r.bytes rest) r.start = r.segment
  uriName : h.uriName = r.start ++ r.segment
  queryParam : ∀ p ∈ r.params,
    queryParam (rawUriWithQuery (r.bytes rest)) p.name = r.firstValue p.name
  getElement : ∀ p ∈ r.params, h.getElement p.name = r.firstValue p.name

/-- The request is written without escapes where it counts. -/
structure Literal : Prop where
  segment : r.segmentText = r.segment ∧ 0x2B ∉ r.segment
  written : ∀ p ∈ r.params, r.writtenValue p.name = r.firstValue p.name
  folded : ∀ p ∈ r.params, r.foldedValue p.name = r.firstValue p.name

/-! ### What the texts are made of -/

lemma not_mem_text (p : Param) {k : UInt8} (hk : ¬ (isAlnum k ∨ k ∈ queryMarks))
    (hpercent : k ≠ 0x25) (hplus : k ≠ 0x2B) (hdigit : isDigit 16 k = false) :
    k ∉ p.nameText ∧ k ∉ p.valueText := by
  have has : ∀ c, ¬ AsQuery c k := by
    rintro c (⟨rfl, hc⟩ | ⟨-, hc⟩)
    · exact hk hc
    · exact hplus hc
  exact ⟨p.encodedName.not_mem has hpercent hdigit, p.encodedValue.not_mem has hpercent hdigit⟩

lemma not_mem_query {k : UInt8} (hk : ¬ (isAlnum k ∨ k ∈ queryMarks)) (hpercent : k ≠ 0x25)
    (hplus : k ≠ 0x2B) (hdigit : isDigit 16 k = false) (heq : k ≠ 0x3D) (hand : k ≠ 0x26) :
    k ∉ r.query := by
  refine not_mem_intercalate hand fun l hl => ?_
  obtain ⟨p, -, rfl⟩ := List.mem_map.mp hl
  obtain ⟨hname, hvalue⟩ := not_mem_text p hk hpercent hplus hdigit
  simp [Param.text, hname, heq, hvalue]

lemma not_mem_path {k : UInt8} (hk : ¬ (isAlnum k ∨ k ∈ pathMarks)) (hpercent : k ≠ 0x25)
    (hdigit : isDigit 16 k = false) (hstart : ¬ (isAlnum k ∨ k ∈ Bytes.ofString "/-._~")) :
    k ∉ r.path := by
  have has : ∀ c, ¬ AsPath c k := by
    rintro c ⟨rfl, hc⟩
    exact hk hc
  rw [path, List.mem_append, not_or]
  exact ⟨fun hmem => hstart (r.isStart k hmem), r.encodedSegment.not_mem has hpercent hdigit⟩

lemma space_not_mem_uri : 0x20 ∉ r.uri := by
  rw [uri, List.mem_append, List.mem_cons, not_or, not_or]
  exact ⟨r.not_mem_path (by decide) (by decide) (by decide) (by decide), by decide,
    r.not_mem_query (by decide) (by decide) (by decide) (by decide) (by decide) (by decide)⟩

lemma cr_not_mem_line : 0x0D ∉ r.line := by
  have huri : 0x0D ∉ r.uri := by
    rw [uri, List.mem_append, List.mem_cons, not_or, not_or]
    exact ⟨r.not_mem_path (by decide) (by decide) (by decide) (by decide), by decide,
      r.not_mem_query (by decide) (by decide) (by decide) (by decide) (by decide) (by decide)⟩
  have hversion : 0x0D ∉ httpVersion := by decide
  simp [line, r.isMethod.2, huri, hversion]

lemma find_query : find [0x3F] r.uri = some r.path.length :=
  find_char (r.not_mem_path (by decide) (by decide) (by decide) (by decide)) _

lemma drop_query : r.uri.drop (r.path.length + 1) = r.query := by
  rw [uri, ← List.drop_drop, List.drop_left]
  rfl

/-- The pairs of the query are the parameters. -/
lemma getlines_query : getlines 0x26 r.query = r.params.map Param.text := by
  refine getlines_intercalate fun l hl => ?_
  obtain ⟨p, -, rfl⟩ := List.mem_map.mp hl
  obtain ⟨hname, hvalue⟩ :=
    not_mem_text p (k := 0x26) (by decide) (by decide) (by decide) (by decide)
  exact ⟨by simp [Param.text], by simp [Param.text, hname, hvalue]⟩

lemma find_eq (p : Param) : find [0x3D] p.text = some p.nameText.length :=
  find_char (not_mem_text p (by decide) (by decide) (by decide) (by decide)).1 _

lemma drop_eq (p : Param) : p.text.drop (p.nameText.length + 1) = p.valueText := by
  rw [Param.text, ← List.drop_drop, List.drop_left]
  rfl

/-! ### The reader of the handlers -/

lemma rawUriWithQuery_bytes (rest : Bytes) : rawUriWithQuery (r.bytes rest) = r.uri := by
  have hline : find CRLF (r.bytes rest) = some r.line.length := by
    rw [bytes, Http.find_CRLF_skip r.cr_not_mem_line, find_of_prefix (List.prefix_append _ _),
      Option.map_some, zero_add]
  have hfirst : find [0x20] r.line = some r.method.length := find_char r.isMethod.1 _
  have hsecond : findFrom [0x20] r.line (r.method.length + 1) =
      some (r.method.length + 1 + r.uri.length) := by
    have hchar := findFrom_char r.space_not_mem_uri (r.method ++ [0x20]) httpVersion
    rw [List.append_assoc, List.singleton_append, List.length_append] at hchar
    exact hchar
  have htake : (r.line.take (r.method.length + 1 + r.uri.length)).drop (r.method.length + 1) =
      r.uri := by
    rw [show r.line = (r.method ++ [0x20] ++ r.uri) ++ 0x20 :: httpVersion by simp [line],
      List.take_left' (by simp only [List.length_append, List.length_singleton]),
      List.drop_left' (by simp)]
  rw [rawUriWithQuery, hline]
  dsimp only
  rw [bytes, List.take_left, hfirst]
  dsimp only
  rw [hsecond]
  exact htake

lemma pathSuffix_bytes (rest : Bytes) : pathSuffix (r.bytes rest) r.start = r.segmentText := by
  have hpath : r.uri.takeWhile (· ≠ 0x3F) = r.path := by
    have hnot : 0x3F ∉ r.path := r.not_mem_path (by decide) (by decide) (by decide) (by decide)
    rw [uri, List.takeWhile_append_of_pos fun c hc => decide_eq_true (ne_of_mem_of_not_mem hc hnot),
      List.takeWhile_cons_of_neg (by simp), List.append_nil]
  rw [pathSuffix, r.rawUriWithQuery_bytes, hpath, path, List.take_left, List.drop_left]
  split_ifs with h
  · have hlen := h.resolve_right (not_not_intro rfl)
    rw [List.length_append] at hlen
    exact (List.length_eq_zero_iff.mp (by omega)).symm
  · rfl

lemma findSome?_pairValue (name : Bytes) (ps : List Param) :
    (ps.map Param.text).findSome? (pairValue name) =
      (ps.find? fun p => p.nameText == name).map (·.valueText) := by
  induction ps with
  | nil => rfl
  | cons p ps ih =>
    have hpair : pairValue name p.text =
        if p.nameText = name then some p.valueText else none := by
      rw [pairValue, find_eq, Option.bind_some, drop_eq, Param.text, List.take_left]
    rw [List.map_cons, List.findSome?_cons, hpair, List.find?_cons]
    by_cases hname : p.nameText = name
    · simp [hname]
    · have hne : (p.nameText == name) = false := beq_false_of_ne hname
      rw [if_neg hname, hne]
      exact ih

/-- The handlers take what is written. -/
lemma queryParam_bytes (rest name : Bytes) :
    queryParam (rawUriWithQuery (r.bytes rest)) name = r.writtenValue name := by
  rw [r.rawUriWithQuery_bytes, queryParam, r.find_query]
  dsimp only
  rw [r.drop_query, r.getlines_query, findSome?_pairValue, writtenValue]

/-! ### The reader of `Http` -/

lemma requestLine_bytes (rest : Bytes) :
    Http.requestLine (extractHeader (r.bytes rest)) = r.line := by
  obtain ⟨tail, htail⟩ : ∃ tail, extractHeader (r.bytes rest) = r.line ++ (CRLF ++ tail) := by
    rw [extractHeader, bytes, Http.find_sep_skip r.cr_not_mem_line]
    cases find sep (CRLF ++ rest) with
    | none => exact ⟨rest, rfl⟩
    | some j =>
      refine ⟨rest.take (j + 2), ?_⟩
      rw [Option.map_some]
      dsimp only
      rw [Nat.add_right_comm, Nat.add_comm, List.take_length_add_append]
      rfl
  rw [htail, Http.requestLine, Http.find_CRLF_skip r.cr_not_mem_line,
    find_of_prefix (List.prefix_append _ _), Option.map_some, zero_add]
  exact List.take_left

lemma uriPart_line : Http.uriPart r.line r.method.length = r.uri := by
  have hline : r.line = (r.method ++ 0x20 :: r.uri) ++ 0x20 :: httpVersion := by simp [line]
  have htake : (r.line.take (r.method ++ 0x20 :: r.uri).length).drop (r.method.length + 1) =
      r.uri := by
    rw [hline, List.take_left, ← List.drop_drop, List.drop_left]
    rfl
  rw [Http.uriPart, show rfind 0x20 r.line = _ by rw [hline, rfind_char (by decide)]]
  dsimp only
  rw [if_pos (by simp), htake]

lemma queryParams_text (ps : List Param) :
    Http.queryParams (ps.map Param.text) = some (ps.map fun p => (p.name, p.value)) := by
  induction ps with
  | nil => rfl
  | cons p ps ih =>
    have hparam : Http.queryParam p.text = some (some (p.name, p.value)) := by
      rw [Http.queryParam, find_eq]
      dsimp only
      rw [drop_eq, Param.text, List.take_left, p.encodedName.pctDecode_query,
        p.encodedValue.pctDecode_query]
      rfl
    rw [List.map_cons, Http.queryParams, hparam, ih]
    rfl

/-- `Http` decodes the path and the parameters. -/
lemma parseRequestLine_line : Http.parseRequestLine r.line =
    (pctDecode r.path).map fun path =>
      (r.method, path, r.params.map fun p => (p.name, p.value)) := by
  have hspace : find [0x20] r.line = some r.method.length := find_char r.isMethod.1 _
  have hpath : r.uri.take r.path.length = r.path := by rw [uri, List.take_left]
  have hmethod : r.line.take r.method.length = r.method := by rw [line, List.take_left]
  rw [Http.parseRequestLine, hspace]
  dsimp only
  rw [r.uriPart_line, r.find_query]
  dsimp only
  rw [hpath, hmethod, r.drop_query, r.getlines_query, queryParams_text]
  cases pctDecode r.path <;> rfl

section

variable {decompress : Bytes → Bytes → Bytes} {rest : Bytes} {h : Http}

/-- What `Http` makes of the request line. -/
lemma ofBytes_line {s : Bytes} (hh : Http.ofBytes decompress s = some h)
    (hne : extractHeader s ≠ []) : ∃ method params,
      Http.parseRequestLine (Http.requestLine (extractHeader s)) =
        some (method, h.uriName, params) ∧
      ∀ name, h.getElement name =
        Http.firstField (params ++ headerFields (extractHeader s)) name := by
  simp only [Http.ofBytes, Option.bind_eq_bind, Option.bind_eq_some_iff] at hh
  obtain ⟨h₀, hread, body, -, hh⟩ := hh
  obtain ⟨params, hspec⟩ := Http.readHeader_spec hread
  cases hh
  obtain ⟨method, path, hline⟩ := hspec.query
  have hname : h₀.uriName = path := by
    rw [Http.readHeader, if_neg hne, Http.parseUri, hline] at hread
    obtain ⟨h₁, hh₁, rfl⟩ := Option.map_eq_some_iff.mp hread
    cases hh₁
    rfl
  exact ⟨method, params, by rw [hline, hname], fun name => Http.getElement_eq hspec name⟩

/-- `Http` gives the decoded path, and the first parameter of a name in any letter case. -/
lemma ofBytes_bytes (hh : Http.ofBytes decompress (r.bytes rest) = some h) :
    pctDecode r.path = some h.uriName ∧
      ∀ p ∈ r.params, h.getElement p.name = r.foldedValue p.name := by
  have hne : extractHeader (r.bytes rest) ≠ [] := by
    intro hnil
    have hline := r.requestLine_bytes rest
    rw [hnil] at hline
    have hspace : (0x20 : UInt8) ∈ r.line := by simp [line]
    rw [← hline] at hspace
    cases hspace
  obtain ⟨method, params, hline, helement⟩ := ofBytes_line hh hne
  rw [r.requestLine_bytes, r.parseRequestLine_line] at hline
  obtain ⟨path, hpath, heq⟩ := Option.map_eq_some_iff.mp hline
  cases heq
  refine ⟨hpath, fun p hp => ?_⟩
  -- the parameter itself is found at the latest, so no field of the header is
  have hfind : (r.params.find? fun q => toLower q.name == toLower p.name).isSome :=
    List.find?_isSome.mpr ⟨p, hp, beq_self_eq_true _⟩
  obtain ⟨q, hq⟩ := Option.isSome_iff_exists.mp hfind
  rw [helement, Http.firstField, List.find?_append, List.find?_map, foldedValue,
    show (r.params.find? ((fun f : Bytes × Bytes => toLower f.1 == toLower p.name) ∘
      fun q => (q.name, q.value))) = some q from hq, hq]
  rfl

end

/-! ### Agreement -/

/-- The path is decoded to itself where it has no escape and no plus sign. -/
lemma pctDecode_path (hsegment : r.segmentText = r.segment) :
    pctDecode r.path = some (r.start ++ r.segment) ↔ 0x2B ∉ r.segment := by
  have hstart : ∀ k, ¬ (isAlnum k ∨ k ∈ Bytes.ofString "/-._~") → k ∉ r.start :=
    fun k hk hmem => hk (r.isStart k hmem)
  have hpercent : 0x25 ∉ r.segmentText := by
    refine r.encodedSegment.not_mem_percent ?_ (congrArg List.length hsegment)
    rintro c ⟨rfl, hc⟩
    revert hc
    decide
  have hpath : 0x25 ∉ r.path := by
    rw [path, List.mem_append, not_or]
    exact ⟨hstart _ (by decide), hpercent⟩
  rw [pctDecode_of_not_mem hpath, path, hsegment, Option.some.injEq, map_plus_eq_self_iff,
    List.mem_append, not_or]
  exact and_iff_right (hstart _ (by decide))

/-- Both readers give the strings that the request was made from, exactly if it is written without
escapes where it counts. -/
theorem readersAgree_iff {decompress : Bytes → Bytes → Bytes} {rest : Bytes} {h : Http}
    (hh : Http.ofBytes decompress (r.bytes rest) = some h) :
    r.ReadersAgree rest h ↔ r.Literal := by
  obtain ⟨huri, helement⟩ := r.ofBytes_bytes hh
  constructor
  · intro hagree
    have hsegment : r.segmentText = r.segment := by
      rw [← r.pathSuffix_bytes rest]
      exact hagree.pathSuffix
    refine ⟨⟨hsegment, ?_⟩, fun p hp => ?_, fun p hp => ?_⟩
    · rw [← r.pctDecode_path hsegment, huri, hagree.uriName]
    · rw [← r.queryParam_bytes rest]
      exact hagree.queryParam p hp
    · rw [← helement p hp]
      exact hagree.getElement p hp
  · intro hliteral
    obtain ⟨hsegment, hplus⟩ := hliteral.segment
    refine ⟨?_, ?_, fun p hp => ?_, fun p hp => ?_⟩
    · rw [r.pathSuffix_bytes, hsegment]
    · rw [(r.pctDecode_path hsegment).mpr hplus] at huri
      exact (Option.some.inj huri).symm
    · rw [r.queryParam_bytes]
      exact hliteral.written p hp
    · rw [helement p hp]
      exact hliteral.folded p hp

/-- A request whose parameters are written as they are, under names that are told apart in any
letter case, is one that both readers read alike. -/
lemma literal_of_plain (hsegment : r.segmentText = r.segment) (hplus : 0x2B ∉ r.segment)
    (hwritten : ∀ p ∈ r.params, p.nameText = p.name ∧ p.valueText = p.value)
    (hfolded : ∀ p ∈ r.params, ∀ q ∈ r.params, toLower q.name = toLower p.name → q.name = p.name) :
    r.Literal := by
  refine ⟨⟨hsegment, hplus⟩, fun p _ => ?_, fun p hp => ?_⟩
  · have hfind : r.params.find? (fun q => q.nameText == p.name) =
        r.params.find? fun q => q.name == p.name := by
      refine List.find?_congr fun q hq => ?_
      rw [(hwritten q hq).1]
    rw [writtenValue, firstValue, hfind]
    cases hq : r.params.find? fun q => q.name == p.name with
    | none => rfl
    | some q =>
      have hvalue := (hwritten q (List.mem_of_find?_eq_some hq)).2
      rw [Option.map_some, Option.map_some, hvalue]
  · have hfind : r.params.find? (fun q => toLower q.name == toLower p.name) =
        r.params.find? fun q => q.name == p.name := by
      refine List.find?_congr fun q hq => ?_
      by_cases hname : q.name = p.name
      · simp [hname]
      · have hlower : toLower q.name ≠ toLower p.name := fun h => hname (hfolded p hp q hq h)
        rw [beq_false_of_ne hname, beq_false_of_ne hlower]
    rw [foldedValue, firstValue, hfind]

end UriRequest

lemma encodes_plain {as : UInt8 → UInt8 → Prop} (has : ∀ c, isAlnum c = true → as c c) :
    Encodes as (Bytes.ofString "u1") (Bytes.ofString "u1") :=
  encodes_of_isAlnum has (List.all_eq_true.mp (by decide))

lemma asPath_of_isAlnum (c : UInt8) (hc : isAlnum c = true) : AsPath c c := ⟨rfl, Or.inl hc⟩

lemma asQuery_of_isAlnum (c : UInt8) (hc : isAlnum c = true) : AsQuery c c :=
  Or.inl ⟨rfl, Or.inl hc⟩

/-- A parameter with one name for its value. -/
def plainParam : Param where
  name := Bytes.ofString "u1"
  value := Bytes.ofString "u1"
  nameText := Bytes.ofString "u1"
  valueText := Bytes.ofString "u1"
  encodedName := encodes_plain asQuery_of_isAlnum
  encodedValue := encodes_plain asQuery_of_isAlnum

lemma isMethod_get : 0x20 ∉ Bytes.ofString "GET" ∧ 0x0D ∉ Bytes.ofString "GET" := by decide

lemma isStart_slash : ∀ c ∈ Bytes.ofString "/", isAlnum c ∨ c ∈ Bytes.ofString "/-._~" := by
  have hslash : Bytes.ofString "/" = [0x2F] := by decide
  rw [hslash, List.forall_mem_singleton]
  decide

/-- A request for `u1`, with a parameter. -/
def plainRequest : UriRequest where
  method := Bytes.ofString "GET"
  start := Bytes.ofString "/"
  segment := Bytes.ofString "u1"
  segmentText := Bytes.ofString "u1"
  params := [plainParam]
  isMethod := isMethod_get
  isStart := isStart_slash
  encodedSegment := encodes_plain asPath_of_isAlnum

theorem UriRequest.readersAgree_iff_plainRequest :
    ∃ h, Http.ofBytes (fun s _ => s) (plainRequest.bytes CRLF) = some h ∧
      (plainRequest.ReadersAgree CRLF h ↔ plainRequest.Literal) := by
  have hsome : (Http.ofBytes (fun s _ => s) (plainRequest.bytes CRLF)).isSome := by decide +kernel
  obtain ⟨h, hh⟩ := Option.isSome_iff_exists.mp hsome
  exact ⟨h, hh, plainRequest.readersAgree_iff hh⟩

/-- A blank in a path, as an encoder writes it. -/
lemma encodes_blank : Encodes AsPath [0x20] (Bytes.ofString "%20") :=
  Encodes.escape ⟨2, 0, rfl, rfl, rfl⟩ Encodes.nil

def blankRequest : UriRequest where
  method := Bytes.ofString "GET"
  start := Bytes.ofString "/"
  segment := [0x20]
  segmentText := Bytes.ofString "%20"
  params := []
  isMethod := isMethod_get
  isStart := isStart_slash
  encodedSegment := encodes_blank

/-- The segment of a path is not decoded. -/
theorem segment_not_decoded :
    ¬ ∀ (r : UriRequest) (decompress : Bytes → Bytes → Bytes) (rest : Bytes) (h : Http),
      Http.ofBytes decompress (r.bytes rest) = some h → r.ReadersAgree rest h := by
  intro hclaim
  have hsome : (Http.ofBytes (fun s _ => s) (blankRequest.bytes CRLF)).isSome := by decide +kernel
  obtain ⟨h, hh⟩ := Option.isSome_iff_exists.mp hsome
  have hsuffix := (hclaim blankRequest _ _ h hh).pathSuffix
  rw [blankRequest.pathSuffix_bytes] at hsuffix
  revert hsuffix
  decide

end MicroServicePbx
