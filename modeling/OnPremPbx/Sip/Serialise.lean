import OnPremPbx.Http.HeaderText
import OnPremPbx.Sip.SipParser

/-!
# SIP messages that are sent and parsed

A `SipMessage` is a request that is sent: a request line, fields under long or short names, and a
body. The parser and `message_length` read it back, but for the plus signs of the URI, which are
decoded as in a web form.
-/

open Text Http

namespace Sip

/-! ### What the maps hold -/

lemma lookup_append_single (m : List (Bytes × Bytes)) (k key v : Bytes) :
    (m ++ [(k, v)]).lookup key = (m.lookup key).or (if key = k then some v else none) := by
  rw [List.lookup_append]
  by_cases h : key = k
  · subst h
    simp
  · have hne : (key == k) = false := by simpa using h
    simp [List.lookup_cons, hne, h]

lemma lookup_filter_ne (m : List (Bytes × Bytes)) (k key : Bytes) :
    (m.filter fun g => !decide (g.1 = k)).lookup key =
      if key = k then none else m.lookup key := by
  induction m with
  | nil => simp
  | cons g m ih =>
    obtain ⟨name, v⟩ := g
    by_cases hname : name = k
    · subst hname
      by_cases hkey : key = name
      · subst hkey
        simpa using ih
      · have hne : (key == name) = false := by simpa using hkey
        simpa [List.lookup_cons, hne, hkey] using ih
    · by_cases hkey : key = name
      · subst hkey
        simp [hname]
      · have hne : (key == name) = false := by simpa using hkey
        simpa [List.lookup_cons, hname, hne] using ih

/-- The map of the scalars keeps the first of several values, and else the last. -/
lemma lookup_addElement (s : Sip) (f : Bytes × Bytes) (key : Bytes) :
    (s.addElement f).tokenMap.lookup key =
      if key = canonicalName f.1 then
        if isMultiValue key then (s.tokenMap.lookup key).or (some f.2) else some f.2
      else s.tokenMap.lookup key := by
  rw [addElement]
  by_cases hkey : key = canonicalName f.1
  · subst hkey
    cases hmulti : isMultiValue (canonicalName f.1) with
    | true =>
      cases hlookup : s.tokenMap.lookup (canonicalName f.1) with
      | none => simp [lookup_append_single, hlookup]
      | some v => simp [hlookup]
    | false => simp [lookup_append_single, lookup_filter_ne]
  · simp only [if_neg hkey]
    split_ifs <;> simp [lookup_append_single, lookup_filter_ne, hkey]

lemma multiMap_addElement (s : Sip) (f : Bytes × Bytes) :
    (s.addElement f).multiMap = s.multiMap ++ [(canonicalName f.1, f.2)] := by
  rw [addElement]
  split_ifs <;> rfl

/-- The values of the fields that have this name, long or short. -/
def values (fields : List (Bytes × Bytes)) (key : Bytes) : List Bytes :=
  (fields.filter fun f => canonicalName f.1 = canonicalName key).map (·.2)

lemma values_cons (f : Bytes × Bytes) (fields : List (Bytes × Bytes)) (key : Bytes) :
    values (f :: fields) key =
      if canonicalName f.1 = canonicalName key then f.2 :: values fields key
      else values fields key := by
  by_cases hf : canonicalName f.1 = canonicalName key <;> simp [values, hf]

/-- What the parser leaves of a message besides its maps. -/
structure SameMessage (s s' : Sip) : Prop where
  isRequest : s'.isRequest = s.isRequest
  error : s'.error = s.error
  method : s'.method = s.method
  uri : s'.uri = s.uri
  header : s'.header = s.header
  body : s'.body = s.body

lemma sameMessage_addElement (s : Sip) (f : Bytes × Bytes) : SameMessage s (s.addElement f) := by
  rw [addElement]
  split_ifs <;> exact ⟨rfl, rfl, rfl, rfl, rfl, rfl⟩

section

variable (fields : List (Bytes × Bytes)) (s : Sip)

lemma sameMessage_foldl : SameMessage s (fields.foldl addElement s) := by
  induction fields generalizing s with
  | nil => exact ⟨rfl, rfl, rfl, rfl, rfl, rfl⟩
  | cons f fields ih =>
    have h := sameMessage_addElement s f
    have h' := ih (s.addElement f)
    exact ⟨h'.isRequest.trans h.isRequest, h'.error.trans h.error, h'.method.trans h.method,
      h'.uri.trans h.uri, h'.header.trans h.header, h'.body.trans h.body⟩

lemma multiMap_foldl : (fields.foldl addElement s).multiMap =
    s.multiMap ++ fields.map fun f => (canonicalName f.1, f.2) := by
  induction fields generalizing s with
  | nil => simp
  | cons f fields ih =>
    rw [List.foldl_cons, ih, multiMap_addElement]
    simp

/-- All values of a field are kept, in order. -/
lemma getAll_foldl (key : Bytes) (hs : s.multiMap = []) :
    (fields.foldl addElement s).getAll key = values fields key := by
  rw [getAll, multiMap_foldl, hs, List.nil_append, values, List.filter_map, List.map_map]
  rfl

/-- Of a field with several values, the first is kept. -/
lemma lookup_foldl_multi {key : Bytes} (hmulti : isMultiValue (canonicalName key) = true) :
    (fields.foldl addElement s).tokenMap.lookup (canonicalName key) =
      (s.tokenMap.lookup (canonicalName key)).or (values fields key).head? := by
  induction fields generalizing s with
  | nil => simp [values]
  | cons f fields ih =>
    rw [List.foldl_cons, ih, lookup_addElement, values_cons]
    by_cases hf : canonicalName f.1 = canonicalName key
    · simp [hf, hmulti]
    · simp [hf, Ne.symm hf]

/-- Of other fields, the last value is kept. -/
lemma lookup_foldl_single {key : Bytes} (hmulti : isMultiValue (canonicalName key) = false) :
    (fields.foldl addElement s).tokenMap.lookup (canonicalName key) =
      (values fields key).getLast?.or (s.tokenMap.lookup (canonicalName key)) := by
  induction fields generalizing s with
  | nil => simp [values]
  | cons f fields ih =>
    rw [List.foldl_cons, ih, lookup_addElement, values_cons]
    by_cases hf : canonicalName f.1 = canonicalName key
    · simp only [hf, hmulti, if_true, List.getLast?_cons]
      cases (values fields key).getLast? <;> simp
    · simp [hf, Ne.symm hf]

end

/-! ### Names of lengths -/

/-- The long name of the length has one short name. -/
lemma canonicalize_eq_contentLength (key : Bytes) :
    canonicalize key = contentLength ↔ lengthNames.contains key = true := by
  have htable : ∀ p ∈ compactToCanonical, p.2 = contentLength ↔ p.1 = Bytes.ofString "l" := by
    decide
  have hkeys : ∀ p ∈ compactToCanonical, p.1 ≠ contentLength := by decide
  rw [canonicalize, lengthNames]
  cases hlookup : compactToCanonical.lookup key with
  | none =>
    have hl : key ≠ Bytes.ofString "l" := by
      rintro rfl
      revert hlookup
      decide
    simp [hl]
  | some v =>
    obtain ⟨l₁, l₂, htable_eq, -⟩ := List.lookup_eq_some_iff.mp hlookup
    have hmem : (key, v) ∈ compactToCanonical := by
      rw [htable_eq]
      simp
    have hvalue := htable _ hmem
    have hkey := hkeys _ hmem
    simp only [Option.getD_some, List.contains_cons, List.contains_nil, Bool.or_false,
      Bool.or_eq_true, beq_iff_eq]
    rw [hvalue]
    exact ⟨.inr, fun h => h.resolve_left hkey⟩

/-- No short name stands for the name of the transfer encoding. -/
lemma canonicalize_eq_transferEncoding {key : Bytes} (h : canonicalize key = transferEncoding) :
    key = transferEncoding := by
  have htable : ∀ p ∈ compactToCanonical, p.2 ≠ transferEncoding := by decide
  rw [canonicalize] at h
  cases hlookup : compactToCanonical.lookup key with
  | none =>
    rw [hlookup] at h
    exact h
  | some v =>
    obtain ⟨l₁, l₂, htable_eq, -⟩ := List.lookup_eq_some_iff.mp hlookup
    have hmem : (key, v) ∈ compactToCanonical := by
      rw [htable_eq]
      simp
    rw [hlookup] at h
    exact absurd h (htable _ hmem)

/-! ### Messages -/

/-- The end of the line of a request. -/
def requestLine (method uri : Bytes) : Bytes := method ++ 0x20 :: (uri ++ 0x20 :: version)

/-- A request to be sent: a field of the length has the length of the body, in digits. -/
structure SipMessage where
  method : Bytes
  uri : Bytes
  headers : List (Bytes × Bytes)
  body : Bytes
  isMethod : 0x20 ∉ method ∧ CR ∉ method ∧ LF ∉ method ∧ ¬ version <+: method
  isUri : 0x20 ∉ uri ∧ 0x25 ∉ uri ∧ CR ∉ uri ∧ LF ∉ uri
  isField : ∀ f ∈ headers, IsField f
  length : ∀ f ∈ headers, canonicalName f.1 = contentLength →
    f.2 ≠ [] ∧ (∀ c ∈ f.2, isDigit 10 c) ∧ digitsValue 10 0 f.2 = body.length
  fits : (headerText (requestLine method uri) headers ++ body).length < 2 ^ 63

namespace SipMessage

variable (m : SipMessage)

def line : Bytes := requestLine m.method m.uri

def header : Bytes := headerText m.line m.headers

/-- The message as it is sent. -/
def bytes : Bytes := m.header ++ m.body

/-- The message is read back, and cut off at its end from whatever comes after it. -/
structure Undone : Prop where
  parsed : ∃ s, ofBytes m.bytes = some s ∧ s.error = false ∧ s.isRequest = true ∧
    s.method = m.method ∧ s.uri = m.uri ∧ s.body = m.body ∧
    (∀ key, s.getAll key = values m.headers key) ∧
    ∀ key, isMultiValue (canonicalName key) = true →
      s.getElement key = (values m.headers key).head?.getD []
  length : ∀ rest, messageLength (m.bytes ++ rest) = m.bytes.length

/-- There is a field of the length, by one of its names. -/
def HasLength : Prop := ∃ f ∈ m.headers, canonicalName f.1 = contentLength

lemma not_mem_line {c : UInt8} (hspace : c ≠ 0x20) (hversion : c ∉ version) (hmethod : c ∉ m.method)
    (huri : c ∉ m.uri) : c ∉ m.line := by
  simp [line, requestLine, hspace, hversion, hmethod, huri]

lemma cr_not_mem_line : CR ∉ m.line :=
  m.not_mem_line (by decide) (by decide) m.isMethod.2.1 m.isUri.2.2.1

lemma lf_not_mem_line : LF ∉ m.line :=
  m.not_mem_line (by decide) (by decide) m.isMethod.2.2.1 m.isUri.2.2.2

lemma find_space : find [0x20] m.line = some m.method.length := by
  rw [line, requestLine, find_char m.isMethod.1]

lemma rfind_space : rfind 0x20 m.line = some (m.method.length + 1 + m.uri.length) := by
  have hline : m.line = (m.method ++ 0x20 :: m.uri) ++ 0x20 :: version := by
    simp [line, requestLine]
  rw [hline, rfind_char (by decide)]
  simp only [List.length_append, List.length_cons, Option.some.injEq]
  omega

lemma parseFirstLine_line (s : Sip) :
    parseFirstLine m.line s = some { s with
      isRequest := true
      method := m.method
      uri := m.uri.map fun c => if c = 0x2B then 0x20 else c } := by
  have hnot : ¬ version <+: m.line := by
    intro hprefix
    exact m.isMethod.2.2.2 (prefix_of_not_mem (by decide) hprefix)
  have htake : (m.line.take (m.method.length + 1 + m.uri.length)).drop (m.method.length + 1) =
      m.uri := by
    rw [show m.line = (m.method ++ [0x20] ++ m.uri) ++ 0x20 :: version by
        simp [line, requestLine],
      List.take_left' (by simp only [List.length_append, List.length_singleton]),
      List.drop_left' (by simp)]
  have hdrop : m.line.drop (m.method.length + 1 + m.uri.length + 1) = version := by
    rw [show m.line = (m.method ++ [0x20] ++ m.uri ++ [0x20]) ++ version by
        simp [line, requestLine],
      List.drop_left' (by simp only [List.length_append, List.length_singleton])]
  have hmethod : m.line.take m.method.length = m.method := by
    rw [line, requestLine, List.take_left]
  have hspaces : ¬ (m.method.length + 1 + m.uri.length = m.method.length ∨
      m.line.drop (m.method.length + 1 + m.uri.length + 1) ≠ version) := by
    rw [not_or, not_not]
    exact ⟨by omega, hdrop⟩
  rw [parseFirstLine, if_neg hnot, parseRequestLine, m.find_space, m.rfind_space]
  dsimp only
  rw [if_neg hspaces, htake, pctDecode_of_not_mem m.isUri.2.1, Option.map_some, hmethod]

/-! ### Its header -/

lemma extractHeader_bytes (rest : Bytes) : extractHeader (m.bytes ++ rest) = m.header := by
  rw [bytes, List.append_assoc]
  exact extractHeader_headerText m.cr_not_mem_line m.isField _

lemma headerFields_header : headerFields m.header = m.headers :=
  headerFields_headerText m.lf_not_mem_line m.isField

lemma firstLine_header : firstLine m.header = m.line := by
  rw [firstLine, header, find_CRLF_headerText m.cr_not_mem_line]
  dsimp only
  rw [headerText, textLines, List.append_assoc, List.take_left]

/-- Where there is no field of the transfer encoding, the length is the only framing. -/
lemma values_transferEncoding (h : ∀ f ∈ m.headers, toLower f.1 ≠ transferEncoding) :
    values m.headers transferEncoding = [] := by
  have hname : canonicalName transferEncoding = transferEncoding := by decide
  rw [values, List.map_eq_nil_iff, List.filter_eq_nil_iff, hname]
  intro f hf heq
  exact h f hf (canonicalize_eq_transferEncoding (of_decide_eq_true heq))

/-- The values of the fields of the length. -/
lemma values_contentLength : ∀ v ∈ values m.headers contentLength,
    v ≠ [] ∧ stoul 10 v = some m.body.length := by
  have hname : canonicalName contentLength = contentLength := by decide
  intro v hv
  rw [values, List.mem_map] at hv
  obtain ⟨f, hf, rfl⟩ := hv
  rw [List.mem_filter, hname, decide_eq_true_eq] at hf
  obtain ⟨hne, hdigits, hvalue⟩ := m.length f hf.1 hf.2
  have hfits := m.fits
  rw [List.length_append] at hfits
  rw [stoul_digits (by decide) hne hdigits (by omega), hvalue]
  exact ⟨hne, rfl⟩

lemma lastValue_eq : lastValue m.headers lengthNames =
    (values m.headers contentLength).getLast?.getD [] := by
  have hname : canonicalName contentLength = contentLength := by decide
  have hpred : (fun f : Bytes × Bytes => lengthNames.contains (toLower f.1)) =
      fun f => decide (canonicalName f.1 = canonicalName contentLength) := by
    funext f
    rw [hname, canonicalName, Bool.eq_iff_iff, decide_eq_true_eq, canonicalize_eq_contentLength]
  rw [lastValue, hpred, values, ← List.head?_reverse, ← List.map_reverse, ← List.filter_reverse,
    List.head?_map, List.head?_filter]

/-! ### Parsing -/

/-- The message after its first line. -/
def lineRead : Sip where
  header := m.header
  isRequest := true
  method := m.method
  uri := m.uri.map fun c => if c = 0x2B then 0x20 else c

/-- The message before its body is read. -/
def headerRead : Sip := m.headers.foldl addElement m.lineRead

lemma headerRead_header : m.headerRead.header = m.header := (sameMessage_foldl _ _).header

lemma getElement_headerRead {key : Bytes} (hkey : canonicalName key = key)
    (hmulti : isMultiValue key = false) :
    m.headerRead.getElement key = (values m.headers key).getLast?.getD [] := by
  rw [getElement, headerRead, lookup_foldl_single _ _ (by rw [hkey]; exact hmulti), lineRead]
  simp

lemma getElement_headerRead_multi {key : Bytes} (hmulti : isMultiValue (canonicalName key) = true) :
    m.headerRead.getElement key = (values m.headers key).head?.getD [] := by
  rw [getElement, headerRead, lookup_foldl_multi _ _ hmulti, lineRead]
  simp

lemma ofBytes_bytes (hte : ∀ f ∈ m.headers, toLower f.1 ≠ transferEncoding) :
    ofBytes m.bytes = some (readBody m.bytes m.headerRead) := by
  have hheader : extractHeader m.bytes = m.header := by simpa using m.extractHeader_bytes []
  have hne : m.header ≠ [] := headerText_ne_nil _ _
  have herror : m.headerRead.error = false := (sameMessage_foldl _ _).error
  have hnone : m.headerRead.getElement transferEncoding = [] := by
    rw [m.getElement_headerRead (by decide) (by decide), m.values_transferEncoding hte]
    rfl
  rw [ofBytes, hheader]
  simp only [if_neg hne, m.firstLine_header, m.parseFirstLine_line, Option.bind_eq_bind,
    Option.bind_some, Bool.false_eq_true, if_false, parseMimeHeader, m.headerFields_header]
  rw [headerRead, lineRead] at hnone
  rw [headerRead, lineRead, if_neg (not_not_intro hnone)]

lemma length_bytes : m.bytes.length = m.header.length + m.body.length := List.length_append

/-- A field of the length is one of its values. -/
lemma hasLength_iff : m.HasLength ↔ values m.headers contentLength ≠ [] := by
  have hname : canonicalName contentLength = contentLength := by decide
  simp [HasLength, values, hname, List.filter_eq_nil_iff]

/-- The body is the one that was sent, where its length is given or it is empty. -/
lemma readBody_headerRead (h : m.HasLength ∨ m.body = []) :
    readBody m.bytes m.headerRead = { m.headerRead with body := m.body } := by
  have helement : m.headerRead.getElement contentLength =
      (values m.headers contentLength).getLast?.getD [] :=
    m.getElement_headerRead (by decide) (by decide)
  have hlen := m.length_bytes
  have hfits : m.bytes.length < 2 ^ 63 := m.fits
  rw [readBody, m.headerRead_header, helement]
  cases hlast : (values m.headers contentLength).getLast? with
  | none =>
    have hbody : m.body = [] := by
      rw [List.getLast?_eq_none_iff] at hlast
      exact h.resolve_left fun hlength => m.hasLength_iff.mp hlength hlast
    have hempty : m.headerRead.body = [] := (sameMessage_foldl _ _).body
    rw [show m.body = m.headerRead.body by rw [hbody, hempty]]
    simp
  | some v =>
    obtain ⟨hne, hnum⟩ := m.values_contentLength v (List.mem_of_getLast? hlast)
    have hpos : 0 < m.header.length := List.length_pos_of_ne_nil (headerText_ne_nil _ _)
    have hend : (m.header.length + m.body.length) % 2 ^ 64 ≤ m.bytes.length := by
      rw [← hlen, Nat.mod_eq_of_lt (by omega)]
    have htake : (m.bytes.drop m.header.length).take m.body.length = m.body := by
      rw [bytes, List.drop_left, List.take_length]
    simp only [Option.getD_some, ne_eq, hne, not_false_eq_true, hpos, and_self, if_true, hnum, hend,
      htake]
    rw [m.headerRead_header]

/-- The length that the scan of the header gives. -/
lemma messageLength_bytes (rest : Bytes) :
    messageLength (m.bytes ++ rest) =
      if m.headers.any fun f => toLower f.1 = transferEncoding then 0
      else if values m.headers contentLength = [] then m.header.length
      else m.bytes.length := by
  obtain ⟨i, hfind, hlen⟩ := find_sep_headerText m.cr_not_mem_line m.isField (m.body ++ rest)
  have hsplit : m.bytes ++ rest = headerText m.line m.headers ++ (m.body ++ rest) :=
    List.append_assoc ..
  have htake : (m.bytes ++ rest).take (i + sep.length) = m.header := by
    rw [hsplit, hlen, List.take_left]
    rfl
  have hbytes := m.length_bytes
  have hfits : m.bytes.length < 2 ^ 63 := m.fits
  rw [messageLength, hsplit, hfind, ← hsplit]
  dsimp only
  rw [htake, m.headerFields_header, m.lastValue_eq, hlen]
  refine if_congr Iff.rfl rfl ?_
  by_cases hnil : values m.headers contentLength = []
  · rw [hnil]
    rfl
  · obtain ⟨v, hlast⟩ := Option.ne_none_iff_exists'.mp (mt List.getLast?_eq_none_iff.mp hnil)
    obtain ⟨hne, hnum⟩ := m.values_contentLength v (List.mem_of_getLast? hlast)
    rw [hlast, Option.getD_some, if_neg hne, hnum, if_neg hnil]
    dsimp only
    rw [hbytes, header, Nat.mod_eq_of_lt]
    rw [← header, ← hbytes]
    omega

/-- A request is read back exactly if its URI has no plus sign, its header no transfer encoding,
which is refused, and its body a length or no bytes. -/
theorem undone_iff : m.Undone ↔
    0x2B ∉ m.uri ∧ (∀ f ∈ m.headers, toLower f.1 ≠ transferEncoding) ∧
      (m.HasLength ∨ m.body = []) := by
  have hempty : m.HasLength ∨ m.body = [] ↔
      (values m.headers contentLength = [] → m.body = []) := by
    rw [m.hasLength_iff, ne_eq, or_iff_not_imp_left, not_not]
  have hpos : 0 < m.header.length := List.length_pos_of_ne_nil (headerText_ne_nil _ _)
  have hbytes := m.length_bytes
  constructor
  · intro h
    have hlength := h.length []
    rw [m.messageLength_bytes] at hlength
    have hte : ∀ f ∈ m.headers, toLower f.1 ≠ transferEncoding := by
      intro f hf heq
      rw [if_pos (List.any_eq_true.mpr ⟨f, hf, decide_eq_true heq⟩)] at hlength
      omega
    rw [if_neg (by simpa using hte)] at hlength
    have hbody : m.HasLength ∨ m.body = [] := by
      refine hempty.mpr fun hnil => ?_
      rw [if_pos hnil] at hlength
      exact List.length_eq_zero_iff.mp (by omega)
    obtain ⟨s, hs, -, -, -, huri, -⟩ := h.parsed
    rw [m.ofBytes_bytes hte, m.readBody_headerRead hbody] at hs
    cases hs
    refine ⟨map_plus_eq_self_iff.mp ?_, hte, hbody⟩
    exact (sameMessage_foldl _ _).uri.symm.trans huri
  · rintro ⟨hplus, hte, hbody⟩
    refine ⟨⟨{ m.headerRead with body := m.body }, ?_, ?_, ?_, ?_, ?_, rfl, ?_, ?_⟩, fun rest => ?_⟩
    · rw [m.ofBytes_bytes hte, m.readBody_headerRead hbody]
    · exact (sameMessage_foldl _ _).error
    · exact (sameMessage_foldl _ _).isRequest
    · exact (sameMessage_foldl _ _).method
    · exact (sameMessage_foldl _ _).uri.trans (map_plus_eq_self_iff.mpr hplus)
    · exact fun key => getAll_foldl m.headers _ key rfl
    · exact fun key hmulti => m.getElement_headerRead_multi hmulti
    · rw [m.messageLength_bytes, if_neg (by simpa using hte)]
      split_ifs with hnil
      · rw [hbytes, hempty.mp hbody hnil]
        rfl
      · rfl

end SipMessage

def telephoneHeaders : List (Bytes × Bytes) :=
  [(Bytes.ofString "v", Bytes.ofString "a"), (Bytes.ofString "L", Bytes.ofString "1")]

lemma isMethod_invite : 0x20 ∉ Bytes.ofString "INVITE" ∧ CR ∉ Bytes.ofString "INVITE" ∧
    LF ∉ Bytes.ofString "INVITE" ∧ ¬ version <+: Bytes.ofString "INVITE" := by decide

lemma isUri_telephone : 0x20 ∉ Bytes.ofString "sip:+4930@host" ∧
    0x25 ∉ Bytes.ofString "sip:+4930@host" ∧ CR ∉ Bytes.ofString "sip:+4930@host" ∧
    LF ∉ Bytes.ofString "sip:+4930@host" := by decide

lemma isField_telephoneHeaders : ∀ f ∈ telephoneHeaders, IsField f := by
  rw [telephoneHeaders, List.forall_mem_cons, List.forall_mem_singleton]
  exact ⟨⟨by decide, by decide, by decide⟩, ⟨by decide, by decide, by decide⟩⟩

lemma length_telephoneHeaders : ∀ f ∈ telephoneHeaders, canonicalName f.1 = contentLength →
    f.2 ≠ [] ∧ (∀ c ∈ f.2, isDigit 10 c) ∧ digitsValue 10 0 f.2 = ([0x78] : Bytes).length := by
  rw [telephoneHeaders, List.forall_mem_cons, List.forall_mem_singleton]
  exact ⟨fun hname => absurd hname (by decide),
    fun _ => ⟨by decide, List.all_eq_true.mp (by decide), by decide⟩⟩

lemma telephone_fits : (headerText (requestLine (Bytes.ofString "INVITE")
    (Bytes.ofString "sip:+4930@host")) telephoneHeaders ++ [0x78]).length < 2 ^ 63 := by decide

/-- A call to a telephone number. -/
def telephoneCall : SipMessage where
  method := Bytes.ofString "INVITE"
  uri := Bytes.ofString "sip:+4930@host"
  headers := telephoneHeaders
  body := [0x78]
  isMethod := isMethod_invite
  isUri := isUri_telephone
  isField := isField_telephoneHeaders
  length := length_telephoneHeaders
  fits := telephone_fits

/-- The number that is called has a blank in place of its plus sign. -/
theorem telephone_number_not_kept : ¬ ∀ m : SipMessage, m.Undone := by
  intro hclaim
  obtain ⟨s, hs, -, -, -, huri, -⟩ := (hclaim telephoneCall).parsed
  have hparsed : (ofBytes telephoneCall.bytes).map (·.uri) =
      some (Bytes.ofString "sip: 4930@host") := by decide +kernel
  rw [hs, Option.map_some, huri] at hparsed
  revert hparsed
  decide

end Sip
