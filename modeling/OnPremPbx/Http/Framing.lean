import OnPremPbx.Http.Agreement
import OnPremPbx.Http.HeaderText

/-!
# Requests on a connection

A `Request` is what a client sends: a request line, fields, one of which frames the body, and the
body with a length or in chunks. The loop of `WebConnection::handle_input` cuts the requests of a
connection apart again, however they are split over the calls of `recv`, where the end of a chunked
body is the first place in it that looks like one.
-/

open Text

namespace Http

variable {decompress : Bytes → Bytes → Bytes}

/-! ### Chunks -/

/-- The line before a chunk: a numeral, and an extension after a semicolon. -/
structure SizeLine (size ext : Bytes) : Prop where
  nonempty : size ≠ []
  digits : ∀ c ∈ size, isDigit 16 c
  semicolon : ext = [] ∨ ext.head? = some 0x3B
  noCR : CR ∉ ext

/-- A chunk, with its size in the line before it. -/
structure Chunk where
  size : Bytes
  ext : Bytes := []
  data : Bytes
  line : SizeLine size ext
  nonempty : data ≠ []
  value : digitsValue 16 0 size = data.length

def Chunk.bytes (c : Chunk) : Bytes := c.size ++ c.ext ++ CRLF ++ c.data ++ CRLF

/-- A body in chunks, with the line of the last chunk and a trailer. -/
structure ChunkedBody where
  chunks : List Chunk
  last : Bytes
  ext : Bytes := []
  trailer : List (Bytes × Bytes) := []
  line : SizeLine last ext
  zeros : ∀ c ∈ last, c = 0x30
  isField : ∀ f ∈ trailer, IsField f

/-- The part of a chunked body after its chunks. -/
def ChunkedBody.closing (b : ChunkedBody) : Bytes :=
  textLines ((b.last ++ b.ext) :: b.trailer.map fieldLine)

def ChunkedBody.bytes (b : ChunkedBody) : Bytes := b.chunks.flatMap Chunk.bytes ++ b.closing

/-- The body that the chunks make up. -/
def ChunkedBody.data (b : ChunkedBody) : Bytes := b.chunks.flatMap Chunk.data

namespace SizeLine

variable {size ext : Bytes}

lemma cr_not_mem (h : SizeLine size ext) : CR ∉ size ++ ext := by
  rw [List.mem_append, not_or]
  exact ⟨fun hc => ne_of_isDigit (h.digits CR hc) (by decide) rfl, h.noCR⟩

/-- The number is read up to the extension. -/
lemma takeWhile_eq (h : SizeLine size ext) : (size ++ ext).takeWhile (· ≠ 0x3B) = size := by
  have hsize : ∀ c ∈ size, decide (c ≠ 0x3B) = true := by
    intro c hc
    refine decide_eq_true ?_
    rintro rfl
    exact absurd (h.digits _ hc) (by decide)
  rw [List.takeWhile_append_of_pos hsize]
  rcases h.semicolon with rfl | hhead
  · simp
  · obtain ⟨ext', rfl⟩ := List.head?_eq_some_iff.mp hhead
    simp

/-- The first line end after the start of the line is its own, and the number before it is the one
of the numeral. -/
lemma read (h : SizeLine size ext) (before after : Bytes)
    (hlt : digitsValue 16 0 size < 2 ^ 64) :
    let s := before ++ (size ++ ext ++ (CRLF ++ after))
    findFrom CRLF s before.length = some (before.length + (size ++ ext).length) ∧
    stoul 16 (((s.take (before.length + (size ++ ext).length)).drop before.length).takeWhile
      (· ≠ 0x3B)) = some (digitsValue 16 0 size) := by
  intro s
  have htake :
      (s.take (before.length + (size ++ ext).length)).drop before.length = size ++ ext := by
    rw [List.drop_take, List.drop_left, Nat.add_sub_cancel_left, List.take_left]
  constructor
  · rw [findFrom, if_pos (by simp [s]), List.drop_left, find_CRLF_skip h.cr_not_mem,
      find_of_prefix (List.prefix_append _ _), Option.map_some, Option.map_some, zero_add, add_comm]
  · rw [htake, h.takeWhile_eq, stoul_digits le_rfl h.nonempty h.digits hlt]

end SizeLine

lemma digitsValue_zeros {ds : Bytes} (h : ∀ c ∈ ds, c = 0x30) : digitsValue 16 0 ds = 0 := by
  induction ds with
  | nil => rfl
  | cons c ds ih =>
    rw [h c List.mem_cons_self]
    exact ih fun d hd => h d (List.mem_cons_of_mem _ hd)

/-! ### The walk over the chunks -/

lemma chunkStep_of_size {s : Bytes} {pos crlf size : ℕ} (hpos : pos < s.length)
    (hfind : findFrom CRLF s pos = some crlf)
    (hnum : stoul 16 (((s.take crlf).drop pos).takeWhile (· ≠ 0x3B)) = some size)
    (hsize : size ≠ 0) :
    chunkStep s pos =
      if s.length < (crlf + 2 + size) % 2 ^ 64 then none
      else some ((s.drop (crlf + 2)).take size, (crlf + 2 + (size + 2)) % 2 ^ 64) := by
  rw [chunkStep, if_neg (not_le.mpr hpos), hfind]
  dsimp only
  rw [hnum]
  cases size with
  | zero => exact absurd rfl hsize
  | succ k => rfl

/-- At the start of a chunk, its data is appended and the walk goes on after it. -/
lemma chunkStep_chunk (before : Bytes) (c : Chunk) (after : Bytes)
    (hlen : (before ++ (c.bytes ++ after)).length < 2 ^ 64) :
    chunkStep (before ++ (c.bytes ++ after)) before.length =
      some (c.data, (before ++ c.bytes).length) := by
  have hsplit : before ++ (c.bytes ++ after) =
      before ++ (c.size ++ c.ext ++ (CRLF ++ (c.data ++ CRLF ++ after))) := by
    simp [Chunk.bytes]
  have hdrop : (before ++ (c.bytes ++ after)).drop
      (before.length + (c.size ++ c.ext).length + 2) = c.data ++ (CRLF ++ after) := by
    rw [show before ++ (c.bytes ++ after) =
      (before ++ (c.size ++ c.ext ++ CRLF)) ++ (c.data ++ (CRLF ++ after)) by simp [Chunk.bytes]]
    refine List.drop_left' ?_
    simp only [List.length_append, CRLF, List.length_cons, List.length_nil]
    omega
  have htotal : (before ++ (c.bytes ++ after)).length =
      before.length + (c.size ++ c.ext).length + 2 + c.data.length + 2 + after.length := by
    simp only [Chunk.bytes, List.length_append, CRLF, List.length_cons, List.length_nil]
    omega
  have hvalue : digitsValue 16 0 c.size < 2 ^ 64 := by
    rw [c.value]
    omega
  obtain ⟨hfind, hnum⟩ := c.line.read before (c.data ++ CRLF ++ after) hvalue
  rw [← hsplit] at hfind hnum
  rw [c.value] at hnum
  have hsize : c.data.length ≠ 0 := fun hzero => c.nonempty (List.length_eq_zero_iff.mp hzero)
  rw [chunkStep_of_size (by omega) hfind hnum hsize,
    if_neg (by rw [Nat.mod_eq_of_lt (by omega)]; omega), hdrop, List.take_left,
    Nat.mod_eq_of_lt (by omega)]
  have hnext : before.length + (c.size ++ c.ext).length + 2 + (c.data.length + 2) =
      (before ++ c.bytes).length := by
    simp only [Chunk.bytes, List.length_append, CRLF, List.length_cons, List.length_nil]
    omega
  rw [hnext]

/-- At the line of the last chunk, the walk ends. -/
lemma chunkStep_closing (before : Bytes) (b : ChunkedBody) :
    chunkStep (before ++ b.closing) before.length = none := by
  have hvalue : digitsValue 16 0 b.last = 0 := digitsValue_zeros b.zeros
  obtain ⟨hfind, hnum⟩ := b.line.read before (textLines (b.trailer.map fieldLine))
    (by rw [hvalue]; decide)
  rw [chunkStep]
  split_ifs
  · rfl
  · rw [ChunkedBody.closing, textLines, List.append_assoc (b.last ++ b.ext), hfind]
    dsimp only
    rw [hnum, hvalue]
    rfl

lemma decodeChunkedLoop_chunks (b : ChunkedBody) (cs : List Chunk) (before : Bytes)
    (hlen : (before ++ (cs.flatMap Chunk.bytes ++ b.closing)).length < 2 ^ 64) {n : ℕ}
    (hn : cs.length < n) :
    decodeChunkedLoop (before ++ (cs.flatMap Chunk.bytes ++ b.closing)) n before.length =
      some (cs.flatMap Chunk.data) := by
  induction cs generalizing before n with
  | nil =>
    obtain ⟨n, rfl⟩ := Nat.exists_eq_add_of_lt hn
    rw [List.flatMap_nil, List.nil_append, decodeChunkedLoop, chunkStep_closing]
    rfl
  | cons c cs ih =>
    obtain ⟨n, rfl⟩ : ∃ m, n = m + 1 := Nat.exists_eq_add_one.mpr (Nat.zero_lt_of_lt hn)
    rw [List.flatMap_cons, List.append_assoc] at hlen ⊢
    rw [decodeChunkedLoop, chunkStep_chunk before c _ hlen]
    dsimp only
    rw [← List.append_assoc before] at hlen ⊢
    rw [ih (before ++ c.bytes) hlen (Nat.lt_of_succ_lt_succ hn)]
    rfl

lemma length_le_flatMap (cs : List Chunk) : cs.length ≤ (cs.flatMap Chunk.bytes).length := by
  induction cs with
  | nil => exact Nat.zero_le _
  | cons c cs ih =>
    rw [List.flatMap_cons, List.length_append, List.length_cons]
    have : 0 < c.bytes.length := by simp [Chunk.bytes, CRLF]
    omega

/-- The chunks are put together again. -/
theorem decodeChunked_bytes (b : ChunkedBody) (hlen : b.bytes.length < 2 ^ 64) :
    decodeChunked b.bytes = some b.data := by
  have hcount := length_le_flatMap b.chunks
  refine decodeChunkedLoop_chunks b b.chunks [] hlen ?_
  rw [ChunkedBody.bytes, List.length_append]
  omega

/-! ### Requests -/

/-- How a body is delimited: by its length, or in chunks. -/
inductive Coding where
  | length (numeral body : Bytes) (nonempty : numeral ≠ []) (digits : ∀ c ∈ numeral, isDigit 10 c)
      (value : digitsValue 10 0 numeral = body.length)
  | chunked (value : Bytes) (body : ChunkedBody) (spelling : toLower value = Http.chunked)

namespace Coding

def name : Coding → Bytes
  | .length ..  => contentLength
  | .chunked .. => transferEncoding

def value : Coding → Bytes
  | .length numeral .. => numeral
  | .chunked value ..  => value

def bytes : Coding → Bytes
  | .length _ body ..  => body
  | .chunked _ body .. => body.bytes

def body : Coding → Bytes
  | .length _ body ..  => body
  | .chunked _ body .. => body.data

lemma contentLength_ne : contentLength ≠ transferEncoding := by decide

lemma name_eq (c : Coding) {name : Bytes} (hname : name = transferEncoding ∨ name = contentLength)
    (h : toLower c.name = toLower name) : c.name = name := by
  have hne : toLower contentLength ≠ toLower transferEncoding := by decide
  cases c with
  | length =>
    rcases hname with rfl | rfl
    · exact absurd h hne
    · rfl
  | chunked =>
    rcases hname with rfl | rfl
    · rfl
    · exact absurd h hne.symm

/-- The value is spelled as it is compared. -/
def Spelled : Coding → Prop
  | .length ..        => True
  | .chunked value .. => value = Http.chunked

/-- What ends a chunked body does not stand in it before. -/
def Delimited : Coding → Prop
  | .length ..         => True
  | .chunked _ body .. =>
    find terminal body.bytes = some (body.bytes.length - terminal.length)

end Coding

/-- A request with one field that frames its body. -/
structure Request where
  line : Bytes
  before : List (Bytes × Bytes)
  name : Bytes
  coding : Coding
  after : List (Bytes × Bytes)
  noCR : CR ∉ line
  noLF : LF ∉ line
  spelling : toLower name = toLower coding.name
  isField : ∀ f ∈ before ++ after, IsField f
  other : ∀ f ∈ before ++ after,
    toLower f.1 ≠ toLower transferEncoding ∧ toLower f.1 ≠ toLower contentLength
  fits : (headerText line (before ++ (name, coding.value) :: after) ++ coding.bytes).length < 2 ^ 64

namespace Request

def fields (r : Request) : List (Bytes × Bytes) := r.before ++ (r.name, r.coding.value) :: r.after

def header (r : Request) : Bytes := headerText r.line r.fields

def bytes (r : Request) : Bytes := r.header ++ r.coding.bytes

/-- The framing is spelled as it is compared, the escapes of the request line can be converted, and
no parameter has the name of a field that the body is read by. -/
structure Plain (r : Request) : Prop where
  name : r.name = r.coding.name
  value : r.coding.Spelled
  line : ∃ method path params, parseRequestLine r.line = some (method, path, params) ∧
    ∀ f ∈ params, ∀ name ∈ [transferEncoding, contentLength, contentEncoding],
      toLower f.1 ≠ toLower name

lemma mem_fields {r : Request} {f : Bytes × Bytes} (hf : f ∈ r.fields) :
    f = (r.name, r.coding.value) ∨ f ∈ r.before ++ r.after := by
  simp only [fields, List.mem_append, List.mem_cons] at hf ⊢
  tauto

/-- No spelling of a field's name has a character that is not in it. -/
lemma not_mem_of_toLower {s t : Bytes} (h : toLower s = t) {c : UInt8} (hc : toLowerChar c = c)
    (ht : c ∉ t) : c ∉ s := by
  intro hmem
  rw [← h] at ht
  exact ht (List.mem_map.mpr ⟨c, hmem, hc⟩)

lemma not_mem_name (r : Request) {c : UInt8} (hc : toLowerChar c = c)
    (hlength : c ∉ toLower contentLength) (hchunked : c ∉ toLower transferEncoding) :
    c ∉ r.name := by
  refine not_mem_of_toLower r.spelling hc ?_
  cases r.coding with
  | length => exact hlength
  | chunked => exact hchunked

lemma not_mem_value (r : Request) {c : UInt8} (hc : toLowerChar c = c) (hlt : c < 0x30)
    (hchunked : c ∉ Http.chunked) : c ∉ r.coding.value := by
  cases r.coding with
  | length numeral body hne digits hvalue => exact fun hmem => ne_of_isDigit (digits c hmem) hlt rfl
  | chunked value body spelling => exact not_mem_of_toLower spelling hc hchunked

lemma isField_fields (r : Request) : ∀ f ∈ r.fields, IsField f := by
  intro f hf
  rcases mem_fields hf with rfl | hf
  · constructor
    · exact r.not_mem_name rfl (by decide) (by decide)
    · rw [List.mem_append, not_or]
      exact ⟨r.not_mem_name rfl (by decide) (by decide),
        r.not_mem_value rfl (by decide) (by decide)⟩
    · rw [List.mem_append, not_or]
      exact ⟨r.not_mem_name rfl (by decide) (by decide),
        r.not_mem_value rfl (by decide) (by decide)⟩
  · exact r.isField f hf

/-! ### Its header -/

lemma find_sep_header (r : Request) (x : Bytes) :
    ∃ i, find sep (r.header ++ x) = some i ∧ i + sep.length = r.header.length :=
  find_sep_headerText r.noCR r.isField_fields x

lemma extractHeader_header (r : Request) (x : Bytes) :
    extractHeader (r.header ++ x) = r.header :=
  extractHeader_headerText r.noCR r.isField_fields x

lemma headerFields_header (r : Request) : headerFields r.header = r.fields :=
  headerFields_headerText r.noLF r.isField_fields

lemma requestLine_header (r : Request) : requestLine r.header = r.line := by
  rw [requestLine, header, find_CRLF_headerText r.noCR]
  dsimp only
  rw [headerText, textLines, List.append_assoc, List.take_left]

lemma header_ne_nil (r : Request) : r.header ≠ [] := headerText_ne_nil _ _

/-- There is one value of a framing field to take, and only if the body is framed by it. -/
lemma single (r : Request) (hr : r.Plain) {params : List (Bytes × Bytes)}
    (hparams : ∀ f ∈ params, ∀ name ∈ [transferEncoding, contentLength, contentEncoding],
      toLower f.1 ≠ toLower name)
    {name : Bytes} (hname : name = transferEncoding ∨ name = contentLength) :
    Single params r.fields name ∧
      lastField r.fields name = if r.coding.name = name then r.coding.value else [] := by
  have hother : ∀ f ∈ r.before ++ r.after, toLower f.1 ≠ toLower name := by
    intro f hf
    rcases hname with rfl | rfl
    · exact (r.other f hf).1
    · exact (r.other f hf).2
  have hvalue : ∀ f ∈ r.fields, f.1 = name → f = (r.name, r.coding.value) := by
    intro f hf heq
    exact (mem_fields hf).resolve_right fun hf => hother f hf (by rw [heq])
  have hmem : (r.name, r.coding.value) ∈ r.fields := by simp [fields]
  refine ⟨⟨?_, ?_, ?_⟩, ?_⟩
  · intro f hf
    exact hparams f hf name (by rcases hname with rfl | rfl <;> simp)
  · intro f hf heq
    rcases mem_fields hf with rfl | hf
    · rw [hr.name] at heq ⊢
      exact r.coding.name_eq hname heq
    · exact absurd heq (hother f hf)
  · intro f hf g hg hfname hgname
    rw [hvalue f hf hfname, hvalue g hg hgname]
  · split_ifs with hcoding
    · exact lastField_eq_of_mem (fun f hf g hg hfname hgname => by
        rw [hvalue f hf hfname, hvalue g hg hgname]) hmem (by rw [hr.name, hcoding])
    · refine lastField_eq_nil fun f hf heq => hcoding ?_
      rw [← heq, hvalue f hf heq, hr.name]

/-! ### Its length -/

lemma lt_of_fits (r : Request) : r.header.length + r.coding.bytes.length < 2 ^ 64 := by
  have h := r.fits
  rw [List.length_append] at h
  exact h

/-- After a header with a length comes as much as it says. -/
lemma messageLength_length {r : Request} (hr : r.Plain) (hcoding : r.coding.name = contentLength)
    (x : Bytes) : messageLength (r.header ++ x) = r.bytes.length := by
  obtain ⟨method, path, params, -, hparams⟩ := hr.line
  obtain ⟨i, hi, -⟩ := r.find_sep_header x
  have hte := (r.single hr hparams (.inl rfl)).2
  have hcl := (r.single hr hparams (.inr rfl)).2
  rw [hcoding, if_neg (by decide)] at hte
  rw [if_pos hcoding] at hcl
  have hfields : headerFields (extractHeader (r.header ++ x)) = r.fields := by
    rw [r.extractHeader_header, r.headerFields_header]
  cases hc : r.coding with
  | chunked => rw [hc] at hcoding; exact absurd hcoding.symm Coding.contentLength_ne
  | length numeral body hne digits hvalue =>
    have hlt := r.lt_of_fits
    rw [hc] at hcl hlt
    dsimp only [Coding.value, Coding.bytes] at hcl hlt
    have hframing : framing (r.header ++ x) = .length := by
      rw [framing, hfields, hte, hcl, if_neg (by decide), if_pos hne]
    rw [messageLength_of_find hi, hframing, hfields, hcl]
    dsimp only
    rw [stoul_digits (by decide) hne digits (by omega), hvalue, r.extractHeader_header]
    dsimp only
    rw [Nat.mod_eq_of_lt hlt, bytes, hc, List.length_append]
    rfl

/-- After a header of a chunked body comes everything up to what looks like its end. -/
lemma messageLength_chunked {r : Request} (hr : r.Plain)
    (hcoding : r.coding.name = transferEncoding) (x : Bytes) :
    messageLength (r.header ++ x) =
      ((find terminal x).map fun i => r.header.length + i + terminal.length).getD 0 := by
  obtain ⟨method, path, params, -, hparams⟩ := hr.line
  obtain ⟨i, hi, -⟩ := r.find_sep_header x
  have hte := (r.single hr hparams (.inl rfl)).2
  rw [if_pos hcoding] at hte
  have hfields : headerFields (extractHeader (r.header ++ x)) = r.fields := by
    rw [r.extractHeader_header, r.headerFields_header]
  have hvalue : r.coding.value = Http.chunked := by
    have hspelled := hr.value
    cases hc : r.coding with
    | length => rw [hc] at hcoding; exact absurd hcoding Coding.contentLength_ne
    | chunked value body spelling => rw [hc] at hspelled; exact hspelled
  have hframing : framing (r.header ++ x) = .chunked := by
    rw [framing, hfields, hte, hvalue, if_pos rfl]
  rw [messageLength_of_find hi, hframing, r.extractHeader_header, findFrom,
    if_pos (by rw [List.length_append]; exact Nat.le_add_right _ _), List.drop_left]
  cases find terminal x with
  | none => rfl
  | some j => simp only [Option.map_some, Option.getD_some, Nat.add_comm j]

/-- Its length is the one of the request exactly if its body is delimited. -/
lemma messageLength_bytes {r : Request} (hr : r.Plain) (x : Bytes) :
    messageLength (r.bytes ++ x) = r.bytes.length ↔ r.coding.Delimited := by
  have hpos := List.length_pos_iff.mpr r.header_ne_nil
  rw [bytes, List.append_assoc]
  cases hc : r.coding with
  | length numeral body hne digits hvalue =>
    rw [messageLength_length hr (by rw [hc]; rfl), bytes, hc]
    exact iff_of_true rfl trivial
  | chunked value body spelling =>
    rw [messageLength_chunked hr (by rw [hc]; rfl), List.length_append]
    dsimp only [Coding.bytes, Coding.Delimited]
    constructor
    · intro hlen
      cases hfind : find terminal (body.bytes ++ x) with
      | none =>
        rw [hfind, Option.map_none, Option.getD_none] at hlen
        omega
      | some i =>
        rw [hfind, Option.map_some, Option.getD_some] at hlen
        have hi : i = body.bytes.length - terminal.length := by omega
        have htake := find_take hfind (n := body.bytes.length) (by omega)
        rw [List.take_left] at htake
        rw [htake, hi]
    · intro hfind
      have hend := find_add_le hfind
      rw [find_append hfind x, Option.map_some, Option.getD_some]
      omega

/-- Before the end of its header nothing is cut off. -/
lemma messageLength_of_lt_header {r : Request} {p : Bytes} (hp : p <+: r.bytes)
    (hlt : p.length < r.header.length) : messageLength p = 0 := by
  obtain ⟨x, hx⟩ := hp
  obtain ⟨i, hi, hlen⟩ := r.find_sep_header r.coding.bytes
  cases hfind : find sep p with
  | none => rw [messageLength, hfind]
  | some j =>
    have hj := find_append hfind x
    rw [hx, bytes, hi] at hj
    cases hj
    have hend := find_add_le hfind
    omega

/-- A part of a request is not taken for a whole one. -/
lemma incomplete {r : Request} (hr : r.Plain) (hdel : r.coding.Delimited) {p : Bytes}
    (hp : p <+: r.bytes) (hlt : p.length < r.bytes.length) :
    messageLength p = 0 ∨ p.length < messageLength p := by
  rcases lt_or_ge p.length r.header.length with hshort | hlong
  · exact .inl (messageLength_of_lt_header hp hshort)
  · obtain ⟨x, rfl⟩ := List.prefix_of_prefix_length_le (List.prefix_append r.header r.coding.bytes)
      hp hlong
    have hx : x <+: r.coding.bytes := (List.prefix_append_right_inj r.header).mp hp
    cases hc : r.coding with
    | length numeral body hne digits hvalue =>
      rw [messageLength_length hr (by rw [hc]; rfl)]
      exact .inr hlt
    | chunked value body spelling =>
      rw [hc] at hdel hx
      dsimp only [Coding.Delimited, Coding.bytes] at hdel hx
      rw [messageLength_chunked hr (by rw [hc]; rfl)]
      cases hfind : find terminal x with
      | none => exact .inl rfl
      | some j =>
        -- the end would stand in the body before
        obtain ⟨y, hy⟩ := hx
        have hj := find_append hfind y
        rw [hy, hdel] at hj
        have hend := find_add_le hfind
        rw [bytes, hc, List.length_append, List.length_append] at hlt
        dsimp only [Coding.bytes] at hlt
        have := find_add_le hdel
        have hj := Option.some.inj hj
        omega

/-! ### Its body -/

/-- The value of the first field that names a content encoding. -/
def contentEncoding (r : Request) : Bytes := firstField r.fields Http.contentEncoding

/-- The constructor reads the body of a request. -/
lemma ofBytes_bytes (decompress : Bytes → Bytes → Bytes) {r : Request} (hr : r.Plain) :
    ∃ h, ofBytes decompress r.bytes = some h ∧
      h.body = decodeContent decompress r.contentEncoding r.coding.body := by
  obtain ⟨method, path, params, hline, hparams⟩ := hr.line
  have hheader : extractHeader r.bytes = r.header := r.extractHeader_header _
  obtain ⟨h₀, hread⟩ : ∃ h₀, readHeader r.bytes = some h₀ := by
    rw [readHeader]
    dsimp only
    rw [hheader, if_neg r.header_ne_nil, parseUri, r.requestLine_header, hline]
    exact ⟨_, rfl⟩
  obtain ⟨params', hspec⟩ := readHeader_spec hread
  obtain ⟨method', path', hline'⟩ := hspec.query
  rw [hheader, r.requestLine_header, hline] at hline'
  cases hline'
  have hfields : headerFields (extractHeader r.bytes) = r.fields := by
    rw [hheader, r.headerFields_header]
  have hlen : h₀.header.length = r.header.length := by rw [hspec.header, hheader]
  have hdrop : r.bytes.drop h₀.header.length = r.coding.bytes := by
    rw [hlen, bytes, List.drop_left]
  have hget : ∀ name, name = transferEncoding ∨ name = contentLength →
      h₀.getElement name = if r.coding.name = name then r.coding.value else [] := by
    intro name hname
    obtain ⟨hsingle, hlast⟩ := r.single hr hparams hname
    rw [← hfields] at hsingle hlast
    rw [getElement_eq_lastField hspec hsingle, hlast]
  have hraw : rawBody r.bytes h₀ = some r.coding.body := by
    have hfits := r.lt_of_fits
    cases hc : r.coding with
    | length numeral body hne digits hvalue =>
      rw [hc] at hget hfits hdrop
      have hte : h₀.getElement transferEncoding = [] :=
        (hget _ (.inl rfl)).trans (if_neg Coding.contentLength_ne)
      have hcl : h₀.getElement contentLength = numeral := (hget _ (.inr rfl)).trans (if_pos rfl)
      dsimp only [Coding.bytes, Coding.body] at hfits hdrop ⊢
      rw [rawBody, hdrop, hte, hcl, if_neg (by decide), if_pos hne,
        if_pos (by rw [hlen]; exact List.length_pos_iff.mpr r.header_ne_nil),
        stoul_digits (by decide) hne digits (by omega), Option.map_some, hvalue,
        List.take_of_length_le le_rfl]
    | chunked value body spelling =>
      have hspelled := hr.value
      rw [hc] at hget hfits hdrop hspelled
      have hte : h₀.getElement transferEncoding = value := (hget _ (.inl rfl)).trans (if_pos rfl)
      dsimp only [Coding.bytes, Coding.body, Coding.Spelled] at hfits hdrop hspelled ⊢
      rw [rawBody, hdrop, hte, if_pos hspelled, decodeChunked_bytes body (by omega)]
  have hce : h₀.getElement Http.contentEncoding = r.contentEncoding := by
    rw [getElement_eq_firstField hspec (fun f hf => hparams f hf _ (by simp)), hfields,
      contentEncoding]
  refine ⟨{ h₀ with body := decodeContent decompress r.contentEncoding r.coding.body }, ?_, rfl⟩
  rw [ofBytes, hread]
  simp only [Option.bind_eq_bind, Option.bind_some, getBody, hraw, Option.map_some, hce]

end Request

end Http

/-! ### The receive loop -/

namespace WebConnection

open Http

/-- A call of `handle_input` with the bytes that it receives. Every request takes a byte off the
buffer. -/
def receive (buf bytes : Bytes) : List Bytes × Bytes :=
  cutRequests ((buf ++ bytes).length + 1) (buf ++ bytes)

/-- The requests that a connection hands out, and what is left in its buffer. -/
def receives : Bytes → List Bytes → List Bytes × Bytes
  | buf, []              => ([], buf)
  | buf, bytes :: chunks =>
    let (requests, buf) := receive buf bytes
    let (requests', buf) := receives buf chunks
    (requests ++ requests', buf)

/-- What a client sends. -/
def stream (rs : List Request) : Bytes := rs.flatMap Request.bytes

lemma stream_cons (r : Request) (rs : List Request) : stream (r :: rs) = r.bytes ++ stream rs := rfl

lemma stream_append (rs rs' : List Request) : stream (rs ++ rs') = stream rs ++ stream rs' :=
  List.flatMap_append

/-- The connection hands out the requests that are sent on it, however they are received, and their
bodies are the ones that were sent. -/
def FramedExactly (decompress : Bytes → Bytes → Bytes) (rs : List Request) : Prop :=
  (∀ chunks : List Bytes, chunks.flatten = stream rs →
    receives [] chunks = (rs.map Request.bytes, [])) ∧
  ∀ r ∈ rs, ∃ h, ofBytes decompress r.bytes = some h ∧
    h.body = decodeContent decompress r.contentEncoding r.coding.body

/-- A part of the first of the requests. -/
def Pending (buf : Bytes) : List Request → Prop
  | []     => buf = []
  | r :: _ => buf <+: r.bytes ∧ buf.length < r.bytes.length

lemma cutRequests_of_incomplete {buf : Bytes} (h : messageLength buf = 0 ∨
    buf.length < messageLength buf) (n : ℕ) : cutRequests n buf = ([], buf) := by
  cases n with
  | zero => rfl
  | succ n => rw [cutRequests, if_pos (.inr h)]

lemma cutRequests_of_complete {request rest : Bytes} (hne : request ≠ [])
    (h : messageLength (request ++ rest) = request.length) (n : ℕ) :
    cutRequests (n + 1) (request ++ rest) =
      (request :: (cutRequests n rest).1, (cutRequests n rest).2) := by
  have hgo : ¬ (request ++ rest = [] ∨ messageLength (request ++ rest) = 0 ∨
      (request ++ rest).length < messageLength (request ++ rest)) := by
    rw [h, List.length_append]
    have hpos := List.length_pos_iff.mpr hne
    simp only [List.append_eq_nil_iff, hne, false_and, false_or, not_or]
    omega
  rw [cutRequests, if_neg hgo, h, List.drop_left, List.take_left]

/-- Of a part of the stream, the whole requests are cut off. -/
lemma cutRequests_stream {rs : List Request} (hplain : ∀ r ∈ rs, r.Plain)
    (hdel : ∀ r ∈ rs, r.coding.Delimited) {p : Bytes} (hp : p <+: stream rs) {n : ℕ}
    (hn : p.length < n) :
    ∃ done todo buf, rs = done ++ todo ∧ cutRequests n p = (done.map Request.bytes, buf) ∧
      p = stream done ++ buf ∧ Pending buf todo := by
  induction rs generalizing p n with
  | nil =>
    have hnil : p = [] := List.prefix_nil.mp hp
    subst hnil
    exact ⟨[], [], [], rfl, cutRequests_of_incomplete (.inl rfl) n, rfl, rfl⟩
  | cons r rs ih =>
    have hr := hplain r List.mem_cons_self
    have hd := hdel r List.mem_cons_self
    rcases lt_or_ge p.length r.bytes.length with hshort | hlong
    · have hpre : p <+: r.bytes :=
        List.prefix_of_prefix_length_le hp (List.prefix_append _ _) hshort.le
      exact ⟨[], r :: rs, p, rfl,
        cutRequests_of_incomplete (Request.incomplete hr hd hpre hshort) n, rfl, hpre, hshort⟩
    · obtain ⟨p', rfl⟩ := List.prefix_of_prefix_length_le (List.prefix_append r.bytes (stream rs))
        hp hlong
      have hp' : p' <+: stream rs := (List.prefix_append_right_inj r.bytes).mp hp
      obtain ⟨n, rfl⟩ : ∃ m, n = m + 1 := Nat.exists_eq_add_one.mpr (Nat.zero_lt_of_lt hn)
      have hne : r.bytes ≠ [] := List.append_ne_nil_of_left_ne_nil r.header_ne_nil _
      have hpos := List.length_pos_iff.mpr hne
      rw [List.length_append] at hn
      obtain ⟨done, todo, buf, rfl, hcut, rfl, hpending⟩ :=
        ih (fun q hq => hplain q (List.mem_cons_of_mem _ hq))
          (fun q hq => hdel q (List.mem_cons_of_mem _ hq)) hp' (n := n) (by omega)
      refine ⟨r :: done, todo, buf, rfl, ?_, ?_, hpending⟩
      · rw [cutRequests_of_complete hne ((Request.messageLength_bytes hr _).mpr hd), hcut]
        rfl
      · rw [← List.append_assoc]
        rfl

/-- What is left in the buffer is the start of the request to come, so the next call goes on where
this one ended. -/
lemma receives_stream {rs : List Request} (hplain : ∀ r ∈ rs, r.Plain)
    (hdel : ∀ r ∈ rs, r.coding.Delimited) {buf : Bytes} (hbuf : Pending buf rs)
    {chunks : List Bytes} (hchunks : buf ++ chunks.flatten = stream rs) :
    receives buf chunks = (rs.map Request.bytes, []) := by
  induction chunks generalizing rs buf with
  | nil =>
    rw [List.flatten_nil, List.append_nil] at hchunks
    cases rs with
    | nil => rw [show buf = [] from hbuf]; rfl
    | cons r rs =>
      have hlt := hbuf.2
      rw [hchunks, stream_cons, List.length_append] at hlt
      exact absurd hlt (Nat.not_lt.mpr (Nat.le_add_right _ _))
  | cons bytes chunks ih =>
    rw [List.flatten_cons, ← List.append_assoc] at hchunks
    have hpre : buf ++ bytes <+: stream rs := ⟨_, hchunks⟩
    obtain ⟨done, todo, buf', rfl, hcut, hsplit, hpending⟩ :=
      cutRequests_stream hplain hdel hpre (Nat.lt_succ_self _)
    have htail : buf' ++ chunks.flatten = stream todo := by
      rw [hsplit, stream_append, List.append_assoc] at hchunks
      exact List.append_cancel_left hchunks
    rw [receives, receive, hcut]
    dsimp only
    rw [ih (fun r hr => hplain r (List.mem_append_right _ hr))
      (fun r hr => hdel r (List.mem_append_right _ hr)) hpending htail, List.map_append]

/-- A request that is cut off as it was sent is delimited, and so are the ones after it. -/
lemma delimited_of_cutRequests {rs : List Request} (hplain : ∀ r ∈ rs, r.Plain) {n : ℕ}
    (h : (cutRequests n (stream rs)).1 = rs.map Request.bytes) :
    ∀ r ∈ rs, r.coding.Delimited := by
  induction rs generalizing n with
  | nil => exact fun r hr => absurd hr List.not_mem_nil
  | cons r rs ih =>
    have hr := hplain r List.mem_cons_self
    have hne : r.bytes ≠ [] := List.append_ne_nil_of_left_ne_nil r.header_ne_nil _
    cases n with
    | zero => cases h
    | succ n =>
      have hlen : messageLength (stream (r :: rs)) = r.bytes.length := by
        rw [cutRequests] at h
        split_ifs at h with hstop
        · cases h
        · have hhead := congrArg List.length (List.cons.inj h).1
          rw [List.length_take] at hhead
          omega
      have hd := (Request.messageLength_bytes hr (stream rs)).mp hlen
      have hcut : cutRequests (n + 1) (stream (r :: rs)) =
          (r.bytes :: (cutRequests n (stream rs)).1, (cutRequests n (stream rs)).2) :=
        cutRequests_of_complete hne hlen n
      rw [hcut] at h
      have htail : (cutRequests n (stream rs)).1 = rs.map Request.bytes := (List.cons.inj h).2
      intro q hq
      rcases List.mem_cons.mp hq with rfl | hq
      · exact hd
      · exact ih (fun q hq => hplain q (List.mem_cons_of_mem _ hq)) htail q hq

/-- The requests of a connection are handed out as they were sent exactly if no body in chunks
holds what ends it before its end. -/
theorem framed_exactly_iff (decompress : Bytes → Bytes → Bytes) (rs : List Request)
    (hplain : ∀ r ∈ rs, r.Plain) :
    FramedExactly decompress rs ↔ ∀ r ∈ rs, r.coding.Delimited := by
  constructor
  · rintro ⟨hcut, -⟩
    have h := hcut [stream rs] (List.flatten_singleton)
    refine delimited_of_cutRequests hplain (n := (stream rs).length + 1) ?_
    have hfst := congrArg Prod.fst h
    simpa only [receives, receive, List.nil_append, List.append_nil] using hfst
  · intro hdel
    refine ⟨fun chunks hchunks => ?_, fun r hr => Request.ofBytes_bytes decompress (hplain r hr)⟩
    refine receives_stream hplain hdel ?_ hchunks
    cases rs with
    | nil => rfl
    | cons r rs =>
      have hne : r.bytes ≠ [] := List.append_ne_nil_of_left_ne_nil r.header_ne_nil _
      exact ⟨List.nil_prefix, List.length_pos_iff.mpr hne⟩

/-- A body of one chunk. -/
def oneChunk (c : Chunk) : ChunkedBody where
  chunks := [c]
  last := [0x30]
  line := ⟨by decide +kernel, by decide +kernel, .inl rfl, by decide +kernel⟩
  zeros := by decide +kernel
  isField _ hf := absurd hf List.not_mem_nil

/-- A POST of one chunk. -/
def postChunk (c : Chunk)
    (fits : (headerText (Bytes.ofString "POST /a HTTP/1.1") [(transferEncoding, Http.chunked)] ++
      (oneChunk c).bytes).length < 2 ^ 64) : Request where
  line := Bytes.ofString "POST /a HTTP/1.1"
  before := []
  name := transferEncoding
  coding := .chunked Http.chunked (oneChunk c) rfl
  after := []
  noCR := by decide
  noLF := by decide
  spelling := rfl
  isField _ hf := absurd hf List.not_mem_nil
  other _ hf := absurd hf List.not_mem_nil
  fits := fits

lemma plain_postChunk (c : Chunk) {fits} : (postChunk c fits).Plain where
  name := rfl
  value := rfl
  line := by
    have hline : parseRequestLine (Bytes.ofString "POST /a HTTP/1.1") =
        some (Bytes.ofString "POST", Bytes.ofString "/a", []) := by decide +kernel
    exact ⟨_, _, _, hline, fun _ hf => absurd hf List.not_mem_nil⟩

def abcChunk : Chunk where
  size := Bytes.ofString "3"
  data := Bytes.ofString "abc"
  line := ⟨by decide +kernel, by decide +kernel, .inl rfl, by decide +kernel⟩
  nonempty := by decide +kernel
  value := by decide +kernel

theorem framed_exactly_iff_abc :
    FramedExactly (fun s _ => s) [postChunk abcChunk (by decide +kernel)] := by
  refine (framed_exactly_iff _ _ fun r hr => ?_).mpr fun r hr => ?_
  · rw [List.mem_singleton.mp hr]
    exact plain_postChunk abcChunk
  · rw [List.mem_singleton.mp hr]
    show find terminal (oneChunk abcChunk).bytes = _
    decide +kernel

/-- A chunk of sixteen bytes that starts with an empty line: after its size `10`, this looks like
the end of the body. -/
def emptyLineChunk : Chunk where
  size := Bytes.ofString "10"
  data := Bytes.ofString "\r\nabcdefghijklmn"
  line := ⟨by decide +kernel, by decide +kernel, .inl rfl, by decide +kernel⟩
  nonempty := by decide +kernel
  value := by decide +kernel

/-- The request with this chunk is cut off behind the size of the chunk. -/
theorem cut_behind_size : ¬ ∀ rs : List Request, FramedExactly (fun s _ => s) rs := by
  intro hclaim
  obtain ⟨hcut, -⟩ := hclaim [postChunk emptyLineChunk (by decide +kernel)]
  have h := hcut [stream [postChunk emptyLineChunk (by decide +kernel)]] List.flatten_singleton
  revert h
  decide +kernel

end WebConnection
