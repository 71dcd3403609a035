import OnPremPbx.Http.Agreement
import OnPremPbx.Transition.Loop

/-!
# Requests that are read to their end

The constructor of `Http` converts what the client sends: the escapes of the request line, the
number of a length, and the sizes of chunks. It returns exactly if all of them can be converted, and
the sizes of the chunks do not lead back to where it was.
-/

open Text Transition

/-! ### Escapes -/

/-- A number is read exactly if a digit stands where it starts. -/
lemma takeWhile_ne_nil {p : UInt8 → Bool} {s : Bytes} :
    s.takeWhile p ≠ [] ↔ ∃ c ∈ s.head?, p c := by
  cases s with
  | nil => simp
  | cons c s =>
    rw [List.takeWhile_cons]
    cases hp : p c <;> simp [hp]

/-- The two characters after the percent sign of each escape that `pct_decode` converts. -/
def escapes : Bytes → List (UInt8 × UInt8)
  | c :: c₁ :: c₂ :: s => if c = 0x25 then (c₁, c₂) :: escapes s else escapes (c₁ :: c₂ :: s)
  | _s                 => []

/-- A digit comes first, or after a blank or a sign. -/
def Convertible (e : UInt8 × UInt8) : Prop :=
  isDigit 16 e.1 ∨ (isSpace e.1 ∨ e.1 = 0x2D ∨ e.1 = 0x2B) ∧ isDigit 16 e.2

lemma skipPrefix_short {base : ℕ} {s : Bytes} (h : s.length < 3) : skipPrefix base s = s := by
  unfold skipPrefix
  split
  · simp only [List.length_cons] at h
    omega
  · rfl

/-- The characters that are left of a short string after the blanks and a sign. -/
lemma readNumber_isSome {base : ℕ} {s : Bytes} (h : s.length < 3) :
    (readNumber base s).isSome ↔
      ∃ c ∈ (if (s.dropWhile isSpace).head? = some 0x2D ∨ (s.dropWhile isSpace).head? = some 0x2B
          then (s.dropWhile isSpace).tail else s.dropWhile isSpace).head?, isDigit base c := by
  have hlen : (s.dropWhile isSpace).length < 3 := lt_of_le_of_lt (List.length_dropWhile_le _ _) h
  have hshort : (if (s.dropWhile isSpace).head? = some 0x2D ∨
      (s.dropWhile isSpace).head? = some 0x2B
        then (s.dropWhile isSpace).tail else s.dropWhile isSpace).length < 3 := by
    split_ifs
    · rw [List.length_tail]
      omega
    · exact hlen
  rw [← takeWhile_ne_nil, readNumber, skipPrefix_short hshort]
  generalize List.takeWhile (isDigit base) _ = ds
  cases ds with
  | nil => simp
  | cons d ds => simp

lemma stoiHexPair_isSome (c₁ c₂ : UInt8) :
    (stoiHexPair c₁ c₂).isSome ↔ Convertible (c₁, c₂) := by
  rw [stoiHexPair, Option.isSome_map, readNumber_isSome (by simp), Convertible]
  dsimp only
  by_cases hspace : isSpace c₁
  · -- the blank is left out, and so is a sign after it
    have hnot : ¬ isDigit 16 c₁ := fun hd => not_isSpace_of_isDigit hd hspace
    rw [List.dropWhile_cons_of_pos hspace]
    by_cases hspace₂ : isSpace c₂
    · have hnot₂ : ¬ isDigit 16 c₂ := fun hd => not_isSpace_of_isDigit hd hspace₂
      rw [List.dropWhile_cons_of_pos hspace₂]
      simp [hnot, hnot₂]
    · rw [List.dropWhile_cons_of_neg hspace₂]
      by_cases hsign : c₂ = 0x2D ∨ c₂ = 0x2B
      · have hnot₂ : ¬ isDigit 16 c₂ := by rcases hsign with rfl | rfl <;> decide
        simp [hsign, hnot, hnot₂]
      · simp [hsign, hspace, hnot]
  · rw [List.dropWhile_cons_of_neg hspace]
    by_cases hsign : c₁ = 0x2D ∨ c₁ = 0x2B
    · have hnot : ¬ isDigit 16 c₁ := by rcases hsign with rfl | rfl <;> decide
      simp [hsign, hnot]
    · simp [hsign, hspace]

lemma pctDecode_isSome (s : Bytes) :
    (pctDecode s).isSome ↔ ∀ e ∈ escapes s, Convertible e := by
  fun_induction escapes s with
  | case1 c₁ c₂ s ih =>
    rw [pctDecode, if_pos rfl, List.forall_mem_cons, ← stoiHexPair_isSome, ← ih]
    cases stoiHexPair c₁ c₂ <;> cases pctDecode s <;> simp
  | case2 c c₁ c₂ s hc ih =>
    rw [pctDecode, if_neg hc, ← ih]
    cases pctDecode (c₁ :: c₂ :: s) <;> simp
  | case3 s hs =>
    unfold pctDecode
    split
    · rename_i c c₁ c₂ s
      exact absurd rfl (hs c c₁ c₂ s)
    · simp

/-! ### Request lines -/

/-- The key and the value of a token with an equals sign. -/
def tokenParts (token : Bytes) : List Bytes :=
  match find [0x3D] token with
  | none    => []
  | some eq => [token.take eq, token.drop (eq + 1)]

namespace Http

/-- The parts of the request line in which escapes are converted. -/
def decodedParts (line : Bytes) : List Bytes :=
  match find [0x20] line with
  | none         => []
  | some firstSp =>
    let uri := uriPart line firstSp
    match find [0x3F] uri with
    | none   => [uri]
    | some q => uri.take q :: (getlines 0x26 (uri.drop (q + 1))).flatMap tokenParts

def AllConvertible (parts : List Bytes) : Prop := ∀ t ∈ parts, ∀ e ∈ escapes t, Convertible e

lemma allConvertible_cons {t : Bytes} {parts : List Bytes} :
    AllConvertible (t :: parts) ↔ (pctDecode t).isSome ∧ AllConvertible parts := by
  rw [AllConvertible, List.forall_mem_cons, pctDecode_isSome]
  rfl

lemma allConvertible_append {parts parts' : List Bytes} :
    AllConvertible (parts ++ parts') ↔ AllConvertible parts ∧ AllConvertible parts' :=
  List.forall_mem_append

lemma allConvertible_nil : AllConvertible [] := fun _ h => absurd h List.not_mem_nil

lemma queryParam_isSome (token : Bytes) :
    (queryParam token).isSome ↔ AllConvertible (tokenParts token) := by
  rw [queryParam, tokenParts]
  cases find [0x3D] token with
  | none => exact iff_of_true rfl allConvertible_nil
  | some eq =>
    dsimp only
    rw [allConvertible_cons, allConvertible_cons]
    cases pctDecode (token.take eq) <;> cases pctDecode (token.drop (eq + 1)) <;>
      simp [allConvertible_nil]

lemma queryParams_isSome (tokens : List Bytes) :
    (queryParams tokens).isSome ↔ AllConvertible (tokens.flatMap tokenParts) := by
  induction tokens with
  | nil => exact iff_of_true rfl allConvertible_nil
  | cons token tokens ih =>
    rw [List.flatMap_cons, allConvertible_append, ← queryParam_isSome, ← ih, queryParams]
    cases queryParam token <;> cases queryParams tokens <;> simp

lemma parseRequestLine_isSome (line : Bytes) :
    (parseRequestLine line).isSome ↔ AllConvertible (decodedParts line) := by
  rw [parseRequestLine, decodedParts]
  cases find [0x20] line with
  | none => exact iff_of_true rfl allConvertible_nil
  | some firstSp =>
    dsimp only
    cases find [0x3F] (uriPart line firstSp) with
    | none =>
      dsimp only
      rw [Option.isSome_map, allConvertible_cons]
      exact (and_iff_left allConvertible_nil).symm
    | some q =>
      dsimp only
      rw [allConvertible_cons, ← queryParams_isSome]
      cases pctDecode ((uriPart line firstSp).take q) <;>
        cases queryParams (getlines 0x26 ((uriPart line firstSp).drop (q + 1))) <;> simp

lemma readHeader_isSome (s : Bytes) :
    (readHeader s).isSome ↔ AllConvertible (decodedParts (requestLine (extractHeader s))) := by
  rw [readHeader]
  dsimp only
  split_ifs with hnil
  · rw [hnil]
    exact iff_of_true rfl allConvertible_nil
  · rw [Option.isSome_map, parseUri, Option.isSome_map, parseRequestLine_isSome]

/-! ### Bodies -/

/-- The position of the next chunk. -/
def nextChunk (s : Bytes) (pos : ℕ) : Option ℕ := (chunkStep s pos).map (·.2)

lemma decodeChunkedLoop_isSome (s : Bytes) (n pos : ℕ) :
    (decodeChunkedLoop s n pos).isSome ↔ after (nextChunk s) n pos = none := by
  induction n generalizing pos with
  | zero => simp [decodeChunkedLoop, after]
  | succ n ih =>
    rw [decodeChunkedLoop, after, nextChunk]
    cases chunkStep s pos with
    | none => exact iff_of_true rfl rfl
    | some step => rw [Option.isSome_map, ih]; rfl

lemma lt_of_chunkStep {s : Bytes} {pos : ℕ} {step : Bytes × ℕ} (h : chunkStep s pos = some step) :
    pos < s.length := by
  rw [chunkStep] at h
  split_ifs at h with hend
  exact not_le.mp hend

/-- The chunks are put together exactly if their sizes do not lead back to where the walk was. -/
lemma decodeChunked_isSome (s : Bytes) :
    (decodeChunked s).isSome ↔ NeverReturns (nextChunk s) 0 := by
  have hdom : ∀ p q, nextChunk s p = some q → p ∈ Finset.range s.length := by
    intro p q h
    obtain ⟨step, hstep, -⟩ := Option.map_eq_some_iff.mp h
    exact Finset.mem_range.mpr (lt_of_chunkStep hstep)
  have hends := ends_iff hdom 0
  rw [Finset.card_range] at hends
  rw [decodeChunked, decodeChunkedLoop_isSome, hends]

/-- What the constructor converts can be converted: the escapes of the request line; the number of
the length, where the body is not in chunks; and the sizes of the chunks, which lead to no place
twice. -/
structure Harmless (s : Bytes) : Prop where
  escapes : AllConvertible (decodedParts (requestLine (extractHeader s)))
  body : ∀ method path params,
    parseRequestLine (requestLine (extractHeader s)) = some (method, path, params) →
    let fields := params ++ headerFields (extractHeader s)
    if firstField fields transferEncoding = chunked then
      NeverReturns (nextChunk (s.drop (extractHeader s).length)) 0
    else
      firstField fields contentLength ≠ [] → (stoul 10 (firstField fields contentLength)).isSome

lemma rawBody_isSome {s : Bytes} {h : Http} {params : List (Bytes × Bytes)}
    (hspec : HeaderRead s h params) :
    let fields := params ++ headerFields (extractHeader s)
    (rawBody s h).isSome ↔
      if firstField fields transferEncoding = chunked then
        NeverReturns (nextChunk (s.drop (extractHeader s).length)) 0
      else
        firstField fields contentLength ≠ [] →
          (stoul 10 (firstField fields contentLength)).isSome := by
  intro fields
  rw [rawBody]
  dsimp only
  rw [getElement_eq hspec, getElement_eq hspec, hspec.header]
  split_ifs with hte hcl hoffset hct
  · exact decodeChunked_isSome _
  · rw [Option.isSome_map]
    exact ⟨fun h _ => h, fun h => h hcl⟩
  · -- without a header there is no field
    have hnil : extractHeader s = [] := List.length_eq_zero_iff.mp (Nat.eq_zero_of_not_pos hoffset)
    obtain ⟨method, path, hline⟩ := hspec.query
    rw [hnil] at hline hcl
    cases hline
    exact absurd rfl hcl
  · rw [not_not] at hcl
    refine iff_of_true ?_ fun h => absurd hcl h
    cases multipartEnd (multipartBoundary (h.getElement contentType)) s (extractHeader s).length <;>
      rfl
  · rw [not_not] at hcl
    exact iff_of_true rfl fun h => absurd hcl h

/-- A path with an escape that is none, in a request that needs no session. -/
def zzRequest : Bytes := Bytes.ofString "GET /%zz HTTP/1.1\r\n\r\n"

end Http
