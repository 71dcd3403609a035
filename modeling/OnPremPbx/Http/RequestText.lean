import OnPremPbx.Ari.Requests

/-!
# One request and nothing else

A text is read as one request if its line has three parts, its header is made of fields, and what
comes after it is as long as its `Content-Length` says.
-/

open AriRestClient Text

namespace Http

/-- A request as it stands in a text. -/
structure RawRequest where
  method : Bytes
  target : Bytes
  fields : List (Bytes × Bytes)
  body : Bytes
  deriving DecidableEq, Repr

/-- The number of bytes that the body has to have. -/
def bodyLength (fields : List (Bytes × Bytes)) : Option ℕ :=
  (fields.lookup (Bytes.ofString "Content-Length")).bind fun ds =>
    if ds ≠ [] ∧ ds.all (isDigit 10) then some (digitsValue 10 0 ds) else none

/-- The one request of a text, if there is nothing after it. -/
def readOne (text : Bytes) : Option RawRequest :=
  match (getlines LF (extractHeader text)).map chopCR with
  | []            => none
  | line :: lines =>
    match line.splitOn 0x20 with
    | [method, target, version] =>
      if version = Bytes.ofString "HTTP/1.1" ∧ lines.getLast? = some [] then do
        let fields ← lines.dropLast.mapM splitField
        let length ← bodyLength fields
        let body := text.drop (extractHeader text).length
        if body.length = length then some ⟨method, target, fields, body⟩ else none
      else none
    | _                         => none

/-- A part of a request line, which stands between its blanks. -/
def IsWord (s : Bytes) : Prop := 0x20 ∉ s ∧ InLine s

instance (s : Bytes) : Decidable (IsWord s) := inferInstanceAs (Decidable (_ ∧ _))

lemma bodyLength_ofNat {fields : List (Bytes × Bytes)} {n : ℕ}
    (h : fields.lookup (Bytes.ofString "Content-Length") = some (Decimal.ofNat n)) :
    bodyLength fields = some n := by
  have hdigits : (Decimal.ofNat n).all (isDigit 10) = true :=
    List.all_eq_true.mpr fun d hd => (Decimal.isDigit_of_mem hd).2
  rw [bodyLength, h, Option.bind_some, if_pos ⟨Decimal.ofNat_ne_nil n, hdigits⟩,
    Decimal.digitsValue_ofNat]

section

variable {method target body : Bytes} {fields : List (Bytes × Bytes)}

lemma not_mem_requestLine {k : UInt8} (hk : k ≠ 0x20) (hversion : k ∉ Bytes.ofString "HTTP/1.1")
    (hmethod : k ∉ method) (htarget : k ∉ target) :
    k ∉ AriRestClient.requestLine method target := by
  apply not_mem_intercalate hk
  simp [hmethod, htarget, hversion]

/-- The request that a text was made from is read in it. -/
theorem readOne_headerText (hmethod : IsWord method) (htarget : IsWord target)
    (hfields : ∀ f ∈ fields, IsField f) (hlength : bodyLength fields = some body.length) :
    readOne (headerText (AriRestClient.requestLine method target) fields ++ body) =
      some ⟨method, target, fields, body⟩ := by
  have hCR : CR ∉ AriRestClient.requestLine method target :=
    not_mem_requestLine (by decide) (by decide) hmethod.2.1 htarget.2.1
  have hLF : LF ∉ AriRestClient.requestLine method target :=
    not_mem_requestLine (by decide) (by decide) hmethod.2.2 htarget.2.2
  have hwords : ∀ l ∈ [method, target, Bytes.ofString "HTTP/1.1"], (0x20 : UInt8) ∉ l := by
    simp only [List.forall_mem_cons, List.not_mem_nil, false_implies, implies_true, and_true]
    exact ⟨hmethod.1, htarget.1, by decide⟩
  have hsplit := List.splitOn_intercalate 0x20 hwords (List.cons_ne_nil _ _)
  have hlines : (getlines LF (headerText (AriRestClient.requestLine method target) fields)).map
      chopCR = AriRestClient.requestLine method target :: (fields.map fieldLine ++ [[]]) := by
    have hchop : chopCR ∘ (· ++ [CR]) = id := funext chopCR_append
    rw [getlines_headerText hLF hfields, List.map_append, List.map_map, hchop, List.map_id]
    rfl
  rw [readOne, extractHeader_headerText hCR hfields, hlines]
  dsimp only
  rw [AriRestClient.requestLine, hsplit]
  dsimp only
  rw [if_pos ⟨rfl, List.getLast?_concat⟩, List.dropLast_concat, mapM_splitField hfields,
    List.drop_left]
  simp only [Option.bind_eq_bind, Option.bind_some, hlength, if_true]

end

end Http
