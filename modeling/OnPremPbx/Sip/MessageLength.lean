import OnPremPbx.Http.Agreement
import OnPremPbx.Http.LengthField
import OnPremPbx.Sip.SipParser

/-!
# Lengths of messages

`message_length` of `Http` and of `Sip` go by the last field that gives a length. Its text starts
after the colon; the value that they convert starts one character later, which is a blank in the
usual spelling and the first digit where there is none. The number is added to the length of the
header in 64 bits, so a value near the end of their range comes out inside the header.
-/

open Text

/-! ### Texts after the colon -/

/-- The name of a field, and all of the text after its colon. -/
def splitText (line : Bytes) : Option (Bytes × Bytes) :=
  (find [0x3A] line).map fun colon => (line.take colon, line.drop (colon + 1))

/-- The texts of the fields of the lines, up to an empty one. -/
def readTexts : List Bytes → List (Bytes × Bytes)
  | []            => []
  | line :: lines =>
    if chopCR line = [] then []
    else
      match splitText (chopCR line) with
      | none   => readTexts lines
      | some f => f :: readTexts lines

/-- The fields of a header with their texts. -/
def headerTexts (header : Bytes) : List (Bytes × Bytes) := readTexts (getlines 0x0A header).tail

/-- The value of a field is its text without the first character. -/
def dropFirst (f : Bytes × Bytes) : Bytes × Bytes := (f.1, f.2.drop 1)

lemma splitField_eq (line : Bytes) : splitField line = (splitText line).map dropFirst := by
  rw [splitField, splitText, Option.map_map]
  congr 1
  funext colon
  simp only [Function.comp_apply, dropFirst, List.drop_drop]

lemma readFields_eq (lines : List Bytes) : readFields lines = (readTexts lines).map dropFirst := by
  induction lines with
  | nil => rfl
  | cons line lines ih =>
    rw [readFields, readTexts, splitField_eq]
    split_ifs with hline
    · rfl
    · cases splitText (chopCR line) with
      | none => exact ih
      | some f => simpa using ih

lemma headerFields_eq (header : Bytes) :
    headerFields header = (headerTexts header).map dropFirst := readFields_eq _

/-- The text of the last field whose name is asked for. -/
def lastText (named : Bytes → Bool) (texts : List (Bytes × Bytes)) : Option Bytes :=
  (texts.reverse.find? fun f => named f.1).map (·.2)

/-- The value that a scan has found at the end of the header. -/
def textValue (text : Option Bytes) : Bytes := (text.map (·.drop 1)).getD []

lemma lastValue_eq (named : Bytes → Bool) (texts : List (Bytes × Bytes)) :
    ((((texts.map dropFirst).reverse.find? fun f => named f.1).map (·.2)).getD []) =
      textValue (lastText named texts) := by
  rw [← List.map_reverse, List.find?_map, Option.map_map, textValue, lastText, Option.map_map]
  rfl

section

variable {headerLen other : ℕ} {text : Option Bytes}

/-- With no field there is nothing to cut. -/
lemma notCut_none_iff {n : ℕ} : NotCut headerLen none n ↔ n = 0 ∨ headerLen ≤ n :=
  ⟨NotCut.header, fun h => ⟨h, fun x hx => absurd hx (Option.not_mem_none x)⟩⟩

/-- The length that a scan returns for the field it has found, if it has found one. -/
lemma notCut_textValue_iff (hpos : 0 < headerLen) (hother : other = 0 ∨ headerLen ≤ other) :
    NotCut headerLen text (lengthFrom headerLen other (textValue text)) ↔
      ∀ x ∈ text, LengthFits headerLen other x := by
  cases text with
  | none =>
    rw [notCut_none_iff, textValue, Option.map_none, Option.getD_none, lengthFrom, if_pos rfl]
    exact ⟨fun _ x hx => absurd hx (Option.not_mem_none x), fun _ => hother⟩
  | some x =>
    rw [textValue, Option.map_some, Option.getD_some, notCut_iff hpos hother]
    simp

end

/-! ### The two scans -/

/-- The length of the header with its empty line. -/
def headerLength (buf : Bytes) : ℕ := (extractHeader buf).length

lemma headerLength_pos {buf : Bytes} {i : ℕ} (h : find sep buf = some i) :
    0 < headerLength buf := by
  rw [headerLength, Http.length_extractHeader h]
  exact Nat.add_pos_right i (by decide)

namespace Http

/-- The text of the field that gives the length of a request: the last one with this name, if the
request is not in chunks. -/
def lengthText (buf : Bytes) : Option Bytes :=
  if lastField (headerFields (extractHeader buf)) transferEncoding = chunked then none
  else lastText (· == contentLength) (headerTexts (extractHeader buf))

/-- The length of a request without such a field: a form ends with its boundary, another request
with its header. -/
def otherLength (buf : Bytes) : ℕ :=
  let boundary := multipartBoundary (lastField (headerFields (extractHeader buf)) contentType)
  if boundary ≠ [] then (multipartEnd boundary buf (headerLength buf)).getD 0
  else headerLength buf

lemma le_multipartEnd {boundary s : Bytes} {start fin : ℕ}
    (h : multipartEnd boundary s start = some fin) : start ≤ fin := by
  obtain ⟨pos, hpos, rfl⟩ := Option.map_eq_some_iff.mp h
  obtain ⟨-, j, -, rfl⟩ := findFrom_eq_some_iff.mp hpos
  dsimp only
  split_ifs <;> omega

lemma otherLength_spec (buf : Bytes) :
    otherLength buf = 0 ∨ headerLength buf ≤ otherLength buf := by
  rw [otherLength]
  split_ifs
  · cases hend : multipartEnd (multipartBoundary
        (lastField (headerFields (extractHeader buf)) contentType)) buf (headerLength buf) with
    | none => exact Or.inl rfl
    | some fin => exact Or.inr (le_multipartEnd hend)
  · exact Or.inr le_rfl

lemma lastField_eq_textValue (header name : Bytes) :
    lastField (headerFields header) name =
      textValue (lastText (· == name) (headerTexts header)) := by
  rw [lastField, headerFields_eq]
  exact lastValue_eq (· == name) _

/-- A request in chunks ends after its header. -/
lemma messageLength_chunked {buf : Bytes} {i : ℕ} (h : find sep buf = some i)
    (hte : lastField (headerFields (extractHeader buf)) transferEncoding = chunked) :
    messageLength buf = 0 ∨ headerLength buf ≤ messageLength buf := by
  have hlen := messageLength_of_find h
  rw [framing, if_pos hte] at hlen
  dsimp only at hlen
  cases hfrom : findFrom terminal buf (extractHeader buf).length with
  | none =>
    rw [hfrom] at hlen
    exact Or.inl hlen
  | some pos =>
    rw [hfrom] at hlen
    obtain ⟨-, j, -, hj⟩ := findFrom_eq_some_iff.mp hfrom
    have hle : headerLength buf ≤ pos := hj ▸ Nat.le_add_left _ _
    rw [hlen]
    exact Or.inr (hle.trans (Nat.le_add_right _ _))

/-- The scan of a request that is not in chunks. -/
lemma messageLength_eq_lengthFrom {buf : Bytes} {i : ℕ} (h : find sep buf = some i)
    (hte : lastField (headerFields (extractHeader buf)) transferEncoding ≠ chunked) :
    messageLength buf = lengthFrom (headerLength buf) (otherLength buf)
      (textValue (lastText (· == contentLength) (headerTexts (extractHeader buf)))) := by
  rw [messageLength_of_find h, framing, if_neg hte, lengthFrom, otherLength, headerLength,
    ← lastField_eq_textValue]
  by_cases hcl : lastField (headerFields (extractHeader buf)) contentLength = []
  · rw [if_neg (not_not.mpr hcl), if_pos hcl]
    by_cases hct : multipartBoundary
        (lastField (headerFields (extractHeader buf)) contentType) = []
    · rw [if_neg (not_not.mpr hct), if_neg (not_not.mpr hct)]
    · rw [if_pos hct, if_pos hct]
  · rw [if_pos hcl]
    exact (if_neg hcl).symm

lemma notCut_messageLength_iff {buf : Bytes} {i : ℕ} (h : find sep buf = some i) :
    NotCut (headerLength buf) (lengthText buf) (messageLength buf) ↔
      ∀ x ∈ lengthText buf, LengthFits (headerLength buf) (otherLength buf) x := by
  rw [lengthText]
  split_ifs with hte
  · rw [notCut_none_iff]
    exact ⟨fun _ x hx => absurd hx (Option.not_mem_none x), fun _ => messageLength_chunked h hte⟩
  · rw [messageLength_eq_lengthFrom h hte]
    exact notCut_textValue_iff (headerLength_pos h) (otherLength_spec buf)

end Http

namespace Sip

/-- The text of the field that gives the length of a message: the last one with one of the two
names, if the message is not in chunks. -/
def lengthText (buf : Bytes) : Option Bytes :=
  if (headerFields (extractHeader buf)).any fun f => toLower f.1 = transferEncoding then none
  else lastText (lengthNames.contains <| toLower ·) (headerTexts (extractHeader buf))

lemma notCut_messageLength_iff {buf : Bytes} {i : ℕ} (h : find sep buf = some i) :
    NotCut (headerLength buf) (lengthText buf) (messageLength buf) ↔
      ∀ x ∈ lengthText buf, LengthFits (headerLength buf) (headerLength buf) x := by
  have hlen : messageLength buf =
      if (headerFields (extractHeader buf)).any fun f => toLower f.1 = transferEncoding then 0
      else lengthFrom (headerLength buf) (headerLength buf)
        (lastValue (headerFields (extractHeader buf)) lengthNames) := by
    rw [headerLength, Http.length_extractHeader h, Http.extractHeader_of_find h, messageLength, h]
    rfl
  rw [hlen, lengthText]
  split_ifs with hte
  · rw [notCut_none_iff]
    exact ⟨fun _ x hx => absurd hx (Option.not_mem_none x), fun _ => Or.inl rfl⟩
  · rw [lastValue, headerFields_eq, lastValue_eq (lengthNames.contains <| toLower ·)]
    exact notCut_textValue_iff (headerLength_pos h) (Or.inr le_rfl)

end Sip

/-! ### Whole headers -/

/-- The text that gives the length, once the header has arrived. -/
def arrived (buf : Bytes) (text : Option Bytes) : Option Bytes := (find sep buf).bind fun _ => text

/-- Both scans return nothing, or a length that is not inside the header and is what a decimal
length says, exactly where the text after the colon is cut and added without harm. -/
theorem messageLength_notCut_iff (buf : Bytes) :
    (NotCut (headerLength buf) (arrived buf (Http.lengthText buf)) (Http.messageLength buf) ↔
      ∀ x ∈ arrived buf (Http.lengthText buf),
        LengthFits (headerLength buf) (Http.otherLength buf) x) ∧
    (NotCut (headerLength buf) (arrived buf (Sip.lengthText buf)) (Sip.messageLength buf) ↔
      ∀ x ∈ arrived buf (Sip.lengthText buf),
        LengthFits (headerLength buf) (headerLength buf) x) := by
  rw [arrived, arrived]
  cases hfind : find sep buf with
  | none =>
    rw [Option.bind_none, Option.bind_none, notCut_none_iff, notCut_none_iff, Http.messageLength,
      Sip.messageLength, hfind]
    simp
  | some i =>
    exact ⟨Http.notCut_messageLength_iff hfind, Sip.notCut_messageLength_iff hfind⟩

/-- A request whose length is written with a minus sign. -/
def signedRequest : Bytes :=
  Bytes.ofString "POST /a HTTP/1.1\r\nContent-Length: -1\r\n\r\n"

/-- The length of the request ends inside its header. -/
theorem signed_length_inside_header :
    ¬ ∀ buf, NotCut (headerLength buf) (arrived buf (Http.lengthText buf))
        (Http.messageLength buf) ∧
      NotCut (headerLength buf) (arrived buf (Sip.lengthText buf)) (Sip.messageLength buf) := by
  intro hclaim
  have hlen : Http.messageLength signedRequest = 39 := by decide +kernel
  have hheader : headerLength signedRequest = 40 := by decide +kernel
  have hcut := (hclaim signedRequest).1.header
  rw [hlen, hheader] at hcut
  omega
