import OnPremPbx.Text.Search
import OnPremPbx.Tunnel.SipFrame
import Mathlib.Data.List.TakeWhile

/-!
# Messages

What requests and responses share (`message_parser.cpp`): a first line, lines of the form
`Name: value` up to an empty one, and a body. `MessageParser` keeps the fields in a map whose keys
are lower case, and a key that is there already is not added again.

The conversions of the standard library throw where there is no number to convert, or none that
fits; the result is `none` then.
-/

open Text

/-! ### Numbers -/

/-- `std::isspace` in the C locale. -/
def isSpace (c : UInt8) : Bool := c == 0x20 || (0x09 ≤ c && c ≤ 0x0D)

/-- The value of a digit of the base. -/
def digit (base : ℕ) (c : UInt8) : Option ℕ :=
  let n :=
    if 0x30 ≤ c ∧ c ≤ 0x39 then c.toNat - 0x30
    else if 0x41 ≤ c ∧ c ≤ 0x5A then c.toNat - 0x41 + 10
    else if 0x61 ≤ c ∧ c ≤ 0x7A then c.toNat - 0x61 + 10
    else base
  if n < base then some n else none

def isDigit (base : ℕ) (c : UInt8) : Bool := (digit base c).isSome

/-- The value of digits, after those that make up `acc`. -/
def digitsValue (base : ℕ) (acc : ℕ) (ds : Bytes) : ℕ :=
  ds.foldl (fun n c => n * base + (digit base c).getD 0) acc

/-- The prefix `0x` of the base 16 is skipped, where a digit comes after it. -/
def skipPrefix (base : ℕ) : Bytes → Bytes
  | 0x30 :: x :: c :: s =>
    if base = 16 ∧ (x = 0x78 ∨ x = 0x58) ∧ isDigit base c then c :: s else 0x30 :: x :: c :: s
  | s => s

/-- The sign and the magnitude that `strtoul` reads off the front of a string, if there is a digit
to convert. -/
def readNumber (base : ℕ) (s : Bytes) : Option (Bool × ℕ) :=
  let s := s.dropWhile isSpace
  let negative := s.head? = some 0x2D
  let s := if s.head? = some 0x2D ∨ s.head? = some 0x2B then s.tail else s
  let ds := (skipPrefix base s).takeWhile (isDigit base)
  if ds = [] then none else some (negative, digitsValue base 0 ds)

/-- `std::stoul`. A negative number wraps around. -/
def stoul (base : ℕ) (s : Bytes) : Option ℕ :=
  match readNumber base s with
  | none        => none
  | some (negative, n) =>
    if 2 ^ 64 ≤ n then none else some (if negative then (2 ^ 64 - n) % 2 ^ 64 else n)

/-- `std::stoi`, which throws where the number is not one of 32 bits. -/
def stoi (s : Bytes) : Option ℤ :=
  match readNumber 10 s with
  | none               => none
  | some (negative, n) =>
    let i : ℤ := if negative then -n else n
    if -2 ^ 31 ≤ i ∧ i < 2 ^ 31 then some i else none

/-- `static_cast<char>(std::stoi(hex, nullptr, 16))` for the two characters of an escape. -/
def stoiHexPair (c₁ c₂ : UInt8) : Option UInt8 :=
  (readNumber 16 [c₁, c₂]).map fun (negative, n) =>
    if negative then -UInt8.ofNat n else UInt8.ofNat n

/-- The characters before `0` are blanks, signs and other marks. -/
lemma le_of_isDigit {base : ℕ} {c : UInt8} (h : isDigit base c) : 0x30 ≤ c := by
  by_contra hlt
  have h₁ : ¬ (0x30 ≤ c ∧ c ≤ 0x39) := fun hc => hlt hc.1
  have h₂ : ¬ (0x41 ≤ c ∧ c ≤ 0x5A) := fun hc => hlt (UInt8.le_trans (by decide) hc.1)
  have h₃ : ¬ (0x61 ≤ c ∧ c ≤ 0x7A) := fun hc => hlt (UInt8.le_trans (by decide) hc.1)
  rw [isDigit, digit, if_neg h₁, if_neg h₂, if_neg h₃, if_neg (lt_irrefl base)] at h
  cases h

lemma ne_of_isDigit {base : ℕ} {c k : UInt8} (h : isDigit base c) (hk : k < 0x30) : c ≠ k := by
  rintro rfl
  exact UInt8.not_le.mpr hk (le_of_isDigit h)

lemma not_isSpace_of_isDigit {base : ℕ} {c : UInt8} (h : isDigit base c) : ¬ isSpace c := by
  have h₁ : c ≠ 0x20 := ne_of_isDigit h (by decide)
  have h₂ : ¬ c ≤ 0x0D := UInt8.not_le.mpr (UInt8.lt_of_lt_of_le (by decide) (le_of_isDigit h))
  simp [isSpace, h₁, h₂]

/-- No letter from `g` on is a digit of a base up to 16. -/
lemma not_isDigit_x {base : ℕ} (hbase : base ≤ 16) {x : UInt8} (hx : x = 0x78 ∨ x = 0x58) :
    ¬ isDigit base x := by
  have hnum : digit base x = if 33 < base then some 33 else none := by
    rcases hx with rfl | rfl <;> rfl
  rw [isDigit, hnum, if_neg (by omega)]
  exact Bool.false_ne_true

lemma skipPrefix_digits {base : ℕ} (hbase : base ≤ 16) {ds : Bytes}
    (hds : ∀ c ∈ ds, isDigit base c) : skipPrefix base ds = ds := by
  unfold skipPrefix
  split
  · refine if_neg fun hx => not_isDigit_x hbase hx.2.1 (hds _ ?_)
    exact List.mem_cons_of_mem _ List.mem_cons_self
  · rfl

/-- A numeral is read to its end. -/
lemma readNumber_digits {base : ℕ} (hbase : base ≤ 16) {ds : Bytes} (hne : ds ≠ [])
    (hds : ∀ c ∈ ds, isDigit base c) :
    readNumber base ds = some (false, digitsValue base 0 ds) := by
  have hhead : ∀ c, ds.head? = some c → isDigit base c := fun c hc =>
    hds c (List.mem_of_mem_head? hc)
  have hspace : ds.dropWhile isSpace = ds := by
    obtain ⟨d, ds', rfl⟩ := List.exists_cons_of_ne_nil hne
    exact List.dropWhile_cons_of_neg (not_isSpace_of_isDigit (hhead d rfl))
  have hminus : ds.head? ≠ some 0x2D := fun hx => ne_of_isDigit (hhead _ hx) (by decide) rfl
  have hplus : ds.head? ≠ some 0x2B := fun hx => ne_of_isDigit (hhead _ hx) (by decide) rfl
  have htake : ds.takeWhile (isDigit base) = ds := List.takeWhile_eq_self_iff.mpr hds
  rw [readNumber, hspace, if_neg (not_or.mpr ⟨hminus, hplus⟩), skipPrefix_digits hbase hds, htake,
    if_neg hne, decide_eq_false hminus]

lemma stoul_digits {base : ℕ} (hbase : base ≤ 16) {ds : Bytes} (hne : ds ≠ [])
    (hds : ∀ c ∈ ds, isDigit base c) (hlt : digitsValue base 0 ds < 2 ^ 64) :
    stoul base ds = some (digitsValue base 0 ds) := by
  rw [stoul, readNumber_digits hbase hne hds]
  dsimp only
  rw [if_neg (not_le.mpr hlt)]
  rfl

/-! ### Text -/

/-- `std::tolower` in the C locale. -/
def toLowerChar (c : UInt8) : UInt8 := if 0x41 ≤ c ∧ c ≤ 0x5A then c + 0x20 else c

def toLower (s : Bytes) : Bytes := s.map toLowerChar

/-- `pct_decode`. An escape needs two characters after the percent sign. -/
def pctDecode : Bytes → Option Bytes
  | c :: c₁ :: c₂ :: s =>
    if c = 0x25 then do
      let b ← stoiHexPair c₁ c₂
      let rest ← pctDecode s
      some (b :: rest)
    else do
      let rest ← pctDecode (c₁ :: c₂ :: s)
      some ((if c = 0x2B then 0x20 else c) :: rest)
  | s => some (s.map fun c => if c = 0x2B then 0x20 else c)

/-- A character that is no percent sign is decoded by itself. -/
lemma pctDecode_cons {c : UInt8} (hc : c ≠ 0x25) (s : Bytes) :
    pctDecode (c :: s) = (pctDecode s).map ((if c = 0x2B then 0x20 else c) :: ·) := by
  rcases s with _ | ⟨c₁, _ | ⟨c₂, s⟩⟩
  · rfl
  · rfl
  · rw [pctDecode, if_neg hc]
    cases pctDecode (c₁ :: c₂ :: s) <;> rfl

/-- A text without escapes is decoded, but for its plus signs. -/
lemma pctDecode_of_not_mem {s : Bytes} (h : 0x25 ∉ s) :
    pctDecode s = some (s.map fun c => if c = 0x2B then 0x20 else c) := by
  fun_induction pctDecode s with
  | case1 c₁ c₂ s => exact absurd List.mem_cons_self h
  | case2 c c₁ c₂ s hc ih =>
    rw [ih fun hmem => h (List.mem_cons_of_mem _ hmem)]
    rfl
  | case3 s hs => rfl

/-- Nothing is changed where there is no plus sign. -/
lemma map_plus_eq_self_iff {s : Bytes} :
    (s.map fun c => if c = 0x2B then 0x20 else c) = s ↔ 0x2B ∉ s := by
  constructor
  · intro heq hmem
    rw [← heq] at hmem
    obtain ⟨c, -, hc⟩ := List.mem_map.mp hmem
    split_ifs at hc with hplus
    · cases hc
    · exact hplus hc
  · intro hplus
    conv_rhs => rw [← List.map_id s]
    apply List.map_congr_left
    intro c hc
    exact if_neg (ne_of_mem_of_not_mem hc hplus)

def CRLF : Bytes := [0x0D, 0x0A]

/-- The end of the header. -/
def sep : Bytes := CRLF ++ CRLF

/-- `rfind` of a character. -/
def rfind (c : UInt8) (s : Bytes) : Option ℕ :=
  (find [c] s.reverse).map fun i => s.length - 1 - i

/-- The last character of its kind, before a part without one. -/
lemma rfind_char {c : UInt8} {l : Bytes} (h : c ∉ l) (s : Bytes) :
    rfind c (s ++ c :: l) = some s.length := by
  rw [rfind, List.reverse_append, List.reverse_cons, List.append_assoc, List.singleton_append,
    find_char (by simpa using h), Option.map_some]
  simp

/-! ### Fields -/

/-- The header with its empty line, or everything where there is none. -/
def extractHeader (s : Bytes) : Bytes :=
  match find sep s with
  | none   => s
  | some i => s.take (i + sep.length)

/-- A line without the CR at its end. -/
def chopCR (line : Bytes) : Bytes := if line.getLast? = some 0x0D then line.dropLast else line

/-- The name and the value of a line with a colon. One character after the colon is left out. -/
def splitField (line : Bytes) : Option (Bytes × Bytes) :=
  (find [0x3A] line).map fun colon => (line.take colon, line.drop (colon + 2))

/-- The fields of the lines, up to an empty one. -/
def readFields : List Bytes → List (Bytes × Bytes)
  | []            => []
  | line :: lines =>
    if chopCR line = [] then []
    else
      match splitField (chopCR line) with
      | none   => readFields lines
      | some f => f :: readFields lines

/-- The fields of a header, as `message_length` and `parse_mime_header` read them. The first line is
skipped. -/
def headerFields (header : Bytes) : List (Bytes × Bytes) :=
  readFields (getlines 0x0A header).tail

structure MessageParser where
  /-- in the order in which the pairs were added -/
  tokenMap : List (Bytes × Bytes) := []
  header : Bytes := []
  body : Bytes := []
  deriving DecidableEq, Repr

namespace MessageParser

/-- `add_element`. The map keeps the first value of a key, and so does the look-up below. -/
def addElement (m : MessageParser) (f : Bytes × Bytes) : MessageParser :=
  { m with tokenMap := m.tokenMap ++ [(toLower f.1, f.2)] }

def getElement (m : MessageParser) (key : Bytes) : Bytes :=
  ((m.tokenMap.find? fun f => f.1 == toLower key).map (·.2)).getD []

def parseMimeHeader (header : Bytes) (m : MessageParser) : MessageParser :=
  (headerFields header).foldl addElement m

end MessageParser
