import Mathlib.Tactic

/-!
# JSON texts

A parser of JSON on bytes: the text is UTF-8, strings are decoded, and a number is kept as it is
spelled. The members of an object stand in the order of the text.
-/

/-! ### UTF-8 -/

namespace Utf8

/-- How many bytes of a character are still to come, and the range of the next one. -/
structure State where
  rest : ℕ := 0
  lo : UInt8 := 0x80
  hi : UInt8 := 0xBF
  deriving DecidableEq, Repr

def start : State := {}

def step (s : State) (c : UInt8) : Option State :=
  if s.rest = 0 then
    if c < 0x80 then some start
    else if 0xC2 ≤ c ∧ c ≤ 0xDF then some { rest := 1 }
    else if c = 0xE0 then some { rest := 2, lo := 0xA0 }
    else if c = 0xED then some { rest := 2, hi := 0x9F }
    else if 0xE1 ≤ c ∧ c ≤ 0xEF then some { rest := 2 }
    else if c = 0xF0 then some { rest := 3, lo := 0x90 }
    else if 0xF1 ≤ c ∧ c ≤ 0xF3 then some { rest := 3 }
    else if c = 0xF4 then some { rest := 3, hi := 0x8F }
    else none
  else if 0x80 ≤ c ∧ s.lo ≤ c ∧ c ≤ s.hi then some { rest := s.rest - 1 }
  else none

/-- The text is a sequence of whole characters. -/
def Valid (s : List UInt8) : Prop := ∃ t, s.foldlM step start = some t ∧ t.rest = 0

instance (s : List UInt8) : Decidable (Valid s) :=
  match h : s.foldlM step start with
  | none   => .isFalse fun ⟨t, ht, _⟩ => by rw [h] at ht; cases ht
  | some t => decidable_of_iff (t.rest = 0)
      ⟨fun h0 => ⟨t, h, h0⟩, fun ⟨_, ht, h0⟩ => Option.some.inj (h.symm.trans ht) ▸ h0⟩

/-- Between characters there is only one state. -/
lemma step_eq_start {s t : State} {c : UInt8} (h : step s c = some t) (hrest : t.rest = 0) :
    t = start := by
  rw [step] at h
  split_ifs at h <;> cases h
  -- the first byte of a longer character leaves bytes to come
  any_goals cases hrest
  · rfl
  · rw [start, show s.rest - 1 = 0 from hrest]

/-- An ASCII character stands only between characters. -/
lemma step_ascii {s : State} {c : UInt8} (hc : c < 0x80) :
    step s c = if s.rest = 0 then some start else none := by
  rw [step]
  split_ifs with hrest hcont
  · rfl
  · exact absurd hcont.1 (UInt8.not_le.mpr hc)
  · rfl

lemma foldlM_eq_start {s : List UInt8} {t : State} (h : s.foldlM step start = some t)
    (hrest : t.rest = 0) : t = start := by
  induction s using List.reverseRecOn with
  | nil =>
    cases h
    rfl
  | append_singleton s c _ =>
    rw [List.foldlM_append] at h
    obtain ⟨u, -, hu⟩ := Option.bind_eq_some_iff.mp h
    rw [List.foldlM_cons] at hu
    obtain ⟨v, hv, hvt⟩ := Option.bind_eq_some_iff.mp hu
    cases hvt
    exact step_eq_start hv hrest

lemma valid_iff {s : List UInt8} : Valid s ↔ s.foldlM step start = some start :=
  ⟨fun ⟨_, ht, hrest⟩ => by rw [ht, foldlM_eq_start ht hrest], fun h => ⟨start, h, rfl⟩⟩

lemma valid_nil : Valid [] := ⟨start, rfl, rfl⟩

/-- An ASCII character separates what comes before it from what comes after it. -/
theorem valid_append_ascii {s t : List UInt8} {c : UInt8} (hc : c < 0x80) :
    Valid (s ++ c :: t) ↔ Valid s ∧ Valid t := by
  have hfold : (s ++ c :: t).foldlM step start =
      (s.foldlM step start).bind fun u => (step u c).bind fun v => t.foldlM step v := by
    rw [List.foldlM_append]
    rfl
  constructor
  · intro h
    rw [valid_iff, hfold] at h
    obtain ⟨u, hu, h⟩ := Option.bind_eq_some_iff.mp h
    rw [step_ascii hc] at h
    split_ifs at h with hrest
    · exact ⟨⟨u, hu, hrest⟩, valid_iff.mpr h⟩
    · cases h
  · rintro ⟨hs, ht⟩
    rw [valid_iff, hfold, valid_iff.mp hs, Option.bind_some, step_ascii hc]
    exact valid_iff.mp ht

lemma valid_cons_ascii {t : List UInt8} {c : UInt8} (hc : c < 0x80) : Valid (c :: t) ↔ Valid t := by
  have h := valid_append_ascii (s := []) (t := t) hc
  rw [List.nil_append] at h
  rw [h]
  exact and_iff_right valid_nil

/-- A character as its bytes. -/
def encode (n : ℕ) : List UInt8 :=
  if n < 0x80 then [UInt8.ofNat n]
  else if n < 0x800 then [UInt8.ofNat (0xC0 + n / 64), UInt8.ofNat (0x80 + n % 64)]
  else if n < 0x10000 then
    [UInt8.ofNat (0xE0 + n / 4096), UInt8.ofNat (0x80 + n / 64 % 64), UInt8.ofNat (0x80 + n % 64)]
  else
    [UInt8.ofNat (0xF0 + n / 262144), UInt8.ofNat (0x80 + n / 4096 % 64),
      UInt8.ofNat (0x80 + n / 64 % 64), UInt8.ofNat (0x80 + n % 64)]

end Utf8

/-! ### Values -/

inductive Json where
  | null
  | bool (b : Bool)
  | number (text : List UInt8)
  | string (s : List UInt8)
  | array (elems : List Json)
  | object (members : List (List UInt8 × Json))
  deriving Repr

namespace Json

/-! ### Strings -/

/-- The text of a string up to its closing quote, and what comes after it. -/
def scan : List UInt8 → Option (List UInt8 × List UInt8)
  | []            => none
  | 0x22 :: s     => some ([], s)
  | 0x5C :: c :: s => (scan s).map fun (raw, rest) => (0x5C :: c :: raw, rest)
  | c :: s        => (scan s).map fun (raw, rest) => (c :: raw, rest)

/-- The value of a hexadecimal digit. -/
def hexDigit (c : UInt8) : Option ℕ :=
  if 0x30 ≤ c ∧ c ≤ 0x39 then some (c.toNat - 0x30)
  else if 0x41 ≤ c ∧ c ≤ 0x46 then some (c.toNat - 0x37)
  else if 0x61 ≤ c ∧ c ≤ 0x66 then some (c.toNat - 0x57)
  else none

def hex4 (a b c d : UInt8) : Option ℕ := do
  let a ← hexDigit a
  let b ← hexDigit b
  let c ← hexDigit c
  let d ← hexDigit d
  some (((a * 16 + b) * 16 + c) * 16 + d)

/-- The character of an escape with one letter. -/
def escaped (c : UInt8) : Option UInt8 :=
  if c = 0x22 ∨ c = 0x5C ∨ c = 0x2F then some c
  else if c = 0x62 then some 0x08
  else if c = 0x66 then some 0x0C
  else if c = 0x6E then some 0x0A
  else if c = 0x72 then some 0x0D
  else if c = 0x74 then some 0x09
  else none

/-- The value of the text of a string. -/
def unescape : List UInt8 → Option (List UInt8)
  | []                                   => some []
  | 0x5C :: 0x75 :: a :: b :: c :: d :: s =>
    match hex4 a b c d with
    | none   => none
    | some n =>
      if 0xD800 ≤ n ∧ n < 0xDC00 then
        -- the first half of a pair
        match s with
        | 0x5C :: 0x75 :: a :: b :: c :: d :: s =>
          match hex4 a b c d with
          | none   => none
          | some m =>
            if 0xDC00 ≤ m ∧ m < 0xE000 then
              (unescape s).map
                (Utf8.encode (0x10000 + (n - 0xD800) * 1024 + (m - 0xDC00)) ++ ·)
            else none
        | _ => none
      else if 0xDC00 ≤ n ∧ n < 0xE000 then none
      else (unescape s).map (Utf8.encode n ++ ·)
  | 0x5C :: c :: s                       =>
    match escaped c with
    | none   => none
    | some c => (unescape s).map (c :: ·)
  | c :: s                               =>
    if c < 0x20 ∨ c = 0x5C then none else (unescape s).map (c :: ·)

/-- A string after its opening quote. -/
def parseString (s : List UInt8) : Option (List UInt8 × List UInt8) :=
  (scan s).bind fun (raw, rest) => (unescape raw).map fun value => (value, rest)

/-! ### Texts -/

def isWs (c : UInt8) : Bool := c = 0x20 ∨ c = 0x09 ∨ c = 0x0A ∨ c = 0x0D

def skipWs (s : List UInt8) : List UInt8 := s.dropWhile isWs

def isDigit (c : UInt8) : Bool := 0x30 ≤ c ∧ c ≤ 0x39

/-- The digits at the front, if there is one. -/
def digits (s : List UInt8) : Option (List UInt8 × List UInt8) :=
  if s.takeWhile isDigit = [] then none else some (s.takeWhile isDigit, s.dropWhile isDigit)

/-- The fraction of a number, which it may lack. -/
def fraction (s : List UInt8) : Option (List UInt8 × List UInt8) :=
  match s with
  | 0x2E :: s => (digits s).map fun (ds, rest) => (0x2E :: ds, rest)
  | s         => some ([], s)

/-- The exponent of a number, which it may lack. -/
def exponent (s : List UInt8) : Option (List UInt8 × List UInt8) :=
  match s with
  | c :: s =>
    if c = 0x65 ∨ c = 0x45 then
      match s with
      | sign :: s =>
        if sign = 0x2B ∨ sign = 0x2D then
          (digits s).map fun (ds, rest) => (c :: sign :: ds, rest)
        else (digits (sign :: s)).map fun (ds, rest) => (c :: ds, rest)
      | []        => none
    else some ([], c :: s)
  | []     => some ([], [])

/-- The integer part of a number, which has no zero before other digits. -/
def integer (s : List UInt8) : Option (List UInt8 × List UInt8) :=
  match s with
  | 0x30 :: s => some ([0x30], s)
  | s         => digits s

def parseNumber (s : List UInt8) : Option (Json × List UInt8) := do
  let (sign, s) := if s.head? = some 0x2D then ([0x2D], s.tail) else ([], s)
  let (int, s) ← integer s
  let (frac, s) ← fraction s
  let (exp, s) ← exponent s
  some (.number (sign ++ int ++ frac ++ exp), s)

/-- A literal name, or a number. -/
def parseLiteral (s : List UInt8) : Option (Json × List UInt8) :=
  match s with
  | 0x74 :: 0x72 :: 0x75 :: 0x65 :: s         => some (.bool true, s)
  | 0x66 :: 0x61 :: 0x6C :: 0x73 :: 0x65 :: s => some (.bool false, s)
  | 0x6E :: 0x75 :: 0x6C :: 0x6C :: s         => some (.null, s)
  | s                                         => parseNumber s

mutual

/-- A value, with the depth and the number of elements that may be read. -/
def parseValue : ℕ → List UInt8 → Option (Json × List UInt8)
  | 0, _     => none
  | n + 1, s =>
    match skipWs s with
    | 0x22 :: s => (parseString s).map fun (value, rest) => (.string value, rest)
    | 0x7B :: s =>
      match skipWs s with
      | 0x7D :: rest => some (.object [], rest)
      | s            => (parseMembers n s).map fun (members, rest) => (.object members, rest)
    | 0x5B :: s =>
      match skipWs s with
      | 0x5D :: rest => some (.array [], rest)
      | s            => (parseElems n s).map fun (elems, rest) => (.array elems, rest)
    | s         => parseLiteral s

/-- The members of an object, up to its closing brace. -/
def parseMembers : ℕ → List UInt8 → Option (List (List UInt8 × Json) × List UInt8)
  | 0, _     => none
  | n + 1, s =>
    match skipWs s with
    | 0x22 :: s =>
      match parseString s with
      | none          => none
      | some (key, s) =>
        match skipWs s with
        | 0x3A :: s =>
          match parseValue n s with
          | none            => none
          | some (value, s) =>
            match skipWs s with
            | 0x7D :: rest => some ([(key, value)], rest)
            | 0x2C :: s    => (parseMembers n s).map fun (ms, rest) => ((key, value) :: ms, rest)
            | _            => none
        | _         => none
    | _         => none

/-- The elements of an array, up to its closing bracket. -/
def parseElems : ℕ → List UInt8 → Option (List Json × List UInt8)
  | 0, _     => none
  | n + 1, s =>
    match parseValue n s with
    | none            => none
    | some (value, s) =>
      match skipWs s with
      | 0x5D :: rest => some ([value], rest)
      | 0x2C :: s    => (parseElems n s).map fun (elems, rest) => (value :: elems, rest)
      | _            => none

end

/-- The value of a JSON text. -/
def parse (s : List UInt8) : Option Json :=
  if Utf8.Valid s then
    match parseValue (s.length + 1) s with
    | none               => none
    | some (value, rest) => if skipWs rest = [] then some value else none
  else none

/-! ### Objects

Of several members with one name the last one counts. -/

def isObject : Json → Bool
  | .object _ => true
  | _         => false

/-- The value of a member of an object. -/
def field (j : Json) (key : List UInt8) : Option Json :=
  match j with
  | .object ms => (ms.reverse.find? fun m => m.1 == key).map (·.2)
  | _          => none

/-- The text of a member that is a string. -/
def text (j : Json) (key : List UInt8) : Option (List UInt8) :=
  match j.field key with
  | some (.string s) => some s
  | _                => none

def erase (j : Json) (key : List UInt8) : Json :=
  match j with
  | .object ms => .object (ms.filter fun m => m.1 != key)
  | j          => j

def insert (j : Json) (key : List UInt8) (value : Json) : Json :=
  match j with
  | .object ms => .object (ms.filter (fun m => m.1 != key) ++ [(key, value)])
  | j          => j

lemma text_eq_some {j : Json} {key s : List UInt8} :
    j.text key = some s ↔ j.field key = some (.string s) := by
  rw [text]
  cases j.field key with
  | none => simp
  | some v => cases v <;> simp

lemma field_erase {j : Json} {key key' : List UInt8} (h : key ≠ key') :
    (j.erase key).field key' = j.field key' := by
  cases j with
  | object ms =>
    simp only [erase, field]
    congr 1
    rw [← List.filter_reverse, List.find?_filter]
    congr 1
    funext m
    by_cases hm : m.1 = key'
    · simp [hm, Ne.symm h]
    · simp [hm]
  | _ => rfl

lemma field_insert_self {ms : List (List UInt8 × Json)} (key : List UInt8) (value : Json) :
    ((Json.object ms).insert key value).field key = some value := by
  simp [insert, field]

lemma field_insert_of_ne {j : Json} {key key' : List UInt8} (h : key ≠ key') (value : Json) :
    (j.insert key value).field key' = j.field key' := by
  cases j with
  | object ms =>
    have hlast : (Json.object (ms.filter (fun m => m.1 != key) ++ [(key, value)])).field key' =
        (Json.object (ms.filter fun m => m.1 != key)).field key' := by
      simp [field, h]
    exact hlast.trans (field_erase (j := .object ms) h)
  | _ => rfl

end Json
