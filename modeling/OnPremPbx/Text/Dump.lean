import OnPremPbx.Text.Concat

/-!
# JSON values as texts

The text of a JSON value, with the escapes that its strings need, is read as the value. A value that
was read has such a text.
-/

namespace Json

/-! ### Strings -/

/-- A hexadecimal digit. -/
def hexLetter (n : ℕ) : UInt8 := if n < 10 then UInt8.ofNat (0x30 + n) else UInt8.ofNat (0x57 + n)

def escapeChar (c : UInt8) : List UInt8 :=
  if c = 0x22 ∨ c = 0x5C then [0x5C, c]
  else if c < 0x20 then
    [0x5C, 0x75, 0x30, 0x30, hexLetter (c.toNat / 16), hexLetter (c.toNat % 16)]
  else [c]

def escape (s : List UInt8) : List UInt8 := s.flatMap escapeChar

/-- A string with its quotes. -/
def quoted (s : List UInt8) : List UInt8 := quote (escape s)

lemma escape_cons (c : UInt8) (s : List UInt8) : escape (c :: s) = escapeChar c ++ escape s :=
  List.flatMap_cons

lemma hexLetter_spec : ∀ n < 16,
    hexLetter n ≠ 0x22 ∧ hexLetter n ≠ 0x5C ∧ hexLetter n < 0x80 ∧
      hexDigit (hexLetter n) = some n := by
  decide

lemma toNat_lt_of_ctl {c : UInt8} (h : c < 0x20) : c.toNat < 32 := h

lemma scan_cons {c : UInt8} (h : c ≠ 0x22) (h' : c ≠ 0x5C) (s : List UInt8) :
    scan (c :: s) = (scan s).map fun (raw, rest) => (c :: raw, rest) := by
  rw [scan]
  · exact h
  · exact fun _ _ heq => absurd heq h'

lemma scan_escape (s rest : List UInt8) :
    scan (escape s ++ 0x22 :: rest) = some (escape s, rest) := by
  induction s with
  | nil => rw [escape, List.flatMap_nil, List.nil_append, scan]
  | cons c s ih =>
    rw [escape_cons, List.append_assoc, escapeChar]
    split_ifs with hquote hctl
    · rw [List.cons_append, List.singleton_append, scan, ih]
      rfl
    · have hlt := toNat_lt_of_ctl hctl
      obtain ⟨hhigh, hhigh', -⟩ := hexLetter_spec (c.toNat / 16) (by omega)
      obtain ⟨hlow, hlow', -⟩ := hexLetter_spec (c.toNat % 16) (by omega)
      simp only [List.cons_append, List.nil_append]
      rw [scan, scan_cons (by decide) (by decide), scan_cons (by decide) (by decide),
        scan_cons hhigh hhigh', scan_cons hlow hlow', ih]
      rfl
    · rw [not_or] at hquote
      rw [List.singleton_append, scan_cons hquote.1 hquote.2, ih]
      rfl

lemma unescape_escape (s : List UInt8) : unescape (escape s) = some s := by
  induction s with
  | nil => rw [escape, List.flatMap_nil, unescape]
  | cons c s ih =>
    rw [escape_cons, escapeChar]
    split_ifs with hquote hctl
    · have hescaped : escaped c = some c := by rw [escaped, if_pos (by tauto)]
      rw [List.cons_append, List.singleton_append, unescape]
      · rw [hescaped]
        dsimp only
        rw [ih]
        rfl
      · rcases hquote with rfl | rfl <;> exact fun _ _ _ _ _ h => absurd h (by decide)
    · have hlt := toNat_lt_of_ctl hctl
      obtain ⟨-, -, -, hhigh⟩ := hexLetter_spec (c.toNat / 16) (by omega)
      obtain ⟨-, -, -, hlow⟩ := hexLetter_spec (c.toNat % 16) (by omega)
      have hzero : hexDigit 0x30 = some 0 := by decide
      have hhex : hex4 0x30 0x30 (hexLetter (c.toNat / 16)) (hexLetter (c.toNat % 16)) =
          some c.toNat := by
        simp only [hex4, hzero, hhigh, hlow, Option.bind_eq_bind, Option.bind_some,
          Option.some.injEq]
        omega
      have hencode : Utf8.encode c.toNat = [c] := by
        rw [Utf8.encode, if_pos (by omega), UInt8.ofNat_toNat]
      simp only [List.cons_append, List.nil_append]
      rw [unescape]
      simp only [hhex]
      rw [if_neg (by omega), if_neg (by omega), ih, hencode]
      rfl
    · rw [not_or] at hquote
      rw [List.singleton_append, unescape, if_neg, ih, Option.map_some]
      · exact not_or.mpr ⟨hctl, hquote.2⟩
      · exact fun _ _ _ _ _ h => absurd h hquote.2
      · exact fun _ _ h => absurd h hquote.2

lemma parseString_escape (s rest : List UInt8) :
    parseString (escape s ++ 0x22 :: rest) = some (s, rest) := by
  simp only [parseString, scan_escape, Option.bind_some, unescape_escape, Option.map_some]

/-! ### Values -/

/-- The text of a number, whole. -/
def isNumber (t : List UInt8) : Bool :=
  match parseNumber t with
  | some (.number t', []) => t' == t
  | _                     => false

mutual

/-- The strings are UTF-8 and the numbers are numbers. -/
def writable : Json → Bool
  | .null | .bool _ => true
  | .number t       => isNumber t
  | .string s       => decide (Utf8.Valid s)
  | .array es       => writableElems es
  | .object ms      => writableMembers ms

def writableElems : List Json → Bool
  | []      => true
  | e :: es => writable e && writableElems es

def writableMembers : List (List UInt8 × Json) → Bool
  | []           => true
  | (k, v) :: ms => decide (Utf8.Valid k) && writable v && writableMembers ms

end

mutual

/-- The text of a value. -/
def dump : Json → List UInt8
  | .null      => [0x6E, 0x75, 0x6C, 0x6C]
  | .bool b    => if b then [0x74, 0x72, 0x75, 0x65] else [0x66, 0x61, 0x6C, 0x73, 0x65]
  | .number t  => t
  | .string s  => quoted s
  | .array es  => 0x5B :: dumpElems es
  | .object ms => 0x7B :: dumpMembers ms

/-- The elements and the bracket after them. -/
def dumpElems : List Json → List UInt8
  | []           => [0x5D]
  | [e]          => dump e ++ [0x5D]
  | e :: e' :: es => dump e ++ 0x2C :: dumpElems (e' :: es)

/-- The members and the brace after them. -/
def dumpMembers : List (List UInt8 × Json) → List UInt8
  | []                => [0x7D]
  | [(k, v)]          => quoted k ++ 0x3A :: (dump v ++ [0x7D])
  | (k, v) :: m :: ms => quoted k ++ 0x3A :: (dump v ++ 0x2C :: dumpMembers (m :: ms))

end

/-- `json::dump`, which throws where a string is not UTF-8. -/
def dumped (j : Json) : Option (List UInt8) := if j.writable then some j.dump else none

/-! ### Numbers and what follows them -/

/-- What may follow a value: nothing, a comma or a closing bracket. -/
def Ends (s : List UInt8) : Prop := ∀ c ∈ s.head?, c = 0x2C ∨ c = 0x7D ∨ c = 0x5D

lemma Ends.not_digit {s : List UInt8} (h : Ends s) {c : UInt8} (hc : c ∈ s.head?) :
    isDigit c = false := by
  rcases h c hc with rfl | rfl | rfl <;> rfl

lemma takeWhile_append_ends {s rest : List UInt8} (h : Ends rest) :
    (s ++ rest).takeWhile isDigit = s.takeWhile isDigit ∧
      (s ++ rest).dropWhile isDigit = s.dropWhile isDigit ++ rest := by
  induction s with
  | nil =>
    cases rest with
    | nil => exact ⟨rfl, rfl⟩
    | cons c rest =>
      have hc := h.not_digit (show c ∈ (c :: rest).head? from rfl)
      simp [hc]
  | cons c s ih =>
    rw [List.cons_append]
    cases hc : isDigit c <;> simp [hc, ih.1, ih.2]

lemma digits_append {s ds r rest : List UInt8} (h : digits s = some (ds, r)) (hrest : Ends rest) :
    digits (s ++ rest) = some (ds, r ++ rest) := by
  obtain ⟨htake, hdrop⟩ := takeWhile_append_ends (s := s) hrest
  rw [digits] at h ⊢
  rw [htake, hdrop]
  split_ifs at h ⊢
  cases h
  rfl

lemma integer_append {s ds r rest : List UInt8} (h : integer s = some (ds, r))
    (hrest : Ends rest) : integer (s ++ rest) = some (ds, r ++ rest) := by
  cases s with
  | nil => cases h
  | cons c s =>
    rw [integer.eq_def] at h
    split at h
    · next s' heq =>
      cases heq
      cases h
      rfl
    · next hc =>
      rw [List.cons_append, integer, ← List.cons_append]
      · exact digits_append h hrest
      · rintro t ht
        cases ht
        exact hc s rfl

lemma fraction_append {s ds r rest : List UInt8} (h : fraction s = some (ds, r))
    (hrest : Ends rest) : fraction (s ++ rest) = some (ds, r ++ rest) := by
  cases s with
  | nil =>
    cases h
    cases rest with
    | nil => rfl
    | cons c rest =>
      rcases hrest c rfl with rfl | rfl | rfl <;> rfl
  | cons c s =>
    rw [fraction.eq_def] at h ⊢
    split at h
    · next s' heq =>
      cases heq
      obtain ⟨⟨ds', r'⟩, hds, heq⟩ := Option.map_eq_some_iff.mp h
      cases heq
      simp only [List.cons_append, digits_append hds hrest, Option.map_some]
    · next hc =>
      cases h
      split
      · next s' heq =>
        cases heq
        exact absurd rfl (hc s)
      · rfl

lemma exponent_append {s ds r rest : List UInt8} (h : exponent s = some (ds, r))
    (hrest : Ends rest) : exponent (s ++ rest) = some (ds, r ++ rest) := by
  cases s with
  | nil =>
    cases h
    cases rest with
    | nil => rfl
    | cons c rest => rcases hrest c rfl with rfl | rfl | rfl <;> rfl
  | cons c s =>
    rw [exponent.eq_def] at h ⊢
    dsimp only [List.cons_append] at h ⊢
    split_ifs at h ⊢ with he
    · cases s with
      | nil => cases h
      | cons sign s =>
        dsimp only [List.cons_append] at h ⊢
        split_ifs at h ⊢ with hsign
        · obtain ⟨⟨ds', r'⟩, hds, heq⟩ := Option.map_eq_some_iff.mp h
          cases heq
          rw [digits_append hds hrest]
          rfl
        · obtain ⟨⟨ds', r'⟩, hds, heq⟩ := Option.map_eq_some_iff.mp h
          cases heq
          rw [← List.cons_append, digits_append hds hrest]
          rfl
    · cases h
      rfl

/-- A number after its sign. -/
def unsigned (sign s : List UInt8) : Option (Json × List UInt8) := do
  let (int, s) ← integer s
  let (frac, s) ← fraction s
  let (exp, s) ← exponent s
  some (.number (sign ++ int ++ frac ++ exp), s)

lemma parseNumber_eq (s : List UInt8) :
    parseNumber s = if s.head? = some 0x2D then unsigned [0x2D] s.tail else unsigned [] s := by
  rw [parseNumber]
  split_ifs <;> rfl

lemma unsigned_append {sign s r rest : List UInt8} {v : Json} (h : unsigned sign s = some (v, r))
    (hrest : Ends rest) : unsigned sign (s ++ rest) = some (v, r ++ rest) := by
  obtain ⟨⟨int, s₁⟩, hint, h⟩ := Option.bind_eq_some_iff.mp h
  obtain ⟨⟨frac, s₂⟩, hfrac, h⟩ := Option.bind_eq_some_iff.mp h
  obtain ⟨⟨exp, s₃⟩, hexp, h⟩ := Option.bind_eq_some_iff.mp h
  cases h
  rw [unsigned, integer_append hint hrest]
  simp only [Option.bind_eq_bind, Option.bind_some, fraction_append hfrac hrest,
    exponent_append hexp hrest]

/-- What follows a number makes no difference, unless the number may go on. -/
lemma parseNumber_append {s r rest : List UInt8} {v : Json} (h : parseNumber s = some (v, r))
    (hrest : Ends rest) : parseNumber (s ++ rest) = some (v, r ++ rest) := by
  cases s with
  | nil => cases h
  | cons c s =>
    rw [parseNumber_eq, List.head?_cons] at h
    rw [parseNumber_eq, List.cons_append, List.head?_cons]
    split_ifs at h ⊢
    · exact unsigned_append h hrest
    · exact unsigned_append h hrest

lemma integer_head {c : UInt8} {s r ds : List UInt8} (h : integer (c :: s) = some (ds, r)) :
    isDigit c = true := by
  rw [integer.eq_def] at h
  split at h
  · next heq =>
    cases heq
    rfl
  · rw [digits] at h
    split_ifs at h with hnil
    by_contra hc
    exact hnil (List.takeWhile_cons_of_neg hc)

/-- A number starts with its sign or a digit. -/
lemma parseNumber_head {c : UInt8} {s r : List UInt8} {v : Json}
    (h : parseNumber (c :: s) = some (v, r)) : c = 0x2D ∨ isDigit c = true := by
  rw [parseNumber_eq, List.head?_cons] at h
  split_ifs at h with hc
  · exact .inl (Option.some.inj hc)
  · obtain ⟨⟨int, s₁⟩, hint, -⟩ := Option.bind_eq_some_iff.mp h
    exact .inr (integer_head hint)

lemma number_start {c : UInt8} (hc : c = 0x2D ∨ isDigit c = true) :
    isWs c = false ∧ c ≠ 0x22 ∧ c ≠ 0x7B ∧ c ≠ 0x5B := by
  refine ⟨?_, ?_, ?_, ?_⟩
  · by_contra hws
    rw [Bool.not_eq_false, isWs, decide_eq_true_iff] at hws
    rcases hws with rfl | rfl | rfl | rfl <;> rcases hc with hc | hc <;> cases hc
  all_goals
    rintro rfl
    rcases hc with hc | hc <;> cases hc

lemma parseLiteral_of_number {c : UInt8} (hc : c = 0x2D ∨ isDigit c = true) (s : List UInt8) :
    parseLiteral (c :: s) = parseNumber (c :: s) := by
  rw [parseLiteral.eq_def]
  split
  · next heq =>
    cases heq
    rcases hc with hc | hc <;> cases hc
  · next heq =>
    cases heq
    rcases hc with hc | hc <;> cases hc
  · next heq =>
    cases heq
    rcases hc with hc | hc <;> cases hc
  · rfl

/-! ### Reading what was written -/

/-- A value that starts with none of the signs of the other kinds is a literal. -/
lemma parseValue_literal {c : UInt8} {s : List UInt8} (hws : isWs c = false) (hquote : c ≠ 0x22)
    (hbrace : c ≠ 0x7B) (hbracket : c ≠ 0x5B) (n : ℕ) :
    parseValue (n + 1) (c :: s) = parseLiteral (c :: s) := by
  rw [parseValue, skipWs_cons hws]
  split
  · next heq =>
    cases heq
    exact absurd rfl hquote
  · next heq =>
    cases heq
    exact absurd rfl hbrace
  · next heq =>
    cases heq
    exact absurd rfl hbracket
  · rfl

lemma parseValue_number {t rest : List UInt8} (ht : isNumber t = true) (hrest : Ends rest) (n : ℕ) :
    parseValue (n + 1) (t ++ rest) = some (.number t, rest) := by
  rw [isNumber] at ht
  split at ht
  · next t' h =>
    rw [beq_iff_eq] at ht
    subst ht
    cases t' with
    | nil => cases h
    | cons c s =>
      have hc := parseNumber_head h
      have happend := parseNumber_append h hrest
      rw [List.cons_append] at happend ⊢
      obtain ⟨hws, hquote, hbrace, hbracket⟩ := number_start hc
      rw [parseValue_literal hws hquote hbrace hbracket, parseLiteral_of_number hc, happend]
      rfl
  · cases ht

lemma parseValue_quoted (s rest : List UInt8) (n : ℕ) :
    parseValue (n + 1) (quoted s ++ rest) = some (.string s, rest) := by
  rw [quoted, quote, List.cons_append, List.cons_append, List.append_assoc, List.singleton_append,
    parseValue, skipWs_cons rfl]
  simp only [parseString_escape, Option.map_some]

lemma parseMembers_quoted (k : List UInt8) (s : List UInt8) (n : ℕ) :
    parseMembers (n + 1) (quoted k ++ 0x3A :: s) =
      match parseValue n s with
      | none            => none
      | some (value, s) =>
        match skipWs s with
        | 0x7D :: rest => some ([(k, value)], rest)
        | 0x2C :: s    => (parseMembers n s).map fun (ms, rest) => ((k, value) :: ms, rest)
        | _            => none := by
  rw [quoted, quote, List.cons_append, List.cons_append, List.append_assoc, List.singleton_append,
    parseMembers, skipWs_cons rfl]
  simp only [parseString_escape, skipWs_cons (c := 0x3A) rfl]
  all_goals rfl

/-- A comma, a brace and a bracket end a value. -/
lemma ends_cons {c : UInt8} (hc : c = 0x2C ∨ c = 0x7D ∨ c = 0x5D) (s : List UInt8) :
    Ends (c :: s) := by
  intro c' hc'
  cases hc'
  exact hc

lemma length_quoted_pos (s : List UInt8) : 0 < (quoted s).length := by
  rw [quoted, length_quote]
  omega

/-- The text of a value starts with what no closing bracket and no blank is. -/
lemma dump_head {j : Json} (h : j.writable = true) :
    ∃ c s, j.dump = c :: s ∧ isWs c = false ∧ c ≠ 0x5D := by
  cases j with
  | null => exact ⟨_, _, rfl, rfl, by decide⟩
  | bool b => cases b <;> exact ⟨_, _, rfl, rfl, by decide⟩
  | number t =>
    rw [writable, isNumber] at h
    split at h
    · next t' ht' =>
      rw [beq_iff_eq] at h
      subst h
      cases t' with
      | nil => cases ht'
      | cons c s =>
        have hc := parseNumber_head ht'
        refine ⟨c, s, rfl, (number_start hc).1, ?_⟩
        rintro rfl
        rcases hc with hc | hc <;> cases hc
    · cases h
  | string s => exact ⟨_, _, rfl, rfl, by decide⟩
  | array es => exact ⟨_, _, rfl, rfl, by decide⟩
  | object ms => exact ⟨_, _, rfl, rfl, by decide⟩

lemma dumpElems_head {e : Json} {es : List Json} (h : writableElems (e :: es) = true) :
    ∃ c s, dumpElems (e :: es) = c :: s ∧ isWs c = false ∧ c ≠ 0x5D := by
  rw [writableElems, Bool.and_eq_true] at h
  obtain ⟨c, s, heq, hc⟩ := dump_head h.1
  cases es with
  | nil => exact ⟨c, s ++ [0x5D], by rw [dumpElems, heq, List.cons_append], hc⟩
  | cons e' es =>
    exact ⟨c, s ++ 0x2C :: dumpElems (e' :: es), by rw [dumpElems, heq, List.cons_append], hc⟩

lemma dumpMembers_head (m : List UInt8 × Json) (ms : List (List UInt8 × Json)) :
    ∃ s, dumpMembers (m :: ms) = 0x22 :: s := by
  cases ms <;> exact ⟨_, rfl⟩

/-- An array that is not empty is read by its elements. -/
lemma parseValue_elems {e : Json} {es : List Json} (h : writableElems (e :: es) = true) (n : ℕ)
    (rest : List UInt8) :
    parseValue (n + 1) (0x5B :: (dumpElems (e :: es) ++ rest)) =
      (parseElems n (dumpElems (e :: es) ++ rest)).map fun p => (.array p.1, p.2) := by
  obtain ⟨c, s, heq, hws, hc⟩ := dumpElems_head h
  rw [parseValue, skipWs_cons rfl, heq, List.cons_append]
  simp only [skipWs_cons hws]
  split
  · next heq' =>
    cases heq'
    exact absurd rfl hc
  · rfl

/-- An object that is not empty is read by its members. -/
lemma parseValue_members (m : List UInt8 × Json) (ms : List (List UInt8 × Json)) (n : ℕ)
    (rest : List UInt8) :
    parseValue (n + 1) (0x7B :: (dumpMembers (m :: ms) ++ rest)) =
      (parseMembers n (dumpMembers (m :: ms) ++ rest)).map fun p => (.object p.1, p.2) := by
  obtain ⟨s, heq⟩ := dumpMembers_head m ms
  rw [parseValue, skipWs_cons rfl, heq, List.cons_append]
  simp only [skipWs_cons (c := 0x22) rfl]
  rfl

mutual

/-- The text of a value is read as the value. -/
theorem parseValue_dump : ∀ (j : Json), j.writable = true → ∀ {n : ℕ} {rest : List UInt8},
    Ends rest → j.dump.length < n → parseValue n (j.dump ++ rest) = some (j, rest)
  | .null, _, n + 1, rest, _, _                => by
    rw [dump, List.cons_append, parseValue_literal rfl (by decide) (by decide) (by decide)]
    rfl
  | .bool b, _, n + 1, rest, _, _              => by
    cases b <;>
    · rw [dump]
      simp only [Bool.false_eq_true, ↓reduceIte]
      rw [List.cons_append, parseValue_literal rfl (by decide) (by decide) (by decide)]
      rfl
  | .number t, h, n + 1, rest, hrest, _        => by
    rw [writable] at h
    exact parseValue_number h hrest n
  | .string s, _, n + 1, rest, _, _            => parseValue_quoted s rest n
  | .array [], _, n + 1, rest, _, _            => by
    rw [dump, dumpElems, List.cons_append, parseValue, skipWs_cons rfl]
    simp only [List.singleton_append, skipWs_cons (c := 0x5D) rfl]
  | .array (e :: es), h, n + 1, rest, _, hn    => by
    rw [writable] at h
    rw [dump, List.length_cons] at hn
    rw [dump, List.cons_append, parseValue_elems h,
      parseElems_dump (e :: es) h (List.cons_ne_nil e es) (Nat.lt_of_succ_lt_succ hn)]
    rfl
  | .object [], _, n + 1, rest, _, _           => by
    rw [dump, dumpMembers, List.cons_append, parseValue, skipWs_cons rfl]
    simp only [List.singleton_append, skipWs_cons (c := 0x7D) rfl]
  | .object (m :: ms), h, n + 1, rest, _, hn   => by
    rw [writable] at h
    rw [dump, List.length_cons] at hn
    rw [dump, List.cons_append, parseValue_members,
      parseMembers_dump (m :: ms) h (List.cons_ne_nil m ms) (Nat.lt_of_succ_lt_succ hn)]
    rfl

theorem parseElems_dump : ∀ (es : List Json), writableElems es = true → es ≠ [] →
    ∀ {n : ℕ} {rest : List UInt8}, (dumpElems es).length < n →
      parseElems n (dumpElems es ++ rest) = some (es, rest)
  | [], _, hne, _, _, _                    => absurd rfl hne
  | [e], h, _, n + 1, rest, hn             => by
    rw [writableElems, writableElems, Bool.and_true] at h
    rw [dumpElems, List.length_append, List.length_singleton] at hn
    rw [dumpElems, List.append_assoc, List.singleton_append, parseElems,
      parseValue_dump e h (ends_cons (by decide) rest) (Nat.lt_of_succ_lt_succ hn)]
    simp only [skipWs_cons (c := 0x5D) rfl]
  | e :: e' :: es, h, _, n + 1, rest, hn   => by
    rw [writableElems, Bool.and_eq_true] at h
    rw [dumpElems, List.length_append, List.length_cons] at hn
    rw [dumpElems, List.append_assoc, List.cons_append, parseElems,
      parseValue_dump e h.1 (ends_cons (by decide) _) (by omega)]
    simp only [skipWs_cons (c := 0x2C) rfl]
    rw [parseElems_dump (e' :: es) h.2 (List.cons_ne_nil e' es) (by omega)]
    rfl

theorem parseMembers_dump : ∀ (ms : List (List UInt8 × Json)), writableMembers ms = true →
    ms ≠ [] → ∀ {n : ℕ} {rest : List UInt8}, (dumpMembers ms).length < n →
      parseMembers n (dumpMembers ms ++ rest) = some (ms, rest)
  | [], _, hne, _, _, _                         => absurd rfl hne
  | [(k, v)], h, _, n + 1, rest, hn             => by
    rw [writableMembers, writableMembers, Bool.and_true, Bool.and_eq_true] at h
    have hk := length_quoted_pos k
    rw [dumpMembers, List.length_append, List.length_cons, List.length_append,
      List.length_singleton] at hn
    rw [dumpMembers, List.append_assoc, List.cons_append, List.append_assoc, List.singleton_append,
      parseMembers_quoted, parseValue_dump v h.2 (ends_cons (by decide) rest) (by omega)]
    simp only [skipWs_cons (c := 0x7D) rfl]
  | (k, v) :: m :: ms, h, _, n + 1, rest, hn    => by
    rw [writableMembers, Bool.and_eq_true, Bool.and_eq_true] at h
    have hk := length_quoted_pos k
    rw [dumpMembers, List.length_append, List.length_cons, List.length_append,
      List.length_cons] at hn
    rw [dumpMembers, List.append_assoc, List.cons_append, List.append_assoc, List.cons_append,
      parseMembers_quoted, parseValue_dump v h.1.2 (ends_cons (by decide) _) (by omega)]
    simp only [skipWs_cons (c := 0x2C) rfl]
    rw [parseMembers_dump (m :: ms) h.2 (List.cons_ne_nil m ms) (by omega)]
    rfl

end

/-! ### The texts are UTF-8 -/

lemma foldlM_ascii {l : List UInt8} (hne : l ≠ []) (h : ∀ c ∈ l, c < 0x80) (t : Utf8.State) :
    l.foldlM Utf8.step t = if t.rest = 0 then some Utf8.start else none := by
  induction l generalizing t with
  | nil => exact absurd rfl hne
  | cons c l ih =>
    obtain ⟨hc, hl⟩ := List.forall_mem_cons.mp h
    rw [List.foldlM_cons, Utf8.step_ascii hc]
    split_ifs
    · cases l with
      | nil => rfl
      | cons c' l => exact ih (List.cons_ne_nil c' l) hl Utf8.start
    · rfl

/-- An escape stands for its character, wherever that may stand. -/
lemma foldlM_escapeChar (c : UInt8) (t : Utf8.State) :
    (escapeChar c).foldlM Utf8.step t = Utf8.step t c := by
  rw [escapeChar]
  split_ifs with hquote hctl
  · have hc : c < 0x80 := by rcases hquote with rfl | rfl <;> decide
    rw [foldlM_ascii (List.cons_ne_nil _ _) (by simp [hc]), Utf8.step_ascii hc]
  · have hlt := toNat_lt_of_ctl hctl
    have hhigh := (hexLetter_spec (c.toNat / 16) (by omega)).2.2.1
    have hlow := (hexLetter_spec (c.toNat % 16) (by omega)).2.2.1
    rw [foldlM_ascii (List.cons_ne_nil _ _) (by simp [hhigh, hlow]),
      Utf8.step_ascii (UInt8.lt_trans hctl (by decide))]
  · rw [List.foldlM_cons]
    exact bind_pure _

lemma valid_escape (s : List UInt8) : Utf8.Valid (escape s) ↔ Utf8.Valid s := by
  have hfold : ∀ t, (escape s).foldlM Utf8.step t = s.foldlM Utf8.step t := by
    induction s with
    | nil => exact fun t => rfl
    | cons c s ih =>
      intro t
      rw [escape_cons, List.foldlM_append, foldlM_escapeChar, List.foldlM_cons]
      exact bind_congr ih
  rw [Utf8.Valid, Utf8.Valid, hfold]

lemma valid_of_ascii {s : List UInt8} (h : ∀ c ∈ s, c < 0x80) : Utf8.Valid s := by
  induction s with
  | nil => exact Utf8.valid_nil
  | cons c s ih =>
    obtain ⟨hc, hs⟩ := List.forall_mem_cons.mp h
    exact (Utf8.valid_cons_ascii hc).mpr (ih hs)

lemma ascii_of_isDigit {c : UInt8} (h : isDigit c = true) : c < 0x80 := by
  rw [isDigit, decide_eq_true_iff] at h
  exact UInt8.lt_of_le_of_lt h.2 (by decide)

lemma digits_ascii {s ds r : List UInt8} (h : digits s = some (ds, r)) : ∀ c ∈ ds, c < 0x80 := by
  rw [digits] at h
  split_ifs at h
  cases h
  exact fun c hc => ascii_of_isDigit (List.mem_takeWhile_imp hc)

lemma integer_ascii {s ds r : List UInt8} (h : integer s = some (ds, r)) :
    ∀ c ∈ ds, c < 0x80 := by
  rw [integer.eq_def] at h
  split at h
  · cases h
    exact List.forall_mem_singleton.mpr (by decide)
  · exact digits_ascii h

lemma fraction_ascii {s ds r : List UInt8} (h : fraction s = some (ds, r)) :
    ∀ c ∈ ds, c < 0x80 := by
  rw [fraction.eq_def] at h
  split at h
  · obtain ⟨⟨ds', r'⟩, hds, heq⟩ := Option.map_eq_some_iff.mp h
    cases heq
    exact List.forall_mem_cons.mpr ⟨by decide, digits_ascii hds⟩
  · cases h
    exact fun _ hc => absurd hc List.not_mem_nil

lemma exponent_ascii {s ds r : List UInt8} (h : exponent s = some (ds, r)) :
    ∀ c ∈ ds, c < 0x80 := by
  rw [exponent.eq_def] at h
  split at h
  · next c s =>
    split_ifs at h with hc
    · have hc' : c < 0x80 := by rcases hc with rfl | rfl <;> decide
      split at h
      · next sign s =>
        split_ifs at h with hsign
        · have hsign' : sign < 0x80 := by rcases hsign with rfl | rfl <;> decide
          obtain ⟨⟨ds', r'⟩, hds, heq⟩ := Option.map_eq_some_iff.mp h
          cases heq
          exact List.forall_mem_cons.mpr ⟨hc', List.forall_mem_cons.mpr ⟨hsign', digits_ascii hds⟩⟩
        · obtain ⟨⟨ds', r'⟩, hds, heq⟩ := Option.map_eq_some_iff.mp h
          cases heq
          exact List.forall_mem_cons.mpr ⟨hc', digits_ascii hds⟩
      · cases h
    · cases h
      exact fun _ hc => absurd hc List.not_mem_nil
  · cases h
    exact fun _ hc => absurd hc List.not_mem_nil

lemma unsigned_ascii {sign s r t : List UInt8} (hsign : ∀ c ∈ sign, c < 0x80)
    (h : unsigned sign s = some (.number t, r)) : ∀ c ∈ t, c < 0x80 := by
  obtain ⟨⟨int, s₁⟩, hint, h⟩ := Option.bind_eq_some_iff.mp h
  obtain ⟨⟨frac, s₂⟩, hfrac, h⟩ := Option.bind_eq_some_iff.mp h
  obtain ⟨⟨exp, s₃⟩, hexp, h⟩ := Option.bind_eq_some_iff.mp h
  cases h
  simp only [List.forall_mem_append]
  exact ⟨⟨⟨hsign, integer_ascii hint⟩, fraction_ascii hfrac⟩, exponent_ascii hexp⟩

lemma ascii_of_isNumber {t : List UInt8} (h : isNumber t = true) : ∀ c ∈ t, c < 0x80 := by
  rw [isNumber] at h
  split at h
  · next t' ht' =>
    rw [beq_iff_eq] at h
    subst h
    rw [parseNumber_eq] at ht'
    split_ifs at ht'
    · exact unsigned_ascii (List.forall_mem_singleton.mpr (by decide)) ht'
    · exact unsigned_ascii (List.forall_mem_nil _) ht'
  · cases h

lemma valid_quoted {s t : List UInt8} (hs : Utf8.Valid s) (ht : Utf8.Valid t) :
    Utf8.Valid (quoted s ++ t) :=
  valid_quote.mpr ⟨(valid_escape s).mpr hs, ht⟩

mutual

theorem valid_dump : ∀ (j : Json), j.writable = true → Utf8.Valid j.dump
  | .null, _        => by decide
  | .bool b, _      => by cases b <;> decide
  | .number t, h    => by
    rw [writable] at h
    exact valid_of_ascii (ascii_of_isNumber h)
  | .string s, h    => by
    rw [writable, decide_eq_true_iff] at h
    rw [dump, ← List.append_nil (quoted s)]
    exact valid_quoted h Utf8.valid_nil
  | .array es, h    => by
    rw [writable] at h
    exact (Utf8.valid_cons_ascii (by decide)).mpr (valid_dumpElems es h)
  | .object ms, h   => by
    rw [writable] at h
    exact (Utf8.valid_cons_ascii (by decide)).mpr (valid_dumpMembers ms h)

theorem valid_dumpElems : ∀ (es : List Json), writableElems es = true → Utf8.Valid (dumpElems es)
  | [], _            => by decide
  | [e], h           => by
    rw [writableElems, Bool.and_eq_true] at h
    exact (Utf8.valid_append_ascii (by decide)).mpr ⟨valid_dump e h.1, Utf8.valid_nil⟩
  | e :: e' :: es, h => by
    rw [writableElems, Bool.and_eq_true] at h
    exact (Utf8.valid_append_ascii (by decide)).mpr
      ⟨valid_dump e h.1, valid_dumpElems (e' :: es) h.2⟩

theorem valid_dumpMembers : ∀ (ms : List (List UInt8 × Json)), writableMembers ms = true →
    Utf8.Valid (dumpMembers ms)
  | [], _                 => by decide
  | [(k, v)], h           => by
    rw [writableMembers, Bool.and_eq_true, Bool.and_eq_true, decide_eq_true_iff] at h
    exact valid_quoted h.1.1 ((Utf8.valid_cons_ascii (by decide)).mpr
      ((Utf8.valid_append_ascii (by decide)).mpr ⟨valid_dump v h.1.2, Utf8.valid_nil⟩))
  | (k, v) :: m :: ms, h  => by
    rw [writableMembers, Bool.and_eq_true, Bool.and_eq_true, decide_eq_true_iff] at h
    exact valid_quoted h.1.1 ((Utf8.valid_cons_ascii (by decide)).mpr
      ((Utf8.valid_append_ascii (by decide)).mpr
        ⟨valid_dump v h.1.2, valid_dumpMembers (m :: ms) h.2⟩))

end

/-- What is in an object that can be written can be. -/
lemma writable_of_field {j v : Json} {key : List UInt8} (hj : j.writable = true)
    (h : j.field key = some v) : v.writable = true := by
  cases j with
  | object ms =>
    obtain ⟨m, hm, rfl⟩ := Option.map_eq_some_iff.mp h
    have hmem := List.mem_reverse.mp (List.mem_of_find?_eq_some hm)
    rw [writable] at hj
    clear h hm
    induction ms with
    | nil => cases hmem
    | cons m' ms ih =>
      rw [writableMembers, Bool.and_eq_true, Bool.and_eq_true] at hj
      rcases List.mem_cons.mp hmem with rfl | hmem
      · exact hj.1.2
      · exact ih hj.2 hmem
  | _ => cases h

/-- What is written is read back. -/
theorem parse_dump {j : Json} (h : j.writable = true) : parse j.dump = some j := by
  have hvalue := @parseValue_dump j h (j.dump.length + 1) [] nofun (Nat.lt_succ_self _)
  rw [List.append_nil] at hvalue
  rw [parse, if_pos (valid_dump j h), hvalue]
  rfl

theorem parse_dumped {j : Json} {text : List UInt8} (h : dumped j = some text) :
    parse text = some j := by
  rw [dumped] at h
  split_ifs at h with hj
  cases h
  exact parse_dump hj

end Json
