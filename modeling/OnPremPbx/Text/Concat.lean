import OnPremPbx.Text.Json
import Mathlib.Data.List.TakeWhile

/-!
# Objects written by concatenation

The text of an object of strings that is put together without escapes has the members that it was
put together from exactly if no string has a character that JSON would escape: a string that is read
is never longer than its text, and as long as it only where the text has no escape.
-/

namespace Json

/-! ### The length of a string and of its text -/

/-- Nothing in the string has to be escaped. -/
def Clean (s : List UInt8) : Prop := ∀ c ∈ s, 0x20 ≤ c ∧ c ≠ 0x22 ∧ c ≠ 0x5C

instance (s : List UInt8) : Decidable (Clean s) := inferInstanceAs (Decidable (∀ c ∈ s, _))

/-- The string can stand in a JSON text as it is. -/
def Plain (s : List UInt8) : Prop := Clean s ∧ Utf8.Valid s

instance (s : List UInt8) : Decidable (Plain s) := inferInstanceAs (Decidable (_ ∧ _))

/-- A string of printable ASCII characters without quotes and backslashes. -/
lemma plain_of_ascii {s : List UInt8}
    (h : ∀ c ∈ s, (0x20 ≤ c ∧ c ≠ 0x22 ∧ c ≠ 0x5C) ∧ c < 0x80) : Plain s := by
  induction s with
  | nil => exact ⟨nofun, Utf8.valid_nil⟩
  | cons c s ih =>
    obtain ⟨hc, hs⟩ := List.forall_mem_cons.mp h
    obtain ⟨hclean, hvalid⟩ := ih hs
    exact ⟨List.forall_mem_cons.mpr ⟨hc.1, hclean⟩, (Utf8.valid_cons_ascii hc.2).mpr hvalid⟩

lemma scan_spec {s raw rest : List UInt8} (h : scan s = some (raw, rest)) :
    s = raw ++ 0x22 :: rest := by
  fun_induction scan s generalizing raw with
  | case1 => cases h
  | case2 s =>
    cases h
    rfl
  | case3 c s ih =>
    obtain ⟨⟨raw', rest'⟩, hscan, heq⟩ := Option.map_eq_some_iff.mp h
    cases heq
    rw [ih hscan]
    rfl
  | case4 c s hquote hescape ih =>
    obtain ⟨⟨raw', rest'⟩, hscan, heq⟩ := Option.map_eq_some_iff.mp h
    cases heq
    rw [ih hscan]
    rfl

/-- Without an escape the string goes to the first quote. -/
lemma quote_not_mem {s raw rest : List UInt8} (h : scan s = some (raw, rest))
    (hraw : 0x5C ∉ raw) : 0x22 ∉ raw := by
  fun_induction scan s generalizing raw with
  | case1 => cases h
  | case2 s =>
    cases h
    exact List.not_mem_nil
  | case3 c s ih =>
    obtain ⟨⟨raw', rest'⟩, -, heq⟩ := Option.map_eq_some_iff.mp h
    cases heq
    exact absurd List.mem_cons_self hraw
  | case4 c s hquote hescape ih =>
    obtain ⟨⟨raw', rest'⟩, hscan, heq⟩ := Option.map_eq_some_iff.mp h
    cases heq
    rw [List.mem_cons, not_or] at hraw ⊢
    exact ⟨fun hc => hquote hc.symm, ih hscan hraw.2⟩

lemma length_encode_le (n : ℕ) : (Utf8.encode n).length ≤ 4 := by
  rw [Utf8.encode]
  split_ifs <;> simp

/-- An escape is longer than the character it stands for. -/
lemma shorter_of_escape (esc bytes : List UInt8) {raw v : List UInt8} {o : Option (List UInt8)}
    (h : o.map (bytes ++ ·) = some v) (ih : ∀ v', o = some v' → v'.length ≤ raw.length)
    (hlt : bytes.length < esc.length) : v.length < (esc ++ raw).length := by
  obtain ⟨v', hv', rfl⟩ := Option.map_eq_some_iff.mp h
  have := ih v' hv'
  rw [List.length_append, List.length_append]
  omega

lemma length_encode_lt {n : ℕ} : (Utf8.encode n).length < 6 :=
  lt_of_le_of_lt (length_encode_le n) (by decide)

/-- The value is as long as its text only if the text has no escape. -/
lemma unescape_length {raw v : List UInt8} (h : unescape raw = some v) :
    v.length ≤ raw.length ∧
      (v.length = raw.length → raw = v ∧ ∀ c ∈ v, 0x20 ≤ c ∧ c ≠ 0x5C) := by
  have shorter : ∀ {raw v : List UInt8}, v.length < raw.length → v.length ≤ raw.length ∧
      (v.length = raw.length → raw = v ∧ ∀ c ∈ v, 0x20 ≤ c ∧ c ≠ 0x5C) := fun hlt =>
    ⟨hlt.le, fun heq => absurd heq hlt.ne⟩
  fun_induction unescape raw generalizing v with
  | case1 =>
    cases h
    exact ⟨le_rfl, fun _ => ⟨rfl, fun c hc => absurd hc List.not_mem_nil⟩⟩
  | case2 => cases h
  | case3 => cases h
  | case4 a b c d n _ _ a' b' c' d' s _ _ _ ih =>
    exact shorter (shorter_of_escape [0x5C, 0x75, a, b, c, d, 0x5C, 0x75, a', b', c', d'] _
      h (fun v' hv' => (ih hv').1) (lt_trans length_encode_lt (by decide : 6 < 12)))
  | case5 => cases h
  | case6 => cases h
  | case7 => cases h
  | case8 a b c d s n _ _ _ ih =>
    exact shorter (shorter_of_escape [0x5C, 0x75, a, b, c, d] _ h
      (fun v' hv' => (ih hv').1) length_encode_lt)
  | case9 => cases h
  | case10 c s _ c' _ ih =>
    exact shorter (shorter_of_escape [0x5C, c] [c'] h
      (fun v' hv' => (ih hv').1) (by decide : 1 < 2))
  | case11 => cases h
  | case12 c s _ _ hc ih =>
    obtain ⟨v', hv', rfl⟩ := Option.map_eq_some_iff.mp h
    obtain ⟨hle, heq⟩ := ih hv'
    rw [not_or, UInt8.not_lt] at hc
    refine ⟨Nat.succ_le_succ hle, fun hlen => ?_⟩
    obtain ⟨rfl, hclean⟩ := heq (Nat.succ.inj hlen)
    exact ⟨rfl, List.forall_mem_cons.mpr ⟨hc, hclean⟩⟩

lemma parseString_length {s v rest : List UInt8} (h : parseString s = some (v, rest)) :
    v.length + 1 + rest.length ≤ s.length ∧ (v.length + 1 + rest.length = s.length → Clean v) := by
  obtain ⟨⟨raw, rest'⟩, hscan, hmap⟩ := Option.bind_eq_some_iff.mp h
  obtain ⟨v', hv', heq⟩ := Option.map_eq_some_iff.mp hmap
  cases heq
  obtain ⟨hle, hclean⟩ := unescape_length hv'
  have hlen := congrArg List.length (scan_spec hscan)
  rw [List.length_append, List.length_cons] at hlen
  refine ⟨by omega, fun heq => ?_⟩
  obtain ⟨rfl, hchars⟩ := hclean (by omega)
  have hquote := quote_not_mem hscan fun hmem => (hchars _ hmem).2 rfl
  exact fun c hc => ⟨(hchars c hc).1, fun h => hquote (h ▸ hc), (hchars c hc).2⟩

/-! ### The length of an object and of its text -/

lemma length_skipWs_le (s : List UInt8) : (skipWs s).length ≤ s.length :=
  List.length_dropWhile_le _ _

/-- The least length of the text of a value: what a string has without escapes. -/
def weight : Json → ℕ
  | .string s => s.length + 2
  | _         => 0

/-- The least length of a member and the character after it. -/
def memberWeight (m : List UInt8 × Json) : ℕ := m.1.length + 4 + m.2.weight

/-- The name, and the value if it is a string, stand in the text as they are. -/
def CleanMember (m : List UInt8 × Json) : Prop := Clean m.1 ∧ ∀ s, m.2 = .string s → Clean s

/-- What is left is not longer than what was read. -/
def Leaves {α : Type} (s : List UInt8) (r : Option (α × List UInt8)) : Prop :=
  ∀ a rest, r = some (a, rest) → rest.length ≤ s.length

lemma digits_leaves (s : List UInt8) : Leaves s (digits s) := by
  intro ds rest h
  rw [digits] at h
  split_ifs at h
  cases h
  exact List.length_dropWhile_le _ _

lemma integer_leaves (s : List UInt8) : Leaves s (integer s) := by
  intro ds rest h
  unfold integer at h
  split at h
  · cases h
    simp
  · exact digits_leaves _ ds rest h

lemma fraction_leaves (s : List UInt8) : Leaves s (fraction s) := by
  intro ds rest h
  unfold fraction at h
  split at h
  · obtain ⟨⟨ds', rest'⟩, hds, heq⟩ := Option.map_eq_some_iff.mp h
    cases heq
    exact Nat.le_succ_of_le (digits_leaves _ ds' rest hds)
  · cases h
    simp

lemma exponent_leaves (s : List UInt8) : Leaves s (exponent s) := by
  intro ds rest h
  unfold exponent at h
  split at h
  · split_ifs at h
    · split at h
      · split_ifs at h <;>
          obtain ⟨⟨ds', rest'⟩, hds, heq⟩ := Option.map_eq_some_iff.mp h <;> cases heq
        · exact Nat.le_succ_of_le (Nat.le_succ_of_le (digits_leaves _ ds' rest hds))
        · exact Nat.le_succ_of_le (digits_leaves _ ds' rest hds)
      · cases h
    · cases h
      simp
  · cases h
    simp

lemma parseNumber_leaves {s : List UInt8} {v : Json} {rest : List UInt8}
    (h : parseNumber s = some (v, rest)) :
    rest.length ≤ s.length ∧ ∀ t, v ≠ .string t := by
  simp only [parseNumber, Option.bind_eq_bind, Option.bind_eq_some_iff] at h
  obtain ⟨⟨int, s₁⟩, hint, ⟨frac, s₂⟩, hfrac, ⟨exp, s₃⟩, hexp, heq⟩ := h
  cases heq
  have h₁ := integer_leaves _ int s₁ hint
  have h₂ := fraction_leaves _ frac s₂ hfrac
  have h₃ := exponent_leaves _ exp s₃ hexp
  have htail : (if s.head? = some 0x2D then ([(0x2D : UInt8)], s.tail) else ([], s)).2.length ≤
      s.length := by
    split_ifs
    · exact (List.length_tail (l := s)).trans_le (Nat.sub_le _ _)
    · exact le_rfl
  exact ⟨((h₃.trans h₂).trans h₁).trans htail, by simp⟩

lemma parseLiteral_leaves {s : List UInt8} {v : Json} {rest : List UInt8}
    (h : parseLiteral s = some (v, rest)) : rest.length ≤ s.length ∧ ∀ t, v ≠ .string t := by
  unfold parseLiteral at h
  split at h
  · cases h
    exact ⟨by simp only [List.length_cons]; omega, by simp⟩
  · cases h
    exact ⟨by simp only [List.length_cons]; omega, by simp⟩
  · cases h
    exact ⟨by simp only [List.length_cons]; omega, by simp⟩
  · exact parseNumber_leaves h

/-- A value is at least as long as its least text, and just as long only where its strings have no
escapes. -/
structure ValueLength (s : List UInt8) (v : Json) (rest : List UInt8) : Prop where
  le : v.weight + rest.length ≤ s.length
  clean : v.weight + rest.length = s.length → ∀ t, v = .string t → Clean t

structure MembersLength (s : List UInt8) (ms : List (List UInt8 × Json)) (rest : List UInt8) :
    Prop where
  le : (ms.map memberWeight).sum + rest.length ≤ s.length
  clean : (ms.map memberWeight).sum + rest.length = s.length → ∀ m ∈ ms, CleanMember m

lemma ValueLength.of_weight {s : List UInt8} {v : Json} {rest : List UInt8}
    (hle : rest.length ≤ s.length) (hv : ∀ t, v ≠ .string t) : ValueLength s v rest := by
  have hweight : v.weight = 0 := by
    cases v with
    | string t => exact absurd rfl (hv t)
    | _ => rfl
  exact ⟨by rw [hweight, Nat.zero_add]; exact hle, fun _ t ht => absurd ht (hv t)⟩

theorem parse_length (n : ℕ) :
    (∀ s v rest, parseValue n s = some (v, rest) → ValueLength s v rest) ∧
    (∀ s ms rest, parseMembers n s = some (ms, rest) → MembersLength s ms rest) ∧
    (∀ s es rest, parseElems n s = some (es, rest) → rest.length ≤ s.length) := by
  induction n with
  | zero =>
    refine ⟨fun s v rest h => ?_, fun s ms rest h => ?_, fun s es rest h => ?_⟩
    · rw [parseValue] at h
      cases h
    · rw [parseMembers] at h
      cases h
    · rw [parseElems] at h
      cases h
  | succ n ih =>
    obtain ⟨ihv, ihm, ihe⟩ := ih
    refine ⟨fun s v rest h => ?_, fun s ms rest h => ?_, fun s es rest h => ?_⟩
    · have hws := length_skipWs_le s
      rw [parseValue] at h
      split at h
      next s₁ hs₁ =>
        rw [hs₁, List.length_cons] at hws
        obtain ⟨⟨t, rest'⟩, ht, heq⟩ := Option.map_eq_some_iff.mp h
        cases heq
        obtain ⟨hle, hclean⟩ := parseString_length ht
        refine ⟨by rw [weight]; omega, fun heq t' ht' => ?_⟩
        cases ht'
        exact hclean (by rw [weight] at heq; omega)
      next s₁ hs₁ =>
        have hws₁ := length_skipWs_le s₁
        rw [hs₁, List.length_cons] at hws
        split at h
        next rest' hs₂ =>
          cases h
          rw [hs₂, List.length_cons] at hws₁
          exact .of_weight (by omega) (by simp)
        next s₂ _ =>
          obtain ⟨⟨ms, rest'⟩, hms, heq⟩ := Option.map_eq_some_iff.mp h
          cases heq
          have := (ihm _ _ _ hms).le
          exact .of_weight (by omega) (by simp)
      next s₁ hs₁ =>
        have hws₁ := length_skipWs_le s₁
        rw [hs₁, List.length_cons] at hws
        split at h
        next rest' hs₂ =>
          cases h
          rw [hs₂, List.length_cons] at hws₁
          exact .of_weight (by omega) (by simp)
        next s₂ _ =>
          obtain ⟨⟨es, rest'⟩, hes, heq⟩ := Option.map_eq_some_iff.mp h
          cases heq
          have := ihe _ _ _ hes
          exact .of_weight (by omega) (by simp)
      next s₁ _ _ _ =>
        obtain ⟨hle, hv⟩ := parseLiteral_leaves h
        exact .of_weight (hle.trans hws) hv
    · have hws := length_skipWs_le s
      rw [parseMembers] at h
      split at h
      next s₁ hs₁ =>
        rw [hs₁, List.length_cons] at hws
        split at h
        · cases h
        next key s₂ hkey =>
          obtain ⟨hkle, hkclean⟩ := parseString_length hkey
          have hws₂ := length_skipWs_le s₂
          split at h
          next s₃ hs₃ =>
            rw [hs₃, List.length_cons] at hws₂
            split at h
            · cases h
            next value s₄ hvalue =>
              obtain ⟨hvle, hvclean⟩ := ihv _ _ _ hvalue
              have hws₄ := length_skipWs_le s₄
              split at h
              next rest' hs₅ =>
                cases h
                rw [hs₅, List.length_cons] at hws₄
                refine ⟨by simp only [List.map_cons, List.map_nil, List.sum_cons, List.sum_nil,
                  memberWeight]; omega, fun heq m hm => ?_⟩
                simp only [List.map_cons, List.map_nil, List.sum_cons, List.sum_nil,
                  memberWeight] at heq
                rw [List.mem_singleton.mp hm]
                exact ⟨hkclean (by omega), hvclean (by omega)⟩
              next s₅ hs₅ =>
                obtain ⟨⟨ms', rest'⟩, hms, heq⟩ := Option.map_eq_some_iff.mp h
                cases heq
                rw [hs₅, List.length_cons] at hws₄
                obtain ⟨hmle, hmclean⟩ := ihm _ _ _ hms
                refine ⟨by simp only [List.map_cons, List.sum_cons, memberWeight]; omega,
                  fun heq m hm => ?_⟩
                simp only [List.map_cons, List.sum_cons, memberWeight] at heq
                rcases List.mem_cons.mp hm with rfl | hm
                · exact ⟨hkclean (by omega), hvclean (by omega)⟩
                · exact hmclean (by omega) m hm
              next => cases h
          next => cases h
      next => cases h
    · rw [parseElems] at h
      split at h
      · cases h
      next value s₁ hvalue =>
        have hvle := (ihv _ _ _ hvalue).le
        have hws₁ := length_skipWs_le s₁
        split at h
        next rest' hs₂ =>
          cases h
          rw [hs₂, List.length_cons] at hws₁
          omega
        next s₂ hs₂ =>
          obtain ⟨⟨es', rest'⟩, hes, heq⟩ := Option.map_eq_some_iff.mp h
          cases heq
          rw [hs₂, List.length_cons] at hws₁
          have := ihe _ _ _ hes
          omega
        next => cases h

/-! ### Writing without escapes -/

/-- The text as a string, with nothing escaped. -/
def quote (s : List UInt8) : List UInt8 := 0x22 :: s ++ [0x22]

/-- One member, with nothing escaped. -/
def memberText (m : List UInt8 × List UInt8) : List UInt8 := quote m.1 ++ 0x3A :: quote m.2

/-- The members and the brace after them. -/
def membersText : List (List UInt8 × List UInt8) → List UInt8
  | []           => [0x7D]
  | [m]          => memberText m ++ [0x7D]
  | m :: m' :: ms => memberText m ++ 0x2C :: membersText (m' :: ms)

/-- An object of strings, with nothing escaped. -/
def concatText (ms : List (List UInt8 × List UInt8)) : List UInt8 := 0x7B :: membersText ms

/-- The members as values. -/
def strings (ms : List (List UInt8 × List UInt8)) : List (List UInt8 × Json) :=
  ms.map fun m => (m.1, .string m.2)

lemma length_quote (s : List UInt8) : (quote s).length = s.length + 2 := by
  simp [quote]

lemma length_membersText {ms : List (List UInt8 × List UInt8)} (hms : ms ≠ []) :
    (membersText ms).length = ((strings ms).map memberWeight).sum := by
  have hmember : ∀ m : List UInt8 × List UInt8,
      (memberText m).length + 1 = memberWeight (m.1, .string m.2) := by
    intro m
    simp only [memberText, List.length_append, List.length_cons, length_quote, memberWeight, weight]
    omega
  fun_induction membersText ms with
  | case1 => exact absurd rfl hms
  | case2 m =>
    rw [List.length_append, List.length_singleton, hmember]
    rfl
  | case3 m m' ms ih =>
    rw [List.length_append, List.length_cons, ih (List.cons_ne_nil _ _), ← Nat.succ_add_eq_add_succ,
      Nat.succ_eq_add_one, hmember]
    rfl

lemma valid_quote {s t : List UInt8} :
    Utf8.Valid (quote s ++ t) ↔ Utf8.Valid s ∧ Utf8.Valid t := by
  rw [quote, List.cons_append, List.cons_append, List.append_assoc,
    Utf8.valid_cons_ascii (by decide), List.singleton_append,
    Utf8.valid_append_ascii (by decide)]

lemma valid_memberText {m : List UInt8 × List UInt8} {t : List UInt8} :
    Utf8.Valid (memberText m ++ t) ↔ (Utf8.Valid m.1 ∧ Utf8.Valid m.2) ∧ Utf8.Valid t := by
  rw [memberText, List.append_assoc, valid_quote, List.cons_append,
    Utf8.valid_cons_ascii (by decide), valid_quote, and_assoc]

lemma valid_membersText (ms : List (List UInt8 × List UInt8)) :
    Utf8.Valid (membersText ms) ↔ ∀ m ∈ ms, Utf8.Valid m.1 ∧ Utf8.Valid m.2 := by
  fun_induction membersText ms with
  | case1 => exact iff_of_true (by decide) (by simp)
  | case2 m =>
    rw [valid_memberText, List.forall_mem_singleton]
    exact and_iff_left (by decide)
  | case3 m m' ms ih =>
    rw [valid_memberText, Utf8.valid_cons_ascii (by decide), ih]
    simp only [List.forall_mem_cons]

lemma valid_concatText (ms : List (List UInt8 × List UInt8)) :
    Utf8.Valid (concatText ms) ↔ ∀ m ∈ ms, Utf8.Valid m.1 ∧ Utf8.Valid m.2 := by
  rw [concatText, Utf8.valid_cons_ascii (by decide), valid_membersText]

/-! ### Reading what was written -/

lemma scan_clean {v : List UInt8} (hv : Clean v) (rest : List UInt8) :
    scan (v ++ 0x22 :: rest) = some (v, rest) := by
  induction v with
  | nil => rw [List.nil_append, scan]
  | cons c v ih =>
    obtain ⟨⟨-, hquote, hescape⟩, hv⟩ := List.forall_mem_cons.mp hv
    rw [List.cons_append, scan, ih hv, Option.map_some]
    · exact hquote
    · exact fun _ _ h => absurd h hescape

lemma unescape_clean {v : List UInt8} (hv : Clean v) : unescape v = some v := by
  induction v with
  | nil => rw [unescape]
  | cons c v ih =>
    obtain ⟨⟨hctl, -, hescape⟩, hv⟩ := List.forall_mem_cons.mp hv
    rw [unescape, if_neg, ih hv, Option.map_some]
    · rw [not_or]
      exact ⟨UInt8.not_lt.mpr hctl, hescape⟩
    · exact fun _ _ _ _ _ h => absurd h hescape
    · exact fun _ _ h => absurd h hescape

lemma parseString_clean {v : List UInt8} (hv : Clean v) (rest : List UInt8) :
    parseString (v ++ 0x22 :: rest) = some (v, rest) := by
  simp only [parseString, scan_clean hv, Option.bind_some, unescape_clean hv, Option.map_some]

lemma skipWs_cons {c : UInt8} (hc : isWs c = false) (s : List UInt8) :
    skipWs (c :: s) = c :: s := by
  rw [skipWs, List.dropWhile_cons_of_neg (by rw [hc]; exact Bool.false_ne_true)]

lemma parseValue_quote {v : List UInt8} (hv : Clean v) (n : ℕ) (t : List UInt8) :
    parseValue (n + 1) (quote v ++ t) = some (.string v, t) := by
  rw [quote, List.cons_append, List.cons_append, List.append_assoc, List.singleton_append,
    parseValue, skipWs_cons rfl]
  simp only [parseString_clean hv, Option.map_some]

/-- A member is read as it was written; the character after it says whether more follow. -/
lemma parseMembers_memberText {m : List UInt8 × List UInt8} (hm : Clean m.1 ∧ Clean m.2) (n : ℕ)
    (t : List UInt8) :
    parseMembers (n + 2) (memberText m ++ t) =
      match skipWs t with
      | 0x7D :: rest => some ([(m.1, .string m.2)], rest)
      | 0x2C :: s    =>
        (parseMembers (n + 1) s).map fun (ms, rest) => ((m.1, .string m.2) :: ms, rest)
      | _            => none := by
  rw [memberText, quote, List.append_assoc, List.cons_append, List.cons_append, List.cons_append,
    List.append_assoc, List.singleton_append, parseMembers, skipWs_cons rfl]
  simp only [parseString_clean hm.1, skipWs_cons (c := 0x3A) rfl, parseValue_quote hm.2] <;> rfl

lemma parseMembers_membersText {ms : List (List UInt8 × List UInt8)} (hms : ms ≠ [])
    (hclean : ∀ m ∈ ms, Clean m.1 ∧ Clean m.2) {n : ℕ} (hn : ms.length < n) (t : List UInt8) :
    parseMembers n (membersText ms ++ t) = some (strings ms, t) := by
  fun_induction membersText ms generalizing n with
  | case1 => exact absurd rfl hms
  | case2 m =>
    obtain ⟨k, rfl⟩ := Nat.exists_eq_add_of_le' (show 2 ≤ n from hn)
    rw [List.append_assoc, parseMembers_memberText (hclean m List.mem_cons_self),
      List.singleton_append, skipWs_cons rfl]
    rfl
  | case3 m m' ms ih =>
    obtain ⟨k, rfl⟩ := Nat.exists_eq_add_of_le' (show 2 ≤ n by grind)
    obtain ⟨hm, hms⟩ := List.forall_mem_cons.mp hclean
    rw [List.append_assoc, parseMembers_memberText hm, List.cons_append, skipWs_cons rfl]
    simp only [ih (List.cons_ne_nil _ _) hms (Nat.lt_of_succ_lt_succ hn), Option.map_some]
    rfl

lemma membersText_eq_cons {ms : List (List UInt8 × List UInt8)} (hms : ms ≠ []) :
    ∃ t, membersText ms = 0x22 :: t := by
  cases ms with
  | nil => exact absurd rfl hms
  | cons m ms => cases ms with
    | nil => exact ⟨_, rfl⟩
    | cons m' ms => exact ⟨_, rfl⟩

lemma parseValue_concatText {ms : List (List UInt8 × List UInt8)} (hms : ms ≠ []) (n : ℕ)
    (t : List UInt8) :
    parseValue (n + 1) (concatText ms ++ t) =
      (parseMembers n (membersText ms ++ t)).map
        fun (members, rest) => (.object members, rest) := by
  obtain ⟨u, hu⟩ := membersText_eq_cons hms
  rw [concatText, List.cons_append, parseValue, skipWs_cons rfl, hu, List.cons_append]
  simp only [skipWs_cons (c := 0x22) rfl]
  rfl

lemma length_lt_concatText {ms : List (List UInt8 × List UInt8)} (hms : ms ≠ []) :
    ms.length < (concatText ms).length := by
  rw [concatText, List.length_cons, length_membersText hms, Nat.lt_succ_iff, strings, List.map_map]
  refine (le_of_eq ?_).trans (List.length_le_sum_of_one_le _ ?_)
  · rw [List.length_map]
  · rintro w hw
    obtain ⟨m, -, rfl⟩ := List.mem_map.mp hw
    simp only [Function.comp_apply, memberWeight]
    omega

/-- A text that is read as the members, in any order, needs no escapes. -/
lemma plain_of_parse_concatText {ms : List (List UInt8 × List UInt8)} (hms : ms ≠ [])
    {ms' : List (List UInt8 × Json)} (h : parse (concatText ms) = some (.object ms'))
    (hperm : ms'.Perm (strings ms)) : ∀ m ∈ ms, Plain m.1 ∧ Plain m.2 := by
  have hvalue := parseValue_concatText hms (concatText ms).length []
  rw [List.append_nil, List.append_nil] at hvalue
  rw [parse, hvalue] at h
  split_ifs at h with hvalid
  split at h
  · cases h
  next value rest hread =>
    split_ifs at h
    cases h
    obtain ⟨⟨ms'', rest'⟩, hmembers, heq⟩ := Option.map_eq_some_iff.mp hread
    cases heq
    obtain ⟨hle, hclean⟩ := (parse_length _).2.1 _ _ _ hmembers
    rw [length_membersText hms, (hperm.map memberWeight).sum_eq] at hle hclean
    have hplain := hclean (by omega)
    rw [valid_concatText] at hvalid
    intro m hm
    obtain ⟨hkey, hval⟩ := hplain _ (hperm.mem_iff.mpr (List.mem_map_of_mem hm))
    exact ⟨⟨hkey, (hvalid m hm).1⟩, hval _ rfl, (hvalid m hm).2⟩

lemma parse_concatText_of_plain {ms : List (List UInt8 × List UInt8)} (hms : ms ≠ [])
    (hplain : ∀ m ∈ ms, Plain m.1 ∧ Plain m.2) :
    parse (concatText ms) = some (.object (strings ms)) := by
  have hvalue := parseValue_concatText hms (concatText ms).length []
  rw [List.append_nil, List.append_nil] at hvalue
  have hmembers := parseMembers_membersText hms (fun m hm => ⟨(hplain m hm).1.1, (hplain m hm).2.1⟩)
    (length_lt_concatText hms) []
  rw [List.append_nil] at hmembers
  rw [parse, if_pos ((valid_concatText ms).mpr fun m hm => ⟨(hplain m hm).1.2, (hplain m hm).2.2⟩),
    hvalue, hmembers]
  rfl

lemma parseValue_string (n : ℕ) (s : List UInt8) :
    parseValue (n + 1) (0x22 :: s) = (parseString s).map fun r => (.string r.1, r.2) := by
  rw [parseValue, skipWs_cons rfl]
  rfl

/-- The first member of a text. -/
lemma parse_first {name text : List UInt8}
    {ms : List (List UInt8 × Json)} (hname : Clean name)
    (h : parse (0x7B :: (quote name ++ 0x3A :: 0x22 :: text)) = some (.object ms)) :
    ∃ s rest ms', parseString text = some (s, rest) ∧ ms = (name, .string s) :: ms' := by
  rw [parse] at h
  split_ifs at h with hvalid
  split at h
  · cases h
  next value rest hvalue =>
    split_ifs at h
    cases h
    have hquote : ∃ t, quote name ++ 0x3A :: 0x22 :: text = 0x22 :: t ∧
        t = name ++ 0x22 :: 0x3A :: 0x22 :: text := ⟨_, by simp [quote], rfl⟩
    obtain ⟨t, ht, rfl⟩ := hquote
    rw [ht, parseValue, skipWs_cons rfl] at hvalue
    simp only [skipWs_cons (c := 0x22) rfl] at hvalue
    obtain ⟨⟨members, rest'⟩, hmembers, heq⟩ := Option.map_eq_some_iff.mp hvalue
    cases heq
    obtain ⟨n, hn⟩ : ∃ n, (0x7B :: 0x22 :: (name ++ 0x22 :: 0x3A :: 0x22 :: text)).length = n + 2 :=
      ⟨_, rfl⟩
    rw [hn, parseMembers, skipWs_cons rfl] at hmembers
    simp only [parseString_clean hname, skipWs_cons (c := 0x3A) rfl] at hmembers
    rw [parseValue_string] at hmembers
    cases hstring : parseString text with
    | none =>
      rw [hstring] at hmembers
      cases hmembers
    | some r =>
      obtain ⟨s, rest''⟩ := r
      rw [hstring] at hmembers
      simp only [Option.map_some] at hmembers
      split at hmembers
      · cases hmembers
        exact ⟨s, rest'', [], rfl, rfl⟩
      · obtain ⟨⟨ms', rest₃⟩, -, heq⟩ := Option.map_eq_some_iff.mp hmembers
        cases heq
        exact ⟨s, rest'', ms', rfl, rfl⟩
      · cases hmembers

/-- The text is an object with exactly these strings as members. -/
def Reads (s : List UInt8) (ms : List (List UInt8 × List UInt8)) : Prop :=
  ∃ ms', parse s = some (.object ms') ∧ ms'.Perm (strings ms)

/-- The object without escapes is read back exactly if none is needed. -/
theorem reads_concatText {ms : List (List UInt8 × List UInt8)} (hms : ms ≠ []) :
    Reads (concatText ms) ms ↔ ∀ m ∈ ms, Plain m.1 ∧ Plain m.2 :=
  ⟨fun ⟨_, hparse, hperm⟩ => plain_of_parse_concatText hms hparse hperm,
    fun hplain => ⟨_, parse_concatText_of_plain hms hplain, .refl _⟩⟩

/-! ### Arrays of such objects -/

/-- The objects and the bracket after them. -/
def elemsText : List (List (List UInt8 × List UInt8)) → List UInt8
  | []             => [0x5D]
  | [ms]           => concatText ms ++ [0x5D]
  | ms :: ms' :: es => concatText ms ++ 0x2C :: elemsText (ms' :: es)

def arrayText (es : List (List (List UInt8 × List UInt8))) : List UInt8 := 0x5B :: elemsText es

lemma valid_elemsText {es : List (List (List UInt8 × List UInt8))}
    (h : ∀ ms ∈ es, ∀ m ∈ ms, Plain m.1 ∧ Plain m.2) : Utf8.Valid (elemsText es) := by
  have hvalid : ∀ ms ∈ es, Utf8.Valid (concatText ms) := fun ms hms =>
    (valid_concatText ms).mpr fun m hm => ⟨(h ms hms m hm).1.2, (h ms hms m hm).2.2⟩
  clear h
  fun_induction elemsText es with
  | case1 => decide
  | case2 ms =>
    exact (Utf8.valid_append_ascii (by decide)).mpr ⟨hvalid ms List.mem_cons_self, Utf8.valid_nil⟩
  | case3 ms ms' es ih =>
    obtain ⟨hms, hes⟩ := List.forall_mem_cons.mp hvalid
    exact (Utf8.valid_append_ascii (by decide)).mpr ⟨hms, ih hes⟩

lemma parseElems_elemsText {es : List (List (List UInt8 × List UInt8))} (hes : es ≠ [])
    (h : ∀ ms ∈ es, ms ≠ [] ∧ ∀ m ∈ ms, Plain m.1 ∧ Plain m.2) {n : ℕ}
    (hn : (elemsText es).length < n) :
    parseElems n (elemsText es) = some (es.map fun ms => .object (strings ms), []) := by
  have hvalue : ∀ ms ∈ es, ∀ n t, (concatText ms).length ≤ n →
      parseValue (n + 1) (concatText ms ++ t) = some (.object (strings ms), t) := by
    intro ms hms n t hn
    rw [parseValue_concatText (h ms hms).1, parseMembers_membersText (h ms hms).1
      (fun m hm => ⟨((h ms hms).2 m hm).1.1, ((h ms hms).2 m hm).2.1⟩)
      ((length_lt_concatText (h ms hms).1).trans_le hn)]
    rfl
  clear h
  fun_induction elemsText es generalizing n with
  | case1 => exact absurd rfl hes
  | case2 ms =>
    rw [List.length_append, List.length_singleton] at hn
    obtain ⟨k, rfl⟩ := Nat.exists_eq_add_of_le' (show 2 ≤ n by omega)
    rw [parseElems, hvalue ms List.mem_cons_self k _ (by omega)]
    simp only [skipWs_cons (c := 0x5D) rfl]
    rfl
  | case3 ms ms' es ih =>
    rw [List.length_append, List.length_cons] at hn
    obtain ⟨k, rfl⟩ := Nat.exists_eq_add_of_le' (show 2 ≤ n by omega)
    obtain ⟨hms, hrest⟩ := List.forall_mem_cons.mp hvalue
    rw [parseElems, hms k _ (by omega)]
    simp only [skipWs_cons (c := 0x2C) rfl]
    rw [ih (List.cons_ne_nil _ _) (by omega) hrest]
    rfl

lemma parse_arrayText {es : List (List (List UInt8 × List UInt8))} (hes : es ≠ [])
    (h : ∀ ms ∈ es, ms ≠ [] ∧ ∀ m ∈ ms, Plain m.1 ∧ Plain m.2) :
    parse (arrayText es) = some (.array (es.map fun ms => .object (strings ms))) := by
  obtain ⟨t, ht⟩ : ∃ t, elemsText es = 0x7B :: t := by
    cases es with
    | nil => exact absurd rfl hes
    | cons ms es => cases es with
      | nil => exact ⟨_, rfl⟩
      | cons ms' es => exact ⟨_, rfl⟩
  have hvalid : Utf8.Valid (arrayText es) :=
    (Utf8.valid_cons_ascii (by decide)).mpr (valid_elemsText fun ms hms => (h ms hms).2)
  have helems := parseElems_elemsText hes h
    (show (elemsText es).length < (arrayText es).length from Nat.lt_succ_self _)
  have hvalue : parseValue ((arrayText es).length + 1) (arrayText es) =
      (parseElems (arrayText es).length (elemsText es)).map fun p => (.array p.1, p.2) := by
    rw [arrayText, parseValue, skipWs_cons rfl, ht]
    simp only [skipWs_cons (c := 0x7B) rfl]
    rfl
  rw [parse, if_pos hvalid, hvalue, helems]
  rfl

end Json
