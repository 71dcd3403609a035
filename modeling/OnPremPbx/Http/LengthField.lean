import OnPremPbx.Http.Chunks

/-!
# The number of a length

The scans of a header take the value of a field from the second character after its colon, convert
it with `std::stoul`, and add it to the length of the header in 64 bits. That is the number which is
written there exactly if nothing but a blank or a zero is left out, and the sum fits.
-/

open Text

/-! ### Decimal numbers -/

def isBlank (c : UInt8) : Bool := c == 0x20 || c == 0x09

/-- The text is a decimal number, with or without blanks around it. -/
def DecimalText (x : Bytes) (v : ℕ) : Prop :=
  ∃ before ds after, x = before ++ ds ++ after ∧ (∀ c ∈ before, isBlank c = true) ∧
    (∀ c ∈ after, isBlank c = true) ∧ ds ≠ [] ∧ (∀ c ∈ ds, isDigit 10 c) ∧
    digitsValue 10 0 ds = v

lemma isSpace_of_isBlank {c : UInt8} (h : isBlank c = true) : isSpace c = true := by
  simp only [isBlank, Bool.or_eq_true, beq_iff_eq] at h
  rcases h with rfl | rfl <;> rfl

lemma not_isDigit_of_isBlank {c : UInt8} (h : isBlank c = true) : ¬ isDigit 10 c := fun hd =>
  not_isSpace_of_isDigit hd (isSpace_of_isBlank h)

lemma digitsValue_cons (base acc : ℕ) (d : UInt8) (ds : Bytes) :
    digitsValue base acc (d :: ds) = digitsValue base (acc * base + (digit base d).getD 0) ds := rfl

/-- The digits before count for as much as there are digits after them. -/
lemma digitsValue_acc (base acc : ℕ) (ds : Bytes) :
    digitsValue base acc ds = acc * base ^ ds.length + digitsValue base 0 ds := by
  induction ds generalizing acc with
  | nil => simp [digitsValue]
  | cons d ds ih =>
    rw [digitsValue_cons, digitsValue_cons, ih, ih (0 * base + (digit base d).getD 0),
      List.length_cons, pow_succ]
    ring

/-- The digit of no value is zero. -/
lemma digit_eq_zero_iff {d : UInt8} (h : isDigit 10 d) : (digit 10 d).getD 0 = 0 ↔ d = 0x30 := by
  have hle := le_of_isDigit h
  rw [isDigit, digit] at h
  rw [digit]
  by_cases hnum : 0x30 ≤ d ∧ d ≤ 0x39
  · have hle' : (48 : ℕ) ≤ d.toNat := hle
    have hge' : d.toNat ≤ 57 := hnum.2
    rw [if_pos hnum, if_pos (show d.toNat - 48 < 10 by omega), Option.getD_some]
    constructor
    · intro hzero
      exact UInt8.toNat_inj.mp (show d.toNat = 48 by omega)
    · rintro rfl
      rfl
  · rw [if_neg hnum] at h
    split_ifs at h with h₁ h₂ h₃ h₄ <;> first | omega | cases h

/-- A number is read over the blanks around it. -/
lemma readNumber_spaced {before ds after : Bytes} (hbefore : ∀ c ∈ before, isBlank c = true)
    (hafter : ∀ c ∈ after, isBlank c = true) (hne : ds ≠ []) (hds : ∀ c ∈ ds, isDigit 10 c) :
    readNumber 10 (before ++ ds ++ after) = some (false, digitsValue 10 0 ds) := by
  obtain ⟨d, ds', rfl⟩ := List.exists_cons_of_ne_nil hne
  have hd := hds d List.mem_cons_self
  have hdrop : (before ++ (d :: ds') ++ after).dropWhile isSpace = d :: ds' ++ after := by
    rw [List.append_assoc,
      List.dropWhile_append_of_pos fun c hc => isSpace_of_isBlank (hbefore c hc),
      List.cons_append, List.dropWhile_cons_of_neg (not_isSpace_of_isDigit hd)]
  have hhead : ∀ k : UInt8, k < 0x30 → (d :: ds' ++ after).head? ≠ some k := by
    intro k hk heq
    exact ne_of_isDigit hd hk (Option.some.inj heq)
  have hprefix : ∀ s, skipPrefix 10 s = s := by
    intro s
    unfold skipPrefix
    split
    · exact if_neg fun h => absurd h.1 (by decide)
    · rfl
  have htake : (d :: ds' ++ after).takeWhile (isDigit 10) = d :: ds' := by
    rw [List.takeWhile_append_of_pos hds]
    cases after with
    | nil => simp
    | cons c after =>
      rw [List.takeWhile_cons_of_neg (not_isDigit_of_isBlank (hafter c List.mem_cons_self)),
        List.append_nil]
  rw [readNumber, hdrop,
    if_neg (not_or.mpr ⟨hhead 0x2D (by decide), hhead 0x2B (by decide)⟩), hprefix, htake,
    if_neg (List.cons_ne_nil _ _), decide_eq_false (hhead 0x2D (by decide))]

lemma stoul_spaced {before ds after : Bytes} (hbefore : ∀ c ∈ before, isBlank c = true)
    (hafter : ∀ c ∈ after, isBlank c = true) (hne : ds ≠ []) (hds : ∀ c ∈ ds, isDigit 10 c) :
    stoul 10 (before ++ ds ++ after) =
      if 2 ^ 64 ≤ digitsValue 10 0 ds then none else some (digitsValue 10 0 ds) := by
  rw [stoul, readNumber_spaced hbefore hafter hne hds]
  rfl

lemma stoul_blanks {s : Bytes} (h : ∀ c ∈ s, isBlank c = true) : stoul 10 s = none := by
  have hdrop : s.dropWhile isSpace = [] :=
    List.dropWhile_eq_nil_iff.mpr fun c hc => isSpace_of_isBlank (h c hc)
  rw [stoul, readNumber, hdrop]
  rfl

/-! ### Lengths of messages -/

/-- What a scan returns for the value of the length: where it is empty, what the `other` rules
say. -/
def lengthFrom (headerLen other : ℕ) (value : Bytes) : ℕ :=
  if value = [] then other
  else
    match stoul 10 value with
    | none   => 0
    | some n => (headerLen + n) % 2 ^ 64

/-- A length is not inside the header, and where the text after the colon is a decimal number, it
is what this number says. -/
structure NotCut (headerLen : ℕ) (text : Option Bytes) (n : ℕ) : Prop where
  header : n = 0 ∨ headerLen ≤ n
  length : ∀ x ∈ text, ∀ v, DecimalText x v → n = headerLen + v

/-- The text starts with a character that a number can do without: a blank, or a zero before
another digit. -/
def Spare (x : Bytes) : Prop :=
  ∃ c s, x = c :: s ∧ (isBlank c = true ∨ c = 0x30 ∧ ∃ d ∈ s.head?, isDigit 10 d)

/-- The text after the colon is cut and added without harm. -/
structure LengthFits (headerLen other : ℕ) (x : Bytes) : Prop where
  decimal : ∀ v, DecimalText x v →
    Spare x ∧ headerLen + v < 2 ^ 64 ∨ x.length = 1 ∧ other = headerLen + v
  otherText : (∀ v, ¬ DecimalText x v) → ∀ n, stoul 10 (x.drop 1) = some n →
    headerLen + n < 2 ^ 64 ∨ 2 ^ 64 ∣ headerLen + n

section

variable {headerLen other : ℕ} {x : Bytes}

lemma mod_eq_self_iff {a b : ℕ} (hb : 0 < b) : a % b = a ↔ a < b :=
  ⟨fun h => h ▸ Nat.mod_lt a hb, Nat.mod_eq_of_lt⟩

/-- A number of which nothing is left out is added as it is if the sum fits. -/
lemma lengthFrom_number {value : Bytes} {v : ℕ} (hpos : 0 < headerLen) (hne : value ≠ [])
    (h : stoul 10 value = if 2 ^ 64 ≤ v then none else some v) :
    lengthFrom headerLen other value = headerLen + v ↔ headerLen + v < 2 ^ 64 := by
  rw [lengthFrom, if_neg hne, h]
  split_ifs with hv
  · have hlt : (0 : ℕ) < headerLen + v := Nat.add_pos_left hpos v
    exact ⟨fun heq => absurd heq hlt.ne, fun hsum => absurd hsum (by omega)⟩
  · exact mod_eq_self_iff (by positivity)

/-- What is left of a number is not more than the number that is left. -/
lemma lengthFrom_le {value : Bytes} {v : ℕ} (hne : value ≠ [])
    (h : stoul 10 value = if 2 ^ 64 ≤ v then none else some v) :
    lengthFrom headerLen other value ≤ headerLen + v := by
  rw [lengthFrom, if_neg hne, h]
  split_ifs
  · exact Nat.zero_le _
  · exact Nat.mod_le _ _

lemma spare_digit_iff {d : UInt8} {s : Bytes} (hd : isDigit 10 d) :
    Spare (d :: s) ↔ d = 0x30 ∧ ∃ e ∈ s.head?, isDigit 10 e := by
  constructor
  · rintro ⟨c, t, heq, hspare⟩
    obtain ⟨rfl, rfl⟩ := List.cons.inj heq
    rcases hspare with hblank | hzero
    · exact absurd hd (not_isDigit_of_isBlank hblank)
    · exact hzero
  · intro hzero
    exact ⟨d, s, rfl, Or.inr hzero⟩

/-- What is returned for a decimal number that starts with a digit. -/
lemma lengthFrom_digits (hpos : 0 < headerLen) {d : UInt8} {ds after : Bytes}
    (hds : ∀ c ∈ d :: ds, isDigit 10 c) (hafter : ∀ c ∈ after, isBlank c = true) :
    lengthFrom headerLen other (ds ++ after) = headerLen + digitsValue 10 0 (d :: ds) ↔
      Spare (d :: (ds ++ after)) ∧ headerLen + digitsValue 10 0 (d :: ds) < 2 ^ 64 ∨
        (d :: (ds ++ after)).length = 1 ∧
          other = headerLen + digitsValue 10 0 (d :: ds) := by
  have hd := hds d List.mem_cons_self
  rw [spare_digit_iff hd]
  cases ds with
  | nil =>
    cases after with
    | nil => simp [lengthFrom]
    | cons c after =>
      -- the one digit is cut off, and no number is left
      have hc := not_isDigit_of_isBlank (hafter c List.mem_cons_self)
      rw [List.nil_append, lengthFrom, if_neg (List.cons_ne_nil _ _), stoul_blanks hafter]
      simp only [List.head?_cons, Option.mem_some_iff, exists_eq_left', List.length_cons]
      constructor
      · intro heq
        exact absurd heq (Nat.add_pos_left hpos _).ne
      · rintro (⟨⟨-, hdigit⟩, -⟩ | ⟨hlen, -⟩)
        · exact absurd hdigit hc
        · omega
  | cons e ds =>
    have he := hds e (List.mem_cons_of_mem _ List.mem_cons_self)
    have hst := stoul_spaced (List.forall_mem_nil (isBlank · = true)) hafter (List.cons_ne_nil e ds)
      fun c hc => hds c (List.mem_cons_of_mem _ hc)
    rw [List.nil_append] at hst
    have hvalue : digitsValue 10 0 (d :: e :: ds) =
        (digit 10 d).getD 0 * 10 ^ (ds.length + 1) + digitsValue 10 0 (e :: ds) := by
      rw [digitsValue_cons, digitsValue_acc, zero_mul, zero_add, List.length_cons]
    have hlen : (d :: (e :: ds ++ after)).length ≠ 1 := by simp
    by_cases hzero : d = 0x30
    · have hsame : digitsValue 10 0 (d :: e :: ds) = digitsValue 10 0 (e :: ds) := by
        rw [hvalue, (digit_eq_zero_iff hd).mpr hzero, zero_mul, zero_add]
      rw [hsame, lengthFrom_number hpos (by simp) hst]
      simp [hzero, he]
    · have hdigit : 0 < (digit 10 d).getD 0 :=
        Nat.pos_of_ne_zero fun h => hzero ((digit_eq_zero_iff hd).mp h)
      have hmore : digitsValue 10 0 (e :: ds) < digitsValue 10 0 (d :: e :: ds) := by
        rw [hvalue]
        exact Nat.lt_add_of_pos_left (Nat.mul_pos hdigit (by positivity))
      have hle : lengthFrom headerLen other (e :: ds ++ after) ≤
          headerLen + digitsValue 10 0 (e :: ds) := lengthFrom_le (by simp) hst
      constructor
      · intro heq
        omega
      · rintro (⟨⟨h, -⟩, -⟩ | ⟨h, -⟩)
        · exact absurd h hzero
        · exact absurd h hlen

/-- What is returned for a decimal number. -/
lemma lengthFrom_decimal (hpos : 0 < headerLen) {v : ℕ} (h : DecimalText x v) :
    lengthFrom headerLen other (x.drop 1) = headerLen + v ↔
      Spare x ∧ headerLen + v < 2 ^ 64 ∨ x.length = 1 ∧ other = headerLen + v := by
  obtain ⟨before, ds, after, rfl, hbefore, hafter, hne, hds, rfl⟩ := h
  cases before with
  | nil =>
    obtain ⟨d, ds, rfl⟩ := List.exists_cons_of_ne_nil hne
    exact lengthFrom_digits hpos hds hafter
  | cons c before =>
    have hspare : Spare (c :: before ++ ds ++ after) :=
      ⟨c, before ++ ds ++ after, by simp, Or.inl (hbefore c List.mem_cons_self)⟩
    have hlen : (c :: before ++ ds ++ after).length ≠ 1 := by
      have := List.length_pos_of_ne_nil hne
      simp only [List.length_append, List.length_cons]
      omega
    have hdrop : (c :: before ++ ds ++ after).drop 1 = before ++ ds ++ after := by simp
    rw [hdrop, lengthFrom_number hpos (by simp [hne])
      (stoul_spaced (fun b hb => hbefore b (List.mem_cons_of_mem _ hb)) hafter hne hds)]
    exact ⟨fun h => Or.inl ⟨hspare, h⟩, fun h => h.elim And.right fun h => absurd h.1 hlen⟩

/-- The length that a converted number gives is inside the header only if the sum wraps. -/
lemma header_mod_iff {n : ℕ} (hpos : 0 < headerLen) (hn : n < 2 ^ 64) :
    (headerLen + n) % 2 ^ 64 = 0 ∨ headerLen ≤ (headerLen + n) % 2 ^ 64 ↔
      headerLen + n < 2 ^ 64 ∨ 2 ^ 64 ∣ headerLen + n := by
  constructor
  · rintro (h | h)
    · exact Or.inr (Nat.dvd_of_mod_eq_zero h)
    · refine Or.inl ?_
      by_contra hge
      have hmod : (headerLen + n) % 2 ^ 64 = (headerLen + n - 2 ^ 64) % 2 ^ 64 :=
        Nat.mod_eq_sub_mod (by omega)
      have hle := Nat.mod_le (headerLen + n - 2 ^ 64) (2 ^ 64)
      omega
  · rintro (h | h)
    · rw [Nat.mod_eq_of_lt h]
      exact Or.inr (Nat.le_add_right _ _)
    · exact Or.inl (Nat.mod_eq_zero_of_dvd h)

/-- A length is not inside the header, for a text that is no decimal number. -/
lemma header_lengthFrom_iff (hpos : 0 < headerLen) (hother : other = 0 ∨ headerLen ≤ other)
    {value : Bytes} :
    (lengthFrom headerLen other value = 0 ∨ headerLen ≤ lengthFrom headerLen other value) ↔
      ∀ n, stoul 10 value = some n → headerLen + n < 2 ^ 64 ∨ 2 ^ 64 ∣ headerLen + n := by
  by_cases hne : value = []
  · subst hne
    rw [lengthFrom, if_pos rfl, stoul_blanks (List.forall_mem_nil (isBlank · = true))]
    simpa using hother
  · rw [lengthFrom, if_neg hne]
    cases hst : stoul 10 value with
    | none => simp
    | some n =>
      rw [show (∀ m, some n = some m → headerLen + m < 2 ^ 64 ∨ 2 ^ 64 ∣ headerLen + m) ↔
        headerLen + n < 2 ^ 64 ∨ 2 ^ 64 ∣ headerLen + n by simp]
      exact header_mod_iff hpos (stoul_lt hst)

/-- A length is whole exactly if the text after the colon is cut and added without harm. -/
theorem notCut_iff (hpos : 0 < headerLen) (hother : other = 0 ∨ headerLen ≤ other) :
    NotCut headerLen (some x) (lengthFrom headerLen other (x.drop 1)) ↔
      LengthFits headerLen other x := by
  constructor
  · intro h
    constructor
    · intro v hv
      exact (lengthFrom_decimal hpos hv).mp (h.length x rfl v hv)
    · intro _
      exact (header_lengthFrom_iff hpos hother).mp h.header
  · intro h
    have hlength : ∀ v, DecimalText x v →
        lengthFrom headerLen other (x.drop 1) = headerLen + v := fun v hv =>
      (lengthFrom_decimal hpos hv).mpr (h.decimal v hv)
    constructor
    · by_cases hdec : ∃ v, DecimalText x v
      · obtain ⟨v, hv⟩ := hdec
        rw [hlength v hv]
        exact Or.inr (Nat.le_add_right _ _)
      · exact (header_lengthFrom_iff hpos hother).mpr (h.otherText (not_exists.mp hdec))
    · rintro _ ⟨⟩ v hv
      exact hlength v hv

end
