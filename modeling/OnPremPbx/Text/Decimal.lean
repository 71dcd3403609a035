import OnPremPbx.Http.MessageParser
import OnPremPbx.Text.Dump

/-!
# Decimal numbers

The decimal text of a number is a number of JSON, and reading it gives the number again.
-/

namespace Decimal

/-- `std::to_string` of a number. -/
def ofNat (n : ℕ) : Bytes := Bytes.ofString (toString n)

/-- `std::to_string` of a signed number, which is also its text in JSON. -/
def ofInt (n : ℤ) : Bytes := Bytes.ofString (toString n)

/-- The byte of a character. -/
def byte (c : Char) : UInt8 := UInt8.ofNat c.toNat

lemma ofNat_eq (n : ℕ) : ofNat n = (Nat.toDigits 10 n).map byte := by
  rw [ofNat, Bytes.ofString, Nat.toString_eq_ofList_toDigits, String.toList_ofList]
  rfl

lemma ofInt_eq (n : ℤ) :
    ofInt n = if 0 ≤ n then ofNat n.toNat else 0x2D :: ofNat (-n).toNat := by
  rw [ofInt, Int.toString_eq_repr, Int.repr_eq_if]
  split_ifs
  · rfl
  · rw [Bytes.ofString, String.toList_append, List.map_append]
    rfl

lemma toNat_byte {d : ℕ} (h : d < 10) : (byte d.digitChar).toNat = 0x30 + d := by
  interval_cases d <;> rfl

/-- A digit in front of the last one. -/
lemma ofNat_of_le {n : ℕ} (h : 10 ≤ n) :
    ofNat n = ofNat (n / 10) ++ [byte (n % 10).digitChar] := by
  rw [ofNat_eq, ofNat_eq, Nat.toDigits_of_base_le (by decide) h, List.map_append]
  rfl

lemma ofNat_of_lt {n : ℕ} (h : n < 10) : ofNat n = [byte n.digitChar] := by
  rw [ofNat_eq, Nat.toDigits_of_lt_base h]
  rfl

lemma ofNat_ne_nil (n : ℕ) : ofNat n ≠ [] := by
  rw [ofNat_eq]
  simp [Nat.toDigits_ne_nil]

lemma isDigit_byte : ∀ d < 10, Json.isDigit (byte d.digitChar) = true ∧
    isDigit 10 (byte d.digitChar) = true ∧ digit 10 (byte d.digitChar) = some d := by
  decide

/-- The induction on the digits: the last one, and those in front of it. -/
theorem digits_induction {P : ℕ → Prop} (hlast : ∀ d < 10, P d)
    (hmore : ∀ n, 10 ≤ n → P (n / 10) → P n) (n : ℕ) : P n := by
  induction n using Nat.strong_induction_on with
  | h n ih =>
    by_cases hn : n < 10
    · exact hlast n hn
    · exact hmore n (not_lt.mp hn) (ih (n / 10) (Nat.div_lt_self (by omega) (by decide)))

lemma isDigit_of_mem {n : ℕ} {c : UInt8} (h : c ∈ ofNat n) :
    Json.isDigit c = true ∧ isDigit 10 c = true := by
  induction n using digits_induction with
  | hlast d hd =>
    rw [ofNat_of_lt hd, List.mem_singleton] at h
    subst h
    exact ⟨(isDigit_byte d hd).1, (isDigit_byte d hd).2.1⟩
  | hmore n hn ih =>
    rw [ofNat_of_le hn, List.mem_append, List.mem_singleton] at h
    rcases h with h | rfl
    · exact ih h
    · have hlt : n % 10 < 10 := Nat.mod_lt n (by decide)
      exact ⟨(isDigit_byte _ hlt).1, (isDigit_byte _ hlt).2.1⟩

lemma digitsValue_append (base acc : ℕ) (ds : Bytes) (c : UInt8) :
    digitsValue base acc (ds ++ [c]) =
      digitsValue base acc ds * base + (digit base c).getD 0 := by
  rw [digitsValue, List.foldl_append]
  rfl

/-- The digits have the value of the number. -/
theorem digitsValue_ofNat (n : ℕ) : digitsValue 10 0 (ofNat n) = n := by
  induction n using digits_induction with
  | hlast d hd =>
    rw [ofNat_of_lt hd, ← List.nil_append [_], digitsValue_append, (isDigit_byte d hd).2.2]
    exact Nat.zero_add d
  | hmore n hn ih =>
    have hlt : n % 10 < 10 := Nat.mod_lt n (by decide)
    rw [ofNat_of_le hn, digitsValue_append, ih, (isDigit_byte _ hlt).2.2, Option.getD_some]
    omega

theorem readNumber_ofNat (n : ℕ) : readNumber 10 (ofNat n) = some (false, n) := by
  rw [readNumber_digits (by decide) (ofNat_ne_nil n) fun c hc => (isDigit_of_mem hc).2,
    digitsValue_ofNat]

/-! ### Numbers of JSON -/

/-- No number but zero starts with the digit zero. -/
lemma ofNat_head {n : ℕ} (h : 0 < n) : ∃ c s, ofNat n = c :: s ∧ c ≠ 0x30 := by
  induction n using digits_induction with
  | hlast d hd =>
    refine ⟨_, [], ofNat_of_lt hd, fun heq => ?_⟩
    have := congrArg UInt8.toNat heq
    rw [toNat_byte hd] at this
    exact h.ne' (Nat.add_left_cancel (show 0x30 + d = 0x30 + 0 from this))
  | hmore n hn ih =>
    obtain ⟨c, s, heq, hc⟩ := ih (by omega)
    exact ⟨c, s ++ [byte (n % 10).digitChar], by rw [ofNat_of_le hn, heq, List.cons_append], hc⟩

lemma integer_ofNat (n : ℕ) : Json.integer (ofNat n) = some (ofNat n, []) := by
  have hdigits : Json.digits (ofNat n) = some (ofNat n, []) := by
    have htake : (ofNat n).takeWhile Json.isDigit = ofNat n :=
      List.takeWhile_eq_self_iff.mpr fun c hc => (isDigit_of_mem hc).1
    have hdrop : (ofNat n).dropWhile Json.isDigit = [] :=
      List.dropWhile_eq_nil_iff.mpr fun c hc => (isDigit_of_mem hc).1
    rw [Json.digits, htake, hdrop, if_neg (ofNat_ne_nil n)]
  rcases Nat.eq_zero_or_pos n with rfl | hn
  · rfl
  · obtain ⟨c, s, heq, hc⟩ := ofNat_head hn
    rw [heq] at hdigits ⊢
    rw [Json.integer, hdigits]
    rintro t ht
    cases ht
    exact hc rfl

lemma unsigned_ofNat (sign : Bytes) (n : ℕ) :
    Json.unsigned sign (ofNat n) = some (.number (sign ++ ofNat n), []) := by
  rw [Json.unsigned, integer_ofNat]
  simp [Json.fraction, Json.exponent]

theorem isNumber_ofInt (n : ℤ) : Json.isNumber (ofInt n) = true := by
  have hparse : Json.parseNumber (ofInt n) = some (.number (ofInt n), []) := by
    rw [ofInt_eq]
    split_ifs with hn
    · obtain ⟨c, s, heq⟩ := List.exists_cons_of_ne_nil (ofNat_ne_nil n.toNat)
      have hc := (isDigit_of_mem (heq ▸ List.mem_cons_self : c ∈ ofNat n.toNat)).1
      have hminus : (ofNat n.toNat).head? ≠ some 0x2D := by
        rw [heq]
        rintro ⟨⟩
        cases hc
      rw [Json.parseNumber_eq, if_neg hminus, unsigned_ofNat]
      rfl
    · rw [Json.parseNumber_eq, List.head?_cons, if_pos rfl, List.tail_cons, unsigned_ofNat]
      rfl
  rw [Json.isNumber, hparse]
  exact beq_self_eq_true _

/-- The number that a text starts with. -/
def toInt (t : Bytes) : ℤ :=
  match readNumber 10 t with
  | none               => 0
  | some (negative, n) => if negative then -n else n

lemma readNumber_minus (n : ℕ) : readNumber 10 (0x2D :: ofNat n) = some (true, n) := by
  have hdigits : ∀ c ∈ ofNat n, isDigit 10 c := fun c hc => (isDigit_of_mem hc).2
  have hspace : (0x2D :: ofNat n).dropWhile isSpace = 0x2D :: ofNat n :=
    List.dropWhile_cons_of_neg (by decide)
  have htake : (ofNat n).takeWhile (isDigit 10) = ofNat n := List.takeWhile_eq_self_iff.mpr hdigits
  have hsign : (if some (0x2D : UInt8) = some 0x2D ∨ some (0x2D : UInt8) = some 0x2B then
      (0x2D :: ofNat n).tail else 0x2D :: ofNat n) = ofNat n := rfl
  rw [readNumber, hspace, List.head?_cons, hsign, skipPrefix_digits (by decide) hdigits, htake,
    if_neg (ofNat_ne_nil n), digitsValue_ofNat]
  rfl

theorem toInt_ofInt (n : ℤ) : toInt (ofInt n) = n := by
  rw [toInt, ofInt_eq]
  split_ifs with hn
  · rw [readNumber_ofNat]
    simp [hn]
  · rw [readNumber_minus]
    simp
    omega

/-! ### Numbers of one width -/

/-- `std::setw` and `std::setfill('0')`: zeros up to the width. -/
def padded (w n : ℕ) : Bytes := List.replicate (w - (ofNat n).length) 0x30 ++ ofNat n

lemma length_ofNat_le {w n : ℕ} (hw : 0 < w) (h : n < 10 ^ w) : (ofNat n).length ≤ w := by
  induction n using digits_induction generalizing w with
  | hlast d hd =>
    rw [ofNat_of_lt hd]
    exact hw
  | hmore n hn ih =>
    obtain ⟨w, rfl⟩ := Nat.exists_eq_add_of_lt hw
    rw [Nat.zero_add] at h ⊢
    have hw' : 0 < w := by
      by_contra hzero
      rw [Nat.eq_zero_of_not_pos hzero] at h
      omega
    have hdiv : n / 10 < 10 ^ w := by
      rw [Nat.div_lt_iff_lt_mul (by decide), ← pow_succ]
      exact h
    rw [ofNat_of_le hn, List.length_append]
    exact Nat.add_le_add_right (ih hw' hdiv) 1

lemma length_padded {w n : ℕ} (hw : 0 < w) (h : n < 10 ^ w) : (padded w n).length = w := by
  rw [padded, List.length_append, List.length_replicate]
  exact Nat.sub_add_cancel (length_ofNat_le hw h)

lemma digitsValue_padded (w n : ℕ) : digitsValue 10 0 (padded w n) = n := by
  have hzeros : ∀ k, digitsValue 10 0 (List.replicate k 0x30) = 0 := by
    intro k
    induction k with
    | zero => rfl
    | succ k ih =>
      rw [List.replicate_succ', digitsValue_append, ih]
      rfl
  rw [padded, digitsValue, List.foldl_append]
  have h := hzeros (w - (ofNat n).length)
  rw [digitsValue] at h
  rw [h]
  exact digitsValue_ofNat n

lemma ascii_padded {w n : ℕ} {c : UInt8} (h : c ∈ padded w n) : c < 0x80 := by
  rcases List.mem_append.mp h with h | h
  · rw [List.eq_of_mem_replicate h]
    decide
  · exact Json.ascii_of_isDigit (isDigit_of_mem h).1

/-- Numbers of one width are told apart by what comes at the end of a text. -/
theorem padded_inj {w n m : ℕ} (hw : 0 < w) (hn : n < 10 ^ w) (hm : m < 10 ^ w) {s t : Bytes}
    (h : s ++ padded w n = t ++ padded w m) : n = m := by
  have hlength : (padded w n).length = (padded w m).length := by
    rw [length_padded hw hn, length_padded hw hm]
  have heq := (List.append_inj' h hlength).2
  rw [← digitsValue_padded w n, heq, digitsValue_padded]

end Decimal
