import OnPremPbx.Text.Json

/-!
# Strings as bytes

The bytes of a string are UTF-8, and the string can be had back from them.
-/

namespace Utf8

private lemma toNat_ofNat {n : ℕ} (h : n < 256) : (UInt8.ofNat n).toNat = n := by
  simp [Nat.mod_eq_of_lt h]

/-- The first byte of a character of two bytes. -/
private lemma step_two {n : ℕ} (h : 0xC2 ≤ n ∧ n ≤ 0xDF) :
    step start (UInt8.ofNat n) = some { rest := 1 } := by
  have hc : (UInt8.ofNat n).toNat = n := toNat_ofNat (by omega)
  simp [step, start, UInt8.lt_iff_toNat_lt, UInt8.le_iff_toNat_le, hc, h, show ¬ n < 128 by omega]

/-- The first byte of a character of three bytes, some of which bound the second one. -/
private lemma step_three {n : ℕ} (h : 0xE0 ≤ n ∧ n ≤ 0xEF) :
    step start (UInt8.ofNat n) = some
      (if n = 0xE0 then { rest := 2, lo := 0xA0 }
      else if n = 0xED then { rest := 2, hi := 0x9F } else { rest := 2 }) := by
  have hc : (UInt8.ofNat n).toNat = n := toNat_ofNat (by omega)
  by_cases h0 : n = 0xE0
  · subst h0
    rfl
  by_cases hd : n = 0xED
  · subst hd
    rfl
  simp only [step, start, UInt8.lt_iff_toNat_lt, UInt8.le_iff_toNat_le, ← UInt8.toNat_inj, hc]
  simp [h0, hd, show ¬ n < 128 by omega, show ¬ n ≤ 223 by omega, show 225 ≤ n ∧ n ≤ 239 by omega]

private lemma step_four {n : ℕ} (h : 0xF0 ≤ n ∧ n ≤ 0xF4) :
    step start (UInt8.ofNat n) = some
      (if n = 0xF0 then { rest := 3, lo := 0x90 }
      else if n = 0xF4 then { rest := 3, hi := 0x8F } else { rest := 3 }) := by
  obtain rfl | rfl | rfl | rfl | rfl : n = 240 ∨ n = 241 ∨ n = 242 ∨ n = 243 ∨ n = 244 := by omega
  all_goals rfl

/-- A byte that continues a character. -/
private lemma step_continue {s : State} {n : ℕ} (hrest : s.rest ≠ 0) (hn : n < 64)
    (hlo : s.lo.toNat ≤ 0x80 + n) (hhi : 0x80 + n ≤ s.hi.toNat) :
    step s (UInt8.ofNat (0x80 + n)) = some { rest := s.rest - 1 } := by
  have hc : (UInt8.ofNat (0x80 + n)).toNat = 0x80 + n := toNat_ofNat (by omega)
  rw [step, if_neg hrest, if_pos]
  refine ⟨?_, ?_, ?_⟩ <;> rw [UInt8.le_iff_toNat_le, hc]
  · exact Nat.le_add_right _ _
  · exact hlo
  · exact hhi

private lemma step_last {r n : ℕ} (hn : n < 64) :
    step { rest := r + 1 } (UInt8.ofNat (0x80 + n)) = some { rest := r } :=
  step_continue (Nat.succ_ne_zero r) hn (Nat.le_add_right _ _) (by
    change 0x80 + n ≤ 0xBF
    omega)

/-- A code point that is no surrogate is encoded as a whole character. -/
lemma foldlM_encode {n : ℕ} (h : n < 0xD800 ∨ 0xE000 ≤ n ∧ n < 0x110000) :
    (encode n).foldlM step start = some start := by
  have hmod : ∀ m, m % 64 < 64 := fun m => Nat.mod_lt _ (by decide)
  unfold encode
  split_ifs with h1 h2 h3
  · have hc := toNat_ofNat (n := n) (by omega)
    simp [step, start, UInt8.lt_iff_toNat_lt, hc, h1]
  · simp only [List.foldlM_cons, List.foldlM_nil, Option.bind_eq_bind]
    rw [step_two (by omega), Option.bind_some, step_last (hmod _)]
    rfl
  · have hsecond : ∀ s, s = (if 0xE0 + n / 4096 = 0xE0 then { rest := 2, lo := 0xA0 }
        else if 0xE0 + n / 4096 = 0xED then { rest := 2, hi := 0x9F } else { rest := 2 } : State) →
        step s (UInt8.ofNat (0x80 + n / 64 % 64)) = some { rest := 1 } := by
      rintro s rfl
      split_ifs with h0 hd
      · exact step_continue (by decide) (hmod _) (by change 0xA0 ≤ _; omega)
          (by change _ ≤ 0xBF; omega)
      · exact step_continue (by decide) (hmod _) (by change 0x80 ≤ _; omega)
          (by change _ ≤ 0x9F; omega)
      · exact step_last (hmod _)
    simp only [List.foldlM_cons, List.foldlM_nil, Option.bind_eq_bind]
    rw [step_three (by omega), Option.bind_some, hsecond _ rfl, Option.bind_some,
      step_last (hmod _)]
    rfl
  · have hsecond : ∀ s, s = (if 0xF0 + n / 262144 = 0xF0 then { rest := 3, lo := 0x90 }
        else if 0xF0 + n / 262144 = 0xF4 then { rest := 3, hi := 0x8F } else { rest := 3 } : State) →
        step s (UInt8.ofNat (0x80 + n / 4096 % 64)) = some { rest := 2 } := by
      rintro s rfl
      split_ifs with h0 hd
      · exact step_continue (by decide) (hmod _) (by change 0x90 ≤ _; omega)
          (by change _ ≤ 0xBF; omega)
      · exact step_continue (by decide) (hmod _) (by change 0x80 ≤ _; omega)
          (by change _ ≤ 0x8F; omega)
      · exact step_last (hmod _)
    simp only [List.foldlM_cons, List.foldlM_nil, Option.bind_eq_bind]
    rw [step_four (by omega), Option.bind_some, hsecond _ rfl, Option.bind_some,
      step_last (hmod _), Option.bind_some, step_last (hmod _)]
    rfl

/-- Whole characters one after the other are a text. -/
lemma foldlM_append {s t : List UInt8} (hs : s.foldlM step start = some start) :
    (s ++ t).foldlM step start = t.foldlM step start := by
  rw [List.foldlM_append, hs]
  rfl

/-- The bytes of a string. -/
def ofString (s : String) : List UInt8 := s.toList.flatMap fun c => encode c.toNat

/-- The string of these bytes, if there is one. -/
def toString? (b : List UInt8) : Option String := String.fromUTF8? b.toByteArray

lemma isScalar (c : Char) : c.toNat < 0xD800 ∨ 0xE000 ≤ c.toNat ∧ c.toNat < 0x110000 := by
  obtain h | ⟨h, h'⟩ := c.valid
  · exact Or.inl h
  · exact Or.inr ⟨h, h'⟩

lemma valid_ofString (s : String) : Valid (ofString s) := by
  rw [valid_iff, ofString]
  induction s.toList with
  | nil => rfl
  | cons c cs ih => rw [List.flatMap_cons, foldlM_append (foldlM_encode (isScalar c)), ih]

lemma encode_toNat (c : Char) : encode c.toNat = String.utf8EncodeChar c := by
  have hlt : c.toNat < 0x110000 := by
    obtain h | h := isScalar c
    · omega
    · exact h.2
  have hval : c.val.toNat = c.toNat := rfl
  simp only [encode, String.utf8EncodeChar, hval, ← Nat.lt_succ_iff]
  generalize c.toNat = n at hlt
  split_ifs
  · rfl
  · rw [show 0xC0 + n / 64 = n / 64 % 0x20 + 0xC0 by omega, Nat.add_comm 0x80]
  · rw [show 0xE0 + n / 4096 = n / 4096 % 0x10 + 0xE0 by omega, Nat.add_comm 0x80,
      Nat.add_comm 0x80]
  · rw [show 0xF0 + n / 262144 = n / 262144 % 0x08 + 0xF0 by omega, Nat.add_comm 0x80,
      Nat.add_comm 0x80, Nat.add_comm 0x80]

lemma toString?_ofString (s : String) : toString? (ofString s) = some s := by
  have hbytes : (ofString s).toByteArray = s.toByteArray := by
    rw [← String.utf8Encode_toList, ofString, List.flatMap_congr fun c _ => encode_toNat c]
    rfl
  rw [toString?, hbytes, String.fromUTF8?, dif_pos s.isValidUTF8]
  rfl

end Utf8
