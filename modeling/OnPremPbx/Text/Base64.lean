import Mathlib.Tactic

/-!
# Six bits at a time

`sextets` cuts bytes into numbers of six bits, as base64 does. A reader shifts one number after the
other into an accumulator, and takes a byte out of it as soon as eight bits are there. It need not
clear the accumulator: what a width of twelve bits shifts out on the left has been read before.
-/

namespace Base64

/-- The numbers of six bits; the last one is filled up with zeros. -/
def sextets : List UInt8 → List ℕ
  | b₀ :: b₁ :: b₂ :: s =>
    b₀.toNat / 4 :: (b₀.toNat % 4 * 16 + b₁.toNat / 16) :: (b₁.toNat % 16 * 4 + b₂.toNat / 64) ::
      b₂.toNat % 64 :: sextets s
  | [b₀, b₁]            => [b₀.toNat / 4, b₀.toNat % 4 * 16 + b₁.toNat / 16, b₁.toNat % 16 * 4]
  | [b₀]                => [b₀.toNat / 4, b₀.toNat % 4 * 16]
  | []                  => []

lemma lt_of_mem_sextets (s : List UInt8) : ∀ v ∈ sextets s, v < 64 := by
  fun_induction sextets s with
  | case1 b₀ b₁ b₂ s ih =>
    have h₀ := b₀.toNat_lt
    have h₁ := b₁.toNat_lt
    have h₂ := b₂.toNat_lt
    simp only [List.forall_mem_cons]
    exact ⟨by omega, by omega, by omega, by omega, ih⟩
  | case2 b₀ b₁ =>
    have h₀ := b₀.toNat_lt
    have h₁ := b₁.toNat_lt
    simp only [List.forall_mem_cons]
    exact ⟨by omega, by omega, by omega, nofun⟩
  | case3 b₀ =>
    have h₀ := b₀.toNat_lt
    simp only [List.forall_mem_cons]
    exact ⟨by omega, by omega, nofun⟩
  | case4 => nofun

/-- A reader in the middle of a text: the accumulator, how many of its bits are still to be read,
and the bytes that were taken out. -/
structure Reader where
  acc : ℕ
  bits : ℕ
  out : List UInt8

/-- Six more bits, in an accumulator of that width. -/
def Reader.push (w : ℕ) (c : Reader) (v : ℕ) : Reader :=
  let acc := (c.acc * 64 + v) % 2 ^ w
  if c.bits + 6 < 8 then ⟨acc, c.bits + 6, c.out⟩
  else ⟨acc, c.bits + 6 - 8, c.out ++ [UInt8.ofNat (acc / 2 ^ (c.bits + 6 - 8))]⟩

variable {w : ℕ} {c : Reader} {n p v : ℕ} {out : List UInt8}

/-- What the reader has still to read is the number `p` of `n` bits. -/
structure Holds (c : Reader) (n p : ℕ) (out : List UInt8) : Prop where
  count : c.bits = n
  low : c.acc % 2 ^ n = p
  read : c.out = out

namespace Holds

/-- The bits that are shifted out are not among those that are still to be read. -/
lemma low_shift (h : Holds c n p out) (hw : n + 6 ≤ w) (hv : v < 64) :
    (c.acc * 64 + v) % 2 ^ w % 2 ^ (n + 6) = p * 64 + v := by
  have hlow : c.acc * 64 % (2 ^ n * 64) = p * 64 := by rw [Nat.mul_mod_mul_right, h.low]
  have hp : p < 2 ^ n := h.low ▸ Nat.mod_lt _ (Nat.two_pow_pos n)
  have hpow : 2 ^ (n + 6) = 2 ^ n * 64 := by rw [pow_add]; norm_num
  rw [Nat.mod_mod_of_dvd _ (pow_dvd_pow 2 hw), hpow, Nat.add_mod, hlow,
    Nat.mod_eq_of_lt (show v < 2 ^ n * 64 by omega)]
  exact Nat.mod_eq_of_lt (by omega)

/-- Fewer than eight bits stay where they are. -/
lemma keep (h : Holds c n p out) (hw : n + 6 ≤ w) (hv : v < 64) (hn : n + 6 < 8) :
    Holds (c.push w v) (n + 6) (p * 64 + v) out := by
  rw [Reader.push, h.count, if_pos hn]
  exact ⟨rfl, h.low_shift hw hv, h.read⟩

/-- The first eight bits are taken out. -/
lemma take (h : Holds c n p out) (hw : n + 6 ≤ w) (hv : v < 64) {k : ℕ} (hk : n + 6 = k + 8)
    {b : UInt8} (hb : (p * 64 + v) / 2 ^ k = b.toNat) :
    Holds (c.push w v) k ((p * 64 + v) % 2 ^ k) (out ++ [b]) := by
  have hlow := h.low_shift hw hv
  rw [hk, pow_add] at hlow
  rw [Reader.push, h.count, hk, if_neg (Nat.not_lt.mpr (Nat.le_add_left 8 k)),
    Nat.add_sub_cancel]
  refine ⟨rfl, ?_, ?_⟩
  · rw [← hlow, Nat.mod_mod_of_dvd _ (Dvd.intro _ rfl)]
  · have hbyte : (c.acc * 64 + v) % 2 ^ w / 2 ^ k % 2 ^ 8 = b.toNat := by
      rw [← hb, ← hlow, Nat.mod_mul_right_div_self]
    dsimp only
    rw [h.read, ← UInt8.ofNat_toNat (x := b), ← hbyte]
    exact congrArg (out ++ [·]) (UInt8.toNat_inj.mp (by simp))

section

variable (hw : 12 ≤ w) (b : UInt8) {x : ℕ}

include hw

/-- The first byte of a group, with four more bits behind it. -/
lemma first (h : Holds c 0 0 out) (hx : x < 16) :
    Holds ((c.push w (b.toNat / 4)).push w (b.toNat % 4 * 16 + x)) 4 x (out ++ [b]) := by
  have hb := b.toNat_lt
  have hsix : Holds (c.push w (b.toNat / 4)) 6 (b.toNat / 4) out := by
    simpa using h.keep (le_trans (by norm_num) hw) (show b.toNat / 4 < 64 by omega) (by norm_num)
  have htake := hsix.take (v := b.toNat % 4 * 16 + x) (b := b) hw (by omega) rfl (by omega)
  rwa [show (b.toNat / 4 * 64 + (b.toNat % 4 * 16 + x)) % 2 ^ 4 = x by omega] at htake

/-- The second byte, with two more bits behind it. -/
lemma second (h : Holds c 4 (b.toNat / 16) out) (hx : x < 4) :
    Holds (c.push w (b.toNat % 16 * 4 + x)) 2 x (out ++ [b]) := by
  have hb := b.toNat_lt
  have htake := h.take (v := b.toNat % 16 * 4 + x) (b := b) (le_trans (by norm_num) hw) (by omega)
    rfl (by omega)
  rwa [show (b.toNat / 16 * 64 + (b.toNat % 16 * 4 + x)) % 2 ^ 2 = x by omega] at htake

/-- The third byte. -/
lemma third (h : Holds c 2 (b.toNat / 64) out) :
    Holds (c.push w (b.toNat % 64)) 0 0 (out ++ [b]) := by
  have hb := b.toNat_lt
  have htake := h.take (v := b.toNat % 64) (b := b) (le_trans (by norm_num) hw) (by omega) rfl
    (by omega)
  rwa [pow_zero, Nat.mod_one] at htake

end

end Holds

/-- What was cut into sextets is read back. -/
theorem foldl_push_sextets (hw : 12 ≤ w) (s : List UInt8) (h : Holds c 0 0 out) :
    ((sextets s).foldl (Reader.push w) c).out = out ++ s := by
  fun_induction sextets s generalizing c out with
  | case1 b₀ b₁ b₂ s ih =>
    have h₁ := b₁.toNat_lt
    have h₂ := b₂.toNat_lt
    have hthree := ((h.first hw b₀ (by omega)).second hw b₁ (by omega)).third hw b₂
    rw [List.foldl_cons, List.foldl_cons, List.foldl_cons, List.foldl_cons, ih hthree]
    simp
  | case2 b₀ b₁ =>
    have h₁ := b₁.toNat_lt
    have htwo := (h.first hw b₀ (by omega)).second hw b₁ (x := 0) (by norm_num)
    exact htwo.read.trans (by simp)
  | case3 b₀ => exact (h.first hw b₀ (x := 0) (by norm_num)).read
  | case4 => exact h.read.trans (List.append_nil out).symm

end Base64
