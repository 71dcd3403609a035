import OnPremPbx.Pbx.HttpsClient
import OnPremPbx.Ari.AriRestClient
import OnPremPbx.Text.Base64
import OnPremPbx.WebSocket.AriWsClient

/-!
# Base64 texts

The cloud reads base64 with `b64url_decode` (`push_sender.cpp`), in the alphabet of URLs and in the
standard one, with padding or without. It reads what it has written itself and what an agent writes
(`ari_rest_client.cpp`, `ari_ws_client.cpp`).
-/

/-! ### The other encoder of the agent -/

namespace AriWsClient

def alpha : Bytes :=
  Bytes.ofString "ABCDEFGHIJKLMNOPQRSTUVWXYZabcdefghijklmnopqrstuvwxyz0123456789+/"

/-- The letter for the last six bits of a number. -/
def letter (n : ℕ) : UInt8 := alpha.getD (n &&& 0x3F) 0

def base64Encode : Bytes → Bytes
  | b₀ :: b₁ :: b₂ :: s =>
    letter (b₀.toNat >>> 2) :: letter (b₀.toNat <<< 4 ||| b₁.toNat >>> 4) ::
      letter (b₁.toNat <<< 2 ||| b₂.toNat >>> 6) :: letter b₂.toNat :: base64Encode s
  | [b₀, b₁]            =>
    [letter (b₀.toNat >>> 2), letter (b₀.toNat <<< 4 ||| b₁.toNat >>> 4), letter (b₁.toNat <<< 2),
      0x3D]
  | [b₀]                => [letter (b₀.toNat >>> 2), letter (b₀.toNat <<< 4), 0x3D, 0x3D]
  | []                  => []

end AriWsClient

open Base64

namespace PushSender

/-! ### The decoder -/

/-- `b64_value`, with `none` for -1. -/
def b64Value (c : UInt8) : Option ℕ :=
  if 0x41 ≤ c ∧ c ≤ 0x5A then some (c.toNat - 0x41)
  else if 0x61 ≤ c ∧ c ≤ 0x7A then some (c.toNat - 0x61 + 26)
  else if 0x30 ≤ c ∧ c ≤ 0x39 then some (c.toNat - 0x30 + 52)
  else if c = 0x2D ∨ c = 0x2B then some 62
  else if c = 0x5F ∨ c = 0x2F then some 63
  else none

/-- The loop of `b64url_decode`, which throws at a character of neither alphabet. -/
def b64urlDecodeFrom (acc : UInt32) (bits : ℕ) (out : Bytes) : Bytes → Option Bytes
  | []      => some out
  | c :: cs =>
    if c = 0x3D then some out
    else
      match b64Value c with
      | none   => none
      | some v =>
        let acc := (acc <<< 6) ||| UInt32.ofNat v
        let bits := bits + 6
        if 8 ≤ bits then
          let bits := bits - 8
          b64urlDecodeFrom acc bits (out ++ [((acc >>> UInt32.ofNat bits) &&& 0xFF).toUInt8]) cs
        else b64urlDecodeFrom acc bits out cs

def b64urlDecode (s : Bytes) : Option Bytes := b64urlDecodeFrom 0 0 [] s

/-! ### The accumulator -/

variable {v : ℕ} {acc : UInt32} {bits : ℕ} {out : Bytes}

/-- Six bits are shifted in, and six others out. -/
lemma toNat_shift (hv : v < 64) (acc : UInt32) :
    ((acc <<< 6) ||| UInt32.ofNat v).toNat = (acc.toNat * 64 + v) % 2 ^ 32 := by
  have hshift : (acc <<< 6).toNat = (acc.toNat % 2 ^ 26) <<< 6 := by
    rw [UInt32.toNat_shiftLeft, Nat.shiftLeft_eq, Nat.shiftLeft_eq]
    exact Nat.mul_mod_mul_right (2 ^ 6) acc.toNat (2 ^ 26)
  have hnat : (UInt32.ofNat v).toNat = v := UInt32.toNat_ofNat_of_lt' (hv.trans (by norm_num))
  rw [UInt32.toNat_or, hshift, hnat, ← Nat.shiftLeft_add_eq_or_of_lt hv, Nat.shiftLeft_eq]
  omega

lemma byte_eq {k : ℕ} (hk : k < 32) (acc : UInt32) :
    ((acc >>> UInt32.ofNat k) &&& 0xFF).toUInt8 = UInt8.ofNat (acc.toNat / 2 ^ k) := by
  apply UInt8.toNat_inj.mp
  have hnat : (UInt32.ofNat k).toNat = k := UInt32.toNat_ofNat_of_lt' (hk.trans (by norm_num))
  have hmask : ∀ n, n &&& (0xFF : UInt32).toNat = n % 2 ^ 8 :=
    fun n => Nat.and_two_pow_sub_one_eq_mod n 8
  rw [UInt8.toNat_ofNat', UInt32.toNat_toUInt8, UInt32.toNat_and, hmask, UInt32.toNat_shiftRight,
    hnat, Nat.mod_eq_of_lt hk, Nat.shiftRight_eq_div_pow, Nat.mod_mod]

/-- Over letters, the decoder is a reader with an accumulator of 32 bits. -/
lemma b64urlDecodeFrom_map {letter : ℕ → UInt8}
    (hletter : ∀ v < 64, b64Value (letter v) = some v ∧ letter v ≠ 0x3D) {rest : Bytes}
    (hrest : ∀ acc bits out, b64urlDecodeFrom acc bits out rest = some out) {vs : List ℕ}
    (hvs : ∀ v ∈ vs, v < 64) (hbits : bits < 8) :
    b64urlDecodeFrom acc bits out (vs.map letter ++ rest) =
      some (vs.foldl (Reader.push 32) ⟨acc.toNat, bits, out⟩).out := by
  induction vs generalizing acc bits out with
  | nil => exact hrest acc bits out
  | cons v vs ih =>
    obtain ⟨hv, hvs⟩ := List.forall_mem_cons.mp hvs
    obtain ⟨hvalue, hpad⟩ := hletter v hv
    rw [List.map_cons, List.cons_append, b64urlDecodeFrom, if_neg hpad, hvalue, List.foldl_cons,
      Reader.push, ← toNat_shift hv]
    dsimp only
    by_cases hfull : 8 ≤ bits + 6
    · rw [if_pos hfull, if_neg hfull.not_gt, byte_eq (by omega)]
      exact ih hvs (by omega)
    · rw [if_neg hfull, if_pos (not_le.mp hfull)]
      exact ih hvs (by omega)

/-! ### The encoders -/

/-- The letter of an alphabet for the last six bits of a number. -/
def letterOf (alphabet : Bytes) (n : ℕ) : UInt8 := alphabet.getD (n &&& 0x3F) 0

variable (alphabet : Bytes) (b₀ b₁ : UInt8)

lemma letterOf_eq_of_mod {m n : ℕ} (h : m % 64 = n % 64) :
    letterOf alphabet m = letterOf alphabet n := by
  have hmask : ∀ k, k &&& 0x3F = k % 64 := fun k => Nat.and_two_pow_sub_one_eq_mod k 6
  rw [letterOf, letterOf, hmask, hmask, h]

lemma letterOf_first : letterOf alphabet (b₀.toNat >>> 2) = letterOf alphabet (b₀.toNat / 4) := by
  rw [Nat.shiftRight_eq_div_pow]

lemma letterOf_second : letterOf alphabet (b₀.toNat <<< 4 ||| b₁.toNat >>> 4) =
    letterOf alphabet (b₀.toNat % 4 * 16 + b₁.toNat / 16) := by
  have h₁ := b₁.toNat_lt
  apply letterOf_eq_of_mod
  rw [AriRestClient.shiftLeft_or_shiftRight (by norm_num; exact h₁)]
  omega

lemma letterOf_third : letterOf alphabet (b₀.toNat <<< 2 ||| b₁.toNat >>> 6) =
    letterOf alphabet (b₀.toNat % 16 * 4 + b₁.toNat / 64) := by
  have h₁ := b₁.toNat_lt
  apply letterOf_eq_of_mod
  rw [AriRestClient.shiftLeft_or_shiftRight (by norm_num; exact h₁)]
  omega

lemma letterOf_fourth : letterOf alphabet b₀.toNat = letterOf alphabet (b₀.toNat % 64) :=
  letterOf_eq_of_mod alphabet (Nat.mod_mod _ _).symm

/-- The last letter of two bytes, and that of one. -/
lemma letterOf_last : letterOf alphabet (b₀.toNat <<< 2) = letterOf alphabet (b₀.toNat % 16 * 4) ∧
    letterOf alphabet (b₀.toNat <<< 4) = letterOf alphabet (b₀.toNat % 4 * 16) := by
  constructor
  · apply letterOf_eq_of_mod
    rw [Nat.shiftLeft_eq]
    omega
  · apply letterOf_eq_of_mod
    rw [Nat.shiftLeft_eq]
    omega

lemma b64urlEncode_eq (s : Bytes) : b64urlEncode s = (sextets s).map (letterOf kB64Alphabet) := by
  have hletter : b64Letter = letterOf kB64Alphabet := rfl
  fun_induction b64urlEncode s with
  | case1 b₀ b₁ b₂ s ih =>
    rw [hletter, letterOf_first, letterOf_second, letterOf_third, letterOf_fourth, ih]
    rfl
  | case2 b₀ b₁ =>
    rw [hletter, letterOf_first, letterOf_second, (letterOf_last _ b₁).1]
    rfl
  | case3 b₀ =>
    rw [hletter, letterOf_first, (letterOf_last _ b₀).2]
    rfl
  | case4 => rfl

/-- The agent's text has padding behind the letters. -/
lemma base64Encode_eq (s : Bytes) : ∃ n, AriRestClient.base64Encode s =
    (sextets s).map (letterOf AriRestClient.alpha) ++ List.replicate n 0x3D := by
  have hletter : AriRestClient.letter = letterOf AriRestClient.alpha := rfl
  fun_induction AriRestClient.base64Encode s with
  | case1 b₀ b₁ b₂ s ih =>
    obtain ⟨n, hn⟩ := ih
    refine ⟨n, ?_⟩
    rw [hletter, letterOf_first, letterOf_second, letterOf_third, letterOf_fourth, hn]
    rfl
  | case2 b₀ b₁ =>
    refine ⟨1, ?_⟩
    rw [hletter, letterOf_first, letterOf_second, (letterOf_last _ b₁).1]
    rfl
  | case3 b₀ =>
    refine ⟨2, ?_⟩
    rw [hletter, letterOf_first, (letterOf_last _ b₀).2]
    rfl
  | case4 => exact ⟨0, rfl⟩

/-! ### What was encoded is read back -/

lemma b64Value_letterOf : ∀ v < 64,
    (b64Value (letterOf kB64Alphabet v) = some v ∧ letterOf kB64Alphabet v ≠ 0x3D) ∧
      b64Value (letterOf AriRestClient.alpha v) = some v ∧
      letterOf AriRestClient.alpha v ≠ 0x3D := by
  decide +kernel

/-- A text in one of the alphabets, with what ends it. -/
lemma b64urlDecode_map {alphabet rest : Bytes}
    (hletter : ∀ v < 64, b64Value (letterOf alphabet v) = some v ∧ letterOf alphabet v ≠ 0x3D)
    (hrest : ∀ acc bits out, b64urlDecodeFrom acc bits out rest = some out) (s : Bytes) :
    b64urlDecode ((sextets s).map (letterOf alphabet) ++ rest) = some s := by
  have hholds : Holds ⟨(0 : UInt32).toNat, 0, []⟩ 0 0 [] := ⟨rfl, rfl, rfl⟩
  rw [b64urlDecode, b64urlDecodeFrom_map hletter hrest (lt_of_mem_sextets s) (by norm_num),
    foldl_push_sextets (by norm_num) s hholds, List.nil_append]

/-- What was encoded for a URL or by an agent is read back, and an agent has one encoding. -/
theorem b64urlDecode_round_trips (s : Bytes) :
    b64urlDecode (b64urlEncode s) = some s ∧
      b64urlDecode (AriRestClient.base64Encode s) = some s ∧
      AriWsClient.base64Encode s = AriRestClient.base64Encode s := by
  refine ⟨?_, ?_, ?_⟩
  · rw [b64urlEncode_eq, ← List.append_nil (List.map _ _)]
    exact b64urlDecode_map (fun v hv => (b64Value_letterOf v hv).1) (fun _ _ _ => rfl) s
  · obtain ⟨n, hn⟩ := base64Encode_eq s
    rw [hn]
    refine b64urlDecode_map (fun v hv => (b64Value_letterOf v hv).2) (fun acc bits out => ?_) s
    cases n <;> rfl
  · have hletter : AriWsClient.letter = AriRestClient.letter := rfl
    fun_induction AriRestClient.base64Encode s with
    | case1 b₀ b₁ b₂ s ih => rw [AriWsClient.base64Encode, ih, hletter]
    | case2 b₀ b₁ => rfl
    | case3 b₀ => rfl
    | case4 => rfl

end PushSender
