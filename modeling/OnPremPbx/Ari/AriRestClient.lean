import OnPremPbx.Text.Decimal

/-!
# Requests to Asterisk

The texts of the requests of `AriRestClient` (`ari_rest_client.cpp`). What comes from outside is
percent-encoded; the host and the credentials come from the configuration.
-/

namespace AriRestClient

/-! ### Encodings -/

/-- `std::isalnum` in the C locale. -/
def isAlnum (c : UInt8) : Bool :=
  (0x30 ≤ c && c ≤ 0x39) || (0x41 ≤ c && c ≤ 0x5A) || (0x61 ≤ c && c ≤ 0x7A)

def isUnreserved (c : UInt8) : Bool :=
  isAlnum c || c == 0x2D || c == 0x5F || c == 0x2E || c == 0x7E

/-- A digit that a stream writes with `std::hex` and `std::uppercase`. -/
def hexDigit (n : ℕ) : UInt8 := if n < 10 then UInt8.ofNat (0x30 + n) else UInt8.ofNat (0x37 + n)

/-- What such a stream writes for a number of one byte, without a zero in front. -/
def hexText (n : ℕ) : Bytes :=
  if n < 0x10 then [hexDigit n] else [hexDigit (n / 0x10), hexDigit (n % 0x10)]

/-- What is written for one character. -/
def encodeChar (c : UInt8) : Bytes :=
  if isUnreserved c then [c]
  else 0x25 :: ((if c < 0x10 then [0x30] else []) ++ hexText c.toNat)

def urlEncode (s : Bytes) : Bytes := s.flatMap encodeChar

def alpha : Bytes :=
  Bytes.ofString "ABCDEFGHIJKLMNOPQRSTUVWXYZabcdefghijklmnopqrstuvwxyz0123456789+/"

/-- The letter for the last six bits of a number. -/
def letter (n : ℕ) : UInt8 := alpha.getD (n &&& 0x3F) 0

def base64Encode : Bytes → Bytes
  | b₀ :: b₁ :: b₂ :: s =>
    letter (b₀.toNat >>> 2) :: letter (b₀.toNat <<< 4 ||| b₁.toNat >>> 4) ::
      letter (b₁.toNat <<< 2 ||| b₂.toNat >>> 6) :: letter b₂.toNat :: base64Encode s
  | [b₀, b₁]            =>
    [letter (b₀.toNat >>> 2), letter (b₀.toNat <<< 4 ||| b₁.toNat >>> 4), letter (b₁.toNat <<< 2),
      0x3D]
  | [b₀]                => [letter (b₀.toNat >>> 2), letter (b₀.toNat <<< 4), 0x3D, 0x3D]
  | []                  => []

/-! ### Requests -/

/-- The request line and the first two fields, which all requests have. -/
def opening (verb : String) (target host basicAuth : Bytes) : Bytes :=
  Bytes.ofString verb ++ Bytes.ofString " " ++ target ++ Bytes.ofString " HTTP/1.1\r\n" ++
    Bytes.ofString "Host: " ++ host ++ Bytes.ofString "\r\n" ++
    Bytes.ofString "Authorization: Basic " ++ basicAuth ++ Bytes.ofString "\r\n"

/-- A request without a body. -/
def bodiless (verb : String) (target host basicAuth : Bytes) : Bytes :=
  opening verb target host basicAuth ++ Bytes.ofString "Content-Length: 0\r\n" ++
    Bytes.ofString "Connection: close\r\n" ++ Bytes.ofString "\r\n"

def buildSubscribeRequest (app : Bytes) (sources : List Bytes) (host basicAuth : Bytes) : Bytes :=
  bodiless "POST"
    (Bytes.ofString "/ari/applications/" ++ urlEncode app ++ Bytes.ofString "/subscription?" ++
      List.intercalate (Bytes.ofString "&")
        (sources.map fun s => Bytes.ofString "eventSource=" ++ urlEncode s))
    host basicAuth

def buildContinueRequest (channelId context extension : Bytes) (priority : ℤ)
    (host basicAuth : Bytes) : Bytes :=
  bodiless "POST"
    (Bytes.ofString "/ari/channels/" ++ urlEncode channelId ++ Bytes.ofString "/continue" ++
      Bytes.ofString "?context=" ++ urlEncode context ++
      Bytes.ofString "&extension=" ++ urlEncode extension ++
      Bytes.ofString "&priority=" ++ Decimal.ofInt priority)
    host basicAuth

def buildOriginateRequest (endpoint app appArgs channelId callerId host basicAuth : Bytes) :
    Bytes :=
  bodiless "POST"
    (Bytes.ofString "/ari/channels" ++
      Bytes.ofString "?endpoint=" ++ urlEncode endpoint ++
      Bytes.ofString "&app=" ++ urlEncode app ++
      Bytes.ofString "&appArgs=" ++ urlEncode appArgs ++
      Bytes.ofString "&channelId=" ++ urlEncode channelId ++
      Bytes.ofString "&formats=" ++ urlEncode (Bytes.ofString "opus,ulaw,alaw") ++
      -- an empty caller id is left off
      (if callerId ≠ [] then Bytes.ofString "&callerId=" ++ urlEncode callerId else []))
    host basicAuth

def buildCreateBridgeRequest (bridgeId type host basicAuth : Bytes) : Bytes :=
  bodiless "POST"
    (Bytes.ofString "/ari/bridges" ++ Bytes.ofString "?type=" ++ urlEncode type ++
      Bytes.ofString "&bridgeId=" ++ urlEncode bridgeId)
    host basicAuth

def buildAddChannelRequest (bridgeId channelId host basicAuth : Bytes) : Bytes :=
  bodiless "POST"
    (Bytes.ofString "/ari/bridges/" ++ urlEncode bridgeId ++ Bytes.ofString "/addChannel" ++
      Bytes.ofString "?channel=" ++ urlEncode channelId)
    host basicAuth

def buildHangupRequest (channelId reason host basicAuth : Bytes) : Bytes :=
  bodiless "DELETE"
    (Bytes.ofString "/ari/channels/" ++ urlEncode channelId ++ Bytes.ofString "?reason=" ++
      urlEncode reason)
    host basicAuth

def buildAnswerRequest (channelId host basicAuth : Bytes) : Bytes :=
  bodiless "POST"
    (Bytes.ofString "/ari/channels/" ++ urlEncode channelId ++ Bytes.ofString "/answer")
    host basicAuth

def buildGetEndpointRequest (tech resource host basicAuth : Bytes) : Bytes :=
  bodiless "GET"
    (Bytes.ofString "/ari/endpoints/" ++ urlEncode tech ++ Bytes.ofString "/" ++
      urlEncode resource)
    host basicAuth

def buildListEndpointsRequest (tech host basicAuth : Bytes) : Bytes :=
  bodiless "GET" (Bytes.ofString "/ari/endpoints/" ++ urlEncode tech) host basicAuth

/-- The path of a configuration object. -/
def configTarget (cfgClass objType id : Bytes) : Bytes :=
  Bytes.ofString "/ari/asterisk/config/dynamic/" ++ urlEncode cfgClass ++ Bytes.ofString "/" ++
    urlEncode objType ++ Bytes.ofString "/" ++ urlEncode id

def buildCreateDynamicConfigRequest (cfgClass objType id fieldsJson host basicAuth : Bytes) :
    Bytes :=
  opening "PUT" (configTarget cfgClass objType id) host basicAuth ++
    Bytes.ofString "Content-Type: application/json\r\n" ++
    Bytes.ofString "Content-Length: " ++ Decimal.ofNat fieldsJson.length ++
    Bytes.ofString "\r\n" ++ Bytes.ofString "Connection: close\r\n" ++ Bytes.ofString "\r\n" ++
    fieldsJson

def buildDeleteDynamicConfigRequest (cfgClass objType id host basicAuth : Bytes) : Bytes :=
  bodiless "DELETE" (configTarget cfgClass objType id) host basicAuth

/-! ### What was encoded -/

/-- The six bits that a letter stands for. -/
def bitsOf (l : UInt8) : ℕ := (alpha.idxOf? l).getD 0

/-- The bytes that groups of four letters stand for, with the padding left out. -/
def base64Decode : Bytes → Bytes
  | l₀ :: l₁ :: l₂ :: l₃ :: s =>
    UInt8.ofNat (bitsOf l₀ * 4 + bitsOf l₁ / 16) ::
      if l₂ = 0x3D then []
      else
        UInt8.ofNat (bitsOf l₁ % 16 * 16 + bitsOf l₂ / 4) ::
          if l₃ = 0x3D then []
          else UInt8.ofNat (bitsOf l₂ % 4 * 64 + bitsOf l₃) :: base64Decode s
  | _                         => []

lemma bitsOf_alpha : ∀ n < 64, bitsOf (alpha.getD n 0) = n ∧ alpha.getD n 0 ≠ 0x3D ∧
    alpha.getD n 0 ≠ 0x24 := by
  decide +kernel

lemma and_lt (n : ℕ) : n &&& 0x3F < 64 := Nat.lt_succ_of_le Nat.and_le_right

@[simp] lemma bitsOf_letter (n : ℕ) : bitsOf (letter n) = n % 64 := by
  rw [letter, (bitsOf_alpha _ (and_lt n)).1]
  exact Nat.and_two_pow_sub_one_eq_mod n 6

/-- No letter is the padding, or a dollar sign. -/
lemma letter_ne (n : ℕ) : letter n ≠ 0x3D ∧ letter n ≠ 0x24 := (bitsOf_alpha _ (and_lt n)).2

/-- Bits of two bytes side by side. -/
lemma shiftLeft_or_shiftRight {b i j : ℕ} (hb : b < 2 ^ (i + j)) (a : ℕ) :
    a <<< i ||| b >>> j = a * 2 ^ i + b / 2 ^ j := by
  have hlt : b >>> j < 2 ^ i := by
    rw [Nat.shiftRight_eq_div_pow]
    exact Nat.div_lt_of_lt_mul (by rwa [← pow_add, add_comm])
  rw [← Nat.shiftLeft_add_eq_or_of_lt hlt, Nat.shiftLeft_eq, Nat.shiftRight_eq_div_pow]

lemma ofNat_eq_of_toNat {b : UInt8} {n : ℕ} (h : n = b.toNat) : UInt8.ofNat n = b := by
  rw [h, UInt8.ofNat_toNat]

/-- What was encoded is read back. -/
theorem base64Decode_base64Encode (s : Bytes) : base64Decode (base64Encode s) = s := by
  fun_induction base64Encode s with
  | case1 b₀ b₁ b₂ s ih =>
    have h₀ := b₀.toNat_lt
    have h₁ := b₁.toNat_lt
    have h₂ := b₂.toNat_lt
    rw [base64Decode, if_neg (letter_ne _).1, if_neg (letter_ne _).1, ih]
    simp only [bitsOf_letter, shiftLeft_or_shiftRight (i := 4) (j := 4) h₁,
      shiftLeft_or_shiftRight (i := 2) (j := 6) h₂]
    simp only [Nat.shiftRight_eq_div_pow]
    congr 1
    · exact ofNat_eq_of_toNat (by omega)
    · congr 1
      · exact ofNat_eq_of_toNat (by omega)
      · congr 1
        exact ofNat_eq_of_toNat (by omega)
  | case2 b₀ b₁ =>
    have h₀ := b₀.toNat_lt
    have h₁ := b₁.toNat_lt
    rw [base64Decode, if_neg (letter_ne _).1, if_pos rfl]
    simp only [bitsOf_letter, shiftLeft_or_shiftRight (i := 4) (j := 4) h₁]
    simp only [Nat.shiftRight_eq_div_pow, Nat.shiftLeft_eq]
    congr 1
    · exact ofNat_eq_of_toNat (by omega)
    · congr 1
      exact ofNat_eq_of_toNat (by omega)
  | case3 b₀ =>
    have h₀ := b₀.toNat_lt
    rw [base64Decode, if_pos rfl]
    simp only [bitsOf_letter, Nat.shiftRight_eq_div_pow, Nat.shiftLeft_eq]
    congr 1
    exact ofNat_eq_of_toNat (by omega)
  | case4 => rfl

/-- The text has letters and padding only. -/
lemma dollar_not_mem_base64Encode (s : Bytes) : 0x24 ∉ base64Encode s := by
  have hletter : ∀ n, 0x24 ≠ letter n := fun n => (letter_ne n).2.symm
  fun_induction base64Encode s with
  | case1 b₀ b₁ b₂ s ih => simp [hletter, ih]
  | case2 b₀ b₁ => simp [hletter]
  | case3 b₀ => simp [hletter]
  | case4 => exact List.not_mem_nil

lemma letter_ascii (n : ℕ) : letter n < 0x80 := by
  have hall : ∀ n < 64, alpha.getD n 0 < 0x80 := by decide +kernel
  exact hall _ (and_lt n)

lemma ascii_of_mem_base64Encode (s : Bytes) : ∀ b ∈ base64Encode s, b < 0x80 := by
  have hpad : (0x3D : UInt8) < 0x80 := by decide
  fun_induction base64Encode s with
  | case1 b₀ b₁ b₂ s ih =>
    simp only [List.forall_mem_cons, letter_ascii, true_and]
    exact ih
  | case2 b₀ b₁ => simp [letter_ascii, hpad]
  | case3 b₀ => simp [letter_ascii, hpad]
  | case4 => exact fun b hb => absurd hb List.not_mem_nil

end AriRestClient
