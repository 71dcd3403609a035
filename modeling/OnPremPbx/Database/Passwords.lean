import OnPremPbx.Ari.AriRestClient
import OnPremPbx.Text.Decimal

/-!
# Passwords

`hash_password` and `verify_password` of `MongodbClient` (`mongodbc.cpp`). The text that is stored
has the number of iterations, the salt, and the key that PBKDF2 derives from the password.
-/

open Text

namespace MongodbClient

def kPbkdf2Iterations : ℕ := 600000

def kPbkdf2KeyLen : ℕ := 32

/-- What the two functions take from OpenSSL, and from the memory. -/
structure Passwords where
  /-- `base64_encode` -/
  encode : Bytes → Bytes
  /-- what `base64_decode` reads of a text that is not empty -/
  decode : Bytes → Bytes
  /-- `PKCS5_PBKDF2_HMAC`, of a password, a salt and a number of iterations -/
  deriveKey : Bytes → Bytes → ℤ → Bytes
  /-- the bytes behind the array `key` -/
  behind : ℕ → UInt8

namespace Passwords

variable (c : Passwords)

def base64Decode (encoded : Bytes) : Bytes := if encoded = [] then [] else c.decode encoded

def hashPassword (salt password : Bytes) : Bytes :=
  Bytes.ofString "$pbkdf2-sha256$i=" ++ Decimal.ofNat kPbkdf2Iterations ++ Bytes.ofString "$" ++
    c.encode salt ++ Bytes.ofString "$" ++
    c.encode (c.deriveKey password salt kPbkdf2Iterations)

/-- `CRYPTO_memcmp`: as many bytes from the key on as there are in the hash. -/
def sameBytes (key hash : Bytes) : Bool :=
  (key ++ (List.range hash.length).map c.behind).take hash.length = hash

/-- The number of iterations, with `none` where the conversion throws. -/
def iterations (part : Bytes) : Option ℤ :=
  if Bytes.ofString "i=" <+: part then stoi (part.drop 2) else some kPbkdf2Iterations

/-- `verify_password`, with `none` where it throws. -/
def verifyPassword (password storedHash : Bytes) : Option Bool :=
  match (getlines 0x24 storedHash).filter (· ≠ []) with
  | name :: count :: salt :: hash :: _ =>
    if name = Bytes.ofString "pbkdf2-sha256" then
      (iterations count).map fun n =>
        let saltBytes := c.base64Decode salt
        let hashBytes := c.base64Decode hash
        if saltBytes = [] ∨ hashBytes = [] then false
        else c.sameBytes (c.deriveKey password saltBytes n) hashBytes
    else some false
  | _ => some false

/-! ### What is stored is verified -/

/-- How OpenSSL encodes, and how long a key is. -/
structure Lawful : Prop where
  decode_encode : ∀ s, s ≠ [] → c.encode s ≠ [] ∧ c.decode (c.encode s) = s
  no_dollar : ∀ s, 0x24 ∉ c.encode s
  length_key : ∀ password salt n, (c.deriveKey password salt n).length = kPbkdf2KeyLen

variable {c}

lemma sameBytes_eq {key hash : Bytes} (h : key.length = hash.length) :
    c.sameBytes key hash = decide (key = hash) := by
  rw [sameBytes, List.take_left' h]

lemma iterations_ofNat :
    iterations (Bytes.ofString "i=" ++ Decimal.ofNat kPbkdf2Iterations) =
      some (kPbkdf2Iterations : ℤ) := by
  have hdrop : (Bytes.ofString "i=" ++ Decimal.ofNat kPbkdf2Iterations).drop 2 =
      Decimal.ofNat kPbkdf2Iterations := rfl
  rw [iterations, if_pos (List.prefix_append _ _), hdrop, stoi, Decimal.readNumber_ofNat]
  rfl

lemma Lawful.base64Decode (hc : c.Lawful) {s : Bytes} (hs : s ≠ []) :
    c.base64Decode (c.encode s) = s := by
  obtain ⟨hne, hdecode⟩ := hc.decode_encode s hs
  rw [Passwords.base64Decode, if_neg hne, hdecode]

lemma Lawful.key_ne_nil (hc : c.Lawful) (password salt : Bytes) (n : ℤ) :
    c.deriveKey password salt n ≠ [] := by
  apply List.ne_nil_of_length_pos
  rw [hc.length_key]
  exact Nat.zero_lt_succ _

/-- The parts of a text `$pbkdf2-sha256$i=<n>$<salt>$<hash>`. -/
structure Stored where
  count : Bytes
  salt : Bytes
  hash : Bytes
  isDigit : ∀ d ∈ count, isDigit 10 d = true
  count_ne_nil : count ≠ []
  salt_ne_nil : salt ≠ []
  hash_ne_nil : hash ≠ []
  dollar_not_mem_salt : 0x24 ∉ salt
  dollar_not_mem_hash : 0x24 ∉ hash

namespace Stored

variable (t : Stored)

def text : Bytes :=
  Bytes.ofString "$pbkdf2-sha256$i=" ++ t.count ++ Bytes.ofString "$" ++ t.salt ++
    Bytes.ofString "$" ++ t.hash

/-- The number of iterations. -/
def n : ℕ := digitsValue 10 0 t.count

lemma dollar_not_mem_count : 0x24 ∉ Bytes.ofString "i=" ++ t.count := by
  rw [List.mem_append, not_or]
  exact ⟨by decide, fun hmem => ne_of_isDigit (t.isDigit _ hmem) (by decide) rfl⟩

lemma getlines_text : getlines 0x24 t.text =
    [[], Bytes.ofString "pbkdf2-sha256", Bytes.ofString "i=" ++ t.count, t.salt, t.hash] := by
  have hfront : Bytes.ofString "$pbkdf2-sha256$i=" =
      0x24 :: (Bytes.ofString "pbkdf2-sha256" ++ 0x24 :: Bytes.ofString "i=") := by decide
  have hsplit : t.text = [] ++ 0x24 :: (Bytes.ofString "pbkdf2-sha256" ++ 0x24 ::
      ((Bytes.ofString "i=" ++ t.count) ++ 0x24 :: (t.salt ++ 0x24 :: t.hash))) := by
    rw [text, hfront, show Bytes.ofString "$" = [0x24] by decide]
    simp only [List.append_assoc, List.cons_append, List.nil_append]
  rw [hsplit, getlines_append List.not_mem_nil, getlines_append (by decide),
    getlines_append t.dollar_not_mem_count, getlines_append t.dollar_not_mem_salt,
    getlines_of_not_mem t.hash_ne_nil t.dollar_not_mem_hash]

/-- The parts of the text that are not empty. -/
lemma parts_text : (getlines 0x24 t.text).filter (· ≠ []) =
    [Bytes.ofString "pbkdf2-sha256", Bytes.ofString "i=" ++ t.count, t.salt, t.hash] := by
  have hname : Bytes.ofString "pbkdf2-sha256" ≠ [] := by decide
  have hcount : Bytes.ofString "i=" ++ t.count ≠ [] :=
    List.append_ne_nil_of_left_ne_nil (by decide) _
  rw [getlines_text]
  simp [hname, hcount, t.salt_ne_nil, t.hash_ne_nil]

end Stored

lemma iterations_count {count : Bytes} :
    iterations (Bytes.ofString "i=" ++ count) = stoi count := by
  rw [iterations, if_pos (List.prefix_append _ _)]
  rfl

lemma Stored.iterations_eq {t : Stored} {n : ℤ}
    (h : iterations (Bytes.ofString "i=" ++ t.count) = some n) : n = t.n := by
  rw [iterations_count, stoi, readNumber_digits (by decide) t.count_ne_nil t.isDigit] at h
  simp only [Bool.false_eq_true, if_false, Option.ite_none_right_eq_some, Option.some.injEq] at h
  exact h.2.symm

/-- What `hash_password` stores. -/
def Lawful.stored (hc : c.Lawful) {salt : Bytes} (hsalt : salt ≠ []) (password : Bytes) :
    Stored where
  count := Decimal.ofNat kPbkdf2Iterations
  salt := c.encode salt
  hash := c.encode (c.deriveKey password salt kPbkdf2Iterations)
  isDigit _ hd := (Decimal.isDigit_of_mem hd).2
  count_ne_nil := Decimal.ofNat_ne_nil _
  salt_ne_nil := (hc.decode_encode salt hsalt).1
  hash_ne_nil := (hc.decode_encode _ (hc.key_ne_nil password salt kPbkdf2Iterations)).1
  dollar_not_mem_salt := hc.no_dollar _
  dollar_not_mem_hash := hc.no_dollar _

/-- The parts of a stored text. -/
lemma Lawful.parts (hc : c.Lawful) {salt : Bytes} (hsalt : salt ≠ []) (password : Bytes) :
    (getlines 0x24 (c.hashPassword salt password)).filter (· ≠ []) =
      [Bytes.ofString "pbkdf2-sha256",
        Bytes.ofString "i=" ++ Decimal.ofNat kPbkdf2Iterations, c.encode salt,
        c.encode (c.deriveKey password salt kPbkdf2Iterations)] :=
  (hc.stored hsalt password).parts_text

/-- A password is verified against the text of another exactly if both have the same key. -/
theorem verifyPassword_hashPassword (hc : c.Lawful) {salt : Bytes} (hsalt : salt ≠ [])
    (p q : Bytes) :
    c.verifyPassword p (c.hashPassword salt q) =
      some (decide (c.deriveKey p salt kPbkdf2Iterations =
        c.deriveKey q salt kPbkdf2Iterations)) := by
  have hkey := hc.key_ne_nil q salt kPbkdf2Iterations
  rw [verifyPassword, hc.parts hsalt]
  dsimp only
  rw [if_pos rfl, iterations_ofNat, Option.map_some, hc.base64Decode hsalt, hc.base64Decode hkey,
    if_neg (not_or.mpr ⟨hsalt, hkey⟩), sameBytes_eq]
  rw [hc.length_key, hc.length_key]

/-! ### What is verified is stored -/

variable (c)

/-- The number of iterations, the salt and the hash of a text that goes on to the comparison. -/
def compared (s : Bytes) : Option (Bytes × Bytes × Bytes) :=
  match (getlines 0x24 s).filter (· ≠ []) with
  | name :: count :: salt :: hash :: _ =>
    if name = Bytes.ofString "pbkdf2-sha256" then some (count, salt, hash) else none
  | _ => none

/-- There is a hash, and the bytes from the key on are the same as those of the hash. -/
def Agrees (password salt hash : Bytes) (n : ℤ) : Prop :=
  c.base64Decode salt ≠ [] ∧ c.base64Decode hash ≠ [] ∧
    c.sameBytes (c.deriveKey password (c.base64Decode salt) n) (c.base64Decode hash) = true

instance (password salt hash : Bytes) (n : ℤ) : Decidable (c.Agrees password salt hash n) :=
  inferInstanceAs (Decidable (_ ∧ _ ∧ _))

/-- The hash is as long as a key. -/
def Whole (t : Stored) : Prop := (c.base64Decode t.hash).length = kPbkdf2KeyLen

/-- The hash is the key of the password. -/
def HashOf (t : Stored) (password : Bytes) : Prop :=
  c.base64Decode t.hash = c.deriveKey password (c.base64Decode t.salt) t.n

/-- The verification comes to an end, and where it says yes the text is one of the password. -/
def Truthful (password s : Bytes) : Prop :=
  ∃ b, c.verifyPassword password s = some b ∧
    (b = true → ∃ t : Stored, t.text = s ∧ c.Whole t ∧ c.HashOf t password)

/-- The number of iterations can be read, and the text has the form of a stored one unless the hash
in it differs anyway. -/
def Fits (password s : Bytes) : Prop :=
  ∀ count salt hash, compared s = some (count, salt, hash) →
    ∃ n, iterations count = some n ∧
      ((∃ t : Stored, t.text = s ∧ c.Whole t) ∨ ¬ c.Agrees password salt hash n)

variable {c}

lemma verifyPassword_of_compared_none {s : Bytes} (h : compared s = none) (password : Bytes) :
    c.verifyPassword password s = some false := by
  rw [compared] at h
  rw [verifyPassword]
  split at h
  · rw [if_neg fun hname => by simp [hname] at h]
  · rfl

lemma verifyPassword_of_compared {s count salt hash : Bytes}
    (h : compared s = some (count, salt, hash)) (password : Bytes) :
    c.verifyPassword password s =
      (iterations count).map fun n => decide (c.Agrees password salt hash n) := by
  rw [compared] at h
  rw [verifyPassword]
  split at h
  · rw [Option.ite_none_right_eq_some, Option.some.injEq, Prod.mk.injEq, Prod.mk.injEq] at h
    obtain ⟨hname, rfl, rfl, rfl⟩ := h
    dsimp only
    rw [if_pos hname]
    congr 1
    funext n
    simp only [Agrees]
    split_ifs with hnil
    · exact (decide_eq_false fun hagrees => hnil.elim hagrees.1 hagrees.2.1).symm
    · simp [not_or.mp hnil]
  · cases h

lemma Stored.compared_text (t : Stored) :
    compared t.text = some (Bytes.ofString "i=" ++ t.count, t.salt, t.hash) := by
  rw [compared, t.parts_text]
  exact if_pos rfl

/-- Where the hash is as long as a key, the comparison is one of the key. -/
lemma Lawful.hashOf (hc : c.Lawful) {t : Stored} (hwhole : c.Whole t) {password : Bytes}
    (h : c.Agrees password t.salt t.hash t.n) : c.HashOf t password := by
  have hsame := h.2.2
  have hlength := hc.length_key password (c.base64Decode t.salt) t.n
  rw [sameBytes_eq (hlength.trans hwhole.symm)] at hsame
  exact (of_decide_eq_true hsame).symm

lemma Lawful.truthful_iff (hc : c.Lawful) (password s : Bytes) :
    c.Truthful password s ↔ c.Fits password s := by
  constructor
  · rintro ⟨b, hverify, htrue⟩ count salt hash hcompared
    rw [verifyPassword_of_compared hcompared, Option.map_eq_some_iff] at hverify
    obtain ⟨n, hn, rfl⟩ := hverify
    refine ⟨n, hn, ?_⟩
    by_cases hagrees : c.Agrees password salt hash n
    · obtain ⟨t, ht, hwhole, -⟩ := htrue (decide_eq_true hagrees)
      exact Or.inl ⟨t, ht, hwhole⟩
    · exact Or.inr hagrees
  · intro hfits
    cases hcompared : compared s with
    | none => exact ⟨false, verifyPassword_of_compared_none hcompared password, nofun⟩
    | some parts =>
      obtain ⟨count, salt, hash⟩ := parts
      obtain ⟨n, hn, hcase⟩ := hfits count salt hash hcompared
      refine ⟨decide (c.Agrees password salt hash n), ?_, fun htrue => ?_⟩
      · rw [verifyPassword_of_compared hcompared, hn]
        rfl
      · have hagrees := of_decide_eq_true htrue
        rcases hcase with ⟨t, rfl, hwhole⟩ | hnot
        · rw [t.compared_text, Option.some.injEq, Prod.mk.injEq, Prod.mk.injEq] at hcompared
          obtain ⟨rfl, rfl, rfl⟩ := hcompared
          rw [Stored.iterations_eq hn] at hagrees
          exact ⟨t, rfl, hwhole, hc.hashOf hwhole hagrees⟩
        · exact absurd hagrees hnot

/-- What was stored is verified as it should; another text is as long as it fits. -/
theorem verifyPassword_truthful_iff (hc : c.Lawful) :
    (∀ salt p q, salt ≠ [] → c.verifyPassword p (c.hashPassword salt q) =
      some (decide (c.deriveKey p salt kPbkdf2Iterations =
        c.deriveKey q salt kPbkdf2Iterations))) ∧
    ∀ password s, c.Truthful password s ↔ c.Fits password s :=
  ⟨fun _ p q hsalt => verifyPassword_hashPassword hc hsalt p q, hc.truthful_iff⟩

/-- Passwords with the base64 of the requests, and the password and the salt for a key. -/
def plain : Passwords where
  encode := AriRestClient.base64Encode
  decode := AriRestClient.base64Decode
  deriveKey := fun password salt _ => (password ++ salt ++ List.replicate 32 0).take 32
  behind := fun _ => 0

lemma plain_lawful : plain.Lawful where
  decode_encode s hs := by
    have hdecode := AriRestClient.base64Decode_base64Encode s
    refine ⟨fun hnil => hs ?_, hdecode⟩
    rw [← hdecode, show AriRestClient.base64Encode s = [] from hnil]
    rfl
  no_dollar := AriRestClient.dollar_not_mem_base64Encode
  length_key password salt n := by
    change ((password ++ salt ++ List.replicate 32 0).take 32).length = 32
    simp only [List.length_take, List.length_append, List.length_replicate]
    omega

theorem verifyPassword_truthful_iff_plain :
    (∀ salt p q, salt ≠ [] → plain.verifyPassword p (plain.hashPassword salt q) =
      some (decide (plain.deriveKey p salt kPbkdf2Iterations =
        plain.deriveKey q salt kPbkdf2Iterations))) ∧
    ∀ password s, plain.Truthful password s ↔ plain.Fits password s :=
  verifyPassword_truthful_iff plain_lawful

/-- A hash of one byte is enough if the key starts with it, and a number of iterations that is no
number is not refused. -/
theorem short_hash_verified :
    ¬ plain.Truthful (Bytes.ofString "pa") (Bytes.ofString "$pbkdf2-sha256$i=1$QQ==$cA==") ∧
    ¬ plain.Truthful (Bytes.ofString "pa") (Bytes.ofString "$pbkdf2-sha256$i=x$QQ==$cA==") := by
  constructor
  · rintro ⟨b, hverify, htrue⟩
    have hyes : plain.verifyPassword (Bytes.ofString "pa")
        (Bytes.ofString "$pbkdf2-sha256$i=1$QQ==$cA==") = some true := by decide
    rw [hyes, Option.some.injEq] at hverify
    obtain ⟨t, ht, hwhole, -⟩ := htrue hverify.symm
    have hparts := t.compared_text
    rw [ht, show compared (Bytes.ofString "$pbkdf2-sha256$i=1$QQ==$cA==") =
      some (Bytes.ofString "i=1", Bytes.ofString "QQ==", Bytes.ofString "cA==") by decide,
      Option.some.injEq, Prod.mk.injEq, Prod.mk.injEq] at hparts
    rw [Whole, ← hparts.2.2] at hwhole
    exact absurd hwhole (by decide)
  · rintro ⟨b, hverify, -⟩
    have hthrow : plain.verifyPassword (Bytes.ofString "pa")
        (Bytes.ofString "$pbkdf2-sha256$i=x$QQ==$cA==") = none := by decide
    rw [hthrow] at hverify
    cases hverify

end Passwords

end MongodbClient
