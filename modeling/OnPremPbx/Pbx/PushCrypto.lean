import OnPremPbx.Tunnel.SipFrame

/-!
# The record of a push message

`encrypt_payload_impl` (`push_sender.cpp`) makes the record that a push service passes on, and
`decrypt_payload_for_testing` reads it as a browser would. The primitives of OpenSSL are parameters,
taken as ideal. A payload is read back except for zeros at its end, which the reader takes for
padding, and the record says that it has 4096 bytes whatever the length of the payload is.
-/

open SipFrame

namespace PushCrypto

/-- The primitives; a function that throws gives `none`. -/
structure Primitives where
  hkdfSha256 (salt ikm info : Bytes) (length : ℕ) : Bytes
  aes128gcmEncrypt (key nonce plaintext : Bytes) : Bytes
  aes128gcmDecrypt (key nonce ciphertext : Bytes) : Option Bytes
  ecdhP256 (privatePem peerPub : Bytes) : Option Bytes
  p256PublicFromPem (privatePem : Bytes) : Option Bytes

/-! ### Records -/

/-- A text of the key derivation, with the zero at its end. -/
def infoText (s : String) : Bytes := Bytes.ofString s ++ [0x00]

def u32Be (v : UInt32) : Bytes :=
  [((v >>> 24) &&& 0xFF).toUInt8, ((v >>> 16) &&& 0xFF).toUInt8, ((v >>> 8) &&& 0xFF).toUInt8,
    (v &&& 0xFF).toUInt8]

/-- The zeros at the end are taken off. -/
def stripZeros (s : Bytes) : Bytes := (s.reverse.dropWhile (· == 0x00)).reverse

namespace Primitives

variable (c : Primitives)

/-- `encrypt_payload_impl`: salt, record size, length of the key, key, and ciphertext. -/
def encryptPayloadImpl (payload p256dhUncompressed auth serverPrivPem serverPubUncompressed
    salt : Bytes) : Option Bytes := do
  let shared ← c.ecdhP256 serverPrivPem p256dhUncompressed
  let keyInfo := infoText "WebPush: info" ++ p256dhUncompressed ++ serverPubUncompressed
  let ikm := c.hkdfSha256 auth shared keyInfo 32
  let cek := c.hkdfSha256 salt ikm (infoText "Content-Encoding: aes128gcm") 16
  let nonce := c.hkdfSha256 salt ikm (infoText "Content-Encoding: nonce") 12
  let padded := payload ++ [0x02]
  let ct := c.aes128gcmEncrypt cek nonce padded
  some (salt ++ u32Be 4096 ++ [UInt8.ofNat serverPubUncompressed.length] ++
    serverPubUncompressed ++ ct)

/-- What follows the marker of the last record in a text that was decrypted. -/
def unpad (padded : Bytes) : Option Bytes :=
  if padded.getLast? = some 0x02 then some (stripZeros padded.dropLast) else none

/-- `decrypt_payload_for_testing`. -/
def decryptPayloadForTesting (privatePem auth record : Bytes) : Option Bytes :=
  if record.length < 21 then none
  else
    let salt := record.take 16
    let idlen := (record.getD 20 0).toNat
    if record.length < 21 + idlen then none
    else do
      let serverPub := (record.drop 21).take idlen
      let ciphertext := record.drop (21 + idlen)
      let subscriberPub ← c.p256PublicFromPem privatePem
      let shared ← c.ecdhP256 privatePem serverPub
      let keyInfo := infoText "WebPush: info" ++ subscriberPub ++ serverPub
      let ikm := c.hkdfSha256 auth shared keyInfo 32
      let cek := c.hkdfSha256 salt ikm (infoText "Content-Encoding: aes128gcm") 16
      let nonce := c.hkdfSha256 salt ikm (infoText "Content-Encoding: nonce") 12
      let padded ← c.aes128gcmDecrypt cek nonce ciphertext
      unpad padded

/-! ### What is taken for granted -/

/-- A private key with its public key, an uncompressed point. -/
structure KeyPair where
  privatePem : Bytes
  publicUncompressed : Bytes
  fromPem : c.p256PublicFromPem privatePem = some publicUncompressed
  length : publicUncompressed.length = 65

/-- The primitives as they are meant: both sides agree on a secret, the derivation gives as many
bytes as it is asked for, and decryption inverts encryption, which adds a tag of 16 bytes. -/
structure Ideal : Prop where
  agree (a b : c.KeyPair) : ∃ shared, c.ecdhP256 a.privatePem b.publicUncompressed = some shared ∧
    c.ecdhP256 b.privatePem a.publicUncompressed = some shared
  derived (salt ikm info : Bytes) (n : ℕ) : (c.hkdfSha256 salt ikm info n).length = n
  opens {key nonce : Bytes} (plaintext : Bytes) : key.length = 16 → nonce.length = 12 →
    c.aes128gcmDecrypt key nonce (c.aes128gcmEncrypt key nonce plaintext) = some plaintext
  tagged {key nonce : Bytes} (plaintext : Bytes) : key.length = 16 → nonce.length = 12 →
    (c.aes128gcmEncrypt key nonce plaintext).length = plaintext.length + 16

end Primitives

/-! ### The parts of a record -/

/-- The record size that the header declares. -/
def recordSize (record : Bytes) : ℕ :=
  (readU32Be (record.getD 16 0) (record.getD 17 0) (record.getD 18 0) (record.getD 19 0)).toNat

/-- What comes after the key of a record. -/
def ciphertext (record : Bytes) : Bytes := record.drop (21 + (record.getD 20 0).toNat)

lemma u32Be_eq (v : UInt32) :
    u32Be v = [(v >>> 24).toUInt8, (v >>> 16).toUInt8, (v >>> 8).toUInt8, v.toUInt8] :=
  writeU32Be_eq v

section

variable {salt pub ct : Bytes}

/-- A record of a salt, a size, a key and a ciphertext. -/
def recordOf (salt : Bytes) (size : UInt32) (pub ct : Bytes) : Bytes :=
  salt ++ u32Be size ++ [UInt8.ofNat pub.length] ++ pub ++ ct

lemma recordOf_eq (size : UInt32) : recordOf salt size pub ct =
    salt ++ (size >>> 24).toUInt8 :: (size >>> 16).toUInt8 :: (size >>> 8).toUInt8 ::
      size.toUInt8 :: UInt8.ofNat pub.length :: (pub ++ ct) := by
  rw [recordOf, u32Be_eq]
  simp

lemma getD_recordOf (hsalt : salt.length = 16) (size : UInt32) (i : ℕ) :
    (recordOf salt size pub ct).getD (16 + i) 0 =
      ((size >>> 24).toUInt8 :: (size >>> 16).toUInt8 :: (size >>> 8).toUInt8 ::
        size.toUInt8 :: UInt8.ofNat pub.length :: (pub ++ ct)).getD i 0 := by
  rw [recordOf_eq, List.getD_eq_getElem?_getD, List.getElem?_append_right (by omega), hsalt,
    Nat.add_sub_cancel_left, List.getD_eq_getElem?_getD]

lemma recordSize_recordOf (hsalt : salt.length = 16) (size : UInt32) :
    recordSize (recordOf salt size pub ct) = size.toNat := by
  rw [recordSize, getD_recordOf hsalt size 0, getD_recordOf hsalt size 1,
    getD_recordOf hsalt size 2, getD_recordOf hsalt size 3]
  exact congrArg UInt32.toNat (readU32Be_write size)

/-- The byte before the key is its length. -/
lemma idlen_recordOf (hsalt : salt.length = 16) (hpub : pub.length < 256) (size : UInt32) :
    ((recordOf salt size pub ct).getD 20 0).toNat = pub.length := by
  rw [getD_recordOf hsalt size 4]
  exact UInt8.toNat_ofNat_of_lt' hpub

lemma drop_recordOf (hsalt : salt.length = 16) (size : UInt32) :
    (recordOf salt size pub ct).drop 21 = pub ++ ct := by
  rw [recordOf, List.append_assoc _ pub ct, List.drop_left']
  simp [u32Be, hsalt]

lemma drop_key_recordOf (hsalt : salt.length = 16) (size : UInt32) :
    (recordOf salt size pub ct).drop (21 + pub.length) = ct := by
  rw [← List.drop_drop, drop_recordOf hsalt, List.drop_left]

lemma take_recordOf (hsalt : salt.length = 16) (size : UInt32) :
    (recordOf salt size pub ct).take 16 = salt := by
  rw [recordOf_eq, ← hsalt, List.take_left]

lemma length_recordOf (hsalt : salt.length = 16) (size : UInt32) :
    (recordOf salt size pub ct).length = 21 + pub.length + ct.length := by
  simp [recordOf, u32Be, hsalt]
  omega

end

/-! ### Padding -/

/-- What is stripped off a payload are the zeros at its end. -/
lemma stripZeros_eq_self_iff (s : Bytes) : stripZeros s = s ↔ s.getLast? ≠ some 0x00 := by
  rw [stripZeros, ← List.reverse_inj, List.reverse_reverse, ← List.head?_reverse]
  cases s.reverse with
  | nil => simp
  | cons b bs =>
    rw [List.head?_cons]
    by_cases hb : b = 0x00
    · subst hb
      have hlt : (bs.dropWhile (· == 0x00)).length < ((0x00 : UInt8) :: bs).length :=
        Nat.lt_succ_of_le (List.dropWhile_suffix _).length_le
      simp only [List.dropWhile_cons, beq_self_eq_true, if_true]
      exact ⟨fun heq => absurd (congrArg List.length heq) hlt.ne, fun h => absurd rfl h⟩
    · simp [hb]

namespace Primitives

variable {c : Primitives}

lemma unpad_marked (payload : Bytes) : unpad (payload ++ [0x02]) = some (stripZeros payload) := by
  rw [unpad, List.getLast?_concat, if_pos rfl, List.dropLast_concat]

/-! ### Sender and receiver -/

section

variable (server subscriber : c.KeyPair) (auth : Bytes) {salt : Bytes}

/-- Whatever is encrypted, the receiver derives the keys of the sender. -/
lemma encryptPayloadImpl_spec (hc : c.Ideal) (hsalt : salt.length = 16) (payload : Bytes) :
    ∃ ct, c.encryptPayloadImpl payload subscriber.publicUncompressed auth server.privatePem
        server.publicUncompressed salt =
          some (recordOf salt 4096 server.publicUncompressed ct) ∧
      ct.length = payload.length + 17 ∧
      c.decryptPayloadForTesting subscriber.privatePem auth
        (recordOf salt 4096 server.publicUncompressed ct) = some (stripZeros payload) := by
  obtain ⟨shared, hserver, hsubscriber⟩ := hc.agree server subscriber
  rw [encryptPayloadImpl, hserver]
  refine ⟨_, rfl, ?_, ?_⟩
  · rw [hc.tagged _ (hc.derived _ _ _ _) (hc.derived _ _ _ _), List.length_append]
    rfl
  · have hpub : server.publicUncompressed.length < 256 := by rw [server.length]; decide
    rw [decryptPayloadForTesting]
    simp only [length_recordOf hsalt, idlen_recordOf hsalt hpub, drop_recordOf hsalt,
      drop_key_recordOf hsalt, take_recordOf hsalt, List.take_left]
    rw [if_neg (by omega), if_neg (by omega), subscriber.fromPem, hsubscriber]
    simp only [Option.bind_eq_bind, Option.bind_some,
      hc.opens _ (hc.derived _ _ _ _) (hc.derived _ _ _ _)]
    exact unpad_marked payload

/-- The receiver gets the payload, in a message that is one record: the ciphertext is not longer
than the record size. -/
structure Opened (c : Primitives) (subscriber : c.KeyPair) (auth payload record : Bytes) :
    Prop where
  payload : c.decryptPayloadForTesting subscriber.privatePem auth record = some payload
  single : (ciphertext record).length ≤ recordSize record

/-- The receiver gets exactly the payloads without a zero at their end which leave room for the
marker and the tag in the record. -/
theorem opened_iff (hc : c.Ideal) (hsalt : salt.length = 16) (payload : Bytes) :
    (∃ record, c.encryptPayloadImpl payload subscriber.publicUncompressed auth server.privatePem
        server.publicUncompressed salt = some record ∧
      c.Opened subscriber auth payload record) ↔
      payload.getLast? ≠ some 0x00 ∧ payload.length + 17 ≤ 4096 := by
  obtain ⟨ct, hencrypt, hct, hdecrypt⟩ :=
    encryptPayloadImpl_spec server subscriber auth hc hsalt payload
  have hpub : server.publicUncompressed.length < 256 := by rw [server.length]; decide
  have hcipher : ciphertext (recordOf salt 4096 server.publicUncompressed ct) = ct := by
    rw [ciphertext, idlen_recordOf hsalt hpub, drop_key_recordOf hsalt]
  have hsize : recordSize (recordOf salt 4096 server.publicUncompressed ct) = 4096 :=
    recordSize_recordOf hsalt 4096
  rw [← stripZeros_eq_self_iff, ← hct]
  constructor
  · rintro ⟨record, hrecord, hopened⟩
    obtain rfl := Option.some.inj (hencrypt.symm.trans hrecord)
    have hpayload := hopened.payload
    have hsingle := hopened.single
    rw [hdecrypt] at hpayload
    rw [hcipher, hsize] at hsingle
    exact ⟨Option.some.inj hpayload, hsingle⟩
  · rintro ⟨hstrip, hlen⟩
    refine ⟨_, hencrypt, ?_, ?_⟩
    · rw [hdecrypt, hstrip]
    · rw [hcipher, hsize]
      exact hlen

end

end Primitives

/-! ### Primitives that are ideal -/

/-- Keys that are their own public keys, a derivation that cuts its inputs to length, and a cipher
that adds the key as a tag. -/
def toyPrimitives : Primitives where
  hkdfSha256 salt ikm info n := (salt ++ ikm ++ info ++ List.replicate n 0).take n
  aes128gcmEncrypt key _ plaintext := plaintext ++ key
  aes128gcmDecrypt key _ ciphertext :=
    if key <:+ ciphertext then some (ciphertext.take (ciphertext.length - key.length)) else none
  ecdhP256 privatePem peerPub :=
    if privatePem.length = 65 ∧ peerPub.length = 65 then
      some (List.zipWith (· ^^^ ·) privatePem peerPub)
    else none
  p256PublicFromPem privatePem := if privatePem.length = 65 then some privatePem else none

lemma toyPrimitives_key (a : toyPrimitives.KeyPair) :
    a.publicUncompressed = a.privatePem ∧ a.privatePem.length = 65 := by
  have h := a.fromPem
  simp only [toyPrimitives] at h
  split_ifs at h with hlen
  exact ⟨(Option.some.inj h).symm, hlen⟩

lemma toyPrimitives_fromPem (b : UInt8) :
    toyPrimitives.p256PublicFromPem (List.replicate 65 b) = some (List.replicate 65 b) := by
  simp [toyPrimitives]

lemma toyPrimitives_ideal : toyPrimitives.Ideal := by
  refine ⟨fun a b => ?_, fun salt ikm info n => ?_, ?_, ?_⟩
  · obtain ⟨ha, halen⟩ := toyPrimitives_key a
    obtain ⟨hb, hblen⟩ := toyPrimitives_key b
    refine ⟨List.zipWith (· ^^^ ·) a.privatePem b.privatePem, ?_, ?_⟩
    · rw [hb]
      exact if_pos ⟨halen, hblen⟩
    · rw [ha, List.zipWith_comm_of_comm fun x y => UInt8.xor_comm x y]
      exact if_pos ⟨hblen, halen⟩
  · simp only [toyPrimitives, List.length_take, List.length_append, List.length_replicate]
    omega
  · intro key nonce plaintext _ _
    simp [toyPrimitives]
  · intro key nonce plaintext hkey _
    simp [toyPrimitives, hkey]

def toyKey (b : UInt8) : toyPrimitives.KeyPair where
  privatePem := List.replicate 65 b
  publicUncompressed := List.replicate 65 b
  fromPem := toyPrimitives_fromPem b
  length := List.length_replicate

/-- A salt. -/
def toySalt : Bytes := List.replicate 16 0x5A

theorem Primitives.opened_iff_toy :
    (toyPrimitives.Ideal ∧ toySalt.length = 16) ∧
    ((∃ record, toyPrimitives.encryptPayloadImpl (Bytes.ofString "call")
        (toyKey 2).publicUncompressed (Bytes.ofString "auth") (toyKey 1).privatePem
        (toyKey 1).publicUncompressed toySalt = some record ∧
      toyPrimitives.Opened (toyKey 2) (Bytes.ofString "auth") (Bytes.ofString "call") record) ↔
      (Bytes.ofString "call").getLast? ≠ some 0x00 ∧ (Bytes.ofString "call").length + 17 ≤ 4096) :=
  ⟨⟨toyPrimitives_ideal, List.length_replicate⟩,
    opened_iff (toyKey 1) (toyKey 2) (Bytes.ofString "auth") toyPrimitives_ideal
      List.length_replicate (Bytes.ofString "call")⟩

/-- A payload that ends with a zero comes back without it. -/
theorem zero_at_end_lost :
    ¬ ∀ (c : Primitives) (server subscriber : c.KeyPair) (auth salt payload : Bytes),
      c.Ideal → salt.length = 16 →
      ∃ record, c.encryptPayloadImpl payload subscriber.publicUncompressed auth server.privatePem
          server.publicUncompressed salt = some record ∧
        c.Opened subscriber auth payload record := by
  intro hclaim
  have hsalt : toySalt.length = 16 := List.length_replicate
  obtain ⟨record, hrecord, hopened⟩ :=
    hclaim toyPrimitives (toyKey 1) (toyKey 2) [] toySalt [0x61, 0x00] toyPrimitives_ideal hsalt
  obtain ⟨ct, hencrypt, -, hdecrypt⟩ :=
    Primitives.encryptPayloadImpl_spec (toyKey 1) (toyKey 2) [] toyPrimitives_ideal hsalt
      [0x61, 0x00]
  obtain rfl := Option.some.inj (hencrypt.symm.trans hrecord)
  have hpayload := hdecrypt.symm.trans hopened.payload
  revert hpayload
  decide

end PushCrypto
