import EnvelopeLite.Base64
import EnvelopeLite.CallTrace
import EnvelopeLite.Config

namespace EnvelopeLite.Primitives

open EnvelopeLite.ByteFields EnvelopeLite.CallTrace EnvelopeLite.Common EnvelopeLite.Config

abbrev SessionKey := FixedBytes 16

abbrev Nonce := FixedBytes 12

abbrev Tag := FixedBytes 16

/-- The target together with the third-party code the crate calls: `base64`, the
SM2 and SM4 operations of `gmcrypto-core`, and the randomness they consume. -/
structure Platform extends Target where
  PrivateKey : Type
  PublicKey : Type
  Coins : Type
  publicKey : PrivateKey → PublicKey
  base64Encode : Bytes → String
  base64Decode : String → Option Bytes
  sm2Encrypt : PublicKey → Bytes → Coins → Option Bytes
  sm2Decrypt : PrivateKey → Bytes → Option Bytes
  signWithId : PrivateKey → Bytes → Bytes → Coins → Option Bytes
  verifyWithId : PublicKey → Bytes → Bytes → Bytes → Bool
  cbcEncrypt : SessionKey → FixedBytes 16 → Bytes → Bytes
  cbcDecrypt : SessionKey → FixedBytes 16 → Bytes → Option Bytes
  gcmEncrypt : SessionKey → Bytes → Bytes → Bytes → Option (Bytes × Tag)
  gcmDecrypt : SessionKey → Bytes → Bytes → Bytes → Tag → Option Bytes
  ccmEncrypt : SessionKey → Bytes → Bytes → Bytes → Nat → Option Bytes
  ccmDecrypt : SessionKey → Bytes → Bytes → Bytes → Nat → Option Bytes

variable {P : Platform}

structure KeyMaterial (P : Platform) where
  localSigning : P.PrivateKey
  localDecryption : P.PrivateKey
  remoteVerification : P.PublicKey
  remoteEncryption : P.PublicKey

/-- What the random sources answer during one sealing: the two `getrandom::fill`
calls, which may fail, and the coins handed to the two SM2 operations. -/
structure Randomness (P : Platform) where
  sessionKey : Option SessionKey
  nonce : Option Nonce
  wrap : P.Coins
  sign : P.Coins

@[ext] structure SecureEnvelope where
  cipher : String
  wrappedSessionKey : String
  signature : String
  deriving DecidableEq, Repr

inductive Call (PrivateKey PublicKey : Type)
  | fillRandom (bytes : Nat)
  | base64Decode (value : String) (result : Option Bytes)
  | sm2Encrypt (message : Bytes) (result : Option Bytes)
  | sm2Decrypt (wrapped : Bytes) (result : Option Bytes)
  | signWithId (key : PrivateKey) (signerId message : Bytes) (result : Option Bytes)
  | verifyWithId (key : PublicKey) (signerId message signature : Bytes) (result : Bool)
  | cbcEncrypt (plaintext : Bytes)
  | cbcDecrypt (cipher : Bytes) (result : Option Bytes)
  | gcmEncrypt (plaintext : Bytes)
  | gcmDecrypt (ciphertext : Bytes) (result : Option Bytes)
  | ccmEncrypt (plaintext : Bytes)
  | ccmDecrypt (joined : Bytes) (result : Option Bytes)
  deriving DecidableEq, Repr

abbrev Platform.Call (P : Platform) := Primitives.Call P.PrivateKey P.PublicKey

abbrev Run (P : Platform) := Traced P.Call Error

section Laws

structure Base64Laws (P : Platform) : Prop where
  decode_encode : ∀ b, P.base64Decode (P.base64Encode b) = some b
  length_encode : ∀ b, (P.base64Encode b).utf8ByteSize = 4 * ((b.length + 2) / 3)

/-- SM2 between counterpart keys. A wrapped session key and a signature take a few
hundred bytes at most, far below the 12288 bytes that 16 KiB of Base64 can carry. -/
structure Sm2Laws (P : Platform) : Prop where
  decrypt_encrypt : ∀ sk m r c, P.sm2Encrypt (P.publicKey sk) m r = some c →
    P.sm2Decrypt sk c = some m
  verify_sign : ∀ sk id m r s, P.signWithId sk id m r = some s →
    P.verifyWithId (P.publicKey sk) id m s = true
  length_encrypt : ∀ pk m r c, m.length = 16 → P.sm2Encrypt pk m r = some c → c.length ≤ 12288
  length_sign : ∀ sk id m r s, P.signWithId sk id m r = some s → s.length ≤ 12288

structure CbcLaws (P : Platform) : Prop where
  decrypt_encrypt : ∀ k iv p, P.cbcDecrypt k iv (P.cbcEncrypt k iv p) = some p
  length_encrypt : ∀ k iv p, (P.cbcEncrypt k iv p).length = (p.length / 16 + 1) * 16

structure AeadLaws (P : Platform) : Prop where
  gcm_decrypt_encrypt : ∀ k n aad p c t, P.gcmEncrypt k n aad p = some (c, t) →
    P.gcmDecrypt k n aad c t = some p
  gcm_length_encrypt : ∀ k n aad p c t, P.gcmEncrypt k n aad p = some (c, t) →
    c.length = p.length
  ccm_decrypt_encrypt : ∀ k n aad p j, P.ccmEncrypt k n aad p 16 = some j →
    P.ccmDecrypt k n aad j 16 = some p
  ccm_length_encrypt : ∀ k n aad p j, P.ccmEncrypt k n aad p 16 = some j →
    j.length = p.length + 16

def SignatureBinding (P : Platform) : Prop :=
  ∀ sk id m r s m', P.signWithId sk id m r = some s →
    P.verifyWithId (P.publicKey sk) id m' s = true → m' = m

structure RoundTripLaws (P : Platform) : Prop where
  base64 : Base64Laws P
  sm2 : Sm2Laws P
  cbc : CbcLaws P
  aead : AeadLaws P

/-- What is known of the texts of an envelope: the `STANDARD` engine writes its own
alphabet and padding only, and SM2 gives neither an empty ciphertext nor an empty
signature. -/
structure EnvelopeTextLaws (P : Platform) : Prop where
  encode_alphabet : ∀ b, ∀ c ∈ (P.base64Encode b).toList, Base64.isCharacter c = true
  encrypt_ne_nil : ∀ pk m r c, P.sm2Encrypt pk m r = some c → c ≠ []
  sign_ne_nil : ∀ sk id m r s, P.signWithId sk id m r = some s → s ≠ []

end Laws

end EnvelopeLite.Primitives
