import EnvelopeLite.ReferencePrimitives

namespace EnvelopeLite.Canonical

open EnvelopeLite.Auth EnvelopeLite.ByteFields EnvelopeLite.CallTrace EnvelopeLite.Config
open EnvelopeLite.EnvelopeCrypto EnvelopeLite.EnvelopeCrypto.Frame
open EnvelopeLite.EnvelopeCrypto.OpenPath EnvelopeLite.Primitives
open EnvelopeLite.ReferencePrimitives

variable {P : Platform} {config : ClientConfig P.toTarget} {keys keys' : KeyMaterial P}
variable {envelope envelope' : SecureEnvelope} {context : AuthenticationContext} {p : Bytes}

/-- Decoders that accept nothing but what the encoders produce. -/
structure CanonicalLaws (P : Platform) : Prop where
  base64 : ∀ s b, P.base64Decode s = some b → s = P.base64Encode b
  cbc : ∀ key iv c p, P.cbcDecrypt key iv c = some p → c = P.cbcEncrypt key iv p
  aead : ∀ algorithm key nonce aad c t p, Aead.decrypted P algorithm key nonce aad c t = some p →
    Aead.encrypted P algorithm key nonce aad p = some (c, t)
  aead_length : ∀ algorithm key nonce aad c t p,
    Aead.encrypted P algorithm key nonce aad p = some (c, t) → c.length = p.length

def unwrappedKey (P : Platform) (keys : KeyMaterial P) (envelope : SecureEnvelope) :
    Option Bytes :=
  (P.base64Decode envelope.wrappedSessionKey).bind (P.sm2Decrypt keys.localDecryption)

/-- Bytes 2 to 14 of the decoded frame. -/
def frameNonce (P : Platform) (envelope : SecureEnvelope) : Option Bytes :=
  (P.base64Decode envelope.cipher).map (fun frame => (frame.drop 2).take 12)

theorem unwrappedKey_eq (a : Acceptance P config keys envelope context p) :
    unwrappedKey P keys envelope = some a.key.1 := by
  rw [unwrappedKey, a.decode_wrapped, Option.bind_some, a.unwraps]

theorem take_drop_frameBytes {algorithm : AeadAlgorithm} {nonce : Nonce} {c : Bytes} {t : Tag} :
    ((frameBytes algorithm nonce c t).drop 2).take 12 = nonce.1 := by
  change (nonce.1 ++ c ++ t.1).take 12 = nonce.1
  rw [List.append_assoc, List.take_left' nonce.2]

theorem cbc_cipher_eq (laws : CanonicalLaws P) (hmode : config.envelopeMode = .legacyCbc)
    (a : Acceptance P config keys envelope context p) :
    envelope.cipher = P.base64Encode (P.cbcEncrypt a.key config.iv p) := by
  obtain ⟨-, hdecrypts, -⟩ := a.opens.of_cbc hmode
  rw [← laws.cbc _ _ _ _ hdecrypts]
  exact laws.base64 _ _ a.decode_cipher

theorem aead_cipher_eq (laws : CanonicalLaws P) {algorithm : AeadAlgorithm}
    (hmode : config.envelopeMode = .aead algorithm)
    (a : Acceptance P config keys envelope context p) :
    ∃ nonce aad c t,
      config.authenticationMode.aeadAad P.toTarget context (frameHeader algorithm nonce) =
        .ok aad ∧
      Aead.encrypted P algorithm a.key nonce.1 aad p = some (c, t) ∧
      envelope.cipher = P.base64Encode (frameBytes algorithm nonce c t) ∧
      P.base64Decode envelope.cipher = some (frameBytes algorithm nonce c t) := by
  obtain ⟨nonce, aad, c, t, hframe, -, haad, hdecrypts⟩ := a.opens.of_aead hmode
  have hdecode := a.decode_cipher
  rw [hframe] at hdecode
  exact ⟨nonce, aad, c, t, haad, laws.aead _ _ _ _ _ _ _ hdecrypts, laws.base64 _ _ hdecode,
    hdecode⟩

theorem accepted_ciphers_are_canonical (P : Platform) (laws : CanonicalLaws P) :
    (∀ (config : ClientConfig P.toTarget) (keys : KeyMaterial P) (envelope : SecureEnvelope)
      (context : AuthenticationContext) (p : Bytes),
      (openEnvelope P config keys envelope context).outcome = .ok p →
      ∃ key : SessionKey, unwrappedKey P keys envelope = some key.1 ∧
        (config.envelopeMode = .legacyCbc →
          envelope.cipher = P.base64Encode (P.cbcEncrypt key config.iv p)) ∧
        ∀ algorithm, config.envelopeMode = .aead algorithm →
          ∃ (nonce : Nonce) (aad c : Bytes) (t : Tag),
            frameNonce P envelope = some nonce.1 ∧
            config.authenticationMode.aeadAad P.toTarget context (frameHeader algorithm nonce) =
              .ok aad ∧
            Aead.encrypted P algorithm key nonce.1 aad p = some (c, t) ∧
            envelope.cipher = P.base64Encode
              (0x01 :: algorithmByte algorithm :: nonce.1 ++ c ++ t.1) ∧
            ∃ frame, P.base64Decode envelope.cipher = some frame ∧
              frame.length = p.length + 30) ∧
    ∀ (config : ClientConfig P.toTarget) (keys keys' : KeyMaterial P)
      (envelope envelope' : SecureEnvelope) (context context' : AuthenticationContext) (p : Bytes),
      (openEnvelope P config keys envelope context).outcome = .ok p →
      (openEnvelope P config keys' envelope' context').outcome = .ok p →
      unwrappedKey P keys envelope = unwrappedKey P keys' envelope' →
      (config.envelopeMode ≠ .legacyCbc →
        frameNonce P envelope = frameNonce P envelope' ∧ context = context') →
      envelope.cipher = envelope'.cipher := by
  refine ⟨?_, ?_⟩
  · intro config keys envelope context p hopen
    obtain ⟨a⟩ := openEnvelope_ok_iff.mp hopen
    refine ⟨a.key, unwrappedKey_eq a, fun hmode => cbc_cipher_eq laws hmode a, ?_⟩
    intro algorithm hmode
    obtain ⟨nonce, aad, c, t, haad, hencrypts, hcipher, hdecode⟩ := aead_cipher_eq laws hmode a
    refine ⟨nonce, aad, c, t, ?_, haad, hencrypts, hcipher, _, hdecode, ?_⟩
    · rw [frameNonce, hdecode, Option.map_some, take_drop_frameBytes]
    · rw [length_frameBytes, laws.aead_length _ _ _ _ _ _ _ hencrypts]
  · intro config keys keys' envelope envelope' context context' p hopen hopen' hkey hsame
    obtain ⟨a⟩ := openEnvelope_ok_iff.mp hopen
    obtain ⟨a'⟩ := openEnvelope_ok_iff.mp hopen'
    rw [unwrappedKey_eq a, unwrappedKey_eq a'] at hkey
    have hkey' : a.key = a'.key := Subtype.ext (Option.some.inj hkey)
    cases hmode : config.envelopeMode with
    | legacyCbc => rw [cbc_cipher_eq laws hmode a, cbc_cipher_eq laws hmode a', hkey']
    | aead algorithm =>
      obtain ⟨hnonce, rfl⟩ := hsame (by rw [hmode]; simp)
      obtain ⟨nonce, aad, c, t, haad, hencrypts, hcipher, hdecode⟩ := aead_cipher_eq laws hmode a
      obtain ⟨nonce', aad', c', t', haad', hencrypts', hcipher', hdecode'⟩ :=
        aead_cipher_eq laws hmode a'
      rw [frameNonce, frameNonce, hdecode, hdecode', Option.map_some, Option.map_some,
        take_drop_frameBytes, take_drop_frameBytes] at hnonce
      obtain rfl : nonce = nonce' := Subtype.ext (Option.some.inj hnonce)
      obtain rfl : aad = aad' := Except.ok.inj (haad.symm.trans haad')
      rw [hkey', hencrypts'] at hencrypts
      obtain ⟨rfl, rfl⟩ := Prod.mk.inj (Option.some.inj hencrypts)
      rw [hcipher, hcipher']

section Samples

theorem reference_canonicalLaws : CanonicalLaws (reference checksumSignature) where
  base64 := fun _ _ h => Base64.encode_of_decode h
  cbc := fun _ _ _ _ h => unpad_eq_some_iff.mp h
  aead := fun _ _ _ _ _ _ _ h => encrypted_eq_some_iff.mpr (decrypted_eq_some_iff.mp h)
  aead_length := fun _ _ _ _ _ _ _ h => congrArg List.length (encrypted_eq_some_iff.mp h).1

def sampleCipher : SecureEnvelope :=
  sampleEnvelope checksumSignature .sm4Ccm [1] sampleAad [1, 2, 3] sampleInput

theorem sampleCipher_opened :
    (openEnvelope (reference checksumSignature) sampleCcm (sampleKeys _) sampleCipher
      sampleContext).outcome = .ok [1, 2, 3] :=
  sample_opened_aead checksumSignature rfl (by decide) (by decide) sampleCcm_input sampleCcm_aad
    (by decide)

theorem sampleCipher_is_canonical :
    ∃ (key : SessionKey) (nonce : Nonce) (aad c : Bytes) (t : Tag),
      unwrappedKey (reference checksumSignature) (sampleKeys _) sampleCipher = some key.1 ∧
      Aead.encrypted (reference checksumSignature) .sm4Ccm key nonce.1 aad [1, 2, 3] =
        some (c, t) ∧
      sampleCipher.cipher = Base64.encode (0x01 :: 0x02 :: nonce.1 ++ c ++ t.1) := by
  obtain ⟨key, hkey, -, haead⟩ := (accepted_ciphers_are_canonical (reference checksumSignature)
    reference_canonicalLaws).1 sampleCcm (sampleKeys _) sampleCipher sampleContext [1, 2, 3]
    sampleCipher_opened
  obtain ⟨nonce, aad, c, t, -, -, hencrypts, hcipher, -⟩ := haead .sm4Ccm rfl
  exact ⟨key, nonce, aad, c, t, hkey, hencrypts, hcipher⟩

def otherContext : AuthenticationContext := ⟨.bound [5], by decide⟩

def otherAad : Bytes := aadBytes (frameHeader .sm4Ccm sampleNonce).1 [1] [5]

def otherCipher : SecureEnvelope := sampleEnvelope checksumSignature .sm4Ccm [1] otherAad [1, 2, 3]
  (transcript [1] [5] [1, 2, 3])

theorem otherCipher_opened :
    (openEnvelope (reference checksumSignature) sampleCcm (sampleKeys _) otherCipher
      otherContext).outcome = .ok [1, 2, 3] := by
  have hinput : sampleCcm.authenticationMode.authenticationInput sampleTarget otherContext
      [1, 2, 3] = .ok (transcript [1] [5] [1, 2, 3]) := by decide
  have haad : sampleCcm.authenticationMode.aeadAad sampleTarget otherContext
      (frameHeader .sm4Ccm sampleNonce) = .ok otherAad := by decide
  exact sample_opened_aead checksumSignature rfl (by decide) (by decide) hinput haad (by decide)

theorem unwrappedKey_encode {scheme : SignatureScheme} {keys : KeyMaterial (reference scheme)}
    {cipher signature : String} (wrapped : Bytes)
    (henvelope : envelope = ⟨cipher, Base64.encode wrapped, signature⟩) :
    unwrappedKey (reference scheme) keys envelope =
      (reference scheme).sm2Decrypt keys.localDecryption wrapped := by
  have hdecode : (reference scheme).base64Decode (Base64.encode wrapped) = some wrapped :=
    reference_base64.decode_encode wrapped
  rw [henvelope, unwrappedKey, hdecode, Option.bind_some]

/-- The additional data of an AEAD frame depends on the context, so a frame sealed
under one context differs from a frame sealed under another. -/
theorem ciphers_differ_between_contexts :
    CanonicalLaws (reference checksumSignature) ∧
    (openEnvelope (reference checksumSignature) sampleCcm (sampleKeys _) sampleCipher
      sampleContext).outcome = .ok [1, 2, 3] ∧
    (openEnvelope (reference checksumSignature) sampleCcm (sampleKeys _) otherCipher
      otherContext).outcome = .ok [1, 2, 3] ∧
    unwrappedKey (reference checksumSignature) (sampleKeys _) sampleCipher =
      unwrappedKey (reference checksumSignature) (sampleKeys _) otherCipher ∧
    frameNonce (reference checksumSignature) sampleCipher =
      frameNonce (reference checksumSignature) otherCipher ∧
    sampleCipher.cipher ≠ otherCipher.cipher := by
  have hnonce : ∀ aad input, frameNonce (reference checksumSignature)
      (sampleEnvelope checksumSignature .sm4Ccm [1] aad [1, 2, 3] input) = some sampleNonce.1 := by
    intro aad input
    change (Base64.decode (Base64.encode _)).map _ = _
    rw [Base64.decode_encode]
    exact congrArg some take_drop_frameBytes
  refine ⟨reference_canonicalLaws, sampleCipher_opened, otherCipher_opened, ?_, ?_, ?_⟩
  · exact (unwrappedKey_encode _ rfl).trans (unwrappedKey_encode _ rfl).symm
  · exact (hnonce _ _).trans (hnonce _ _).symm
  · intro h
    have hframes := congrArg Base64.decode h
    rw [sampleCipher, otherCipher, sampleEnvelope, sampleEnvelope, Base64.decode_encode,
      Base64.decode_encode] at hframes
    exact absurd hframes (by decide +kernel)

end Samples

end EnvelopeLite.Canonical
