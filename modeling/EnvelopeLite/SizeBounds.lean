import EnvelopeLite.ReferencePrimitives

namespace EnvelopeLite.SizeBounds

open EnvelopeLite.Auth EnvelopeLite.ByteFields EnvelopeLite.CallTrace EnvelopeLite.CheckedArith
open EnvelopeLite.Common EnvelopeLite.Config EnvelopeLite.EnvelopeCrypto
open EnvelopeLite.EnvelopeCrypto.Frame EnvelopeLite.EnvelopeCrypto.OpenPath
open EnvelopeLite.EnvelopeCrypto.SealPath EnvelopeLite.Primitives
open EnvelopeLite.ReferencePrimitives

variable (P : Platform)

/-- How long ciphertexts are: PKCS#7 padding fills up a block and always adds one
byte at least, and the AEAD modes keep the length. -/
structure PayloadLengths : Prop where
  cbc : ∀ key iv p, (P.cbcEncrypt key iv p).length = (p.length / 16 + 1) * 16
  aead : ∀ algorithm key nonce aad p c t,
    Aead.encrypted P algorithm key nonce aad p = some (c, t) → c.length = p.length

inductive EncryptsTo (mode : EnvelopeMode) (p : Bytes) : Bytes → Prop
  | cbc (mode_eq : mode = .legacyCbc) (key : SessionKey) (iv : FixedBytes 16) :
      EncryptsTo mode p (P.cbcEncrypt key iv p)
  | aead {algorithm : AeadAlgorithm} {key : SessionKey} {nonce : Nonce} {aad c : Bytes} {t : Tag}
      (mode_eq : mode = .aead algorithm)
      (encrypts : Aead.encrypted P algorithm key nonce.1 aad p = some (c, t)) :
      EncryptsTo mode p (frameBytes algorithm nonce c t)

structure AuxiliaryDecodes (envelope : SecureEnvelope) (wrapped signature : Bytes) : Prop where
  wrapped_fits : envelope.wrappedSessionKey.utf8ByteSize ≤ maxAuxiliaryBase64Bytes
  signature_fits : envelope.signature.utf8ByteSize ≤ maxAuxiliaryBase64Bytes
  decode_wrapped : P.base64Decode envelope.wrappedSessionKey = some wrapped
  decode_signature : P.base64Decode envelope.signature = some signature

variable {P}

theorem PayloadLengths.of_laws (laws : RoundTripLaws P) : PayloadLengths P :=
  ⟨laws.cbc.length_encrypt, fun _ _ _ _ _ _ _ h => Aead.length_encrypted laws.aead h⟩

theorem EncryptsTo.of_seals {config : ClientConfig P.toTarget} {context : AuthenticationContext}
    {nonce? : Option Nonce} {key : SessionKey} {p payload : Bytes}
    (h : PayloadSeals P config context nonce? key p payload) :
    EncryptsTo P config.envelopeMode p payload := by
  cases h with
  | cbc mode => exact .cbc mode key config.iv
  | aead mode _ _ hencrypts _ => exact .aead mode hencrypts

section Arithmetic

variable (T : Target)

theorem base64Len_mono : Monotone (base64Len T) := by
  intro m n h
  rw [base64Len_eq, base64Len_eq]
  omega

theorem paddedCipherLen_mono : Monotone (Cbc.paddedCipherLen T) := by
  intro m n h
  rw [Cbc.paddedCipherLen_eq, Cbc.paddedCipherLen_eq]
  have hblocks : m / 16 ≤ n / 16 := Nat.div_le_div_right h
  omega

variable {T}

/-- A saturated bound still covers every length that can be represented. -/
theorem encodedLength_le {m n : Nat} (h : m ≤ n) (hfits : 4 * ((m + 2) / 3) ≤ T.usizeMax) :
    4 * ((m + 2) / 3) ≤ base64Len T n := by
  rw [base64Len_eq]
  omega

/-- Base64 comes in whole groups of three bytes, so that a bound on the encoded
length leaves up to two bytes of room. -/
theorem decodedLength_le {m n : Nat} (h : 4 * ((m + 2) / 3) ≤ base64Len T n) : m ≤ n + 2 := by
  rw [base64Len_eq] at h
  omega

end Arithmetic

variable {config : ClientConfig P.toTarget} {keys : KeyMaterial P} {envelope : SecureEnvelope}
variable {context : AuthenticationContext} {p payload wrapped signature : Bytes}

theorem EncryptsTo.length_le (lengths : PayloadLengths P)
    (hpayload : EncryptsTo P config.envelopeMode p payload)
    (hfits : EncodedFits P.toTarget payload) (hp : p.length ≤ config.maxPlaintextBytes.1) :
    payload.length ≤ payloadBound P config := by
  unfold EncodedFits at hfits
  cases hpayload with
  | cbc mode key iv =>
    have hlen := lengths.cbc key iv p
    simp only [payloadBound, mode, Cbc.paddedCipherLen_eq]
    have hblocks : p.length / 16 ≤ config.maxPlaintextBytes.1 / 16 := Nat.div_le_div_right hp
    omega
  | aead mode hencrypts =>
    have hlen := lengths.aead _ _ _ _ _ _ _ hencrypts
    rw [length_frameBytes] at hfits ⊢
    simp only [payloadBound, mode, saturatingAdd, frameOverheadBytes, frameHeaderBytes, tagBytes]
    omega

/-- What comes after the last size check is the SM2 decryption of the session key.
It runs on every in-limit payload, whatever it answers. -/
theorem sm2Decrypt_mem_log (lengths : PayloadLengths P)
    (hpayload : EncryptsTo P config.envelopeMode p payload)
    (hp : p.length ≤ config.maxPlaintextBytes.1)
    (hcipher : envelope.cipher.utf8ByteSize ≤ cipherBound P config)
    (hdecode : P.base64Decode envelope.cipher = some payload)
    (hlength : payload.length ≤ payloadBound P config)
    (haux : AuxiliaryDecodes P envelope wrapped signature) :
    .sm2Decrypt wrapped (P.sm2Decrypt keys.localDecryption wrapped) ∈
      (openEnvelope P config keys envelope context).log := by
  cases hpayload with
  | cbc mode key iv =>
    simp only [cipherBound, payloadBound, mode] at hcipher hlength
    simp only [openEnvelope, mode, Cbc.openEnvelope_eq]
    exact mem_log_bind.mpr (.inl (Cbc.sm2Decrypt_mem_log_unwrapParts hcipher haux.wrapped_fits
      haux.signature_fits hdecode hlength haux.decode_wrapped haux.decode_signature))
  | @aead algorithm _ nonce _ c t mode hencrypts =>
    simp only [cipherBound, payloadBound, mode] at hcipher
    simp only [openEnvelope, mode, Aead.openEnvelope_eq]
    have hfields := Aead.decodeFields_ok_iff.mpr ⟨hcipher, haux.wrapped_fits,
      haux.signature_fits, hdecode, haux.decode_wrapped, haux.decode_signature⟩
    have hlimit := (lengths.aead _ _ _ _ _ _ _ hencrypts).trans_le hp
    have hframe : (parseFrame P algorithm config.maxPlaintextBytes.1
        (frameBytes algorithm nonce c t)).outcome = .ok (frameHeader algorithm nonce, c, t) :=
      parseFrame_ok_iff.mpr ⟨nonce, rfl, rfl, hlimit⟩
    refine mem_log_bind.mpr (.inr ⟨_, hfields, mem_log_bind.mpr (.inr ⟨_, hframe, ?_⟩)⟩)
    rw [Aead.decryptAndVerify]
    exact mem_log_bind.mpr (.inl (by simp))

theorem size_bounds_are_exact_and_tight (P : Platform) (lengths : PayloadLengths P)
    (hlength : ∀ b, (P.base64Encode b).utf8ByteSize = 4 * ((b.length + 2) / 3))
    (hcanonical : ∀ s b, P.base64Decode s = some b ↔ s = P.base64Encode b) :
    (∀ n, base64Len P.toTarget n = min (4 * ((n + 2) / 3)) (2 ^ P.usizeBits - 1)) ∧
    (∀ n, Cbc.paddedCipherLen P.toTarget n = min ((n / 16 + 1) * 16) (2 ^ P.usizeBits - 1)) ∧
    Monotone (base64Len P.toTarget) ∧ Monotone (Cbc.paddedCipherLen P.toTarget) ∧
    ∀ config keys envelope context,
      let run := openEnvelope P config keys envelope context
      let limit := config.maxPlaintextBytes.1
      (∀ p payload, EncryptsTo P config.envelopeMode p payload → p.length ≤ limit →
        EncodedFits P.toTarget payload → envelope.cipher = P.base64Encode payload →
        run.outcome ≠ .err (.messageTooLarge limit) ∧
        payload.length ≤ payloadBound P config ∧
        ∀ wrapped signature, AuxiliaryDecodes P envelope wrapped signature →
          .sm2Decrypt wrapped (P.sm2Decrypt keys.localDecryption wrapped) ∈ run.log) ∧
      ∀ payload, run.outcome ≠ .err (.messageTooLarge limit) →
        P.base64Decode envelope.cipher = some payload →
        payload.length ≤ payloadBound P config + 2 := by
  refine ⟨base64Len_eq _, Cbc.paddedCipherLen_eq _, base64Len_mono _, paddedCipherLen_mono _, ?_⟩
  intro config keys envelope context run limit
  simp only [run, limit, ne_eq, messageTooLarge_iff, not_lt]
  constructor
  · intro p payload hpayload hp hfits hcipher
    have hle := hpayload.length_le lengths hfits hp
    have hdecode := (hcanonical _ _).mpr hcipher
    have hencoded : envelope.cipher.utf8ByteSize ≤ cipherBound P config := by
      rw [hcipher, hlength]
      exact encodedLength_le hle hfits
    exact ⟨hencoded, hle, fun wrapped signature haux =>
      sm2Decrypt_mem_log lengths hpayload hp hencoded hdecode hle haux⟩
  · intro payload hencoded hdecode
    rw [(hcanonical _ _).mp hdecode, hlength] at hencoded
    exact decodedLength_le hencoded

section Samples

theorem saturatedLimit_accepted : LimitAccepted .legacyCbc sampleTarget.usizeMax :=
  ⟨by decide, by simp⟩

def saturatedConfig : ClientConfig sampleTarget :=
  { sampleConfig .legacyCbc (.contextBound [1]) sampleDomain_valid with
    maxPlaintextBytes := ⟨sampleTarget.usizeMax, Nat.le_refl _⟩
    limit_accepted := saturatedLimit_accepted }

def saturatedEnvelope : SecureEnvelope :=
  ⟨Base64.encode (pad [1, 2, 3]), Base64.encode (7 :: sampleKey.1), Base64.encode [9]⟩

theorem saturated_bounds_pass_envelope :
    let P := reference checksumSignature
    let run := openEnvelope P saturatedConfig (sampleKeys _) saturatedEnvelope sampleContext
    Cbc.paddedCipherLen sampleTarget (2 ^ 64 - 1) = 2 ^ 64 - 1 ∧
      run.outcome ≠ .err (.messageTooLarge (2 ^ 64 - 1)) ∧
      .sm2Decrypt (7 :: sampleKey.1) (some sampleKey.1) ∈ run.log := by
  intro P run
  have hcanonical : ∀ s b, P.base64Decode s = some b ↔ s = P.base64Encode b := fun s b =>
    ⟨Base64.encode_of_decode, fun h => h ▸ Base64.decode_encode b⟩
  obtain ⟨-, hpadded, -, -, hopen⟩ := size_bounds_are_exact_and_tight P
    (.of_laws reference_laws) Base64.utf8ByteSize_encode hcanonical
  have hpassed := (hopen saturatedConfig (sampleKeys _) saturatedEnvelope sampleContext).1 [1, 2, 3]
    (pad [1, 2, 3]) (.cbc rfl sampleKey zeroIv) (by decide) (by decide) rfl
  refine ⟨?_, hpassed.1, hpassed.2.2 _ [9] ⟨?_, ?_, ?_, ?_⟩⟩
  · exact (hpadded _).trans (by decide)
  · exact (Base64.utf8ByteSize_encode _).trans_le (by decide)
  · exact (Base64.utf8ByteSize_encode _).trans_le (by decide)
  · exact Base64.decode_encode _
  · exact Base64.decode_encode _

end Samples

end EnvelopeLite.SizeBounds
