import EnvelopeLite.EnvelopeCrypto.Aead
import EnvelopeLite.EnvelopeCrypto.Cbc

namespace EnvelopeLite.EnvelopeCrypto.OpenPath

open EnvelopeLite.Auth EnvelopeLite.ByteFields EnvelopeLite.CallTrace EnvelopeLite.CheckedArith
open EnvelopeLite.Common EnvelopeLite.Config EnvelopeLite.EnvelopeCrypto.Frame
open EnvelopeLite.Primitives

variable (P : Platform)

def openEnvelope (config : ClientConfig P.toTarget) (keys : KeyMaterial P)
    (envelope : SecureEnvelope) (context : AuthenticationContext) : Run P Bytes :=
  match config.envelopeMode with
  | .aead algorithm => Aead.openEnvelope P config keys envelope context algorithm
  | .legacyCbc => Cbc.openEnvelope P config keys envelope context

/-- The longest decoded payload that a client considers. -/
def payloadBound (config : ClientConfig P.toTarget) : Nat :=
  match config.envelopeMode with
  | .aead _ => saturatingAdd P.usizeMax config.maxPlaintextBytes.1 frameOverheadBytes
  | .legacyCbc => Cbc.paddedCipherLen P.toTarget config.maxPlaintextBytes.1

def cipherBound (config : ClientConfig P.toTarget) : Nat :=
  base64Len P.toTarget (payloadBound P config)

/-- The payload bytes that opening turns into a plaintext in each envelope mode. -/
inductive PayloadOpens (config : ClientConfig P.toTarget) (context : AuthenticationContext)
    (key : SessionKey) (p : Bytes) : Bytes → Prop
  | cbc {payload : Bytes} (mode : config.envelopeMode = .legacyCbc)
      (payload_fits : payload.length ≤ payloadBound P config)
      (decrypts : P.cbcDecrypt key config.iv payload = some p)
      (within_limit : p.length ≤ config.maxPlaintextBytes.1) :
      PayloadOpens config context key p payload
  | aead {algorithm : AeadAlgorithm} {nonce : Nonce} {aad ciphertext : Bytes} {tag : Tag}
      (mode : config.envelopeMode = .aead algorithm)
      (within_limit : ciphertext.length ≤ config.maxPlaintextBytes.1)
      (aad_eq : config.authenticationMode.aeadAad P.toTarget context
        (frameHeader algorithm nonce) = .ok aad)
      (decrypts : Aead.decrypted P algorithm key nonce.1 aad ciphertext tag = some p) :
      PayloadOpens config context key p (frameBytes algorithm nonce ciphertext tag)

/-- Everything that a client has checked when it returns a plaintext. -/
structure Acceptance (config : ClientConfig P.toTarget) (keys : KeyMaterial P)
    (envelope : SecureEnvelope) (context : AuthenticationContext) (p : Bytes) where
  payload : Bytes
  wrapped : Bytes
  signature : Bytes
  input : Bytes
  key : SessionKey
  cipher_fits : envelope.cipher.utf8ByteSize ≤ cipherBound P config
  wrapped_fits : envelope.wrappedSessionKey.utf8ByteSize ≤ maxAuxiliaryBase64Bytes
  signature_fits : envelope.signature.utf8ByteSize ≤ maxAuxiliaryBase64Bytes
  decode_cipher : P.base64Decode envelope.cipher = some payload
  decode_wrapped : P.base64Decode envelope.wrappedSessionKey = some wrapped
  decode_signature : P.base64Decode envelope.signature = some signature
  unwraps : P.sm2Decrypt keys.localDecryption wrapped = some key.1
  opens : PayloadOpens P config context key p payload
  input_eq : config.authenticationMode.authenticationInput P.toTarget context p = .ok input
  verified : P.verifyWithId keys.remoteVerification config.expectedRemoteSignerId.1 input
    signature = true

variable {P}

theorem PayloadOpens.of_cbc {config : ClientConfig P.toTarget} {context : AuthenticationContext}
    {key : SessionKey} {p payload : Bytes} (h : PayloadOpens P config context key p payload)
    (hmode : config.envelopeMode = .legacyCbc) :
    payload.length ≤ payloadBound P config ∧ P.cbcDecrypt key config.iv payload = some p ∧
      p.length ≤ config.maxPlaintextBytes.1 := by
  cases h with
  | cbc _ hl hd hp => exact ⟨hl, hd, hp⟩
  | aead mode => rw [hmode] at mode; cases mode

theorem PayloadOpens.of_aead {config : ClientConfig P.toTarget} {context : AuthenticationContext}
    {key : SessionKey} {p payload : Bytes} {algorithm : AeadAlgorithm}
    (h : PayloadOpens P config context key p payload)
    (hmode : config.envelopeMode = .aead algorithm) :
    ∃ nonce aad ciphertext tag, payload = frameBytes algorithm nonce ciphertext tag ∧
      ciphertext.length ≤ config.maxPlaintextBytes.1 ∧
      config.authenticationMode.aeadAad P.toTarget context (frameHeader algorithm nonce) =
        .ok aad ∧
      Aead.decrypted P algorithm key nonce.1 aad ciphertext tag = some p := by
  cases h with
  | cbc mode => rw [hmode] at mode; cases mode
  | aead mode hl ha hd =>
    obtain rfl : algorithm = _ := by simpa [hmode] using mode
    exact ⟨_, _, _, _, rfl, hl, ha, hd⟩

theorem cbc_openEnvelope_ok_iff {config : ClientConfig P.toTarget} {keys : KeyMaterial P}
    {envelope : SecureEnvelope} {context : AuthenticationContext} {p : Bytes}
    (hmode : config.envelopeMode = .legacyCbc) :
    (Cbc.openEnvelope P config keys envelope context).outcome = .ok p ↔
      Nonempty (Acceptance P config keys envelope context p) := by
  have hbound : payloadBound P config =
      Cbc.paddedCipherLen P.toTarget config.maxPlaintextBytes.1 := by
    simp only [payloadBound, hmode]
  simp only [Cbc.openEnvelope_eq, bind_ok_iff, Prod.exists, Cbc.unwrapParts_ok_iff,
    Cbc.decryptAndVerify_ok_iff]
  constructor
  · rintro ⟨cipher, signature, key, ⟨hc, hw, hs, hdc, hl, hds, wrapped, hdw, hk⟩, hd, hp, input,
      hi, hv⟩
    rw [← hbound] at hc hl
    exact ⟨⟨cipher, wrapped, signature, input, key, hc, hw, hs, hdc, hdw, hds, hk,
      .cbc hmode hl hd hp, hi, hv⟩⟩
  · rintro ⟨payload, wrapped, signature, input, key, hc, hw, hs, hdc, hdw, hds, hk, ho, hi, hv⟩
    obtain ⟨hl, hd, hp⟩ := ho.of_cbc hmode
    rw [cipherBound, hbound] at hc
    rw [hbound] at hl
    exact ⟨payload, signature, key, ⟨hc, hw, hs, hdc, hl, hds, wrapped, hdw, hk⟩, hd, hp, input,
      hi, hv⟩

theorem aead_openEnvelope_ok_iff {config : ClientConfig P.toTarget} {keys : KeyMaterial P}
    {envelope : SecureEnvelope} {context : AuthenticationContext} {p : Bytes}
    {algorithm : AeadAlgorithm} (hmode : config.envelopeMode = .aead algorithm) :
    (Aead.openEnvelope P config keys envelope context algorithm).outcome = .ok p ↔
      Nonempty (Acceptance P config keys envelope context p) := by
  have hbound : payloadBound P config =
      saturatingAdd P.usizeMax config.maxPlaintextBytes.1 frameOverheadBytes := by
    simp only [payloadBound, hmode]
  simp only [Aead.openEnvelope_eq, bind_ok_iff, Prod.exists, Aead.decodeFields_ok_iff,
    parseFrame_ok_iff, Aead.decryptAndVerify_ok_iff]
  constructor
  · rintro ⟨_, wrapped, signature, ⟨hc, hw, hs, hdc, hdw, hds⟩, _, ct, tag,
      ⟨nonce, rfl, rfl, hl⟩, -, key, aad, input, hk, ha, hd, hi, hv⟩
    rw [← hbound] at hc
    exact ⟨⟨_, wrapped, signature, input, key, hc, hw, hs, hdc, hdw, hds, hk,
      .aead hmode hl ha hd, hi, hv⟩⟩
  · rintro ⟨payload, wrapped, signature, input, key, hc, hw, hs, hdc, hdw, hds, hk, ho, hi, hv⟩
    rw [cipherBound, hbound] at hc
    obtain ⟨nonce, aad, ct, tag, rfl, hl, ha, hd⟩ := ho.of_aead hmode
    exact ⟨_, wrapped, signature, ⟨hc, hw, hs, hdc, hdw, hds⟩, _, ct, tag, ⟨nonce, rfl, rfl, hl⟩,
      Aead.ccm_capacity hmode hl, key, aad, input, hk, ha, hd, hi, hv⟩

theorem openEnvelope_ok_iff {config : ClientConfig P.toTarget} {keys : KeyMaterial P}
    {envelope : SecureEnvelope} {context : AuthenticationContext} {p : Bytes} :
    (openEnvelope P config keys envelope context).outcome = .ok p ↔
      Nonempty (Acceptance P config keys envelope context p) := by
  unfold openEnvelope
  split
  · next algorithm hmode => exact aead_openEnvelope_ok_iff hmode
  · next hmode => exact cbc_openEnvelope_ok_iff hmode

theorem emits_openEnvelope_of {config : ClientConfig P.toTarget} {keys : KeyMaterial P}
    {envelope : SecureEnvelope} {context : AuthenticationContext} {R : P.Call → Prop}
    (hdecode : ∀ value r, R (.base64Decode value r))
    (hunwrap : ∀ wrapped r, R (.sm2Decrypt wrapped r))
    (hcbc : ∀ cipher r, R (.cbcDecrypt cipher r))
    (hgcm : ∀ ciphertext r, R (.gcmDecrypt ciphertext r))
    (hccm : config.envelopeMode = .aead .sm4Ccm → ∀ (ciphertext : Bytes) (tag : Tag) r,
      ciphertext.length ≤ config.maxPlaintextBytes.1 → R (.ccmDecrypt (ciphertext ++ tag.1) r))
    (hverify : ∀ input signature, P.base64Decode envelope.signature = some signature →
      R (.verifyWithId keys.remoteVerification config.expectedRemoteSignerId.1 input signature
        (P.verifyWithId keys.remoteVerification config.expectedRemoteSignerId.1 input
          signature))) :
    Emits (openEnvelope P config keys envelope context) R := by
  unfold openEnvelope
  split
  · next algorithm hmode =>
    apply Aead.emits_openEnvelope_of hdecode hunwrap hgcm ?_ hverify
    rintro rfl
    exact hccm hmode
  · exact Cbc.emits_openEnvelope_of hdecode hunwrap hcbc hverify

theorem verified_mem_log_of_ok {config : ClientConfig P.toTarget} {keys : KeyMaterial P}
    {envelope : SecureEnvelope} {context : AuthenticationContext} {p : Bytes}
    (h : (openEnvelope P config keys envelope context).outcome = .ok p) :
    ∃ input signature, P.base64Decode envelope.signature = some signature ∧
      config.authenticationMode.authenticationInput P.toTarget context p = .ok input ∧
      P.verifyWithId keys.remoteVerification config.expectedRemoteSignerId.1 input signature =
        true ∧
      .verifyWithId keys.remoteVerification config.expectedRemoteSignerId.1 input signature true ∈
        (openEnvelope P config keys envelope context).log := by
  unfold openEnvelope at h ⊢
  split at h
  · exact Aead.verified_mem_log_of_ok h
  · exact Cbc.verified_mem_log_of_ok h

/-- Opening ends with a plaintext or with one of two errors, and the length of the
cipher string alone tells which of the two it is. -/
theorem ends_openEnvelope (config : ClientConfig P.toTarget) (keys : KeyMaterial P)
    (envelope : SecureEnvelope) (context : AuthenticationContext) :
    Ends (openEnvelope P config keys envelope context)
      (fun _ => envelope.cipher.utf8ByteSize ≤ cipherBound P config)
      (fun e => e = if cipherBound P config < envelope.cipher.utf8ByteSize
        then .messageTooLarge config.maxPlaintextBytes.1 else .invalidEnvelope) := by
  unfold openEnvelope
  split
  · next algorithm hmode =>
    refine Aead.ends_openEnvelope (cipherBound P config) hmode ?_ (fun h _ => h) ?_ ?_
    · simp only [cipherBound, payloadBound, hmode]
    · intro h
      rw [if_pos h]
    · intro h
      rw [if_neg (Nat.not_lt.mpr h)]
  · next hmode =>
    refine Cbc.ends_openEnvelope (cipherBound P config) ?_ (fun h _ => h) ?_ ?_
    · simp only [cipherBound, payloadBound, hmode]
    · intro h
      rw [if_pos h]
    · intro h
      rw [if_neg (Nat.not_lt.mpr h)]

theorem openEnvelope_outcome (config : ClientConfig P.toTarget) (keys : KeyMaterial P)
    (envelope : SecureEnvelope) (context : AuthenticationContext) :
    (∃ p, (openEnvelope P config keys envelope context).outcome = .ok p ∧
      envelope.cipher.utf8ByteSize ≤ cipherBound P config) ∨
    (openEnvelope P config keys envelope context).outcome =
      .err (if cipherBound P config < envelope.cipher.utf8ByteSize
        then .messageTooLarge config.maxPlaintextBytes.1 else .invalidEnvelope) := by
  have hends := ends_openEnvelope config keys envelope context
  unfold Ends at hends
  cases ho : (openEnvelope P config keys envelope context).outcome with
  | ok p =>
    rw [ho] at hends
    exact .inl ⟨p, rfl, hends⟩
  | err e =>
    rw [ho] at hends
    exact .inr (congrArg Outcome.err hends)
  | panic => rw [ho] at hends; exact hends.elim

theorem messageTooLarge_iff {config : ClientConfig P.toTarget} {keys : KeyMaterial P}
    {envelope : SecureEnvelope} {context : AuthenticationContext} :
    (openEnvelope P config keys envelope context).outcome =
        .err (.messageTooLarge config.maxPlaintextBytes.1) ↔
      cipherBound P config < envelope.cipher.utf8ByteSize := by
  obtain ⟨p, hp, hle⟩ | herr := openEnvelope_outcome config keys envelope context
  · simp only [hp, reduceCtorEq, false_iff]
    omega
  · rw [herr]
    by_cases h : cipherBound P config < envelope.cipher.utf8ByteSize <;> simp [h]

theorem open_failures_reveal_only_cipher_length (P : Platform) (config : ClientConfig P.toTarget) :
    (∀ keys envelope context,
      let result := (openEnvelope P config keys envelope context).outcome
      ((∃ p, result = .ok p) ∨ result = .err (.messageTooLarge config.maxPlaintextBytes.1) ∨
        result = .err .invalidEnvelope) ∧
      (result = .err (.messageTooLarge config.maxPlaintextBytes.1) ↔
        cipherBound P config < envelope.cipher.utf8ByteSize)) ∧
    ∀ keys keys' envelope envelope' context context' e e',
      envelope.cipher.utf8ByteSize = envelope'.cipher.utf8ByteSize →
      (openEnvelope P config keys envelope context).outcome = .err e →
      (openEnvelope P config keys' envelope' context').outcome = .err e' → e = e' := by
  refine ⟨fun keys envelope context => ⟨?_, messageTooLarge_iff⟩, ?_⟩
  · obtain ⟨p, hp, -⟩ | herr := openEnvelope_outcome config keys envelope context
    · exact .inl ⟨p, hp⟩
    · rw [herr]
      split_ifs
      · exact .inr (.inl rfl)
      · exact .inr (.inr rfl)
  · intro keys keys' envelope envelope' context context' e e' hlen h h'
    obtain ⟨p, hp, -⟩ | herr := openEnvelope_outcome config keys envelope context
    · rw [hp] at h
      cases h
    · obtain ⟨p, hp, -⟩ | herr' := openEnvelope_outcome config keys' envelope' context'
      · rw [hp] at h'
        cases h'
      · rw [herr] at h
        rw [herr', ← hlen] at h'
        exact (Outcome.err.inj h).symm.trans (Outcome.err.inj h')

end EnvelopeLite.EnvelopeCrypto.OpenPath
