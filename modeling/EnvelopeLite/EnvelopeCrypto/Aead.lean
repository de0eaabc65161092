import EnvelopeLite.EnvelopeCrypto.Frame

namespace EnvelopeLite.EnvelopeCrypto.Aead

open EnvelopeLite.Auth EnvelopeLite.ByteFields EnvelopeLite.CallTrace EnvelopeLite.CheckedArith
open EnvelopeLite.Common EnvelopeLite.Config EnvelopeLite.EnvelopeCrypto.Frame
open EnvelopeLite.Primitives EnvelopeLite.SliceOps

variable (P : Platform)

def splitCiphertextAndTag (joined : Bytes) : Run P (Option (Bytes × Tag)) :=
  if joined.length < tagBytes then pure none
  else do
    let ciphertextLen ← checkedSub joined.length tagBytes
    let (ciphertext, tagSlice) ← splitAt joined ciphertextLen
    pure ((arrayTryFrom 16 tagSlice).map fun tag => (ciphertext, tag))

def aeadEncrypt (algorithm : AeadAlgorithm) (sessionKey : SessionKey)
    (nonce aad plaintext : Bytes) : Run P (Bytes × Tag) :=
  match algorithm with
  | .sm4Gcm => do
    let sealed ← call (.gcmEncrypt plaintext) (P.gcmEncrypt sessionKey nonce aad plaintext)
    orFail sealed .encryption
  | .sm4Ccm => do
    let joined ← call (.ccmEncrypt plaintext) (P.ccmEncrypt sessionKey nonce aad plaintext tagBytes)
    let joined ← orFail joined .encryption
    let parts ← splitCiphertextAndTag P joined
    orFail parts .encryption

def aeadDecrypt (algorithm : AeadAlgorithm) (sessionKey : SessionKey)
    (nonce aad ciphertext : Bytes) (tag : Tag) : Run P Bytes :=
  match algorithm with
  | .sm4Gcm => do
    let opened := P.gcmDecrypt sessionKey nonce aad ciphertext tag
    let opened ← call (.gcmDecrypt ciphertext opened) opened
    orFail opened .invalidEnvelope
  | .sm4Ccm => do
    let _capacity ← boundedAdd P.usizeMax ciphertext.length tagBytes
    let joined := ciphertext ++ tag.1
    let opened := P.ccmDecrypt sessionKey nonce aad joined tagBytes
    let opened ← call (.ccmDecrypt joined opened) opened
    orFail opened .invalidEnvelope

def sealEnvelope (config : ClientConfig P.toTarget) (keys : KeyMaterial P) (random : Randomness P)
    (plaintext : Bytes) (context : AuthenticationContext) (algorithm : AeadAlgorithm) :
    Run P SecureEnvelope := do
  let authenticationInput ← ofExcept
    (config.authenticationMode.authenticationInput P.toTarget context plaintext)
  let sessionKey ← generateSessionKey P random
  let filled ← call (.fillRandom nonceBytes) random.nonce
  let nonce ← orFail filled .encryption
  let header := frameHeader algorithm nonce
  let aad ← ofExcept (config.authenticationMode.aeadAad P.toTarget context header)
  let (ciphertext, tag) ← aeadEncrypt P algorithm sessionKey nonce.1 aad plaintext
  let _frameLen ← orFail (checkedAdd P.usizeMax frameOverheadBytes ciphertext.length) .encryption
  let frame := header.1 ++ ciphertext ++ tag.1
  let (wrappedSessionKey, signature) ←
    wrapAndSign P config keys random sessionKey authenticationInput
  pure {
    cipher := ← encodeBase64 P frame
    wrappedSessionKey := ← encodeBase64 P wrappedSessionKey
    signature := ← encodeBase64 P signature }

def openEnvelope (config : ClientConfig P.toTarget) (keys : KeyMaterial P)
    (envelope : SecureEnvelope) (context : AuthenticationContext) (algorithm : AeadAlgorithm) :
    Run P Bytes := do
  let plaintextLimit := config.maxPlaintextBytes.1
  let maxFrameBytes := saturatingAdd P.usizeMax plaintextLimit frameOverheadBytes
  ensure (¬ envelope.cipher.utf8ByteSize > base64Len P.toTarget maxFrameBytes)
    (.messageTooLarge plaintextLimit)
  ensure (¬ (envelope.wrappedSessionKey.utf8ByteSize > maxAuxiliaryBase64Bytes ∨
    envelope.signature.utf8ByteSize > maxAuxiliaryBase64Bytes)) .invalidEnvelope
  let frame ← decodeBase64 P envelope.cipher
  let wrappedSessionKey ← decodeBase64 P envelope.wrappedSessionKey
  let signature ← decodeBase64 P envelope.signature
  ensure (¬ frame.length < frameOverheadBytes) .invalidEnvelope
  let version ← index frame 0
  ensure (version = frameVersion) .invalidEnvelope
  let algorithmId ← index frame 1
  ensure (algorithmId = algorithmByte algorithm) .invalidEnvelope
  let (headerBytes, body) ← splitAt frame frameHeaderBytes
  let ciphertextLen ← checkedSub body.length tagBytes
  ensure (¬ ciphertextLen > plaintextLimit) .invalidEnvelope
  let (ciphertext, tagSlice) ← splitAt body ciphertextLen
  let header ← copyFromSlice frameHeaderBytes headerBytes
  let tag ← copyFromSlice tagBytes tagSlice
  let nonce ← sliceFrom header.1 2
  let sessionKey ← unwrapSessionKey P keys wrappedSessionKey
  let aad ← ofExcept ((config.authenticationMode.aeadAad P.toTarget context header).mapError
    (fun _ => .invalidEnvelope))
  let plaintext ← aeadDecrypt P algorithm sessionKey nonce aad ciphertext tag
  let authenticationInput ← ofExcept
    ((config.authenticationMode.authenticationInput P.toTarget context plaintext).mapError
      (fun _ => .invalidEnvelope))
  let signerId := config.expectedRemoteSignerId.1
  let verified := P.verifyWithId keys.remoteVerification signerId authenticationInput signature
  let verified ← call
    (.verifyWithId keys.remoteVerification signerId authenticationInput signature verified) verified
  ensure (verified = true) .invalidEnvelope
  pure plaintext

section Primitives

/-- The last 16 bytes of a joined output and what comes before them. -/
def detachTag (joined : Bytes) : Option (Bytes × Tag) :=
  (arrayTryFrom 16 (joined.drop (joined.length - tagBytes))).map fun tag =>
    (joined.take (joined.length - tagBytes), tag)

def encrypted (algorithm : AeadAlgorithm) (key : SessionKey) (nonce aad plaintext : Bytes) :
    Option (Bytes × Tag) :=
  match algorithm with
  | .sm4Gcm => P.gcmEncrypt key nonce aad plaintext
  | .sm4Ccm => (P.ccmEncrypt key nonce aad plaintext tagBytes).bind detachTag

def decrypted (algorithm : AeadAlgorithm) (key : SessionKey) (nonce aad ciphertext : Bytes)
    (tag : Tag) : Option Bytes :=
  match algorithm with
  | .sm4Gcm => P.gcmDecrypt key nonce aad ciphertext tag
  | .sm4Ccm => P.ccmDecrypt key nonce aad (ciphertext ++ tag.1) tagBytes

variable {P}

theorem detachTag_eq_some_iff {joined ciphertext : Bytes} {tag : Tag} :
    detachTag joined = some (ciphertext, tag) ↔ joined = ciphertext ++ tag.1 := by
  have htag := tag.2
  simp only [detachTag, Option.map_eq_some_iff, arrayTryFrom_eq_some_iff, Prod.mk.injEq]
  constructor
  · rintro ⟨t, ht, rfl, rfl⟩
    rw [← ht, List.take_append_drop]
  · rintro rfl
    exact ⟨tag, by simp [tagBytes, htag], by simp [tagBytes, htag], rfl⟩

theorem detachTag_eq_none_iff {joined : Bytes} :
    detachTag joined = none ↔ joined.length < tagBytes := by
  rw [detachTag, Option.map_eq_none_iff, arrayTryFrom_eq_none_iff, List.length_drop]
  unfold tagBytes
  omega

/-- Every operation of the split is in bounds and the conversion of the tag fits. -/
theorem splitCiphertextAndTag_eq (joined : Bytes) :
    splitCiphertextAndTag P joined = pure (detachTag joined) := by
  by_cases hshort : joined.length < tagBytes
  · rw [splitCiphertextAndTag, if_pos hshort, detachTag_eq_none_iff.mpr hshort]
  · rw [splitCiphertextAndTag, if_neg hshort, checkedSub_of_le (not_lt.mp hshort), pure_bind,
      splitAt_of_le (Nat.sub_le _ _), pure_bind]
    rfl

theorem encrypted_ccm_iff {key : SessionKey} {nonce aad plaintext ciphertext : Bytes} {tag : Tag} :
    encrypted P .sm4Ccm key nonce aad plaintext = some (ciphertext, tag) ↔
      P.ccmEncrypt key nonce aad plaintext tagBytes = some (ciphertext ++ tag.1) := by
  simp only [encrypted, Option.bind_eq_some_iff, detachTag_eq_some_iff,
    exists_eq_right]

theorem aeadEncrypt_ok_iff {algorithm : AeadAlgorithm} {key : SessionKey}
    {nonce aad plaintext : Bytes} {r : Bytes × Tag} :
    (aeadEncrypt P algorithm key nonce aad plaintext).outcome = .ok r ↔
      encrypted P algorithm key nonce aad plaintext = some r := by
  cases algorithm with
  | sm4Gcm => simp [aeadEncrypt, encrypted]
  | sm4Ccm => simp [aeadEncrypt, encrypted, splitCiphertextAndTag_eq, Option.bind_eq_some_iff]

theorem emits_aeadEncrypt {algorithm : AeadAlgorithm} {key : SessionKey}
    {nonce aad plaintext : Bytes} {R : P.Call → Prop} (hgcm : R (.gcmEncrypt plaintext))
    (hccm : algorithm = .sm4Ccm → R (.ccmEncrypt plaintext)) :
    Emits (aeadEncrypt P algorithm key nonce aad plaintext) R := by
  cases algorithm with
  | sm4Gcm => simp [aeadEncrypt, hgcm]
  | sm4Ccm => simp [aeadEncrypt, splitCiphertextAndTag_eq, hccm]

theorem ends_aeadEncrypt {algorithm : AeadAlgorithm} {key : SessionKey}
    {nonce aad plaintext : Bytes} {Q : Bytes × Tag → Prop} {S : Error → Prop}
    (hq : ∀ r, encrypted P algorithm key nonce aad plaintext = some r → Q r)
    (hs : encrypted P algorithm key nonce aad plaintext = none → S .encryption) :
    Ends (aeadEncrypt P algorithm key nonce aad plaintext) Q S := by
  cases algorithm with
  | sm4Gcm =>
    simp only [aeadEncrypt, ends_bind, ends_call, ends_orFail]
    exact ⟨hq, hs⟩
  | sm4Ccm =>
    simp only [aeadEncrypt, splitCiphertextAndTag_eq, ends_bind, ends_call, ends_orFail, ends_pure]
    refine ⟨fun joined hj => ⟨fun r hr => hq r ?_, fun hr => hs ?_⟩, fun hj => hs ?_⟩
    · rw [encrypted, hj, Option.bind_some, hr]
    · rw [encrypted, hj, Option.bind_some, hr]
    · rw [encrypted, hj, Option.bind_none]

theorem aeadDecrypt_ok_iff {algorithm : AeadAlgorithm} {key : SessionKey}
    {nonce aad ciphertext p : Bytes} {tag : Tag} :
    (aeadDecrypt P algorithm key nonce aad ciphertext tag).outcome = .ok p ↔
      (algorithm = .sm4Ccm → ciphertext.length + tagBytes ≤ P.usizeMax) ∧
        decrypted P algorithm key nonce aad ciphertext tag = some p := by
  cases algorithm with
  | sm4Gcm => simp [aeadDecrypt, decrypted]
  | sm4Ccm => simp [aeadDecrypt, decrypted]

theorem emits_aeadDecrypt {algorithm : AeadAlgorithm} {key : SessionKey}
    {nonce aad ciphertext : Bytes} {tag : Tag} {R : P.Call → Prop}
    (hgcm : ∀ r, R (.gcmDecrypt ciphertext r))
    (hccm : algorithm = .sm4Ccm → ∀ r, R (.ccmDecrypt (ciphertext ++ tag.1) r)) :
    Emits (aeadDecrypt P algorithm key nonce aad ciphertext tag) R := by
  cases algorithm with
  | sm4Gcm => simp [aeadDecrypt, hgcm]
  | sm4Ccm =>
    rw [aeadDecrypt, emits_bind]
    exact ⟨emits_of_log_eq_nil log_boundedAdd, fun _ _ => by simp [hccm]⟩

theorem ends_aeadDecrypt {algorithm : AeadAlgorithm} {key : SessionKey}
    {nonce aad ciphertext : Bytes} {tag : Tag} {Q : Bytes → Prop} {S : Error → Prop}
    (hfit : algorithm = .sm4Ccm → ciphertext.length + tagBytes ≤ P.usizeMax)
    (hq : ∀ p, Q p) (hs : S .invalidEnvelope) :
    Ends (aeadDecrypt P algorithm key nonce aad ciphertext tag) Q S := by
  cases algorithm with
  | sm4Gcm => simp [aeadDecrypt, hq, hs]
  | sm4Ccm => simp [aeadDecrypt, hfit, hq, hs]

def PreservesLength (P : Platform) (algorithm : AeadAlgorithm) : Prop :=
  ∀ key nonce aad ciphertext tag p,
    decrypted P algorithm key nonce aad ciphertext tag = some p → p.length = ciphertext.length

theorem length_encrypted (laws : AeadLaws P) {algorithm : AeadAlgorithm} {key : SessionKey}
    {nonce aad p ciphertext : Bytes} {tag : Tag}
    (h : encrypted P algorithm key nonce aad p = some (ciphertext, tag)) :
    ciphertext.length = p.length := by
  cases algorithm with
  | sm4Gcm => exact laws.gcm_length_encrypt _ _ _ _ _ _ h
  | sm4Ccm =>
    have hlen := laws.ccm_length_encrypt _ _ _ _ _ (encrypted_ccm_iff.mp h)
    rw [List.length_append, tag.2] at hlen
    omega

theorem decrypted_of_encrypted (laws : AeadLaws P) {algorithm : AeadAlgorithm} {key : SessionKey}
    {nonce aad p ciphertext : Bytes} {tag : Tag}
    (h : encrypted P algorithm key nonce aad p = some (ciphertext, tag)) :
    decrypted P algorithm key nonce aad ciphertext tag = some p := by
  cases algorithm with
  | sm4Gcm => exact laws.gcm_decrypt_encrypt _ _ _ _ _ _ h
  | sm4Ccm => exact laws.ccm_decrypt_encrypt _ _ _ _ _ (encrypted_ccm_iff.mp h)

end Primitives

section Opening

/-- The part of `openEnvelope` before the frame is looked at. -/
def decodeFields (config : ClientConfig P.toTarget) (envelope : SecureEnvelope) :
    Run P (Bytes × Bytes × Bytes) := do
  let plaintextLimit := config.maxPlaintextBytes.1
  let maxFrameBytes := saturatingAdd P.usizeMax plaintextLimit frameOverheadBytes
  ensure (¬ envelope.cipher.utf8ByteSize > base64Len P.toTarget maxFrameBytes)
    (.messageTooLarge plaintextLimit)
  ensure (¬ (envelope.wrappedSessionKey.utf8ByteSize > maxAuxiliaryBase64Bytes ∨
    envelope.signature.utf8ByteSize > maxAuxiliaryBase64Bytes)) .invalidEnvelope
  let frame ← decodeBase64 P envelope.cipher
  let wrappedSessionKey ← decodeBase64 P envelope.wrappedSessionKey
  let signature ← decodeBase64 P envelope.signature
  pure (frame, wrappedSessionKey, signature)

/-- The part of `openEnvelope` after the frame is taken apart. -/
def decryptAndVerify (config : ClientConfig P.toTarget) (keys : KeyMaterial P)
    (context : AuthenticationContext) (algorithm : AeadAlgorithm)
    (wrappedSessionKey signature : Bytes) (header : FixedBytes 14) (ciphertext : Bytes)
    (tag : Tag) : Run P Bytes := do
  let sessionKey ← unwrapSessionKey P keys wrappedSessionKey
  let aad ← ofExcept ((config.authenticationMode.aeadAad P.toTarget context header).mapError
    (fun _ => .invalidEnvelope))
  let plaintext ← aeadDecrypt P algorithm sessionKey (header.1.drop 2) aad ciphertext tag
  let authenticationInput ← ofExcept
    ((config.authenticationMode.authenticationInput P.toTarget context plaintext).mapError
      (fun _ => .invalidEnvelope))
  let signerId := config.expectedRemoteSignerId.1
  let verified := P.verifyWithId keys.remoteVerification signerId authenticationInput signature
  let verified ← call
    (.verifyWithId keys.remoteVerification signerId authenticationInput signature verified) verified
  ensure (verified = true) .invalidEnvelope
  pure plaintext

variable {P}

theorem openEnvelope_eq (config : ClientConfig P.toTarget) (keys : KeyMaterial P)
    (envelope : SecureEnvelope) (context : AuthenticationContext) (algorithm : AeadAlgorithm) :
    openEnvelope P config keys envelope context algorithm =
      decodeFields P config envelope >>= fun r =>
        parseFrame P algorithm config.maxPlaintextBytes.1 r.1 >>= fun f =>
          decryptAndVerify P config keys context algorithm r.2.1 r.2.2 f.1 f.2.1 f.2.2 := by
  have hslice (header : FixedBytes frameHeaderBytes) :
      (sliceFrom header.1 2 : Run P Bytes) = pure (header.1.drop 2) :=
    sliceFrom_of_le (by rw [header.2]; decide)
  simp only [openEnvelope, decodeFields, parseFrame, decryptAndVerify, hslice, bind_assoc,
    pure_bind]

theorem decodeFields_ok_iff {config : ClientConfig P.toTarget} {envelope : SecureEnvelope}
    {frame wrapped signature : Bytes} :
    (decodeFields P config envelope).outcome = .ok (frame, wrapped, signature) ↔
      envelope.cipher.utf8ByteSize ≤ base64Len P.toTarget
        (saturatingAdd P.usizeMax config.maxPlaintextBytes.1 frameOverheadBytes) ∧
      envelope.wrappedSessionKey.utf8ByteSize ≤ maxAuxiliaryBase64Bytes ∧
      envelope.signature.utf8ByteSize ≤ maxAuxiliaryBase64Bytes ∧
      P.base64Decode envelope.cipher = some frame ∧
      P.base64Decode envelope.wrappedSessionKey = some wrapped ∧
      P.base64Decode envelope.signature = some signature := by
  simp only [decodeFields, bind_ok_iff, ensure_ok_iff, decodeBase64_ok_iff, pure_ok_iff, not_or,
    not_lt]
  constructor
  · rintro ⟨-, hc, -, ⟨hw, hs⟩, f, hdf, w, hdw, s, hds, he⟩
    obtain ⟨rfl, rfl, rfl⟩ : f = frame ∧ w = wrapped ∧ s = signature := by simpa using he
    exact ⟨hc, hw, hs, hdf, hdw, hds⟩
  · rintro ⟨hc, hw, hs, hdf, hdw, hds⟩
    exact ⟨(), hc, (), ⟨hw, hs⟩, _, hdf, _, hdw, _, hds, rfl⟩

theorem decryptAndVerify_ok_iff {config : ClientConfig P.toTarget} {keys : KeyMaterial P}
    {context : AuthenticationContext} {algorithm : AeadAlgorithm}
    {wrapped signature ciphertext p : Bytes} {header : FixedBytes 14} {tag : Tag} :
    (decryptAndVerify P config keys context algorithm wrapped signature header ciphertext
        tag).outcome = .ok p ↔
      (algorithm = .sm4Ccm → ciphertext.length + tagBytes ≤ P.usizeMax) ∧
      ∃ (key : SessionKey) (aad input : Bytes),
        P.sm2Decrypt keys.localDecryption wrapped = some key.1 ∧
        config.authenticationMode.aeadAad P.toTarget context header = .ok aad ∧
        decrypted P algorithm key (header.1.drop 2) aad ciphertext tag = some p ∧
        config.authenticationMode.authenticationInput P.toTarget context p = .ok input ∧
        P.verifyWithId keys.remoteVerification config.expectedRemoteSignerId.1 input signature =
          true := by
  simp only [decryptAndVerify, bind_ok_iff, unwrapSessionKey_ok_iff, ofExcept_ok_iff,
    mapError_ok_iff, aeadDecrypt_ok_iff, call_ok_iff, exists_eq_left', ensure_ok_iff, pure_ok_iff]
  constructor
  · rintro ⟨key, hk, aad, ha, q, ⟨hfit, hd⟩, input, hi, -, hv, rfl⟩
    exact ⟨hfit, key, aad, input, hk, ha, hd, hi, hv⟩
  · rintro ⟨hfit, key, aad, input, hk, ha, hd, hi, hv⟩
    exact ⟨key, hk, aad, ha, p, ⟨hfit, hd⟩, input, hi, (), hv, rfl⟩

/-- A ciphertext that passed the limit check leaves room for the tag in CCM mode. -/
theorem ccm_capacity {config : ClientConfig P.toTarget} {algorithm : AeadAlgorithm} {n : Nat}
    (hmode : config.envelopeMode = .aead algorithm) (hn : n ≤ config.maxPlaintextBytes.1)
    (hccm : algorithm = .sm4Ccm) : n + tagBytes ≤ P.usizeMax := by
  have hlimit := config.limit_accepted.2 (by rw [hmode, hccm])
  have hM := P.le_usizeMax
  unfold sm4CcmMaxPlaintextBytes at hlimit
  unfold tagBytes
  omega

theorem ends_decryptAndVerify {config : ClientConfig P.toTarget} {keys : KeyMaterial P}
    {context : AuthenticationContext} {algorithm : AeadAlgorithm}
    {wrapped signature ciphertext : Bytes} {header : FixedBytes 14} {tag : Tag}
    {Q : Bytes → Prop} {S : Error → Prop}
    (hfit : algorithm = .sm4Ccm → ciphertext.length + tagBytes ≤ P.usizeMax)
    (hq : ∀ p, Q p) (hs : S .invalidEnvelope) :
    Ends (decryptAndVerify P config keys context algorithm wrapped signature header ciphertext
      tag) Q S := by
  rw [decryptAndVerify, ends_bind]
  refine ends_unwrapSessionKey (fun key => ?_) hs
  rw [ends_bind]
  refine ends_ofExcept_mapError (fun aad => ?_) hs
  rw [ends_bind]
  refine ends_aeadDecrypt hfit (fun p => ?_) hs
  rw [ends_bind]
  refine ends_ofExcept_mapError (fun input => ?_) hs
  simp [hq, hs]

theorem ends_openEnvelope {config : ClientConfig P.toTarget} {keys : KeyMaterial P}
    {envelope : SecureEnvelope} {context : AuthenticationContext} {algorithm : AeadAlgorithm}
    {Q : Bytes → Prop} {S : Error → Prop} (bound : Nat)
    (hmode : config.envelopeMode = .aead algorithm)
    (hbound : bound = base64Len P.toTarget
      (saturatingAdd P.usizeMax config.maxPlaintextBytes.1 frameOverheadBytes))
    (hq : envelope.cipher.utf8ByteSize ≤ bound → ∀ p, Q p)
    (htoo : bound < envelope.cipher.utf8ByteSize → S (.messageTooLarge config.maxPlaintextBytes.1))
    (hs : envelope.cipher.utf8ByteSize ≤ bound → S .invalidEnvelope) :
    Ends (openEnvelope P config keys envelope context algorithm) Q S := by
  subst hbound
  simp only [openEnvelope_eq, decodeFields, ends_bind, ends_ensure, not_lt]
  refine ⟨fun hc => ⟨fun _ => ?_, fun _ => hs hc⟩, fun hc => htoo (by omega)⟩
  refine ends_decodeBase64 (fun frame => ?_) (hs hc)
  refine ends_decodeBase64 (fun wrapped => ?_) (hs hc)
  refine ends_decodeBase64 (fun signature => ?_) (hs hc)
  rw [ends_pure]
  refine ends_parseFrame (fun header ciphertext tag hlimit => ?_) (hs hc)
  exact ends_decryptAndVerify (ccm_capacity hmode hlimit) (hq hc) (hs hc)

theorem emits_openEnvelope_of {config : ClientConfig P.toTarget} {keys : KeyMaterial P}
    {envelope : SecureEnvelope} {context : AuthenticationContext} {algorithm : AeadAlgorithm}
    {R : P.Call → Prop} (hdecode : ∀ value r, R (.base64Decode value r))
    (hunwrap : ∀ wrapped r, R (.sm2Decrypt wrapped r))
    (hgcm : ∀ ciphertext r, R (.gcmDecrypt ciphertext r))
    (hccm : algorithm = .sm4Ccm → ∀ (ciphertext : Bytes) (tag : Tag) r,
      ciphertext.length ≤ config.maxPlaintextBytes.1 → R (.ccmDecrypt (ciphertext ++ tag.1) r))
    (hverify : ∀ input signature, P.base64Decode envelope.signature = some signature →
      R (.verifyWithId keys.remoteVerification config.expectedRemoteSignerId.1 input signature
        (P.verifyWithId keys.remoteVerification config.expectedRemoteSignerId.1 input
          signature))) :
    Emits (openEnvelope P config keys envelope context algorithm) R := by
  rw [openEnvelope_eq, emits_bind]
  refine ⟨by simp [decodeFields, hdecode], ?_⟩
  rintro ⟨frame, wrapped, signature⟩ hfields
  obtain ⟨-, -, -, -, -, hsignature⟩ := decodeFields_ok_iff.mp hfields
  rw [emits_bind]
  refine ⟨emits_of_log_eq_nil log_parseFrame, ?_⟩
  rintro ⟨header, ciphertext, tag⟩ hframe
  obtain ⟨-, -, -, hlimit⟩ := parseFrame_ok_iff.mp hframe
  rw [decryptAndVerify, emits_bind, emits_unwrapSessionKey]
  refine ⟨hunwrap _ _, fun key _ => ?_⟩
  rw [emits_bind]
  refine ⟨emits_ofExcept, fun aad _ => ?_⟩
  rw [emits_bind]
  refine ⟨emits_aeadDecrypt (hgcm _) fun h r => hccm h ciphertext tag r hlimit, fun p _ => ?_⟩
  rw [emits_bind]
  refine ⟨emits_ofExcept, fun input _ => ?_⟩
  rw [emits_bind, emits_call]
  exact ⟨hverify input signature hsignature, by simp⟩

theorem verified_mem_log_of_ok {config : ClientConfig P.toTarget} {keys : KeyMaterial P}
    {envelope : SecureEnvelope} {context : AuthenticationContext} {algorithm : AeadAlgorithm}
    {p : Bytes}
    (h : (openEnvelope P config keys envelope context algorithm).outcome = .ok p) :
    ∃ input signature, P.base64Decode envelope.signature = some signature ∧
      config.authenticationMode.authenticationInput P.toTarget context p = .ok input ∧
      P.verifyWithId keys.remoteVerification config.expectedRemoteSignerId.1 input signature =
        true ∧
      .verifyWithId keys.remoteVerification config.expectedRemoteSignerId.1 input signature true ∈
        (openEnvelope P config keys envelope context algorithm).log := by
  rw [openEnvelope_eq] at h ⊢
  obtain ⟨⟨frame, wrapped, signature⟩, hfields, h⟩ := bind_ok_iff.mp h
  obtain ⟨⟨header, ciphertext, tag⟩, hframe, h⟩ := bind_ok_iff.mp h
  obtain ⟨hfit, key, aad, input, hk, ha, hd, hi, hv⟩ := decryptAndVerify_ok_iff.mp h
  obtain ⟨-, -, -, -, -, hsignature⟩ := decodeFields_ok_iff.mp hfields
  refine ⟨input, signature, hsignature, hi, hv, ?_⟩
  refine mem_log_bind.mpr (.inr ⟨_, hfields, mem_log_bind.mpr (.inr ⟨_, hframe, ?_⟩)⟩)
  rw [decryptAndVerify]
  refine mem_log_bind.mpr (.inr ⟨key, unwrapSessionKey_ok_iff.mpr hk, ?_⟩)
  refine mem_log_bind.mpr (.inr ⟨aad, ofExcept_ok_iff.mpr (mapError_ok_iff.mpr ha), ?_⟩)
  refine mem_log_bind.mpr (.inr ⟨p, aeadDecrypt_ok_iff.mpr ⟨hfit, hd⟩, ?_⟩)
  refine mem_log_bind.mpr (.inr ⟨input, ofExcept_ok_iff.mpr (mapError_ok_iff.mpr hi), ?_⟩)
  exact mem_log_bind.mpr (.inl (by simp [hv]))

end Opening

end EnvelopeLite.EnvelopeCrypto.Aead
