import EnvelopeLite.CallOrder
import EnvelopeLite.Client

namespace EnvelopeLite.OpenGate

open EnvelopeLite.Auth EnvelopeLite.ByteFields EnvelopeLite.CallOrder EnvelopeLite.CallTrace
open EnvelopeLite.Client EnvelopeLite.Common EnvelopeLite.Config EnvelopeLite.EnvelopeCrypto
open EnvelopeLite.EnvelopeCrypto.Frame EnvelopeLite.EnvelopeCrypto.OpenPath
open EnvelopeLite.Message EnvelopeLite.Primitives EnvelopeLite.SliceOps

variable {P : Platform}

def isKeyUnwrap : P.Call → Bool
  | .sm2Decrypt _ _ => true
  | _ => false

def isPayloadDecrypt : P.Call → Bool
  | .cbcDecrypt _ _ => true
  | .gcmDecrypt _ _ => true
  | .ccmDecrypt _ _ => true
  | _ => false

structure DecryptAllowed (before : List P.Call) : Prop where
  first : ∀ c ∈ before, isPayloadDecrypt c = false
  unwrapped : Cbc.SessionKeyUnwrapped before

variable (P)

def PayloadAdmitted (config : ClientConfig P.toTarget) (payload : Bytes) : Prop :=
  match config.envelopeMode with
  | .legacyCbc => payload.length ≤ Cbc.paddedCipherLen P.toTarget config.maxPlaintextBytes.1
  | .aead algorithm => frameOverheadBytes ≤ payload.length ∧ payload[0]? = some frameVersion ∧
      payload[1]? = some (algorithmByte algorithm) ∧
      payload.length - frameOverheadBytes ≤ config.maxPlaintextBytes.1

/-- All three fields were within their bounds and decoded, the payload is admitted,
and no private-key operation has been made yet. -/
structure UnwrapAllowed (config : ClientConfig P.toTarget) (envelope : SecureEnvelope)
    (before : List P.Call) (wrapped : Bytes) : Prop where
  first : ∀ c ∈ before, isKeyUnwrap c = false
  cipher_fits : envelope.cipher.utf8ByteSize ≤ cipherBound P config
  wrapped_fits : envelope.wrappedSessionKey.utf8ByteSize ≤ maxAuxiliaryBase64Bytes
  signature_fits : envelope.signature.utf8ByteSize ≤ maxAuxiliaryBase64Bytes
  wrapped_decoded : .base64Decode envelope.wrappedSessionKey (some wrapped) ∈ before
  signature_decoded : ∃ signature, .base64Decode envelope.signature (some signature) ∈ before
  cipher_decoded : ∃ payload, .base64Decode envelope.cipher (some payload) ∈ before ∧
    PayloadAdmitted P config payload

/-- What opening may call, given what it has called already. -/
def Gate (config : ClientConfig P.toTarget) (envelope : SecureEnvelope) (before : List P.Call) :
    P.Call → Prop
  | .base64Decode _ _ => True
  | .sm2Decrypt wrapped _ => UnwrapAllowed P config envelope before wrapped
  | .cbcDecrypt cipher _ => DecryptAllowed before ∧
      cipher.length ≤ Cbc.paddedCipherLen P.toTarget config.maxPlaintextBytes.1
  | .gcmDecrypt ciphertext _ => DecryptAllowed before ∧
      ciphertext.length ≤ config.maxPlaintextBytes.1
  | .ccmDecrypt joined _ => DecryptAllowed before ∧ ∃ (ciphertext : Bytes) (tag : Tag),
      joined = ciphertext ++ tag.1 ∧ ciphertext.length ≤ config.maxPlaintextBytes.1
  | .verifyWithId _ signerId _ _ _ => signerId = config.expectedRemoteSignerId.1 ∧
      (config.envelopeMode ≠ .legacyCbc → ∃ input plaintext,
        .gcmDecrypt input (some plaintext) ∈ before ∨ .ccmDecrypt input (some plaintext) ∈ before)
  | _ => False

variable {P} {config : ClientConfig P.toTarget} {keys : KeyMaterial P} {envelope : SecureEnvelope}
variable {context : AuthenticationContext}

section CbcPath

theorem guarded_unwrapParts (hmode : config.envelopeMode = .legacyCbc) :
    Guarded (Gate P config envelope) [] (Cbc.unwrapParts P config keys envelope).log := by
  simp only [Cbc.unwrapParts, guarded_bind, log_ensure, log_decodeBase64, log_unwrapSessionKey,
    log_pure, guarded_nil, guarded_cons, ensure_ok_iff, decodeBase64_ok_iff, not_or, not_lt,
    Gate, and_true, true_and, List.append_nil, List.nil_append, implies_true]
  intro _ hcipher _ hauxiliary cipher hdc _ hlength wrapped hdw signature hds
  refine ⟨?_, ?_, hauxiliary.1, hauxiliary.2, ?_, ⟨signature, ?_⟩, cipher, ?_, ?_⟩
  · simp [isKeyUnwrap]
  · simpa only [cipherBound, payloadBound, hmode] using hcipher
  · simp [hdw]
  · simp [hds]
  · simp [hdc]
  · simpa only [PayloadAdmitted, hmode] using hlength

theorem guarded_cbc_openEnvelope (hmode : config.envelopeMode = .legacyCbc) :
    Guarded (Gate P config envelope) [] (Cbc.openEnvelope P config keys envelope context).log := by
  rw [Cbc.openEnvelope_eq, guarded_bind]
  refine ⟨guarded_unwrapParts hmode, ?_⟩
  rintro ⟨cipher, signature, key⟩ hparts
  have hlength := (Cbc.unwrapParts_ok_iff.mp hparts).2.2.2.2.1
  rw [List.nil_append, Cbc.log_decryptAndVerify]
  refine ⟨⟨⟨?_, Cbc.sessionKeyUnwrapped_of_ok hparts⟩, hlength⟩, ⟨rfl, ?_⟩, trivial⟩
  · intro c hc
    obtain ⟨_, _, rfl⟩ | ⟨_, rfl, -⟩ := Cbc.mem_log_unwrapParts hc <;> rfl
  · exact fun hne => absurd hmode hne

end CbcPath

section AeadPath

theorem log_decodeFields {frame wrapped signature : Bytes}
    (h : (Aead.decodeFields P config envelope).outcome = .ok (frame, wrapped, signature)) :
    (Aead.decodeFields P config envelope).log =
      [.base64Decode envelope.cipher (some frame),
        .base64Decode envelope.wrappedSessionKey (some wrapped),
        .base64Decode envelope.signature (some signature)] := by
  obtain ⟨hc, hw, hs, hdc, hdw, hds⟩ := Aead.decodeFields_ok_iff.mp h
  have hauxiliary := not_or.mpr ⟨not_lt.mpr hw, not_lt.mpr hs⟩
  rw [Aead.decodeFields, Traced.bind_ok (a := ()) (ensure_ok_iff.mpr (not_lt.mpr hc)),
    Traced.bind_ok (a := ()) (ensure_ok_iff.mpr hauxiliary),
    Traced.bind_ok (decodeBase64_ok_iff.mpr hdc), Traced.bind_ok (decodeBase64_ok_iff.mpr hdw),
    Traced.bind_ok (decodeBase64_ok_iff.mpr hds)]
  simp [hdc, hdw, hds]

theorem guarded_decodeFields :
    Guarded (Gate P config envelope) [] (Aead.decodeFields P config envelope).log := by
  simp only [Aead.decodeFields, guarded_bind, log_ensure, log_decodeBase64, log_pure, guarded_nil,
    guarded_cons, Gate, and_true, implies_true]

theorem admitted_of_frame {algorithm : AeadAlgorithm} {nonce : Nonce} {ciphertext : Bytes}
    {tag : Tag} (hmode : config.envelopeMode = .aead algorithm)
    (hlimit : ciphertext.length ≤ config.maxPlaintextBytes.1) :
    PayloadAdmitted P config (frameBytes algorithm nonce ciphertext tag) := by
  have hlength : (frameBytes algorithm nonce ciphertext tag).length = ciphertext.length + 30 :=
    length_frameBytes
  simp only [PayloadAdmitted, hmode, hlength]
  refine ⟨Nat.le_add_left 30 _, rfl, rfl, ?_⟩
  rw [frameOverheadBytes, frameHeaderBytes, tagBytes]
  omega

theorem guarded_aeadDecrypt {algorithm : AeadAlgorithm} {key : SessionKey}
    {nonce aad ciphertext : Bytes} {tag : Tag} {before : List P.Call}
    (hallowed : DecryptAllowed before)
    (hlimit : ciphertext.length ≤ config.maxPlaintextBytes.1) :
    Guarded (Gate P config envelope) before
      (Aead.aeadDecrypt P algorithm key nonce aad ciphertext tag).log := by
  cases algorithm with
  | sm4Gcm =>
    rw [Aead.aeadDecrypt, log_call_bind, log_orFail]
    exact ⟨⟨hallowed, hlimit⟩, trivial⟩
  | sm4Ccm =>
    rw [Aead.aeadDecrypt, guarded_bind, log_boundedAdd, List.append_nil]
    refine ⟨trivial, fun _ _ => ?_⟩
    rw [log_call_bind, log_orFail]
    exact ⟨⟨hallowed, ciphertext, tag, rfl, hlimit⟩, trivial⟩

/-- Decryption that returns a plaintext has checked the tag. -/
theorem decrypted_mem_log {algorithm : AeadAlgorithm} {key : SessionKey}
    {nonce aad ciphertext p : Bytes} {tag : Tag}
    (h : (Aead.aeadDecrypt P algorithm key nonce aad ciphertext tag).outcome = .ok p) :
    ∃ input, .gcmDecrypt input (some p) ∈
        (Aead.aeadDecrypt P algorithm key nonce aad ciphertext tag).log ∨
      .ccmDecrypt input (some p) ∈
        (Aead.aeadDecrypt P algorithm key nonce aad ciphertext tag).log := by
  obtain ⟨hfit, hd⟩ := Aead.aeadDecrypt_ok_iff.mp h
  cases algorithm with
  | sm4Gcm =>
    refine ⟨ciphertext, .inl ?_⟩
    change P.gcmDecrypt key nonce aad ciphertext tag = some p at hd
    simp [Aead.aeadDecrypt, hd]
  | sm4Ccm =>
    refine ⟨ciphertext ++ tag.1, .inr ?_⟩
    change P.ccmDecrypt key nonce aad (ciphertext ++ tag.1) tagBytes = some p at hd
    simp [Aead.aeadDecrypt, hd, hfit rfl]

theorem guarded_decryptAndVerify {algorithm : AeadAlgorithm} {header : FixedBytes 14}
    {wrapped signature ciphertext : Bytes} {tag : Tag} {before : List P.Call}
    (hunwrap : UnwrapAllowed P config envelope before wrapped)
    (hfirst : ∀ c ∈ before, isPayloadDecrypt c = false)
    (hlimit : ciphertext.length ≤ config.maxPlaintextBytes.1) :
    Guarded (Gate P config envelope) before (Aead.decryptAndVerify P config keys context algorithm
      wrapped signature header ciphertext tag).log := by
  rw [Aead.decryptAndVerify, guarded_bind, log_unwrapSessionKey]
  refine ⟨⟨hunwrap, trivial⟩, fun key hkey => ?_⟩
  rw [unwrapSessionKey_ok_iff.mp hkey, guarded_bind, log_ofExcept, List.append_nil]
  refine ⟨trivial, fun aad _ => ?_⟩
  have hallowed : DecryptAllowed (before ++ [.sm2Decrypt wrapped (some key.1)]) := by
    refine ⟨?_, wrapped, key.1, by simp, key.2⟩
    simp only [List.forall_mem_append, List.forall_mem_singleton]
    exact ⟨hfirst, rfl⟩
  rw [guarded_bind]
  refine ⟨guarded_aeadDecrypt hallowed hlimit, fun p hp => ?_⟩
  obtain ⟨input, hopened⟩ := decrypted_mem_log hp
  rw [guarded_bind, log_ofExcept, List.append_nil]
  refine ⟨trivial, fun transcript _ => ?_⟩
  rw [log_call_bind]
  refine ⟨⟨rfl, fun _ => ⟨input, p, ?_⟩⟩, by simp⟩
  exact hopened.imp (List.mem_append_right _) (List.mem_append_right _)

theorem guarded_aead_openEnvelope {algorithm : AeadAlgorithm}
    (hmode : config.envelopeMode = .aead algorithm) :
    Guarded (Gate P config envelope) []
      (Aead.openEnvelope P config keys envelope context algorithm).log := by
  rw [Aead.openEnvelope_eq, guarded_bind]
  refine ⟨guarded_decodeFields, ?_⟩
  rintro ⟨frame, wrapped, signature⟩ hfields
  obtain ⟨hc, hw, hs, -, -, -⟩ := Aead.decodeFields_ok_iff.mp hfields
  rw [List.nil_append, log_decodeFields hfields, guarded_bind, log_parseFrame, List.append_nil]
  refine ⟨trivial, ?_⟩
  rintro ⟨header, ciphertext, tag⟩ hframe
  obtain ⟨nonce, rfl, rfl, hlimit⟩ := parseFrame_ok_iff.mp hframe
  apply guarded_decryptAndVerify ?_ (by simp [isPayloadDecrypt]) hlimit
  refine ⟨by simp [isKeyUnwrap], ?_, hw, hs, by simp, ⟨signature, by simp⟩, _,
    List.mem_cons_self, admitted_of_frame hmode hlimit⟩
  simpa only [cipherBound, payloadBound, hmode] using hc

end AeadPath

theorem guarded_openEnvelope (config : ClientConfig P.toTarget) (keys : KeyMaterial P)
    (envelope : SecureEnvelope) (context : AuthenticationContext) :
    Guarded (Gate P config envelope) [] (openEnvelope P config keys envelope context).log := by
  unfold openEnvelope
  split
  · next algorithm hmode => exact guarded_aead_openEnvelope hmode
  · next hmode => exact guarded_cbc_openEnvelope hmode

theorem Gate.first_unwrap {before : List P.Call} {c : P.Call} (h : Gate P config envelope before c)
    (hc : isKeyUnwrap c = true) : ∀ d ∈ before, isKeyUnwrap d = false := by
  cases c with
  | sm2Decrypt wrapped result => exact UnwrapAllowed.first h
  | _ => cases hc

theorem Gate.first_decrypt {before : List P.Call} {c : P.Call} (h : Gate P config envelope before c)
    (hc : isPayloadDecrypt c = true) : ∀ d ∈ before, isPayloadDecrypt d = false := by
  cases c with
  | cbcDecrypt cipher result => exact DecryptAllowed.first h.1
  | gcmDecrypt ciphertext result => exact DecryptAllowed.first h.1
  | ccmDecrypt joined result => exact DecryptAllowed.first h.1
  | _ => cases hc

theorem inbound_work_is_gated (P : Platform) (client : SecureClient P) (response : ResponseParts) :
    let log := (client.openResponse response).log
    (log ≠ [] → ∃ parsed, client.adapter.parseResponse response = .ok parsed ∧
      parsed.remoteSigningCertificateId.1 =
        client.config.identity.expectedRemoteSigningCertificateId.1) ∧
    log.countP isKeyUnwrap ≤ 1 ∧ log.countP isPayloadDecrypt ≤ 1 ∧
    ∀ parsed, client.adapter.parseResponse response = .ok parsed →
      ∀ before c after, log = before ++ c :: after →
        Gate P client.config parsed.envelope before c := by
  intro log
  cases hparse : client.adapter.parseResponse response with
  | error e =>
    have hlog : log = [] := by
      change (client.openResponse response).log = []
      rw [client.openResponse_eq_fail hparse]
      rfl
    simp [hlog]
  | ok parsed =>
    by_cases hclaim : parsed.remoteSigningCertificateId.1 =
        client.config.identity.expectedRemoteSigningCertificateId.1
    · have hlog : log = (openEnvelope P client.config client.keys parsed.envelope
          parsed.authenticationContext).log := by
        change (client.openResponse response).log = _
        rw [client.openResponse_eq_ite hparse, if_pos hclaim]
        rfl
      have hguard := guarded_openEnvelope client.config client.keys parsed.envelope
        parsed.authenticationContext
      rw [← hlog] at hguard
      refine ⟨fun _ => ⟨parsed, rfl, hclaim⟩, ?_, ?_, ?_⟩
      · exact hguard.countP_le_one (fun _ _ => Gate.first_unwrap) (Nat.zero_le 1)
      · exact hguard.countP_le_one (fun _ _ => Gate.first_decrypt) (Nat.zero_le 1)
      · rintro parsed' hparsed before c after he
        cases hparsed
        exact hguard.of_eq_append he
    · have hlog : log = [] := by
        change (client.openResponse response).log = []
        rw [client.openResponse_eq_ite hparse, if_neg hclaim]
        rfl
      simp [hlog]

end EnvelopeLite.OpenGate
