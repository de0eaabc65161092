import EnvelopeLite.Peers
import EnvelopeLite.ReferencePrimitives

namespace EnvelopeLite.ModeSeparation

open EnvelopeLite.Auth EnvelopeLite.ByteFields EnvelopeLite.CallTrace EnvelopeLite.Common
open EnvelopeLite.Config EnvelopeLite.EnvelopeCrypto EnvelopeLite.EnvelopeCrypto.Frame
open EnvelopeLite.EnvelopeCrypto.OpenPath EnvelopeLite.EnvelopeCrypto.SealPath
open EnvelopeLite.Peers EnvelopeLite.Primitives EnvelopeLite.ReferencePrimitives

variable {P : Platform} {sender receiver : ClientConfig P.toTarget}
variable {senderKeys receiverKeys : KeyMaterial P} {random : Randomness P} {p q : Bytes}
variable {context context' : AuthenticationContext} {envelope envelope' : SecureEnvelope}

section EnvelopeModes

/-- What tells a CBC payload from an AEAD frame. Nothing is assumed about what a
cipher makes of the other's output, except for its length. -/
structure ConfusionLaws (P : Platform) : Prop where
  binding : SignatureBinding P
  cbc_decrypt_encrypt : ∀ key iv p, P.cbcDecrypt key iv (P.cbcEncrypt key iv p) = some p
  cbc_length : ∀ key iv c p, P.cbcDecrypt key iv c = some p →
    p.length + 1 ≤ c.length ∧ c.length ≤ p.length + 16
  aead_decrypt_encrypt : ∀ algorithm key nonce aad p c t,
    Aead.encrypted P algorithm key nonce aad p = some (c, t) →
      Aead.decrypted P algorithm key nonce aad c t = some p
  aead_length : ∀ algorithm, Aead.PreservesLength P algorithm

theorem frameBytes_algorithm {algorithm algorithm' : AeadAlgorithm} {nonce nonce' : Nonce}
    {c c' : Bytes} {t t' : Tag}
    (h : frameBytes algorithm nonce c t = frameBytes algorithm' nonce' c' t') :
    algorithm = algorithm' := by
  have hbyte : algorithmByte algorithm = algorithmByte algorithm' :=
    Option.some.inj (congrArg (fun b : Bytes => b[1]?) h)
  cases algorithm <;> cases algorithm' <;> first | rfl | exact absurd hbyte (by decide)

theorem length_of_seals (laws : ConfusionLaws P) {nonce? : Option Nonce} {key : SessionKey}
    {payload : Bytes} (h : PayloadSeals P sender context nonce? key p payload) :
    (sender.envelopeMode = .legacyCbc ∧ payload.length ≤ p.length + 16) ∨
      (sender.envelopeMode ≠ .legacyCbc ∧ payload.length = p.length + 30) := by
  cases h with
  | cbc mode =>
    exact .inl ⟨mode, (laws.cbc_length _ _ _ _ (laws.cbc_decrypt_encrypt key sender.iv p)).2⟩
  | aead mode _ _ hencrypts _ =>
    have hdecrypts := laws.aead_decrypt_encrypt _ _ _ _ _ _ _ hencrypts
    rw [length_frameBytes, laws.aead_length _ _ _ _ _ _ _ hdecrypts]
    exact .inr ⟨by rw [mode]; simp, rfl⟩

theorem length_of_opens (laws : ConfusionLaws P) {key : SessionKey} {payload : Bytes}
    (h : PayloadOpens P receiver context key p payload) :
    (receiver.envelopeMode = .legacyCbc ∧ payload.length ≤ p.length + 16) ∨
      (receiver.envelopeMode ≠ .legacyCbc ∧ payload.length = p.length + 30) := by
  cases h with
  | cbc mode _ hdecrypts _ => exact .inl ⟨mode, (laws.cbc_length _ _ _ _ hdecrypts).2⟩
  | aead mode _ _ hdecrypts =>
    rw [length_frameBytes, laws.aead_length _ _ _ _ _ _ _ hdecrypts]
    exact .inr ⟨by rw [mode]; simp, rfl⟩

theorem aead_algorithm_eq (hdecode : ∀ b, P.base64Decode (P.base64Encode b) = some b)
    (hsender : sender.envelopeMode ≠ .legacyCbc) (hreceiver : receiver.envelopeMode ≠ .legacyCbc)
    (s : Sealing P sender senderKeys random p context envelope)
    (a : Acceptance P receiver receiverKeys envelope context' q) :
    receiver.envelopeMode = sender.envelopeMode := by
  have hpayload := decoded_payload hdecode s a
  cases hs : sender.envelopeMode with
  | legacyCbc => exact absurd hs hsender
  | aead algorithm =>
    cases hr : receiver.envelopeMode with
    | legacyCbc => exact absurd hr hreceiver
    | aead algorithm' =>
      obtain ⟨nonce, aad, c, t, hframe, -⟩ := a.opens.of_aead hr
      obtain ⟨nonce', aad', c', t', hframe', -⟩ := s.seals.of_aead hs
      rw [hframe, hframe'] at hpayload
      rw [frameBytes_algorithm hpayload]

/-- Between two AEAD modes the frame's algorithm byte decides, and no law of a cipher is
needed. Between CBC and AEAD the payload's length does: what the sender sealed has a length
only because decryption undoes encryption, hence `cbc_decrypt_encrypt` and
`aead_decrypt_encrypt` beside the laws of lengths and signatures. -/
theorem no_envelope_mode_confusion (P : Platform)
    (hdecode : ∀ b, P.base64Decode (P.base64Encode b) = some b)
    (sender receiver : ClientConfig P.toTarget) (senderKeys receiverKeys : KeyMaterial P)
    (hpaired : Paired P sender senderKeys receiver receiverKeys)
    (hmode : receiver.envelopeMode ≠ sender.envelopeMode)
    (hlaws : sender.envelopeMode = .legacyCbc ∨ receiver.envelopeMode = .legacyCbc →
      ConfusionLaws P)
    (random : Randomness P) (p : Bytes) (context : AuthenticationContext)
    (envelope : SecureEnvelope)
    (hseal : (sealEnvelope P sender senderKeys random p context).outcome = .ok envelope)
    (context' : AuthenticationContext) (q : Bytes) :
    (openEnvelope P receiver receiverKeys envelope context').outcome ≠ .ok q := by
  intro hopen
  obtain ⟨s⟩ := sealEnvelope_ok_iff.mp hseal
  obtain ⟨a⟩ := openEnvelope_ok_iff.mp hopen
  by_cases hcbc : sender.envelopeMode = .legacyCbc ∨ receiver.envelopeMode = .legacyCbc
  · have laws := hlaws hcbc
    obtain ⟨-, rfl⟩ := verified_plaintext hdecode laws.binding hpaired s a rfl
    have hopens := length_of_opens laws a.opens
    rw [decoded_payload hdecode s a] at hopens
    obtain ⟨hs, hle⟩ | ⟨hs, heq⟩ := length_of_seals laws s.seals
    · obtain ⟨hr, -⟩ | ⟨-, heq⟩ := hopens
      · exact hmode (hr.trans hs.symm)
      · omega
    · obtain ⟨-, hle⟩ | ⟨hr, -⟩ := hopens
      · omega
      · exact hcbc.elim hs hr
  · rw [not_or] at hcbc
    exact hmode (aead_algorithm_eq hdecode hcbc.1 hcbc.2 s a)

theorem reference_confusionLaws : ConfusionLaws (reference recoverableSignature) where
  binding := recoverable_binding
  cbc_decrypt_encrypt := reference_cbc.decrypt_encrypt
  cbc_length := by
    intro key iv c p h
    obtain rfl := unpad_eq_some_iff.mp h
    rw [length_pad]
    omega
  aead_decrypt_encrypt := fun _ _ _ _ _ _ _ h => decrypted_eq_some_iff.mpr
    (encrypted_eq_some_iff.mp h)
  aead_length := fun _ => reference_preservesLength

def sampleCbc : ClientConfig sampleTarget :=
  sampleConfig .legacyCbc (.contextBound [1]) sampleDomain_valid

theorem sampleCbc_is_not_opened_by_sampleCcm :
    ∃ envelope,
      (sealEnvelope (reference recoverableSignature) sampleCbc (sampleKeys _) (sampleRandomness _)
        [1, 2, 3] sampleContext).outcome = .ok envelope ∧
      ∀ context q, (openEnvelope (reference recoverableSignature) sampleCcm (sampleKeys _) envelope
        context).outcome ≠ .ok q := by
  have hpaired : Paired (reference recoverableSignature) sampleCbc (sampleKeys _) sampleCcm
      (sampleKeys _) := ⟨⟨rfl, rfl⟩, rfl, rfl⟩
  have hseal := sample_sealed_cbc recoverableSignature (rfl : sampleCbc.envelopeMode = _)
    (by decide) (by decide) sampleCcm_input (by decide)
  exact ⟨_, hseal, no_envelope_mode_confusion (reference recoverableSignature)
    reference_base64.decode_encode _ _ _ _ hpaired (by decide) (fun _ => reference_confusionLaws)
    _ _ _ _ hseal⟩

end EnvelopeModes

section AuthenticationModes

theorem legacy_input_eq_iff {T : Target} {d c p q : Bytes} {context : AuthenticationContext}
    (hd : d ≠ []) (hkind : context.kind = .bound c) (hrep : Representable T d c p) :
    AuthenticationMode.legacyPlaintext.authenticationInput T .legacy q =
      (AuthenticationMode.contextBound d).authenticationInput T context p ↔
        q = transcript d c p := by
  have hbound : (AuthenticationMode.contextBound d).authenticationInput T context p =
      .ok (transcript d c p) :=
    authenticationInput_ok_iff.mpr (.inr ⟨d, c, rfl, hkind, hd, hrep, rfl⟩)
  rw [hbound]
  exact Except.ok.injEq q (transcript d c p) ▸ Iff.rfl

theorem legacy_input {T : Target} {config : ClientConfig T} {context : AuthenticationContext}
    {q input : Bytes} (hmode : config.authenticationMode = .legacyPlaintext)
    (h : config.authenticationMode.authenticationInput T context q = .ok input) : input = q := by
  rw [hmode] at h
  obtain ⟨-, -, rfl⟩ | ⟨_, _, hd, -⟩ := authenticationInput_ok_iff.mp h
  · rfl
  · cases hd

theorem bound_input {T : Target} {config : ClientConfig T} {context : AuthenticationContext}
    {d p input : Bytes} (hmode : config.authenticationMode = .contextBound d)
    (h : config.authenticationMode.authenticationInput T context p = .ok input) :
    ∃ c, context.kind = .bound c ∧ input = transcript d c p := by
  rw [hmode] at h
  obtain ⟨c, hkind, -, ht⟩ := authenticationInput_contextBound h
  exact ⟨c, hkind, ht.symm⟩

theorem authentication_modes_meet_only_in_transcripts (P : Platform)
    (hdecode : ∀ b, P.base64Decode (P.base64Encode b) = some b) (hbinding : SignatureBinding P) :
    (∀ (d c p q : Bytes) (context : AuthenticationContext), d ≠ [] → context.kind = .bound c →
      Representable P.toTarget d c p →
      (AuthenticationMode.legacyPlaintext.authenticationInput P.toTarget .legacy q =
        (AuthenticationMode.contextBound d).authenticationInput P.toTarget context p ↔
          q = transcript d c p)) ∧
    (∀ (sender receiver : ClientConfig P.toTarget) (senderKeys receiverKeys : KeyMaterial P)
      (d p q : Bytes) (random : Randomness P) (context context' : AuthenticationContext)
      (envelope envelope' : SecureEnvelope),
      ExpectsSigner P sender senderKeys receiver receiverKeys →
      sender.authenticationMode = .legacyPlaintext →
      receiver.authenticationMode = .contextBound d →
      (sealEnvelope P sender senderKeys random q context).outcome = .ok envelope →
      envelope'.signature = envelope.signature →
      (openEnvelope P receiver receiverKeys envelope' context').outcome = .ok p →
      ∃ c, context'.kind = .bound c ∧ q = transcript d c p) ∧
    (∀ (sender receiver : ClientConfig P.toTarget) (senderKeys receiverKeys : KeyMaterial P)
      (d p q : Bytes) (random : Randomness P) (context context' : AuthenticationContext)
      (envelope envelope' : SecureEnvelope),
      ExpectsSigner P sender senderKeys receiver receiverKeys →
      sender.authenticationMode = .contextBound d →
      receiver.authenticationMode = .legacyPlaintext →
      (sealEnvelope P sender senderKeys random p context).outcome = .ok envelope →
      envelope'.signature = envelope.signature →
      (openEnvelope P receiver receiverKeys envelope' context').outcome = .ok q →
      ∃ c, context.kind = .bound c ∧ q = transcript d c p) := by
  refine ⟨?_, ?_, ?_⟩
  · intro d c p q context hd hkind hrep
    exact legacy_input_eq_iff hd hkind hrep
  · intro sender receiver senderKeys receiverKeys d p q random context context' envelope envelope'
      hexpects hlegacy hbound hseal hsignature hopen
    obtain ⟨s⟩ := sealEnvelope_ok_iff.mp hseal
    obtain ⟨a⟩ := openEnvelope_ok_iff.mp hopen
    have hinput := verified_input hdecode hbinding hexpects s a hsignature
    obtain ⟨c, hkind, htranscript⟩ := bound_input hbound a.input_eq
    refine ⟨c, hkind, ?_⟩
    rw [← htranscript, hinput, legacy_input hlegacy s.input_eq]
  · intro sender receiver senderKeys receiverKeys d p q random context context' envelope envelope'
      hexpects hbound hlegacy hseal hsignature hopen
    obtain ⟨s⟩ := sealEnvelope_ok_iff.mp hseal
    obtain ⟨a⟩ := openEnvelope_ok_iff.mp hopen
    have hinput := verified_input hdecode hbinding hexpects s a hsignature
    obtain ⟨c, hkind, htranscript⟩ := bound_input hbound s.input_eq
    refine ⟨c, hkind, ?_⟩
    rw [← htranscript, ← hinput, legacy_input hlegacy a.input_eq]

def sampleLegacy : ClientConfig sampleTarget := sampleConfig .legacyCbc .legacyPlaintext (by simp)

def sampleCarrier : SecureEnvelope :=
  sampleEnvelope recoverableSignature .sm4Ccm [1] sampleAad [1, 2, 3] sampleInput

theorem sampleLegacy_sealed :
    ∃ envelope, (sealEnvelope (reference recoverableSignature) sampleLegacy (sampleKeys _)
        (sampleRandomness _) sampleInput .legacy).outcome = .ok envelope ∧
      sampleCarrier.signature = envelope.signature := by
  have hinput : sampleLegacy.authenticationMode.authenticationInput sampleTarget .legacy
      sampleInput = .ok sampleInput := rfl
  exact ⟨_, sample_sealed_cbc recoverableSignature rfl (by decide) (by decide) hinput (by decide),
    rfl⟩

theorem sampleCarrier_opened :
    (openEnvelope (reference recoverableSignature) sampleCcm (sampleKeys _) sampleCarrier
      sampleContext).outcome = .ok [1, 2, 3] :=
  sample_opened_aead recoverableSignature rfl (by decide) (by decide) sampleCcm_input sampleCcm_aad
    (by decide)

theorem sampleInput_is_the_transcript_it_opens :
    ∃ c, sampleContext.kind = .bound c ∧ sampleInput = transcript [1] c [1, 2, 3] := by
  obtain ⟨envelope, hseal, hsignature⟩ := sampleLegacy_sealed
  obtain ⟨-, hlegacy, -⟩ := authentication_modes_meet_only_in_transcripts
    (reference recoverableSignature) reference_base64.decode_encode recoverable_binding
  exact hlegacy sampleLegacy sampleCcm (sampleKeys _) (sampleKeys _) [1] [1, 2, 3] sampleInput _ _
    sampleContext envelope sampleCarrier ⟨rfl, rfl⟩ rfl rfl hseal hsignature sampleCarrier_opened

/-- A legacy client that seals the bytes of a transcript has signed for the other
mode: the signature opens an envelope at a context-bound client of the same peer. -/
theorem legacy_signature_opens_context_bound :
    AuthenticationMode.legacyPlaintext.authenticationInput sampleTarget .legacy sampleInput =
      (AuthenticationMode.contextBound [1]).authenticationInput sampleTarget sampleContext
        [1, 2, 3] ∧
    SignatureBinding (reference recoverableSignature) ∧
    ExpectsSigner (reference recoverableSignature) sampleLegacy (sampleKeys _) sampleCcm
      (sampleKeys _) ∧
    ∃ envelope envelope' : SecureEnvelope,
      (sealEnvelope (reference recoverableSignature) sampleLegacy (sampleKeys _)
        (sampleRandomness _) sampleInput .legacy).outcome = .ok envelope ∧
      envelope'.signature = envelope.signature ∧
      (openEnvelope (reference recoverableSignature) sampleCcm (sampleKeys _) envelope'
        sampleContext).outcome = .ok [1, 2, 3] := by
  obtain ⟨envelope, hseal, hsignature⟩ := sampleLegacy_sealed
  exact ⟨by decide, recoverable_binding, ⟨rfl, rfl⟩, envelope, sampleCarrier, hseal, hsignature,
    sampleCarrier_opened⟩

end AuthenticationModes

end EnvelopeLite.ModeSeparation
