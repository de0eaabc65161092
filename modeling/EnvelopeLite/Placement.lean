import EnvelopeLite.RequestPath

namespace EnvelopeLite.Placement

open EnvelopeLite.Adapter EnvelopeLite.Auth EnvelopeLite.ByteFields EnvelopeLite.CallTrace
open EnvelopeLite.Common EnvelopeLite.Config EnvelopeLite.EnvelopeCrypto.Frame
open EnvelopeLite.EnvelopeCrypto.SealPath EnvelopeLite.Header EnvelopeLite.Message
open EnvelopeLite.Primitives EnvelopeLite.ReferencePrimitives EnvelopeLite.RequestPath
open EnvelopeLite.Text

/-- A text that goes through a header, or through a trimmed body, as it is. -/
structure Placeable (s : String) : Prop where
  legal : isHeaderText s = true
  trimmed : trim s = s
  nonempty : s ≠ ""

theorem Placeable.trim_ne_empty {s : String} (h : Placeable s) : trim s ≠ "" := by
  rw [h.trimmed]
  exact h.nonempty

section SealedTexts

variable {P : Platform} {config : ClientConfig P.toTarget} {keys : KeyMaterial P}
variable {random : Randomness P} {p : Bytes} {context : AuthenticationContext}
variable {envelope : SecureEnvelope}

theorem placeable_encode (laws : Base64Laws P) (texts : EnvelopeTextLaws P) {b : Bytes}
    (h : b ≠ []) : Placeable (P.base64Encode b) := by
  have hgraphic : Graphic (P.base64Encode b) := by
    constructor
    · intro hempty
      have hlength := laws.length_encode b
      have hpos := List.length_pos_iff.mpr h
      rw [hempty, String.utf8ByteSize_empty] at hlength
      omega
    · intro c hc
      have hrange := Base64.toNat_of_isCharacter (texts.encode_alphabet b c hc)
      omega
  exact ⟨isHeaderText_of_graphic hgraphic, hgraphic.trim_eq, hgraphic.nonempty⟩

theorem payload_ne_nil (laws : CbcLaws P) {nonce? : Option Nonce} {key : SessionKey}
    {payload : Bytes} (h : PayloadSeals P config context nonce? key p payload) :
    payload ≠ [] := by
  apply List.ne_nil_of_length_pos
  cases h with
  | cbc mode =>
    rw [laws.length_encrypt]
    omega
  | aead mode _ _ _ _ =>
    rw [length_frameBytes]
    omega

/-- The three texts of a sealed envelope can be placed anywhere. -/
theorem placeable_of_sealed (base64 : Base64Laws P) (cbc : CbcLaws P) (texts : EnvelopeTextLaws P)
    (hseal : (sealEnvelope P config keys random p context).outcome = .ok envelope) :
    Placeable envelope.signature ∧ Placeable envelope.wrappedSessionKey ∧
      Placeable envelope.cipher := by
  obtain ⟨s⟩ := sealEnvelope_ok_iff.mp hseal
  rw [s.signature_eq, s.wrapped_eq, s.cipher_eq]
  exact ⟨placeable_encode base64 texts (texts.sign_ne_nil _ _ _ _ _ s.sign_eq),
    placeable_encode base64 texts (texts.encrypt_ne_nil _ _ _ _ s.wrap_eq),
    placeable_encode base64 texts (payload_ne_nil cbc s.seals)⟩

end SealedTexts

def placedValues (identity : ClientIdentity) (context : ProtocolRequestContext) : List String :=
  [identity.localIdentityId.1, context.operation.1, context.metadata.requestId.1,
    context.metadata.requestTime.1, identity.apiVersion.1, identity.localCertificateId.1,
    identity.expectedRemoteSigningCertificateId.1, identity.remoteEncryptionCertificateId.1]

section Emission

variable (schema : HeaderSchema) {identity : ClientIdentity} {context : ProtocolRequestContext}
variable {envelope : SecureEnvelope}

theorem emitted_legal_iff (hsignature : Placeable envelope.signature)
    (hwrapped : Placeable envelope.wrappedSessionKey) (hcipher : Placeable envelope.cipher) :
    (∀ h ∈ schema.emitted identity context envelope, isHeaderText h.2 = true) ↔
      ∀ value ∈ placedValues identity context, isHeaderText value = true := by
  have hstatic : ∀ h ∈ schema.staticRequestHeaders.map Entry.texts, isHeaderText h.2 = true := by
    intro h hh
    obtain ⟨e, -, rfl⟩ := List.mem_map.mp hh
    exact e.2.2
  have hcipherHeaders : ∀ h ∈ schema.cipherHeaders envelope, isHeaderText h.2 = true := by
    cases hc : schema.requestCipher with
    | body => simp [HeaderSchema.cipherHeaders, hc]
    | header name => simp [HeaderSchema.cipherHeaders, hc, pair, hcipher.legal]
  have hmapped : (∀ h ∈ schema.mappedHeaders identity context envelope,
      isHeaderText h.2 = true) ↔
        ∀ value ∈ placedValues identity context, isHeaderText value = true := by
    simp [HeaderSchema.mappedHeaders, placedValues, pair, hsignature.legal, hwrapped.legal]
  simp only [HeaderSchema.emitted, List.forall_mem_append]
  exact ⟨fun h => hmapped.mp h.1.2, fun h => ⟨⟨hstatic, hmapped.mpr h⟩, hcipherHeaders⟩⟩

theorem exists_buildRequest_ok_iff (hsignature : Placeable envelope.signature)
    (hwrapped : Placeable envelope.wrappedSessionKey) (hcipher : Placeable envelope.cipher) :
    (∃ parts, schema.buildRequest identity context envelope = .ok parts) ↔
      ∀ value ∈ placedValues identity context, isHeaderText value = true := by
  have hpresent : trim envelope.signature ≠ "" ∧ trim envelope.wrappedSessionKey ≠ "" ∧
      trim envelope.cipher ≠ "" :=
    ⟨hsignature.trim_ne_empty, hwrapped.trim_ne_empty, hcipher.trim_ne_empty⟩
  simp only [HeaderSchema.buildRequest_ok_iff, and_iff_right hpresent,
    RequestParts.exists_new_ok_iff]
  rw [and_iff_left HeaderSchema.uniqueKeys_emitted,
    ← emitted_legal_iff schema hsignature hwrapped hcipher]
  constructor
  · intro h header hmem
    exact (h header hmem).2
  · intro h header hmem
    exact ⟨HeaderSchema.isToken_of_mem_emitted hmem, h header hmem⟩

end Emission

/-- A sealed message can be emitted exactly when each value placed beside it is
free of control characters. The constructors only refuse line breaks. -/
theorem sealed_request_emitted_iff_values_legal (P : Platform) (base64 : Base64Laws P)
    (cbc : CbcLaws P) (texts : EnvelopeTextLaws P) (config : ClientConfig P.toTarget)
    (keys : KeyMaterial P) (random : Randomness P) (p : Bytes)
    (authentication : AuthenticationContext) (envelope : SecureEnvelope)
    (hseal : (sealEnvelope P config keys random p authentication).outcome = .ok envelope)
    (schema : HeaderSchema) (identity : ClientIdentity) (context : ProtocolRequestContext) :
    (∃ parts, schema.buildRequest identity context envelope = .ok parts) ↔
      ∀ value ∈ placedValues identity context, isHeaderText value = true := by
  obtain ⟨hsignature, hwrapped, hcipher⟩ := placeable_of_sealed base64 cbc texts hseal
  exact exists_buildRequest_ok_iff schema hsignature hwrapped hcipher

theorem sampleValues_are_emitted :
    ∃ envelope, (sealEnvelope (reference checksumSignature) sampleCcm (sampleKeys _)
        (sampleRandomness _) [1, 2, 3] sampleContext).outcome = .ok envelope ∧
      ∃ parts, sampleSchema.buildRequest sampleCcm.identity sampleRequest.protocol envelope =
        .ok parts := by
  have hseal := sample_sealed_aead checksumSignature rfl (by decide) (by decide)
    sampleCcm_input sampleCcm_aad (by decide)
  refine ⟨_, hseal, ?_⟩
  rw [sealed_request_emitted_iff_values_legal (reference checksumSignature) reference_base64
    reference_cbc reference_texts sampleCcm (sampleKeys _) (sampleRandomness _) [1, 2, 3]
    sampleContext _ hseal sampleSchema sampleCcm.identity sampleRequest.protocol]
  decide +kernel

def controlIdentity : ClientIdentity :=
  { sampleCcm.identity with apiVersion := ⟨"1.0\x01", by decide⟩ }

/-- An API version that ends with a control character passes the constructor, and
stops the request when it has been encrypted and signed. -/
theorem control_character_stops_a_sealed_request :
    ∃ identity envelope,
      ClientIdentity.new "id" "1.0\x01" "id" "id" "id" = .ok identity ∧
      (sealEnvelope (reference checksumSignature) sampleCcm (sampleKeys _) (sampleRandomness _)
        [1, 2, 3] sampleContext).outcome = .ok envelope ∧
      sampleSchema.buildRequest identity sampleRequest.protocol envelope =
        .error ⟨.invalidField⟩ := by
  have hseal := sample_sealed_aead checksumSignature rfl (by decide) (by decide)
    sampleCcm_input sampleCcm_aad (by decide)
  refine ⟨controlIdentity, _, controlIdentity.new_values, hseal, ?_⟩
  obtain ⟨hsignature, hwrapped, hcipher⟩ :=
    placeable_of_sealed reference_base64 reference_cbc reference_texts hseal
  have hillegal : ¬ ∀ value ∈ placedValues controlIdentity sampleRequest.protocol,
      isHeaderText value = true := by
    intro h
    have hversion := h "1.0\x01" (by simp [placedValues, controlIdentity])
    exact absurd hversion (by decide)
  have hnone := mt (exists_buildRequest_ok_iff sampleSchema hsignature hwrapped hcipher).mp hillegal
  cases hbuild : sampleSchema.buildRequest controlIdentity sampleRequest.protocol _ with
  | ok parts => exact absurd ⟨parts, hbuild⟩ hnone
  | error e => rw [HeaderSchema.buildRequest_error hbuild]

end EnvelopeLite.Placement
