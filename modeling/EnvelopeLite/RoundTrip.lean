import EnvelopeLite.Peers
import EnvelopeLite.SizeBounds

namespace EnvelopeLite.RoundTrip

open EnvelopeLite.Auth EnvelopeLite.ByteFields EnvelopeLite.CallTrace EnvelopeLite.CheckedArith
open EnvelopeLite.Common EnvelopeLite.Config EnvelopeLite.EnvelopeCrypto
open EnvelopeLite.EnvelopeCrypto.Frame EnvelopeLite.EnvelopeCrypto.OpenPath
open EnvelopeLite.EnvelopeCrypto.SealPath EnvelopeLite.Peers EnvelopeLite.Primitives
open EnvelopeLite.ReferencePrimitives EnvelopeLite.SizeBounds

variable {P : Platform} {sender receiver : ClientConfig P.toTarget}
variable {senderKeys receiverKeys : KeyMaterial P}

section Payloads

variable {context : AuthenticationContext} {nonce? : Option Nonce} {key : SessionKey}
variable {p payload : Bytes}

theorem length_payload_le (laws : RoundTripLaws P)
    (hmode : receiver.envelopeMode = sender.envelopeMode)
    (hseals : PayloadSeals P sender context nonce? key p payload)
    (hencodable : EncodedFits P.toTarget payload) (hp : p.length ≤ receiver.maxPlaintextBytes.1) :
    payload.length ≤ payloadBound P receiver := by
  have hpayload := EncryptsTo.of_seals hseals
  rw [← hmode] at hpayload
  exact hpayload.length_le (.of_laws laws) hencodable hp

theorem opens_of_seals (laws : RoundTripLaws P)
    (hm : Matched P sender senderKeys receiver receiverKeys)
    (hseals : PayloadSeals P sender context nonce? key p payload)
    (hencodable : EncodedFits P.toTarget payload) (hp : p.length ≤ receiver.maxPlaintextBytes.1) :
    PayloadOpens P receiver context key p payload := by
  have hfits := length_payload_le laws hm.envelope hseals hencodable hp
  cases hseals with
  | cbc mode =>
    refine .cbc (hm.envelope.trans mode) hfits ?_ hp
    rw [hm.iv mode]
    exact laws.cbc.decrypt_encrypt key sender.iv p
  | aead mode _ haad hencrypts _ =>
    refine .aead (hm.envelope.trans mode) ?_ ?_ (Aead.decrypted_of_encrypted laws.aead hencrypts)
    · rwa [Aead.length_encrypted laws.aead hencrypts]
    · rwa [hm.authentication]

theorem length_le_of_opens (laws : RoundTripLaws P)
    (hm : Matched P sender senderKeys receiver receiverKeys)
    (hseals : PayloadSeals P sender context nonce? key p payload) {q : Bytes}
    {context' : AuthenticationContext} (hopens : PayloadOpens P receiver context' key q payload) :
    p.length ≤ receiver.maxPlaintextBytes.1 := by
  cases hseals with
  | cbc mode =>
    obtain ⟨-, hd, hq⟩ := hopens.of_cbc (hm.envelope.trans mode)
    rw [hm.iv mode, laws.cbc.decrypt_encrypt] at hd
    cases hd
    exact hq
  | aead mode _ _ hencrypts _ =>
    obtain ⟨nonce, aad, ct, tag, hframe, hct, -, -⟩ := hopens.of_aead (hm.envelope.trans mode)
    have hlen := congrArg List.length hframe
    rw [length_frameBytes, length_frameBytes, Aead.length_encrypted laws.aead hencrypts] at hlen
    omega

end Payloads

variable {random : Randomness P} {p : Bytes} {context : AuthenticationContext}
variable {envelope : SecureEnvelope}

theorem utf8ByteSize_encode_le (laws : Base64Laws P) {b : Bytes} {n : Nat} (h : b.length ≤ n)
    (hencodable : EncodedFits P.toTarget b) :
    (P.base64Encode b).utf8ByteSize ≤ base64Len P.toTarget n := by
  rw [laws.length_encode]
  exact encodedLength_le h hencodable

theorem auxiliary_encode_le (laws : Base64Laws P) {b : Bytes} (h : b.length ≤ 12288) :
    (P.base64Encode b).utf8ByteSize ≤ maxAuxiliaryBase64Bytes := by
  rw [laws.length_encode, maxAuxiliaryBase64Bytes]
  omega

/-- What the peer sealed within the receiver's limit, the receiver accepts. -/
def Sealing.accepted (laws : RoundTripLaws P)
    (hm : Matched P sender senderKeys receiver receiverKeys)
    (s : Sealing P sender senderKeys random p context envelope)
    (hp : p.length ≤ receiver.maxPlaintextBytes.1) :
    Acceptance P receiver receiverKeys envelope context p where
  payload := s.payload
  wrapped := s.wrapped
  signature := s.signature
  input := s.input
  key := s.key
  cipher_fits := by
    rw [s.cipher_eq]
    exact utf8ByteSize_encode_le laws.base64
      (length_payload_le laws hm.envelope s.seals s.payload_encodable hp) s.payload_encodable
  wrapped_fits := by
    rw [s.wrapped_eq]
    exact auxiliary_encode_le laws.base64 (laws.sm2.length_encrypt _ _ _ _ s.key.2 s.wrap_eq)
  signature_fits := by
    rw [s.signature_eq]
    exact auxiliary_encode_le laws.base64 (laws.sm2.length_sign _ _ _ _ _ s.sign_eq)
  decode_cipher := by rw [s.cipher_eq, laws.base64.decode_encode]
  decode_wrapped := by rw [s.wrapped_eq, laws.base64.decode_encode]
  decode_signature := by rw [s.signature_eq, laws.base64.decode_encode]
  unwraps := by
    have hwrap := s.wrap_eq
    rw [hm.encryption] at hwrap
    exact laws.sm2.decrypt_encrypt _ _ _ _ hwrap
  opens := opens_of_seals laws hm s.seals s.payload_encodable hp
  input_eq := by
    rw [hm.authentication]
    exact s.input_eq
  verified := by
    rw [hm.verification, hm.signer]
    exact laws.sm2.verify_sign _ _ _ _ _ s.sign_eq

theorem open_ok_of_within_limit (laws : RoundTripLaws P)
    (hm : Matched P sender senderKeys receiver receiverKeys)
    (hseal : (sealEnvelope P sender senderKeys random p context).outcome = .ok envelope)
    (hp : p.length ≤ receiver.maxPlaintextBytes.1) :
    (openEnvelope P receiver receiverKeys envelope context).outcome = .ok p := by
  obtain ⟨s⟩ := sealEnvelope_ok_iff.mp hseal
  exact openEnvelope_ok_iff.mpr ⟨Sealing.accepted laws hm s hp⟩

theorem within_limit_of_open_ok (laws : RoundTripLaws P)
    (hm : Matched P sender senderKeys receiver receiverKeys)
    (hseal : (sealEnvelope P sender senderKeys random p context).outcome = .ok envelope)
    {context' : AuthenticationContext} {q : Bytes}
    (hopen : (openEnvelope P receiver receiverKeys envelope context').outcome = .ok q) :
    p.length ≤ receiver.maxPlaintextBytes.1 := by
  obtain ⟨s⟩ := sealEnvelope_ok_iff.mp hseal
  obtain ⟨a⟩ := openEnvelope_ok_iff.mp hopen
  have hkey : a.key = s.key := by
    have hwrap := s.wrap_eq
    rw [hm.encryption] at hwrap
    have hunwrap := a.unwraps
    rw [decoded_wrapped laws.base64.decode_encode s a,
      laws.sm2.decrypt_encrypt _ _ _ _ hwrap] at hunwrap
    exact Subtype.ext (Option.some.inj hunwrap).symm
  have hopens := a.opens
  rw [decoded_payload laws.base64.decode_encode s a, hkey] at hopens
  exact length_le_of_opens laws hm s.seals hopens

theorem sampleCcm_matched : Matched (reference checksumSignature) sampleCcm (sampleKeys _) sampleCcm
    (sampleKeys _) :=
  ⟨⟨⟨rfl, rfl⟩, rfl, rfl⟩, rfl, fun _ => rfl⟩

theorem round_trip_with_limits (P : Platform) (laws : RoundTripLaws P)
    (sender receiver : ClientConfig P.toTarget) (senderKeys receiverKeys : KeyMaterial P)
    (hm : Matched P sender senderKeys receiver receiverKeys) (random : Randomness P) (p : Bytes)
    (context : AuthenticationContext) (envelope : SecureEnvelope)
    (hseal : (sealEnvelope P sender senderKeys random p context).outcome = .ok envelope) :
    let result := (openEnvelope P receiver receiverKeys envelope context).outcome
    let limit := receiver.maxPlaintextBytes.1
    (p.length ≤ limit → result = .ok p) ∧
      (limit < p.length → cipherBound P receiver < envelope.cipher.utf8ByteSize →
        result = .err (.messageTooLarge limit)) ∧
      (limit < p.length → envelope.cipher.utf8ByteSize ≤ cipherBound P receiver →
        result = .err .invalidEnvelope) := by
  have herr : receiver.maxPlaintextBytes.1 < p.length →
      (openEnvelope P receiver receiverKeys envelope context).outcome =
        .err (if cipherBound P receiver < envelope.cipher.utf8ByteSize
          then .messageTooLarge receiver.maxPlaintextBytes.1 else .invalidEnvelope) := by
    intro hlong
    obtain ⟨q, hq, -⟩ | herr := openEnvelope_outcome receiver receiverKeys envelope context
    · have hle := within_limit_of_open_ok laws hm hseal hq
      omega
    · exact herr
  refine ⟨open_ok_of_within_limit laws hm hseal, fun hlong hb => ?_, fun hlong hb => ?_⟩
  · rw [herr hlong, if_pos hb]
  · rw [herr hlong, if_neg (Nat.not_lt.mpr hb)]

theorem sampleCcm_round_trips :
    ∃ envelope,
      (sealEnvelope (reference checksumSignature) sampleCcm (sampleKeys _) (sampleRandomness _)
        [1, 2, 3] sampleContext).outcome = .ok envelope ∧
      (openEnvelope (reference checksumSignature) sampleCcm (sampleKeys _) envelope
        sampleContext).outcome = .ok [1, 2, 3] := by
  have hseal := sample_sealed_aead checksumSignature rfl (by decide) (by decide)
    sampleCcm_input sampleCcm_aad (by decide)
  exact ⟨_, hseal, (round_trip_with_limits (reference checksumSignature) reference_laws _ _ _ _
    sampleCcm_matched _ _ _ _ hseal).1 (by decide)⟩

end EnvelopeLite.RoundTrip
