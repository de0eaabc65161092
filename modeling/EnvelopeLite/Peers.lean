import EnvelopeLite.EnvelopeCrypto.OpenPath
import EnvelopeLite.EnvelopeCrypto.SealPath

namespace EnvelopeLite.Peers

open EnvelopeLite.Auth EnvelopeLite.ByteFields EnvelopeLite.Config EnvelopeLite.EnvelopeCrypto
open EnvelopeLite.EnvelopeCrypto.OpenPath EnvelopeLite.EnvelopeCrypto.SealPath
open EnvelopeLite.Primitives

variable (P : Platform) (sender : ClientConfig P.toTarget) (senderKeys : KeyMaterial P)
variable (receiver : ClientConfig P.toTarget) (receiverKeys : KeyMaterial P)

structure ExpectsSigner : Prop where
  verification : receiverKeys.remoteVerification = P.publicKey senderKeys.localSigning
  signer : receiver.expectedRemoteSignerId = sender.localSignerId

structure Paired : Prop extends ExpectsSigner P sender senderKeys receiver receiverKeys where
  encryption : senderKeys.remoteEncryption = P.publicKey receiverKeys.localDecryption
  authentication : receiver.authenticationMode = sender.authenticationMode

/-- The receiver is the peer that the sender is configured for. Limits are each
side's own, and so are the identities carried in headers. -/
structure Matched : Prop extends Paired P sender senderKeys receiver receiverKeys where
  envelope : receiver.envelopeMode = sender.envelopeMode
  iv : sender.envelopeMode = .legacyCbc → receiver.iv = sender.iv

variable {P sender senderKeys receiver receiverKeys} {random : Randomness P} {p q : Bytes}
variable {context context' : AuthenticationContext} {envelope envelope' : SecureEnvelope}

theorem decoded_payload (hdecode : ∀ b, P.base64Decode (P.base64Encode b) = some b)
    (s : Sealing P sender senderKeys random p context envelope)
    (a : Acceptance P receiver receiverKeys envelope context' q) : a.payload = s.payload := by
  have h := a.decode_cipher
  rw [s.cipher_eq, hdecode] at h
  exact (Option.some.inj h).symm

theorem decoded_wrapped (hdecode : ∀ b, P.base64Decode (P.base64Encode b) = some b)
    (s : Sealing P sender senderKeys random p context envelope)
    (a : Acceptance P receiver receiverKeys envelope context' q) : a.wrapped = s.wrapped := by
  have h := a.decode_wrapped
  rw [s.wrapped_eq, hdecode] at h
  exact (Option.some.inj h).symm

/-- A signature carries over to another envelope only together with its input. -/
theorem verified_input (hdecode : ∀ b, P.base64Decode (P.base64Encode b) = some b)
    (hbinding : SignatureBinding P)
    (hexpects : ExpectsSigner P sender senderKeys receiver receiverKeys)
    (s : Sealing P sender senderKeys random p context envelope)
    (a : Acceptance P receiver receiverKeys envelope' context' q)
    (hsignature : envelope'.signature = envelope.signature) : a.input = s.input := by
  have hsigned : a.signature = s.signature := by
    have h := a.decode_signature
    rw [hsignature, s.signature_eq, hdecode] at h
    exact (Option.some.inj h).symm
  have hverified := a.verified
  rw [hexpects.verification, hexpects.signer, hsigned] at hverified
  exact hbinding _ _ _ _ _ _ s.sign_eq hverified

theorem verified_plaintext (hdecode : ∀ b, P.base64Decode (P.base64Encode b) = some b)
    (hbinding : SignatureBinding P) (hpaired : Paired P sender senderKeys receiver receiverKeys)
    (s : Sealing P sender senderKeys random p context envelope)
    (a : Acceptance P receiver receiverKeys envelope' context' q)
    (hsignature : envelope'.signature = envelope.signature) : context' = context ∧ q = p := by
  have hinput := verified_input hdecode hbinding hpaired.toExpectsSigner s a hsignature
  have ha := a.input_eq
  rw [hpaired.authentication, hinput] at ha
  exact authenticationInput_inj ha s.input_eq

end EnvelopeLite.Peers
