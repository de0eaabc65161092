import EnvelopeLite.ModeSeparation
import EnvelopeLite.RoundTrip

namespace EnvelopeLite.Transfer

open EnvelopeLite.Auth EnvelopeLite.ByteFields EnvelopeLite.CallTrace EnvelopeLite.Config
open EnvelopeLite.EnvelopeCrypto EnvelopeLite.EnvelopeCrypto.OpenPath
open EnvelopeLite.EnvelopeCrypto.SealPath EnvelopeLite.ModeSeparation EnvelopeLite.Peers
open EnvelopeLite.Primitives EnvelopeLite.ReferencePrimitives EnvelopeLite.RoundTrip

section Parties

variable (P : Platform)

structure SameSigner (first : ClientConfig P.toTarget) (firstKeys : KeyMaterial P)
    (second : ClientConfig P.toTarget) (secondKeys : KeyMaterial P) : Prop where
  verification : secondKeys.remoteVerification = firstKeys.remoteVerification
  signer : second.expectedRemoteSignerId = first.expectedRemoteSignerId

/-- The relay encrypts for the receiver. It need not be whom the receiver expects to sign. -/
structure EncryptsFor (relay : ClientConfig P.toTarget) (relayKeys : KeyMaterial P)
    (receiver : ClientConfig P.toTarget) (receiverKeys : KeyMaterial P) : Prop where
  encryption : relayKeys.remoteEncryption = P.publicKey receiverKeys.localDecryption
  authentication : receiver.authenticationMode = relay.authenticationMode
  envelope : receiver.envelopeMode = relay.envelopeMode
  iv : relay.envelopeMode = .legacyCbc → receiver.iv = relay.iv

end Parties

/-- To this receiver the signature of the envelope verifies for one byte string at most. -/
def SignsOnce (P : Platform) (receiver : ClientConfig P.toTarget) (receiverKeys : KeyMaterial P)
    (envelope : SecureEnvelope) : Prop :=
  ∀ s m m', P.base64Decode envelope.signature = some s →
    P.verifyWithId receiverKeys.remoteVerification receiver.expectedRemoteSignerId.1 m s = true →
    P.verifyWithId receiverKeys.remoteVerification receiver.expectedRemoteSignerId.1 m' s = true →
    m' = m

def withSignatureOf (fresh received : SecureEnvelope) : SecureEnvelope :=
  { fresh with signature := received.signature }

section Moving

variable {P : Platform} {first second relay : ClientConfig P.toTarget}
variable {firstKeys secondKeys relayKeys : KeyMaterial P} {random : Randomness P}
variable {context context' : AuthenticationContext} {p p' : Bytes}
variable {received fresh : SecureEnvelope}

/-- The receiver as it would be configured if it expected the relay to sign. -/
def expecting (receiver : ClientConfig P.toTarget) (signerId : SignerId) :
    ClientConfig P.toTarget :=
  { receiver with expectedRemoteSignerId := signerId }

theorem opens_of_expecting {signerId : SignerId} {key : SessionKey} {payload : Bytes}
    (h : PayloadOpens P (expecting second signerId) context key p payload) :
    PayloadOpens P second context key p payload := by
  cases h with
  | cbc mode payload_fits decrypts within_limit =>
    exact .cbc mode payload_fits decrypts within_limit
  | aead mode within_limit aad_eq decrypts => exact .aead mode within_limit aad_eq decrypts

theorem EncryptsFor.matched (h : EncryptsFor P relay relayKeys second secondKeys) :
    Matched P relay relayKeys (expecting second relay.localSignerId)
      { secondKeys with remoteVerification := P.publicKey relayKeys.localSigning } where
  verification := rfl
  signer := rfl
  encryption := h.encryption
  authentication := h.authentication
  envelope := h.envelope
  iv := h.iv

theorem accepted_with_signature (laws : RoundTripLaws P)
    (hsame : SameSigner P first firstKeys second secondKeys)
    (hfor : EncryptsFor P relay relayKeys second secondKeys)
    (a : Acceptance P first firstKeys received context p)
    (s : Sealing P relay relayKeys random p' context' fresh)
    (hp : p'.length ≤ second.maxPlaintextBytes.1) (hinput : s.input = a.input) :
    (openEnvelope P second secondKeys (withSignatureOf fresh received) context').outcome =
      .ok p' := by
  have b := Sealing.accepted laws hfor.matched s hp
  have hb : b.input = a.input := by
    have hrelay := b.input_eq
    have hreceiver : (expecting second relay.localSignerId).authenticationMode =
        relay.authenticationMode := hfor.authentication
    rw [hreceiver, s.input_eq] at hrelay
    exact (Except.ok.inj hrelay).symm.trans hinput
  refine openEnvelope_ok_iff.mpr ⟨{
    payload := b.payload
    wrapped := b.wrapped
    signature := a.signature
    input := b.input
    key := b.key
    cipher_fits := b.cipher_fits
    wrapped_fits := b.wrapped_fits
    signature_fits := a.signature_fits
    decode_cipher := b.decode_cipher
    decode_wrapped := b.decode_wrapped
    decode_signature := a.decode_signature
    unwraps := b.unwraps
    opens := opens_of_expecting b.opens
    input_eq := b.input_eq
    verified := ?_ }⟩
  rw [hb, hsame.verification, hsame.signer]
  exact a.verified

theorem input_eq_of_same_signature (hunique : SignsOnce P first firstKeys received)
    (hsame : SameSigner P first firstKeys second secondKeys)
    (a : Acceptance P first firstKeys received context p) {envelope : SecureEnvelope}
    (b : Acceptance P second secondKeys envelope context' p')
    (hsignature : envelope.signature = received.signature) : b.input = a.input := by
  have hsigned : b.signature = a.signature := by
    have hdecode := b.decode_signature
    rw [hsignature, a.decode_signature] at hdecode
    exact (Option.some.inj hdecode).symm
  have hverified := b.verified
  rw [hsame.verification, hsame.signer, hsigned] at hverified
  exact hunique _ _ _ a.decode_signature a.verified hverified

/-- A signature is bound to the bytes that were signed and to nothing else. Whoever has
opened an envelope can seal the plaintext for another receiver of the same signer, in any
envelope mode, and put the signature that it has beside it. The authentication mode is what
limits this: bound to a context, the signature goes no further than its domain, its context
and its plaintext. -/
theorem signature_moves_with_its_input (P : Platform) (laws : RoundTripLaws P)
    (first second relay : ClientConfig P.toTarget) (firstKeys secondKeys relayKeys : KeyMaterial P)
    (hsame : SameSigner P first firstKeys second secondKeys)
    (hfor : EncryptsFor P relay relayKeys second secondKeys) (received : SecureEnvelope)
    (hunique : SignsOnce P first firstKeys received) (context : AuthenticationContext) (p : Bytes)
    (hopened : (openEnvelope P first firstKeys received context).outcome = .ok p) :
    let input := first.authenticationMode.authenticationInput P.toTarget context p
    (∀ envelope context' q, envelope.signature = received.signature →
      (openEnvelope P second secondKeys envelope context').outcome = .ok q →
        second.authenticationMode.authenticationInput P.toTarget context' q = input) ∧
    ∀ random p' context' fresh,
      (sealEnvelope P relay relayKeys random p' context').outcome = .ok fresh →
      p'.length ≤ second.maxPlaintextBytes.1 →
      let moved := (openEnvelope P second secondKeys (withSignatureOf fresh received)
        context').outcome
      (moved = .ok p' ↔
        second.authenticationMode.authenticationInput P.toTarget context' p' = input) ∧
      (second.authenticationMode = first.authenticationMode →
        (moved = .ok p' ↔ context' = context ∧ p' = p)) ∧
      ∀ d d', first.authenticationMode = .contextBound d →
        second.authenticationMode = .contextBound d' →
        (moved = .ok p' ↔ d' = d ∧ context' = context ∧ p' = p) := by
  intro input
  obtain ⟨a⟩ := openEnvelope_ok_iff.mp hopened
  have hinput : input = .ok a.input := a.input_eq
  have hreach : ∀ envelope context' q, envelope.signature = received.signature →
      (openEnvelope P second secondKeys envelope context').outcome = .ok q →
        second.authenticationMode.authenticationInput P.toTarget context' q = input := by
    intro envelope context' q hsignature hopen
    obtain ⟨b⟩ := openEnvelope_ok_iff.mp hopen
    rw [hinput, b.input_eq, input_eq_of_same_signature hunique hsame a b hsignature]
  refine ⟨hreach, fun random p' context' fresh hseal hp => ?_⟩
  intro moved
  obtain ⟨s⟩ := sealEnvelope_ok_iff.mp hseal
  have hmoves : moved = .ok p' ↔
      second.authenticationMode.authenticationInput P.toTarget context' p' = input := by
    refine ⟨hreach (withSignatureOf fresh received) context' p' rfl, fun heq => ?_⟩
    rw [hfor.authentication, s.input_eq, hinput] at heq
    exact accepted_with_signature laws hsame hfor a s hp (Except.ok.inj heq)
  refine ⟨hmoves, fun hmode => ?_, fun d d' hd hd' => ?_⟩
  · rw [hmoves]
    constructor
    · intro heq
      rw [hinput, hmode] at heq
      exact authenticationInput_inj heq a.input_eq
    · rintro ⟨rfl, rfl⟩
      rw [hmode]
  · rw [hmoves]
    constructor
    · intro heq
      have hfirst := a.input_eq
      rw [hd] at hfirst
      rw [hinput, hd'] at heq
      exact contextBound_input_inj heq hfirst
    · rintro ⟨rfl, rfl, rfl⟩
      rw [hd', ← hd]

end Moving

section Samples

def boundedSignature : SignatureScheme :=
  fun sk _ m => if m.length ≤ 256 then sk :: m else []

theorem length_boundedSignature (sk : UInt8) (id m : Bytes) :
    (boundedSignature sk id m).length ≤ 12288 := by
  rw [boundedSignature]
  split
  · rw [List.length_cons]
    omega
  · exact Nat.zero_le _

theorem bounded_laws : RoundTripLaws (reference boundedSignature) where
  base64 := reference_base64
  cbc := reference_cbc
  aead := reference_aead
  sm2 := {
    decrypt_encrypt := reference_sm2.decrypt_encrypt
    verify_sign := by
      intro sk id m r s h
      obtain rfl := Option.some.inj h
      exact decide_eq_true rfl
    length_encrypt := reference_sm2.length_encrypt
    length_sign := by
      intro sk id m r s h
      obtain rfl := Option.some.inj h
      exact length_boundedSignature sk id m }

theorem eq_of_boundedSignature {sk sk' : UInt8} {id m m' : Bytes}
    (h : sk' :: m' = boundedSignature sk id m) : m = m' := by
  rw [boundedSignature] at h
  split at h
  · exact (List.cons.inj h).2.symm
  · cases h

def sampleRelayKeys : KeyMaterial (reference boundedSignature) :=
  ⟨(5 : UInt8), (5 : UInt8), (7 : UInt8), (9 : UInt8)⟩

def sampleOtherKeys : KeyMaterial (reference boundedSignature) :=
  ⟨(9 : UInt8), (9 : UInt8), (7 : UInt8), (7 : UInt8)⟩

theorem relay_sealed :
    (sealEnvelope (reference boundedSignature) sampleCbc sampleRelayKeys (sampleRandomness _) [1, 2, 3]
      sampleContext).outcome = .ok ⟨Base64.encode (pad [1, 2, 3]), Base64.encode (9 :: sampleKey.1),
        Base64.encode (5 :: sampleInput)⟩ :=
  sealEnvelope_ok_iff.mpr ⟨⟨pad [1, 2, 3], 9 :: sampleKey.1, 5 :: sampleInput, sampleInput, sampleKey,
    by decide, sampleCcm_input, rfl, .cbc rfl, rfl, rfl, by decide, by decide, by decide, rfl, rfl,
    rfl⟩⟩

theorem sample_signature_is_relayed :
    ∃ received fresh,
      (sealEnvelope (reference boundedSignature) sampleCcm (sampleKeys _) (sampleRandomness _)
        [1, 2, 3] sampleContext).outcome = .ok received ∧
      (sealEnvelope (reference boundedSignature) sampleCbc sampleRelayKeys (sampleRandomness _)
        [1, 2, 3] sampleContext).outcome = .ok fresh ∧
      (openEnvelope (reference boundedSignature) sampleCbc sampleOtherKeys
        (withSignatureOf fresh received) sampleContext).outcome = .ok [1, 2, 3] := by
  have hseal := sample_sealed_aead boundedSignature (rfl : sampleCcm.envelopeMode = _) (by decide)
    (by decide) sampleCcm_input sampleCcm_aad (by decide)
  have hmatched : Matched (reference boundedSignature) sampleCcm (sampleKeys _) sampleCcm
      (sampleKeys _) := ⟨⟨⟨rfl, rfl⟩, rfl, rfl⟩, rfl, fun _ => rfl⟩
  have hopened := open_ok_of_within_limit bounded_laws hmatched hseal (by decide)
  have hunique : SignsOnce (reference boundedSignature) sampleCcm (sampleKeys _)
      (sampleEnvelope boundedSignature .sm4Ccm sampleCcm.localSignerId.1 sampleAad [1, 2, 3]
        sampleInput) := by
    intro s m m' hs hm hm'
    obtain rfl : 7 :: sampleInput = s := Option.some.inj
      ((reference_base64.decode_encode _).symm.trans hs)
    rw [eq_of_boundedSignature (of_decide_eq_true hm), eq_of_boundedSignature (of_decide_eq_true hm')]
  have hmoves := signature_moves_with_its_input (reference boundedSignature) bounded_laws sampleCcm
    sampleCbc sampleCbc (sampleKeys _) sampleOtherKeys sampleRelayKeys ⟨rfl, rfl⟩
    ⟨rfl, rfl, rfl, fun _ => rfl⟩ _ hunique sampleContext [1, 2, 3] hopened
  exact ⟨_, _, hseal, relay_sealed,
    ((hmoves.2 _ _ _ _ relay_sealed (by decide)).2.1 rfl).mpr ⟨rfl, rfl⟩⟩

end Samples

end EnvelopeLite.Transfer
