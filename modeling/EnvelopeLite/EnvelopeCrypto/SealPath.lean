import EnvelopeLite.EnvelopeCrypto.Aead
import EnvelopeLite.EnvelopeCrypto.Cbc

namespace EnvelopeLite.EnvelopeCrypto.SealPath

open EnvelopeLite.Auth EnvelopeLite.ByteFields EnvelopeLite.CallTrace EnvelopeLite.CheckedArith
open EnvelopeLite.Common EnvelopeLite.Config EnvelopeLite.EnvelopeCrypto.Frame
open EnvelopeLite.Primitives

variable (P : Platform)

def sealEnvelope (config : ClientConfig P.toTarget) (keys : KeyMaterial P) (random : Randomness P)
    (plaintext : Bytes) (context : AuthenticationContext) : Run P SecureEnvelope := do
  let plaintextLimit := config.maxPlaintextBytes.1
  ensure (¬ plaintext.length > plaintextLimit) (.messageTooLarge plaintextLimit)
  match config.envelopeMode with
  | .aead algorithm => Aead.sealEnvelope P config keys random plaintext context algorithm
  | .legacyCbc => Cbc.sealEnvelope P config keys random plaintext context

inductive PayloadSeals (config : ClientConfig P.toTarget) (context : AuthenticationContext)
    (nonce? : Option Nonce) (key : SessionKey) (p : Bytes) : Bytes → Prop
  | cbc (mode : config.envelopeMode = .legacyCbc) :
      PayloadSeals config context nonce? key p (P.cbcEncrypt key config.iv p)
  | aead {algorithm : AeadAlgorithm} {nonce : Nonce} {aad ciphertext : Bytes} {tag : Tag}
      (mode : config.envelopeMode = .aead algorithm) (random : nonce? = some nonce)
      (aad_eq : config.authenticationMode.aeadAad P.toTarget context
        (frameHeader algorithm nonce) = .ok aad)
      (encrypts : Aead.encrypted P algorithm key nonce.1 aad p = some (ciphertext, tag))
      (fits : frameOverheadBytes + ciphertext.length ≤ P.usizeMax) :
      PayloadSeals config context nonce? key p (frameBytes algorithm nonce ciphertext tag)

/-- Everything that went into an envelope that was sealed. -/
structure Sealing (config : ClientConfig P.toTarget) (keys : KeyMaterial P)
    (random : Randomness P) (p : Bytes) (context : AuthenticationContext)
    (envelope : SecureEnvelope) where
  payload : Bytes
  wrapped : Bytes
  signature : Bytes
  input : Bytes
  key : SessionKey
  within_limit : p.length ≤ config.maxPlaintextBytes.1
  input_eq : config.authenticationMode.authenticationInput P.toTarget context p = .ok input
  key_eq : random.sessionKey = some key
  seals : PayloadSeals P config context random.nonce key p payload
  wrap_eq : P.sm2Encrypt keys.remoteEncryption key.1 random.wrap = some wrapped
  sign_eq : P.signWithId keys.localSigning config.localSignerId.1 input random.sign =
    some signature
  payload_encodable : EncodedFits P.toTarget payload
  wrapped_encodable : EncodedFits P.toTarget wrapped
  signature_encodable : EncodedFits P.toTarget signature
  cipher_eq : envelope.cipher = P.base64Encode payload
  wrapped_eq : envelope.wrappedSessionKey = P.base64Encode wrapped
  signature_eq : envelope.signature = P.base64Encode signature

variable {P}

theorem PayloadSeals.of_aead {config : ClientConfig P.toTarget} {context : AuthenticationContext}
    {nonce? : Option Nonce} {key : SessionKey} {p payload : Bytes} {algorithm : AeadAlgorithm}
    (h : PayloadSeals P config context nonce? key p payload)
    (hmode : config.envelopeMode = .aead algorithm) :
    ∃ nonce aad ciphertext tag, payload = frameBytes algorithm nonce ciphertext tag ∧
      nonce? = some nonce ∧
      config.authenticationMode.aeadAad P.toTarget context (frameHeader algorithm nonce) =
        .ok aad ∧
      Aead.encrypted P algorithm key nonce.1 aad p = some (ciphertext, tag) ∧
      frameOverheadBytes + ciphertext.length ≤ P.usizeMax := by
  cases h with
  | cbc mode => rw [hmode] at mode; cases mode
  | aead mode hn ha he hf =>
    obtain rfl : algorithm = _ := by simpa [hmode] using mode
    exact ⟨_, _, _, _, rfl, hn, ha, he, hf⟩

theorem sealEnvelope_ok_iff {config : ClientConfig P.toTarget} {keys : KeyMaterial P}
    {random : Randomness P} {p : Bytes} {context : AuthenticationContext}
    {envelope : SecureEnvelope} :
    (sealEnvelope P config keys random p context).outcome = .ok envelope ↔
      Nonempty (Sealing P config keys random p context envelope) := by
  simp only [sealEnvelope, bind_ok_iff, ensure_ok_iff, not_lt]
  cases hmode : config.envelopeMode with
  | legacyCbc =>
    simp only [Cbc.sealEnvelope, bind_ok_iff, ofExcept_ok_iff, generateSessionKey_ok_iff,
      call_ok_iff, pure_ok_iff, Prod.exists, wrapAndSign_ok_iff, encodeBase64_ok_iff]
    constructor
    · rintro ⟨-, hl, input, hi, key, hk, _, rfl, wrapped, signature, ⟨hw, hs⟩, _,
        ⟨hp, rfl⟩, _, ⟨hwe, rfl⟩, _, ⟨hse, rfl⟩, rfl⟩
      exact ⟨⟨_, wrapped, signature, input, key, hl, hi, hk, .cbc hmode, hw, hs, hp, hwe, hse,
        rfl, rfl, rfl⟩⟩
    · rintro ⟨payload, wrapped, signature, input, key, hl, hi, hk, hseals, hw, hs, hp, hwe, hse,
        hce, hke, hge⟩
      have henvelope : envelope =
          ⟨P.base64Encode payload, P.base64Encode wrapped, P.base64Encode signature⟩ :=
        SecureEnvelope.ext hce hke hge
      cases hseals with
      | cbc _ =>
        exact ⟨(), hl, input, hi, key, hk, _, rfl, _, _, ⟨hw, hs⟩, _, ⟨hp, rfl⟩, _, ⟨hwe, rfl⟩,
          _, ⟨hse, rfl⟩, henvelope.symm⟩
      | aead mode => rw [hmode] at mode; cases mode
  | aead algorithm =>
    simp only [Aead.sealEnvelope, bind_ok_iff, ofExcept_ok_iff, generateSessionKey_ok_iff,
      call_ok_iff, pure_ok_iff, Prod.exists, wrapAndSign_ok_iff, orFail_ok_iff,
      Aead.aeadEncrypt_ok_iff, checkedAdd_eq_some_iff, encodeBase64_ok_iff]
    constructor
    · rintro ⟨-, hl, input, hi, key, hk, _, rfl, nonce, hn, aad, ha, ct, tag, he, _, ⟨hf, -⟩,
        wrapped, signature, ⟨hw, hs⟩, _, ⟨hp, rfl⟩, _, ⟨hwe, rfl⟩, _, ⟨hse, rfl⟩, rfl⟩
      exact ⟨⟨_, wrapped, signature, input, key, hl, hi, hk, .aead hmode hn ha he hf, hw, hs, hp,
        hwe, hse, rfl, rfl, rfl⟩⟩
    · rintro ⟨payload, wrapped, signature, input, key, hl, hi, hk, hseals, hw, hs, hp, hwe, hse,
        hce, hke, hge⟩
      have henvelope : envelope =
          ⟨P.base64Encode payload, P.base64Encode wrapped, P.base64Encode signature⟩ :=
        SecureEnvelope.ext hce hke hge
      obtain ⟨nonce, aad, ct, tag, rfl, hn, ha, he, hf⟩ := hseals.of_aead hmode
      exact ⟨(), hl, input, hi, key, hk, _, rfl, nonce, hn, aad, ha, ct, tag, he, _, ⟨hf, rfl⟩, _,
        _, ⟨hw, hs⟩, _, ⟨hp, rfl⟩, _, ⟨hwe, rfl⟩, _, ⟨hse, rfl⟩, henvelope.symm⟩

/-- A call that signs, signs the authentication input of this plaintext with the
client's own key and ID. -/
def SignsInput (config : ClientConfig P.toTarget) (keys : KeyMaterial P) (p : Bytes)
    (context : AuthenticationContext) : P.Call → Prop
  | .signWithId key signerId message _ =>
      key = keys.localSigning ∧ signerId = config.localSignerId.1 ∧
      config.authenticationMode.authenticationInput P.toTarget context p = .ok message
  | _ => True

theorem emits_sealEnvelope_of {config : ClientConfig P.toTarget} {keys : KeyMaterial P}
    {random : Randomness P} {p : Bytes} {context : AuthenticationContext} {R : P.Call → Prop}
    (hfill : ∀ n, R (.fillRandom n)) (hcbc : R (.cbcEncrypt p)) (hgcm : R (.gcmEncrypt p))
    (hccm : config.envelopeMode = .aead .sm4Ccm → p.length ≤ config.maxPlaintextBytes.1 →
      R (.ccmEncrypt p))
    (hwrap : ∀ key result, R (.sm2Encrypt key result))
    (hsign : ∀ input result,
      config.authenticationMode.authenticationInput P.toTarget context p = .ok input →
      R (.signWithId keys.localSigning config.localSignerId.1 input result)) :
    Emits (sealEnvelope P config keys random p context) R := by
  have hends : ∀ key input,
      config.authenticationMode.authenticationInput P.toTarget context p = .ok input →
      Emits (wrapAndSign P config keys random key input) R := by
    intro key input hi
    simp [wrapAndSign, hwrap, hsign input _ hi]
  rw [sealEnvelope, emits_bind]
  refine ⟨emits_ensure, fun _ hlimit => ?_⟩
  rw [ensure_ok_iff, not_lt] at hlimit
  split
  · next algorithm hmode =>
    simp only [Aead.sealEnvelope, emits_bind, emits_ofExcept, emits_generateSessionKey, emits_call,
      emits_orFail, emits_encodeBase64, emits_pure, ofExcept_ok_iff, implies_true, and_true,
      true_and]
    intro input hi
    refine ⟨hfill _, fun key _ => ⟨hfill _, fun _ _ nonce _ aad _ => ⟨?_, fun r _ _ _ => ?_⟩⟩⟩
    · apply Aead.emits_aeadEncrypt hgcm
      rintro rfl
      exact hccm hmode hlimit
    · exact hends key input hi
  · simp only [Cbc.sealEnvelope, emits_bind, emits_ofExcept, emits_generateSessionKey, emits_call,
      emits_encodeBase64, emits_pure, ofExcept_ok_iff, implies_true, and_true, true_and]
    intro input hi
    exact ⟨hfill _, fun key _ => ⟨hcbc, fun _ _ => hends key input hi⟩⟩

theorem emits_sealEnvelope (config : ClientConfig P.toTarget) (keys : KeyMaterial P)
    (random : Randomness P) (p : Bytes) (context : AuthenticationContext) :
    Emits (sealEnvelope P config keys random p context) (SignsInput config keys p context) :=
  emits_sealEnvelope_of (fun _ => trivial) trivial trivial (fun _ _ => trivial)
    (fun _ _ => trivial) (fun _ _ hi => ⟨rfl, rfl, hi⟩)

def isSignature : P.Call → Bool
  | .signWithId _ _ _ (some _) => true
  | _ => false

theorem eq_signWithId_of_mem {config : ClientConfig P.toTarget} {keys : KeyMaterial P}
    {random : Randomness P} {p : Bytes} {context : AuthenticationContext} {c : P.Call}
    (hmem : c ∈ (sealEnvelope P config keys random p context).log) (hc : isSignature c = true) :
    ∃ input signature,
      config.authenticationMode.authenticationInput P.toTarget context p = .ok input ∧
      c = .signWithId keys.localSigning config.localSignerId.1 input (some signature) := by
  have hsigns := emits_sealEnvelope config keys random p context c hmem
  unfold isSignature at hc
  split at hc
  · next key signerId input signature =>
    obtain ⟨rfl, rfl, hinput⟩ := hsigns
    exact ⟨input, signature, hinput, rfl⟩
  · cases hc

theorem signed_of_wrapAndSign_ok {config : ClientConfig P.toTarget} {keys : KeyMaterial P}
    {random : Randomness P} {key : SessionKey} {input : Bytes} {r : Bytes × Bytes}
    (h : (wrapAndSign P config keys random key input).outcome = .ok r) :
    ∃ c ∈ (wrapAndSign P config keys random key input).log, isSignature c = true := by
  obtain ⟨hw, hs⟩ := wrapAndSign_ok_iff.mp h
  refine ⟨.signWithId keys.localSigning config.localSignerId.1 input (some r.2), ?_, rfl⟩
  simp [wrapAndSign, hw, hs]

theorem signed_of_ok {config : ClientConfig P.toTarget} {keys : KeyMaterial P}
    {random : Randomness P} {p : Bytes} {context : AuthenticationContext}
    {envelope : SecureEnvelope}
    (h : (sealEnvelope P config keys random p context).outcome = .ok envelope) :
    ∃ c ∈ (sealEnvelope P config keys random p context).log, isSignature c = true := by
  have hsign : ∀ key input (f : Bytes × Bytes → Run P SecureEnvelope),
      (wrapAndSign P config keys random key input >>= f).outcome = .ok envelope →
      ∃ c ∈ (wrapAndSign P config keys random key input >>= f).log, isSignature c = true := by
    intro key input f hf
    obtain ⟨r, hr, -⟩ := bind_ok_iff.mp hf
    obtain ⟨c, hc, hsig⟩ := signed_of_wrapAndSign_ok hr
    exact ⟨c, mem_log_bind.mpr (.inl hc), hsig⟩
  unfold sealEnvelope at h ⊢
  refine exists_mem_log_of_ok h fun _ _ h => ?_
  cases hmode : config.envelopeMode with
  | legacyCbc =>
    simp only [hmode, Cbc.sealEnvelope] at h ⊢
    refine exists_mem_log_of_ok h fun input _ h => ?_
    refine exists_mem_log_of_ok h fun key _ h => ?_
    refine exists_mem_log_of_ok h fun cipher _ h => ?_
    exact hsign key input _ h
  | aead algorithm =>
    simp only [hmode, Aead.sealEnvelope] at h ⊢
    refine exists_mem_log_of_ok h fun input _ h => ?_
    refine exists_mem_log_of_ok h fun key _ h => ?_
    refine exists_mem_log_of_ok h fun filled _ h => ?_
    refine exists_mem_log_of_ok h fun nonce _ h => ?_
    refine exists_mem_log_of_ok h fun aad _ h => ?_
    refine exists_mem_log_of_ok h fun r _ h => ?_
    refine exists_mem_log_of_ok h fun _ _ h => ?_
    exact hsign key input _ h

end EnvelopeLite.EnvelopeCrypto.SealPath
