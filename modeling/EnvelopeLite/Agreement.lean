import EnvelopeLite.ReferencePrimitives
import EnvelopeLite.SignedRuns

namespace EnvelopeLite.Agreement

open EnvelopeLite.Auth EnvelopeLite.ByteFields EnvelopeLite.CallTrace EnvelopeLite.Common
open EnvelopeLite.Config EnvelopeLite.EnvelopeCrypto EnvelopeLite.EnvelopeCrypto.Frame
open EnvelopeLite.EnvelopeCrypto.OpenPath EnvelopeLite.EnvelopeCrypto.SealPath
open EnvelopeLite.Primitives EnvelopeLite.ReferencePrimitives

variable {P : Platform} {signing : P.PrivateKey} {signerId : SignerId}

structure Signer (P : Platform) (signing : P.PrivateKey) (signerId : SignerId) where
  config : ClientConfig P.toTarget
  keys : KeyMaterial P
  domain : Bytes
  signing_eq : keys.localSigning = signing
  signer_eq : config.localSignerId = signerId
  mode_eq : config.authenticationMode = .contextBound domain

structure Receiver (P : Platform) (signing : P.PrivateKey) (signerId : SignerId) where
  config : ClientConfig P.toTarget
  keys : KeyMaterial P
  domain : Bytes
  verification_eq : keys.remoteVerification = P.publicKey signing
  signer_eq : config.expectedRemoteSignerId = signerId
  mode_eq : config.authenticationMode = .contextBound domain

/-- Signers seal what they like, and the network delivers what it likes. -/
inductive Action (P : Platform) (signing : P.PrivateKey) (signerId : SignerId)
  | sealing (signer : Signer P signing signerId) (random : Randomness P) (plaintext : Bytes)
      (context : AuthenticationContext)
  | delivery (envelope : SecureEnvelope) (context : AuthenticationContext)

def Signer.run (signer : Signer P signing signerId) (random : Randomness P) (plaintext : Bytes)
    (context : AuthenticationContext) : Run P SecureEnvelope :=
  sealEnvelope P signer.config signer.keys random plaintext context

def Receiver.run (receiver : Receiver P signing signerId) (envelope : SecureEnvelope)
    (context : AuthenticationContext) : Run P Bytes :=
  openEnvelope P receiver.config receiver.keys envelope context

def Action.Signs (message : Bytes) : Action P signing signerId → Prop
  | .sealing signer random plaintext context => ∃ signature,
      .signWithId signing signerId.1 message (some signature) ∈
        (signer.run random plaintext context).log
  | .delivery _ _ => False

/-- Histories with the newest action first. The side condition is unforgeability:
whatever signature an envelope carries, it verifies under the signer's public key
and ID only for bytes that were signed before. -/
inductive History (receiver : Receiver P signing signerId) :
    List (Action P signing signerId) → Prop
  | start : History receiver []
  | sealing {past : List (Action P signing signerId)} (signer : Signer P signing signerId)
      (random : Randomness P) (plaintext : Bytes) (context : AuthenticationContext) :
      History receiver past → History receiver (.sealing signer random plaintext context :: past)
  | delivery {past : List (Action P signing signerId)} (envelope : SecureEnvelope)
      (context : AuthenticationContext) : History receiver past →
      (∀ message signature, P.base64Decode envelope.signature = some signature →
        P.verifyWithId (P.publicKey signing) signerId.1 message signature = true →
          ∃ action ∈ past, action.Signs message) →
      History receiver (.delivery envelope context :: past)

@[ext] structure Statement where
  domain : Bytes
  context : AuthenticationContext
  plaintext : Bytes

def Encodes (T : Target) (s : Statement) (message : Bytes) : Prop :=
  (AuthenticationMode.contextBound s.domain).authenticationInput T s.context s.plaintext =
    .ok message

theorem encodes_unique {T : Target} (s t : Statement) (m : Bytes) (hs : Encodes T s m)
    (ht : Encodes T t m) : s = t := by
  obtain ⟨hd, hc, hp⟩ := contextBound_input_inj hs ht
  exact Statement.ext hd hc hp

def Action.step (receiver : Receiver P signing signerId) :
    Action P signing signerId → SignedRuns.Step Statement
  | .sealing signer random plaintext context =>
    if (signer.run random plaintext context).log.any isSignature then
      .sign ⟨signer.domain, context, plaintext⟩ else .idle
  | .delivery envelope context =>
    match (receiver.run envelope context).outcome with
    | .ok plaintext => .accept ⟨receiver.domain, context, plaintext⟩
    | _ => .idle

theorem Action.Signs.step_eq {message : Bytes} {action : Action P signing signerId}
    (h : action.Signs message) (receiver : Receiver P signing signerId) :
    ∃ s, Encodes P.toTarget s message ∧ action.step receiver = .sign s := by
  cases action with
  | sealing signer random plaintext context =>
    obtain ⟨signature, hmem⟩ := h
    have hencodes := emits_sealEnvelope signer.config signer.keys random plaintext context _ hmem
    rw [SignsInput, signer.mode_eq] at hencodes
    have hany : (signer.run random plaintext context).log.any isSignature = true :=
      List.any_eq_true.mpr ⟨_, hmem, rfl⟩
    exact ⟨⟨signer.domain, context, plaintext⟩, hencodes.2.2, if_pos hany⟩
  | delivery envelope context => exact h.elim

theorem Signer.signs_of_any (signer : Signer P signing signerId) {random : Randomness P}
    {plaintext : Bytes} {context : AuthenticationContext} {c : P.Call}
    (hmem : c ∈ (signer.run random plaintext context).log) (hc : isSignature c = true) :
    ∃ message, Encodes P.toTarget ⟨signer.domain, context, plaintext⟩ message ∧
      (Action.sealing signer random plaintext context).Signs message := by
  obtain ⟨message, signature, hinput, rfl⟩ := eq_signWithId_of_mem hmem hc
  rw [signer.signing_eq, signer.signer_eq] at hmem
  rw [signer.mode_eq] at hinput
  exact ⟨message, hinput, signature, hmem⟩

theorem Action.signs_of_step_eq {receiver : Receiver P signing signerId}
    {action : Action P signing signerId} {s : Statement} (h : action.step receiver = .sign s) :
    ∃ signer random, action = .sealing signer random s.plaintext s.context ∧
      signer.domain = s.domain ∧
      ∃ message, Encodes P.toTarget s message ∧ action.Signs message := by
  cases action with
  | sealing signer random plaintext context =>
    rw [Action.step] at h
    split at h
    · next hany =>
      cases h
      obtain ⟨c, hmem, hc⟩ := List.any_eq_true.mp hany
      exact ⟨signer, random, rfl, rfl, signer.signs_of_any hmem hc⟩
    · cases h
  | delivery envelope context =>
    rw [Action.step] at h
    split at h <;> cases h

/-- The code refines the abstract protocol of signed statements. -/
theorem History.refines {receiver : Receiver P signing signerId}
    {history : List (Action P signing signerId)} (h : History receiver history) :
    SignedRuns.Run (Encodes P.toTarget) (history.map (Action.step receiver)) := by
  induction h with
  | start => exact .start
  | sealing signer random plaintext context _ ih =>
    rw [List.map_cons, Action.step]
    split
    · exact .sign _ ih
    · exact .idle ih
  | delivery envelope context _ hunforged ih =>
    rw [List.map_cons, Action.step]
    split
    · next plaintext hok =>
      obtain ⟨accepted⟩ := openEnvelope_ok_iff.mp hok
      have hverified := accepted.verified
      have hinput := accepted.input_eq
      rw [receiver.verification_eq, receiver.signer_eq] at hverified
      rw [receiver.mode_eq] at hinput
      obtain ⟨action, haction, hsigns⟩ :=
        hunforged _ _ accepted.decode_signature hverified
      obtain ⟨t, ht, hstep⟩ := hsigns.step_eq receiver
      exact ih.accept_of_mem hinput ht haction hstep
    · exact .idle ih

theorem length_le_of_open_ok {config : ClientConfig P.toTarget} {keys : KeyMaterial P}
    {envelope : SecureEnvelope} {context : AuthenticationContext} {p : Bytes}
    (hlength : ∀ algorithm, config.envelopeMode = .aead algorithm →
      Aead.PreservesLength P algorithm)
    (h : (openEnvelope P config keys envelope context).outcome = .ok p) :
    p.length ≤ config.maxPlaintextBytes.1 := by
  obtain ⟨a⟩ := openEnvelope_ok_iff.mp h
  cases hmode : config.envelopeMode with
  | legacyCbc => exact (a.opens.of_cbc hmode).2.2
  | aead algorithm =>
    obtain ⟨nonce, aad, ciphertext, tag, -, hct, -, hd⟩ := a.opens.of_aead hmode
    rwa [hlength algorithm hmode _ _ _ _ _ _ hd]

theorem accepted_plaintext_was_sealed (P : Platform) (signing : P.PrivateKey)
    (signerId : SignerId) (receiver : Receiver P signing signerId)
    (hlength : ∀ algorithm, receiver.config.envelopeMode = .aead algorithm →
      Aead.PreservesLength P algorithm)
    (history later past : List (Action P signing signerId)) (h : History receiver history)
    (envelope : SecureEnvelope) (context : AuthenticationContext) (p : Bytes)
    (hsplit : history = later ++ .delivery envelope context :: past)
    (hok : (receiver.run envelope context).outcome = .ok p) :
    (∃ signer random message, .sealing signer random p context ∈ past ∧
      signer.domain = receiver.domain ∧
      (AuthenticationMode.contextBound receiver.domain).authenticationInput P.toTarget context p =
        .ok message ∧
      (Action.sealing signer random p context).Signs message) ∧
    p.length ≤ receiver.config.maxPlaintextBytes.1 := by
  refine ⟨?_, length_le_of_open_ok hlength hok⟩
  subst hsplit
  have hstep : (Action.delivery envelope context).step receiver =
      .accept ⟨receiver.domain, context, p⟩ := by
    rw [Action.step, hok]
  obtain ⟨action, hmem, haction⟩ := h.refines.exists_signed encodes_unique later hstep
  obtain ⟨signer, random, rfl, hdomain, message, hencodes, hsigns⟩ :=
    Action.signs_of_step_eq haction
  exact ⟨signer, random, message, hmem, hdomain, hencodes, hsigns⟩

def sampleSigner : Signer (reference recoverableSignature) (7 : UInt8) sampleSignerId :=
  ⟨sampleCcm, sampleKeys _, [1], rfl, rfl, rfl⟩

def sampleReceiver : Receiver (reference recoverableSignature) (7 : UInt8) sampleSignerId :=
  ⟨sampleCcm, sampleKeys _, [1], rfl, rfl, rfl⟩

def sampleDelivery : SecureEnvelope :=
  sampleEnvelope recoverableSignature .sm4Ccm [1] sampleAad [1, 2, 3] sampleInput

theorem sample_sealing_signs : (Action.sealing sampleSigner (sampleRandomness _) [1, 2, 3]
    sampleContext).Signs sampleInput := by
  obtain ⟨c, hmem, hc⟩ := signed_of_ok (sample_sealed_aead recoverableSignature rfl (by decide)
    (by decide) sampleCcm_input sampleCcm_aad (by decide))
  obtain ⟨message, hencodes, hsigns⟩ := sampleSigner.signs_of_any hmem hc
  have hmessage : message = sampleInput := Except.ok.inj (hencodes.symm.trans sampleCcm_input)
  rwa [hmessage] at hsigns

theorem sample_unforged (message signature : Bytes)
    (hdecode : (reference recoverableSignature).base64Decode sampleDelivery.signature =
      some signature)
    (hverified : (reference recoverableSignature).verifyWithId (7 : UInt8) sampleSignerId.1 message
      signature = true) : message = sampleInput := by
  have hsignature : signature = 7 :: message := of_decide_eq_true hverified
  have hcarried : signature = 7 :: sampleInput :=
    Option.some.inj (hdecode.symm.trans (reference_base64.decode_encode _))
  exact (List.cons.inj (hsignature.symm.trans hcarried)).2

theorem sample_delivery_was_sealed :
    ∃ envelope past, History sampleReceiver (.delivery envelope sampleContext :: past) ∧
      (sampleReceiver.run envelope sampleContext).outcome = .ok [1, 2, 3] ∧
      ∃ signer random message, .sealing signer random [1, 2, 3] sampleContext ∈ past ∧
        signer.domain = sampleReceiver.domain ∧
        (AuthenticationMode.contextBound sampleReceiver.domain).authenticationInput
          (reference recoverableSignature).toTarget sampleContext [1, 2, 3] = .ok message ∧
        (Action.sealing signer random [1, 2, 3] sampleContext).Signs message := by
  have hopen : (sampleReceiver.run sampleDelivery sampleContext).outcome = .ok [1, 2, 3] :=
    sample_opened_aead recoverableSignature rfl (by decide) (by decide) sampleCcm_input
      sampleCcm_aad (by decide)
  have hhistory : History sampleReceiver [.delivery sampleDelivery sampleContext,
      .sealing sampleSigner (sampleRandomness _) [1, 2, 3] sampleContext] := by
    refine .delivery _ _ (.sealing _ _ _ _ .start) fun message signature hdecode hverified => ?_
    rw [sample_unforged message signature hdecode hverified]
    exact ⟨_, List.mem_singleton_self _, sample_sealing_signs⟩
  exact ⟨_, _, hhistory, hopen, (accepted_plaintext_was_sealed _ _ _ sampleReceiver
    (fun _ _ => reference_preservesLength) _ [] _ hhistory _ _ _ rfl hopen).1⟩

end EnvelopeLite.Agreement
