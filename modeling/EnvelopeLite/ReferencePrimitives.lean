import EnvelopeLite.Base64
import EnvelopeLite.EnvelopeCrypto.OpenPath
import EnvelopeLite.EnvelopeCrypto.SealPath

namespace EnvelopeLite.ReferencePrimitives

open EnvelopeLite.Auth EnvelopeLite.ByteFields EnvelopeLite.Common EnvelopeLite.Config
open EnvelopeLite.EnvelopeCrypto EnvelopeLite.EnvelopeCrypto.OpenPath
open EnvelopeLite.EnvelopeCrypto.SealPath EnvelopeLite.Primitives

section Ciphers

def checksum (b : Bytes) : UInt8 := b.foldl (fun h x => h * 31 + x) 7

def checksumTag (key : SessionKey) (nonce aad p : Bytes) : Tag :=
  ⟨List.replicate 16 (checksum (key.1 ++ nonce ++ aad ++ p)), by simp⟩

def pad (p : Bytes) : Bytes :=
  p ++ List.replicate (16 - p.length % 16) (UInt8.ofNat (16 - p.length % 16))

def unpad (c : Bytes) : Option Bytes :=
  let p := c.take (c.length - (c.getLastD 0).toNat)
  if pad p = c then some p else none

theorem length_pad (p : Bytes) : (pad p).length = (p.length / 16 + 1) * 16 := by
  rw [pad, List.length_append, List.length_replicate]
  omega

theorem getLastD_pad (p : Bytes) : ((pad p).getLastD 0).toNat = 16 - p.length % 16 := by
  obtain ⟨n, hn⟩ : ∃ n, 16 - p.length % 16 = n + 1 := ⟨15 - p.length % 16, by omega⟩
  rw [pad, hn, List.replicate_succ', ← List.append_assoc, List.getLastD_concat,
    Base64.toNat_ofNat (by omega)]

theorem unpad_eq_some_iff {c p : Bytes} : unpad c = some p ↔ c = pad p := by
  constructor
  · intro h
    simp only [unpad, Option.ite_none_right_eq_some, Option.some.injEq] at h
    obtain ⟨hc, rfl⟩ := h
    exact hc.symm
  · rintro rfl
    have htake : (pad p).take ((pad p).length - ((pad p).getLastD 0).toNat) = p := by
      rw [getLastD_pad, pad, List.length_append, List.length_replicate, Nat.add_sub_cancel,
        List.take_left]
    simp only [unpad, htake, if_pos]

end Ciphers

section Platform

abbrev SignatureScheme := UInt8 → Bytes → Bytes → Bytes

def checksumSignature : SignatureScheme := fun key id m => [checksum (key :: fields 2 [id, m])]

def recoverableSignature : SignatureScheme := fun key _ m => key :: m

def sampleTarget : Target := ⟨64, by decide⟩

/-- Primitives that compute: real Base64 and PKCS#7 padding, no secrecy, and
checksums in the place of tags. -/
def reference (scheme : SignatureScheme) : Platform where
  toTarget := sampleTarget
  PrivateKey := UInt8
  PublicKey := UInt8
  Coins := Unit
  publicKey := id
  base64Encode := Base64.encode
  base64Decode := Base64.decode
  sm2Encrypt pk m _ := some (pk :: m)
  sm2Decrypt
    | sk, k :: m => if k = sk then some m else none
    | _, [] => none
  signWithId sk id m _ := some (scheme sk id m)
  verifyWithId pk id m s := s = scheme pk id m
  cbcEncrypt _ _ p := pad p
  cbcDecrypt _ _ c := unpad c
  gcmEncrypt k n aad p := some (p, checksumTag k n aad p)
  gcmDecrypt k n aad c t := if t = checksumTag k n aad c then some c else none
  ccmEncrypt k n aad p _ := some (p ++ (checksumTag k n aad p).1)
  ccmDecrypt k n aad j _ :=
    let p := j.take (j.length - 16)
    if p ++ (checksumTag k n aad p).1 = j then some p else none

instance (scheme : SignatureScheme) : DecidableEq (reference scheme).PrivateKey :=
  inferInstanceAs (DecidableEq UInt8)

instance (scheme : SignatureScheme) : DecidableEq (reference scheme).PublicKey :=
  inferInstanceAs (DecidableEq UInt8)

end Platform

section Laws

variable {scheme : SignatureScheme}

theorem reference_base64 : Base64Laws (reference scheme) :=
  ⟨Base64.decode_encode, Base64.utf8ByteSize_encode⟩

theorem reference_sm2 : Sm2Laws (reference checksumSignature) where
  decrypt_encrypt := by
    intro sk m r c h
    obtain rfl := Option.some.inj h
    exact if_pos rfl
  verify_sign := by
    intro sk id m r s h
    obtain rfl := Option.some.inj h
    exact decide_eq_true rfl
  length_encrypt := by
    intro pk m r c hm h
    obtain rfl := Option.some.inj h
    change m.length + 1 ≤ 12288
    omega
  length_sign := by
    intro sk id m r s h
    obtain rfl := Option.some.inj h
    change 1 ≤ 12288
    omega

theorem recoverable_binding : SignatureBinding (reference recoverableSignature) := by
  intro sk id m r s m' hs hv
  obtain rfl := Option.some.inj hs
  have h := of_decide_eq_true hv
  exact (List.cons.inj h).2.symm

theorem reference_cbc : CbcLaws (reference scheme) :=
  ⟨fun _ _ _ => unpad_eq_some_iff.mpr rfl, fun _ _ p => length_pad p⟩

variable {algorithm : AeadAlgorithm} {k : SessionKey} {n aad c p : Bytes} {t : Tag}

theorem encrypted_eq_some_iff :
    Aead.encrypted (reference scheme) algorithm k n aad p = some (c, t) ↔
      c = p ∧ t = checksumTag k n aad p := by
  cases algorithm with
  | sm4Gcm =>
    simp only [Aead.encrypted, reference, Option.some.injEq, Prod.mk.injEq]
    exact ⟨fun h => ⟨h.1.symm, h.2.symm⟩, fun h => ⟨h.1.symm, h.2.symm⟩⟩
  | sm4Ccm =>
    rw [Aead.encrypted_ccm_iff]
    simp only [reference, Option.some.injEq]
    constructor
    · intro h
      obtain ⟨hp, ht⟩ := List.append_inj' h (by rw [t.2, (checksumTag k n aad p).2])
      exact ⟨hp.symm, Subtype.ext ht.symm⟩
    · rintro ⟨rfl, rfl⟩
      rfl

theorem decrypted_eq_some_iff :
    Aead.decrypted (reference scheme) algorithm k n aad c t = some p ↔
      c = p ∧ t = checksumTag k n aad p := by
  cases algorithm with
  | sm4Gcm =>
    simp only [Aead.decrypted, reference, Option.ite_none_right_eq_some, Option.some.injEq]
    constructor
    · rintro ⟨rfl, rfl⟩
      exact ⟨rfl, rfl⟩
    · rintro ⟨rfl, rfl⟩
      exact ⟨rfl, rfl⟩
  | sm4Ccm =>
    have htake : (c ++ t.1).take ((c ++ t.1).length - 16) = c := by
      rw [List.length_append, t.2, Nat.add_sub_cancel, List.take_left]
    simp only [Aead.decrypted, reference, htake, Option.ite_none_right_eq_some, Option.some.injEq,
      List.append_cancel_left_eq]
    constructor
    · rintro ⟨ht, rfl⟩
      exact ⟨rfl, Subtype.ext ht.symm⟩
    · rintro ⟨rfl, rfl⟩
      exact ⟨rfl, rfl⟩

theorem reference_aead : AeadLaws (reference scheme) where
  gcm_decrypt_encrypt := by
    intro k n aad p c t h
    obtain ⟨rfl, rfl⟩ := Prod.mk.inj (Option.some.inj h)
    change Aead.decrypted (reference scheme) .sm4Gcm k n aad _ _ = _
    exact decrypted_eq_some_iff.mpr ⟨rfl, rfl⟩
  gcm_length_encrypt := by
    intro k n aad p c t h
    obtain ⟨rfl, -⟩ := Prod.mk.inj (Option.some.inj h)
    rfl
  ccm_decrypt_encrypt := by
    intro k n aad p j h
    obtain rfl := Option.some.inj h
    change Aead.decrypted (reference scheme) .sm4Ccm k n aad p (checksumTag k n aad p) = _
    exact decrypted_eq_some_iff.mpr ⟨rfl, rfl⟩
  ccm_length_encrypt := by
    intro k n aad p j h
    obtain rfl := Option.some.inj h
    rw [List.length_append, (checksumTag k n aad p).2]

theorem reference_laws : RoundTripLaws (reference checksumSignature) :=
  ⟨reference_base64, reference_sm2, reference_cbc, reference_aead⟩

theorem reference_texts : EnvelopeTextLaws (reference checksumSignature) where
  encode_alphabet := Base64.isCharacter_encode
  encrypt_ne_nil := by
    intro pk m r c h
    obtain rfl := Option.some.inj h
    exact List.cons_ne_nil _ _
  sign_ne_nil := by
    intro sk id m r s h
    obtain rfl := Option.some.inj h
    exact List.cons_ne_nil _ _

theorem reference_preservesLength : Aead.PreservesLength (reference scheme) algorithm := by
  intro key nonce aad ciphertext tag p h
  rw [(decrypted_eq_some_iff.mp h).1]

end Laws

section Samples

variable (scheme : SignatureScheme)

def sampleLine : Text.LineSafe := ⟨"id", by decide⟩

def sampleSignerId : SignerId := ⟨[1], by decide⟩

theorem sampleDomain_valid : AuthenticationMode.contextBound [1] ≠ .contextBound [] := by
  simp

/-- A configuration with a limit of 64 bytes that names itself as its peer. -/
def sampleConfig (envelopeMode : EnvelopeMode) (mode : AuthenticationMode)
    (mode_valid : mode ≠ .contextBound []) : ClientConfig sampleTarget where
  identity := ⟨sampleLine, sampleLine, sampleLine, sampleLine, sampleLine⟩
  localSignerId := sampleSignerId
  expectedRemoteSignerId := sampleSignerId
  authenticationMode := mode
  iv := zeroIv
  envelopeMode := envelopeMode
  maxPlaintextBytes := ⟨64, by decide⟩
  mode_valid := mode_valid
  iv_inert := fun _ => rfl
  limit_accepted := ⟨by decide, fun _ => by decide⟩

def sampleKeys : KeyMaterial (reference scheme) :=
  ⟨(7 : UInt8), (7 : UInt8), (7 : UInt8), (7 : UInt8)⟩

def sampleKey : SessionKey := ⟨List.replicate 16 5, by simp⟩

def sampleNonce : Nonce := ⟨List.replicate 12 6, by simp⟩

def sampleRandomness : Randomness (reference scheme) :=
  ⟨some sampleKey, some sampleNonce, (), ()⟩

variable {config : ClientConfig sampleTarget} {context : AuthenticationContext}
variable {p input : Bytes}

theorem sample_sealed {payload : Bytes} (hlimit : p.length ≤ config.maxPlaintextBytes.1)
    (hinput : config.authenticationMode.authenticationInput sampleTarget context p = .ok input)
    (hseals : PayloadSeals (reference scheme) config context (some sampleNonce) sampleKey p payload)
    (hencodable : EncodedFits sampleTarget payload)
    (hsignature : EncodedFits sampleTarget (scheme 7 config.localSignerId.1 input)) :
    (sealEnvelope (reference scheme) config (sampleKeys scheme) (sampleRandomness scheme) p
        context).outcome =
      .ok ⟨Base64.encode payload, Base64.encode (7 :: sampleKey.1),
        Base64.encode (scheme 7 config.localSignerId.1 input)⟩ := by
  have hwrapped : EncodedFits sampleTarget (7 :: sampleKey.1) := by decide
  exact sealEnvelope_ok_iff.mpr ⟨⟨payload, 7 :: sampleKey.1, scheme 7 config.localSignerId.1 input,
    input, sampleKey, hlimit, hinput, rfl, hseals, rfl, rfl, hencodable, hwrapped, hsignature, rfl,
    rfl, rfl⟩⟩

theorem sample_sealed_cbc (hmode : config.envelopeMode = .legacyCbc)
    (hlimit : p.length ≤ config.maxPlaintextBytes.1) (hshort : p.length ≤ 64)
    (hinput : config.authenticationMode.authenticationInput sampleTarget context p = .ok input)
    (hsignature : EncodedFits sampleTarget (scheme 7 config.localSignerId.1 input)) :
    (sealEnvelope (reference scheme) config (sampleKeys scheme) (sampleRandomness scheme) p
        context).outcome =
      .ok ⟨Base64.encode (pad p), Base64.encode (7 :: sampleKey.1),
        Base64.encode (scheme 7 config.localSignerId.1 input)⟩ := by
  have hencodable : EncodedFits sampleTarget (pad p) := by
    rw [EncodedFits, length_pad]
    change 4 * (((p.length / 16 + 1) * 16 + 2) / 3) ≤ 2 ^ 64 - 1
    omega
  exact sample_sealed scheme hlimit hinput (.cbc hmode) hencodable hsignature

def sampleEnvelope (algorithm : AeadAlgorithm) (signerId aad p input : Bytes) : SecureEnvelope :=
  ⟨Base64.encode (Frame.frameBytes algorithm sampleNonce p
    (checksumTag sampleKey sampleNonce.1 aad p)), Base64.encode (7 :: sampleKey.1),
    Base64.encode (scheme 7 signerId input)⟩

theorem sample_sealed_aead {algorithm : AeadAlgorithm} {aad : Bytes}
    (hmode : config.envelopeMode = .aead algorithm) (hlimit : p.length ≤ config.maxPlaintextBytes.1)
    (hshort : p.length ≤ 64)
    (hinput : config.authenticationMode.authenticationInput sampleTarget context p = .ok input)
    (haad : config.authenticationMode.aeadAad sampleTarget context
      (Frame.frameHeader algorithm sampleNonce) = .ok aad)
    (hsignature : EncodedFits sampleTarget (scheme 7 config.localSignerId.1 input)) :
    (sealEnvelope (reference scheme) config (sampleKeys scheme) (sampleRandomness scheme) p
        context).outcome =
      .ok (sampleEnvelope scheme algorithm config.localSignerId.1 aad p input) := by
  have hfits : Frame.frameOverheadBytes + p.length ≤ sampleTarget.usizeMax := by
    change 30 + p.length ≤ 2 ^ 64 - 1
    omega
  have hencodable : EncodedFits sampleTarget (Frame.frameBytes algorithm sampleNonce p
      (checksumTag sampleKey sampleNonce.1 aad p)) := by
    rw [EncodedFits, Frame.length_frameBytes]
    change 4 * ((p.length + 30 + 2) / 3) ≤ 2 ^ 64 - 1
    omega
  have hencrypts : Aead.encrypted (reference scheme) algorithm sampleKey sampleNonce.1 aad p =
      some (p, checksumTag sampleKey sampleNonce.1 aad p) :=
    encrypted_eq_some_iff.mpr ⟨rfl, rfl⟩
  exact sample_sealed scheme hlimit hinput (.aead hmode rfl haad hencrypts hfits) hencodable hsignature

theorem sample_opened_aead {algorithm : AeadAlgorithm} {aad : Bytes}
    (hmode : config.envelopeMode = .aead algorithm) (hlimit : p.length ≤ config.maxPlaintextBytes.1)
    (hshort : p.length ≤ 64)
    (hinput : config.authenticationMode.authenticationInput sampleTarget context p = .ok input)
    (haad : config.authenticationMode.aeadAad sampleTarget context
      (Frame.frameHeader algorithm sampleNonce) = .ok aad)
    (hsignature : (scheme 7 config.expectedRemoteSignerId.1 input).length ≤ 12288) :
    (openEnvelope (reference scheme) config (sampleKeys scheme)
      (sampleEnvelope scheme algorithm config.expectedRemoteSignerId.1 aad p input)
      context).outcome = .ok p := by
  have hcipher : (Base64.encode (Frame.frameBytes algorithm sampleNonce p
      (checksumTag sampleKey sampleNonce.1 aad p))).utf8ByteSize ≤
        cipherBound (reference scheme) config := by
    have hM := sampleTarget.le_usizeMax
    have hbound : payloadBound (reference scheme) config =
        min (config.maxPlaintextBytes.1 + 30) sampleTarget.usizeMax := by
      simp only [payloadBound, hmode]
      rfl
    change _ ≤ base64Len sampleTarget (payloadBound (reference scheme) config)
    rw [Base64.utf8ByteSize_encode, Frame.length_frameBytes, hbound, base64Len_eq]
    omega
  have hsignature_fits : (Base64.encode (scheme 7 config.expectedRemoteSignerId.1
      input)).utf8ByteSize ≤ maxAuxiliaryBase64Bytes := by
    rw [Base64.utf8ByteSize_encode, maxAuxiliaryBase64Bytes]
    omega
  have hwrapped_fits : (Base64.encode (7 :: sampleKey.1)).utf8ByteSize ≤
      maxAuxiliaryBase64Bytes := by
    rw [Base64.utf8ByteSize_encode]
    decide
  have hdecrypts : Aead.decrypted (reference scheme) algorithm sampleKey sampleNonce.1 aad p
      (checksumTag sampleKey sampleNonce.1 aad p) = some p :=
    decrypted_eq_some_iff.mpr ⟨rfl, rfl⟩
  exact openEnvelope_ok_iff.mpr ⟨⟨_, _, _, input, sampleKey, hcipher, hwrapped_fits, hsignature_fits,
    reference_base64.decode_encode _, reference_base64.decode_encode _,
    reference_base64.decode_encode _, rfl, .aead hmode hlimit haad hdecrypts, hinput, decide_eq_true rfl⟩⟩

def sampleCcm : ClientConfig sampleTarget :=
  sampleConfig (.aead .sm4Ccm) (.contextBound [1]) sampleDomain_valid

def sampleContext : AuthenticationContext := ⟨.bound [4], by decide⟩

def sampleAad : Bytes := aadBytes (Frame.frameHeader .sm4Ccm sampleNonce).1 [1] [4]

theorem sampleCcm_aad : sampleCcm.authenticationMode.aeadAad sampleTarget sampleContext
    (Frame.frameHeader .sm4Ccm sampleNonce) = .ok sampleAad := by
  decide

def sampleInput : Bytes := transcript [1] [4] [1, 2, 3]

theorem sampleCcm_input : sampleCcm.authenticationMode.authenticationInput sampleTarget
    sampleContext [1, 2, 3] = .ok sampleInput := by
  decide

end Samples

end EnvelopeLite.ReferencePrimitives
