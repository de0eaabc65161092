import EnvelopeLite.Canonical
import EnvelopeLite.SizeBounds

namespace EnvelopeLite.Limits

open EnvelopeLite.Auth EnvelopeLite.ByteFields EnvelopeLite.CallTrace EnvelopeLite.Canonical
open EnvelopeLite.Common EnvelopeLite.Config EnvelopeLite.EnvelopeCrypto
open EnvelopeLite.EnvelopeCrypto.OpenPath EnvelopeLite.EnvelopeCrypto.SealPath
open EnvelopeLite.Primitives EnvelopeLite.ReferencePrimitives EnvelopeLite.SizeBounds

def withLimit {T : Target} (config : ClientConfig T) (limit : Usize T)
    (h : LimitAccepted config.envelopeMode limit.1) : ClientConfig T :=
  { config with maxPlaintextBytes := limit, limit_accepted := h }

variable {P : Platform} {config : ClientConfig P.toTarget} {keys : KeyMaterial P}
variable {envelope : SecureEnvelope} {context : AuthenticationContext} {p : Bytes}

section Sealing

variable {limit : Usize P.toTarget} {h : LimitAccepted config.envelopeMode limit.1}
variable {random : Randomness P}

theorem sealEnvelope_withLimit (hlimit : p.length ≤ config.maxPlaintextBytes.1)
    (hlimit' : p.length ≤ limit.1) :
    sealEnvelope P (withLimit config limit h) keys random p context =
      sealEnvelope P config keys random p context := by
  have hwithin : ¬ p.length > (withLimit config limit h).maxPlaintextBytes.1 := not_lt.mpr hlimit'
  rw [sealEnvelope, sealEnvelope, ensure_pos hwithin, ensure_pos (not_lt.mpr hlimit), pure_bind,
    pure_bind]
  rfl

end Sealing

section Opening

variable {key : SessionKey} {payload : Bytes}

theorem encryptsTo_of_opens (canonical : CanonicalLaws P)
    (h : PayloadOpens P config context key p payload) :
    EncryptsTo P config.envelopeMode p payload := by
  cases h with
  | cbc mode _ hdecrypts _ =>
    rw [canonical.cbc _ _ _ _ hdecrypts]
    exact .cbc mode key config.iv
  | aead mode _ _ hdecrypts => exact .aead mode (canonical.aead _ _ _ _ _ _ _ hdecrypts)

theorem length_le_of_opens (canonical : CanonicalLaws P)
    (h : PayloadOpens P config context key p payload) :
    p.length ≤ config.maxPlaintextBytes.1 := by
  cases h with
  | cbc _ _ _ hlimit => exact hlimit
  | aead _ hlimit _ hdecrypts =>
    rw [← canonical.aead_length _ _ _ _ _ _ _ (canonical.aead _ _ _ _ _ _ _ hdecrypts)]
    exact hlimit

variable (limit : Usize P.toTarget) (hlimit : LimitAccepted config.envelopeMode limit.1)

theorem opens_withLimit (canonical : CanonicalLaws P) (lengths : PayloadLengths P)
    (h : PayloadOpens P config context key p payload) (hfits : EncodedFits P.toTarget payload)
    (hp : p.length ≤ limit.1) :
    PayloadOpens P (withLimit config limit hlimit) context key p payload := by
  have hencrypts := encryptsTo_of_opens canonical h
  have hbound : payload.length ≤ payloadBound P (withLimit config limit hlimit) :=
    EncryptsTo.length_le lengths (hencrypts :) hfits hp
  cases h with
  | cbc mode _ hdecrypts _ => exact .cbc mode hbound hdecrypts hp
  | aead mode _ haad hdecrypts =>
    refine .aead mode ?_ haad hdecrypts
    rw [canonical.aead_length _ _ _ _ _ _ _ (canonical.aead _ _ _ _ _ _ _ hdecrypts)]
    exact hp

/-- An envelope that is accepted is accepted under every limit that its plaintext meets. -/
theorem open_withLimit (canonical : CanonicalLaws P) (lengths : PayloadLengths P)
    (base64 : Base64Laws P)
    (hopen : (openEnvelope P config keys envelope context).outcome = .ok p)
    (hp : p.length ≤ limit.1) :
    (openEnvelope P (withLimit config limit hlimit) keys envelope context).outcome = .ok p := by
  obtain ⟨a⟩ := openEnvelope_ok_iff.mp hopen
  have hsize : envelope.cipher.utf8ByteSize = 4 * ((a.payload.length + 2) / 3) := by
    rw [canonical.base64 _ _ a.decode_cipher, base64.length_encode]
  have hfits : EncodedFits P.toTarget a.payload := by
    have hbound := a.cipher_fits
    rw [hsize, cipherBound, base64Len_eq] at hbound
    exact hbound.trans (Nat.min_le_right _ _)
  have hopens := opens_withLimit limit hlimit canonical lengths a.opens hfits hp
  have hpayload : a.payload.length ≤ payloadBound P (withLimit config limit hlimit) :=
    (encryptsTo_of_opens canonical hopens).length_le lengths hfits hp
  refine openEnvelope_ok_iff.mpr ⟨{ a with cipher_fits := ?_, opens := hopens }⟩
  rw [hsize]
  exact encodedLength_le hpayload hfits

end Opening

/-- A limit bounds plaintexts and changes nothing else. What is within two limits is sealed
alike under both, and what is accepted under one is accepted under the other, with the same
plaintext, exactly if that is short enough: a limit that is raised loses no envelope. -/
theorem limits_only_bound_the_plaintext (P : Platform) (canonical : CanonicalLaws P)
    (base64 : Base64Laws P) (cbc : CbcLaws P) (config : ClientConfig P.toTarget)
    (limit : Usize P.toTarget) (hlimit : LimitAccepted config.envelopeMode limit.1)
    (keys : KeyMaterial P) :
    let other := withLimit config limit hlimit
    (∀ random p context, p.length ≤ config.maxPlaintextBytes.1 → p.length ≤ limit.1 →
      sealEnvelope P other keys random p context = sealEnvelope P config keys random p context) ∧
    ∀ envelope context p, (openEnvelope P config keys envelope context).outcome = .ok p →
      ∀ q, (openEnvelope P other keys envelope context).outcome = .ok q ↔
        q = p ∧ p.length ≤ limit.1 := by
  intro other
  have lengths : PayloadLengths P :=
    ⟨cbc.length_encrypt, fun _ _ _ _ _ _ _ h => canonical.aead_length _ _ _ _ _ _ _ h⟩
  refine ⟨fun random p context hp hp' => sealEnvelope_withLimit hp hp', ?_⟩
  intro envelope context p hopen q
  constructor
  · intro hopen'
    obtain ⟨a⟩ := openEnvelope_ok_iff.mp hopen
    obtain ⟨b⟩ := openEnvelope_ok_iff.mp hopen'
    have hp : p.length ≤ config.maxPlaintextBytes.1 := length_le_of_opens canonical a.opens
    have hq : q.length ≤ limit.1 := length_le_of_opens canonical b.opens
    obtain hle | hle := le_total limit.1 config.maxPlaintextBytes.1
    · -- the first limit is the larger one, so that the envelope goes back to it
      have hback : (openEnvelope P (withLimit other config.maxPlaintextBytes config.limit_accepted)
          keys envelope context).outcome = .ok q :=
        open_withLimit _ _ canonical lengths base64 hopen' (hq.trans hle)
      have hsame : q = p := Outcome.ok.inj (hback.symm.trans hopen)
      exact ⟨hsame, hsame ▸ hq⟩
    · have hthere := open_withLimit limit hlimit canonical lengths base64 hopen (hp.trans hle)
      exact ⟨Outcome.ok.inj (hopen'.symm.trans hthere), hp.trans hle⟩
  · rintro ⟨rfl, hp⟩
    exact open_withLimit limit hlimit canonical lengths base64 hopen hp

theorem sampleLimit_accepted : LimitAccepted sampleCcm.envelopeMode 3 :=
  ⟨by decide, fun _ => by decide⟩

theorem sampleCipher_meets_a_smaller_limit :
    (openEnvelope (reference checksumSignature)
      (withLimit sampleCcm ⟨3, by decide⟩ sampleLimit_accepted) (sampleKeys _) sampleCipher
      sampleContext).outcome = .ok [1, 2, 3] :=
  ((limits_only_bound_the_plaintext (reference checksumSignature) reference_canonicalLaws
    reference_base64 reference_cbc sampleCcm _ sampleLimit_accepted (sampleKeys _)).2 _ _ _
    sampleCipher_opened _).mpr ⟨rfl, by decide⟩

end EnvelopeLite.Limits
