import EnvelopeLite.Auth
import EnvelopeLite.Text

namespace EnvelopeLite.Config

open EnvelopeLite.ByteFields EnvelopeLite.Common EnvelopeLite.Auth EnvelopeLite.Text

abbrev Usize (T : Target) := {n : Nat // n ≤ T.usizeMax}

def defaultMaxPlaintextBytes (T : Target) : Usize T :=
  ⟨16 * 1024 * 1024, le_trans (by decide) T.le_usizeMax⟩

def sm4CcmMaxPlaintextBytes : Nat := 2 ^ 24 - 1

def sm4CcmDefaultMaxPlaintextBytes (T : Target) : Usize T :=
  ⟨64 * 1024, le_trans (by decide) T.le_usizeMax⟩

def maxSignerIdBytes : Nat := 65535 / 8

structure ClientIdentity where
  localIdentityId : LineSafe
  apiVersion : LineSafe
  localCertificateId : LineSafe
  expectedRemoteSigningCertificateId : LineSafe
  remoteEncryptionCertificateId : LineSafe

def validateHeaderValue (value field : String) : Except Error LineSafe :=
  validateLine (.configuration field) value

def ClientIdentity.new (localIdentityId apiVersion localCertificateId
    expectedRemoteSigningCertificateId remoteEncryptionCertificateId : String) :
    Except Error ClientIdentity := do
  .ok {
    localIdentityId := ← validateHeaderValue localIdentityId "local_identity_id"
    apiVersion := ← validateHeaderValue apiVersion "api_version"
    localCertificateId := ← validateHeaderValue localCertificateId "local_certificate_id"
    expectedRemoteSigningCertificateId := ← validateHeaderValue
      expectedRemoteSigningCertificateId "expected_remote_signing_certificate_id"
    remoteEncryptionCertificateId := ← validateHeaderValue remoteEncryptionCertificateId
      "remote_encryption_certificate_id" }

/-- Every identity is one that the constructor returns for its own values. -/
theorem ClientIdentity.new_values (identity : ClientIdentity) :
    ClientIdentity.new identity.localIdentityId.1 identity.apiVersion.1
      identity.localCertificateId.1 identity.expectedRemoteSigningCertificateId.1
      identity.remoteEncryptionCertificateId.1 = .ok identity := by
  have hvalid : ∀ (value : LineSafe) field, validateHeaderValue value.1 field = .ok value :=
    fun value field => validateLine_ok_iff.mpr rfl
  simp only [ClientIdentity.new, hvalid, ok_bind]

inductive AeadAlgorithm
  | sm4Gcm
  | sm4Ccm
  deriving DecidableEq, Repr

inductive EnvelopeMode
  | legacyCbc
  | aead (algorithm : AeadAlgorithm)
  deriving DecidableEq, Repr

/-- An SM2 signer ID whose bit length fits in 16 bits. -/
abbrev SignerId := {b : Bytes // b ≠ [] ∧ b.length ≤ maxSignerIdBytes}

def zeroIv : FixedBytes 16 := ⟨List.replicate 16 0, by simp⟩

/-- The limits that a configuration for one envelope mode may have. -/
def LimitAccepted (mode : EnvelopeMode) (limit : Nat) : Prop :=
  0 < limit ∧ (mode = .aead .sm4Ccm → limit ≤ sm4CcmMaxPlaintextBytes)

/-- An immutable configuration. Its fields are private to the crate, so every
value satisfies what the builder checks. -/
structure ClientConfig (T : Target) where
  identity : ClientIdentity
  localSignerId : SignerId
  expectedRemoteSignerId : SignerId
  authenticationMode : AuthenticationMode
  iv : FixedBytes 16
  envelopeMode : EnvelopeMode
  maxPlaintextBytes : Usize T
  mode_valid : authenticationMode ≠ .contextBound []
  iv_inert : envelopeMode ≠ .legacyCbc → iv = zeroIv
  limit_accepted : LimitAccepted envelopeMode maxPlaintextBytes.1

structure ClientConfigBuilder (T : Target) where
  localIdentityId : Option String := none
  apiVersion : Option String := none
  localCertificateId : Option String := none
  expectedRemoteSigningCertificateId : Option String := none
  remoteEncryptionCertificateId : Option String := none
  localSignerId : Option Bytes := none
  expectedRemoteSignerId : Option Bytes := none
  authenticationMode : Option AuthenticationMode := none
  iv : Option (FixedBytes 16) := none
  envelopeMode : Option EnvelopeMode := none
  maxPlaintextBytes : Option (Usize T) := none

def requiredHeaderValue (value : Option String) (field : String) : Except Error LineSafe := do
  validateHeaderValue (← okOr value (.configuration field)) field

def requiredSignerId (value : Option Bytes) (field : String) : Except Error SignerId := do
  let value ← okOr value (.configuration field)
  if h : value = [] ∨ maxSignerIdBytes < value.length then .error (.configuration field)
  else .ok ⟨value, by simpa [not_or] using h⟩

namespace ClientConfigBuilder

variable {T : Target}

def resolveIv (mode : EnvelopeMode) (iv : Option (FixedBytes 16)) :
    Except Error {v : FixedBytes 16 // mode ≠ .legacyCbc → v = zeroIv} :=
  match mode with
  | .legacyCbc => do
    let iv ← okOr iv (.configuration "iv")
    .ok ⟨iv, by simp⟩
  | .aead _ => if iv.isSome then .error (.configuration "iv") else .ok ⟨zeroIv, by simp⟩

def resolveMode (mode : AuthenticationMode) :
    Except Error {m : AuthenticationMode // m ≠ .contextBound []} :=
  match h : mode.validate with
  | .ok _ => .ok ⟨mode, validate_ok_iff.mp h⟩
  | .error e => .error e

def resolveLimit (mode : EnvelopeMode) (limit : Option (Usize T)) :
    Except Error {n : Usize T // LimitAccepted mode n.1} :=
  let max := limit.getD (if mode = .aead .sm4Ccm then sm4CcmDefaultMaxPlaintextBytes T
    else defaultMaxPlaintextBytes T)
  if h : max.1 = 0 ∨ (mode = .aead .sm4Ccm ∧ sm4CcmMaxPlaintextBytes < max.1) then
    .error (.configuration "max_plaintext_bytes")
  else .ok ⟨max, by
    simp only [not_or, not_and, not_lt] at h
    exact ⟨Nat.pos_of_ne_zero h.1, h.2⟩⟩

def build (b : ClientConfigBuilder T) : Except Error (ClientConfig T) := do
  let identity : ClientIdentity := {
    localIdentityId := ← requiredHeaderValue b.localIdentityId "local_identity_id"
    apiVersion := ← requiredHeaderValue b.apiVersion "api_version"
    localCertificateId := ← requiredHeaderValue b.localCertificateId "local_certificate_id"
    expectedRemoteSigningCertificateId := ← requiredHeaderValue
      b.expectedRemoteSigningCertificateId "expected_remote_signing_certificate_id"
    remoteEncryptionCertificateId := ← requiredHeaderValue b.remoteEncryptionCertificateId
      "remote_encryption_certificate_id" }
  let localSignerId ← requiredSignerId b.localSignerId "local_signer_id"
  let expectedRemoteSignerId ← requiredSignerId b.expectedRemoteSignerId
    "expected_remote_signer_id"
  let envelopeMode ← okOr b.envelopeMode (.configuration "envelope_mode")
  let iv ← resolveIv envelopeMode b.iv
  let authenticationMode ← okOr b.authenticationMode (.configuration "authentication_mode")
  let authenticationMode ← resolveMode authenticationMode
  let maxPlaintextBytes ← resolveLimit envelopeMode b.maxPlaintextBytes
  .ok {
    identity := identity
    localSignerId := localSignerId
    expectedRemoteSignerId := expectedRemoteSignerId
    authenticationMode := authenticationMode.1
    iv := iv.1
    envelopeMode := envelopeMode
    maxPlaintextBytes := maxPlaintextBytes.1
    mode_valid := authenticationMode.2
    iv_inert := iv.2
    limit_accepted := maxPlaintextBytes.2 }

theorem requiredHeaderValue_some (value : LineSafe) (field : String) :
    requiredHeaderValue (some value.1) field = .ok value := by
  rw [requiredHeaderValue, okOr, ok_bind, validateHeaderValue, validateLine_ok_iff]

theorem requiredSignerId_some (value : SignerId) (field : String) :
    requiredSignerId (some value.1) field = .ok value := by
  have h : ¬ (value.1 = [] ∨ maxSignerIdBytes < value.1.length) := by
    have hv := value.2
    rw [not_or, not_lt]
    exact hv
  rw [requiredSignerId, okOr, ok_bind, dif_neg h]

theorem resolveMode_ok (mode : AuthenticationMode) (h : mode ≠ .contextBound []) :
    resolveMode mode = .ok ⟨mode, h⟩ := by
  have hv : mode.validate = .ok () := validate_ok_iff.mpr h
  unfold resolveMode
  split
  · rfl
  · next he => rw [hv] at he; cases he

theorem resolveLimit_some (mode : EnvelopeMode) (limit : Usize T)
    (h : LimitAccepted mode limit.1) : resolveLimit mode (some limit) = .ok ⟨limit, h⟩ := by
  have hn : ¬ (limit.1 = 0 ∨ (mode = .aead .sm4Ccm ∧ sm4CcmMaxPlaintextBytes < limit.1)) := by
    simp only [not_or, not_and, not_lt]
    exact ⟨Nat.ne_of_gt h.1, h.2⟩
  exact dif_neg hn

/-- The invariants carried by a configuration are exactly what the builder
checks: every configuration is returned for some sequence of builder calls. -/
theorem exists_build (config : ClientConfig T) :
    ∃ b : ClientConfigBuilder T, b.build = .ok config := by
  obtain ⟨⟨lid, api, lcert, rcert, rkey⟩, ls, rs, mode, iv, em, limit, hm, hiv, hl⟩ := config
  refine ⟨⟨some lid.1, some api.1, some lcert.1, some rcert.1, some rkey.1, some ls.1, some rs.1,
    some mode, if em = .legacyCbc then some iv else none, some em, some limit⟩, ?_⟩
  have hr : resolveIv em (if em = .legacyCbc then some iv else none) = .ok ⟨iv, hiv⟩ := by
    cases em with
    | legacyCbc => rfl
    | aead a =>
      have hz : iv = zeroIv := hiv (by simp)
      subst hz
      rfl
  simp only [build, requiredHeaderValue_some, requiredSignerId_some, okOr, ok_bind, hr,
    resolveMode_ok mode hm, resolveLimit_some em limit hl]

end ClientConfigBuilder

end EnvelopeLite.Config
