import EnvelopeLite.Primitives
import EnvelopeLite.SliceOps

namespace EnvelopeLite.EnvelopeCrypto

open EnvelopeLite.ByteFields EnvelopeLite.CallTrace EnvelopeLite.CheckedArith EnvelopeLite.Common
open EnvelopeLite.Config EnvelopeLite.Primitives EnvelopeLite.SliceOps

variable (P : Platform)

def sessionKeyBytes : Nat := 16

def maxAuxiliaryBase64Bytes : Nat := 16 * 1024

def generateSessionKey (random : Randomness P) : Run P SessionKey := do
  let filled ← call (.fillRandom sessionKeyBytes) random.sessionKey
  orFail filled .encryption

/-- The steps with which both payload modes end: wrap the session key for the
peer, then sign the authentication input. -/
def wrapAndSign (config : ClientConfig P.toTarget) (keys : KeyMaterial P) (random : Randomness P)
    (sessionKey : SessionKey) (authenticationInput : Bytes) : Run P (Bytes × Bytes) := do
  let wrapped := P.sm2Encrypt keys.remoteEncryption sessionKey.1 random.wrap
  let wrapped ← call (.sm2Encrypt sessionKey.1 wrapped) wrapped
  let wrappedSessionKey ← orFail wrapped .encryption
  let signerId := config.localSignerId.1
  let signed := P.signWithId keys.localSigning signerId authenticationInput random.sign
  let signed ← call (.signWithId keys.localSigning signerId authenticationInput signed) signed
  let signature ← orFail signed .encryption
  pure (wrappedSessionKey, signature)

def unwrapSessionKey (keys : KeyMaterial P) (wrappedSessionKey : Bytes) : Run P SessionKey := do
  let decrypted := P.sm2Decrypt keys.localDecryption wrappedSessionKey
  let decrypted ← call (.sm2Decrypt wrappedSessionKey decrypted) decrypted
  let unwrapped ← orFail decrypted .invalidEnvelope
  ensure (unwrapped.length = sessionKeyBytes) .invalidEnvelope
  copyFromSlice 16 unwrapped

abbrev EncodedFits (T : Target) (value : Bytes) : Prop := 4 * ((value.length + 2) / 3) ≤ T.usizeMax

/-- `STANDARD.encode`, which panics when the encoded length overflows `usize`. Its panic on an
encoded length from `isize::MAX` up to there is left out: no allocation is that large. -/
def encodeBase64 (value : Bytes) : Run P String :=
  if EncodedFits P.toTarget value then pure (P.base64Encode value) else abort

def decodeBase64 (value : String) : Run P Bytes := do
  let decoded ← call (.base64Decode value (P.base64Decode value)) (P.base64Decode value)
  orFail decoded .invalidEnvelope

def base64Len (T : Target) (binaryLen : Nat) : Nat :=
  (((checkedAdd T.usizeMax binaryLen 2).map (· / 3)).bind (checkedMul T.usizeMax · 4)).getD
    T.usizeMax

variable {P}

@[simp] theorem generateSessionKey_ok_iff {random : Randomness P} {key : SessionKey} :
    (generateSessionKey P random).outcome = .ok key ↔ random.sessionKey = some key := by
  simp [generateSessionKey]

@[simp] theorem wrapAndSign_ok_iff {config : ClientConfig P.toTarget} {keys : KeyMaterial P}
    {random : Randomness P} {key : SessionKey} {input wrapped signature : Bytes} :
    (wrapAndSign P config keys random key input).outcome = .ok (wrapped, signature) ↔
      P.sm2Encrypt keys.remoteEncryption key.1 random.wrap = some wrapped ∧
      P.signWithId keys.localSigning config.localSignerId.1 input random.sign =
        some signature := by
  simp only [wrapAndSign, bind_ok_iff, call_ok_iff, orFail_ok_iff, pure_ok_iff]
  constructor
  · rintro ⟨_, rfl, w, hw, _, rfl, s, hs, he⟩
    obtain ⟨rfl, rfl⟩ := Prod.mk.inj he
    exact ⟨hw, hs⟩
  · rintro ⟨hw, hs⟩
    exact ⟨_, rfl, _, hw, _, rfl, _, hs, rfl⟩

@[simp] theorem unwrapSessionKey_ok_iff {keys : KeyMaterial P} {wrapped : Bytes}
    {key : SessionKey} :
    (unwrapSessionKey P keys wrapped).outcome = .ok key ↔
      P.sm2Decrypt keys.localDecryption wrapped = some key.1 := by
  have hk := key.2
  simp only [unwrapSessionKey, bind_ok_iff, call_ok_iff, orFail_ok_iff, ensure_ok_iff,
    copyFromSlice_ok_iff]
  constructor
  · rintro ⟨_, rfl, _, hd, -, -, rfl⟩
    exact hd
  · intro hd
    exact ⟨_, rfl, _, hd, (), hk, rfl⟩

@[simp] theorem encodeBase64_ok_iff {value : Bytes} {text : String} :
    (encodeBase64 P value).outcome = .ok text ↔
      EncodedFits P.toTarget value ∧ P.base64Encode value = text := by
  by_cases h : EncodedFits P.toTarget value <;> simp [encodeBase64, h]

@[simp] theorem log_encodeBase64 {value : Bytes} : (encodeBase64 P value).log = [] := by
  by_cases h : EncodedFits P.toTarget value <;> simp [encodeBase64, h]

@[simp] theorem decodeBase64_ok_iff {value : String} {b : Bytes} :
    (decodeBase64 P value).outcome = .ok b ↔ P.base64Decode value = some b := by
  simp [decodeBase64]

@[simp] theorem log_decodeBase64 {value : String} :
    (decodeBase64 P value).log = [.base64Decode value (P.base64Decode value)] := by
  rw [decodeBase64, log_call_bind, log_orFail]

@[simp] theorem log_unwrapSessionKey {keys : KeyMaterial P} {wrapped : Bytes} :
    (unwrapSessionKey P keys wrapped).log =
      [.sm2Decrypt wrapped (P.sm2Decrypt keys.localDecryption wrapped)] := by
  rw [unwrapSessionKey, log_call_bind]
  congr 1
  rw [List.eq_nil_iff_forall_not_mem]
  simp

@[simp] theorem emits_generateSessionKey {random : Randomness P} {R : P.Call → Prop} :
    Emits (generateSessionKey P random) R ↔ R (.fillRandom sessionKeyBytes) := by
  simp [generateSessionKey]

@[simp] theorem emits_encodeBase64 {value : Bytes} {R : P.Call → Prop} :
    Emits (encodeBase64 P value) R :=
  emits_of_log_eq_nil log_encodeBase64

@[simp] theorem emits_decodeBase64 {value : String} {R : P.Call → Prop} :
    Emits (decodeBase64 P value) R ↔ R (.base64Decode value (P.base64Decode value)) := by
  simp [Emits]

@[simp] theorem emits_unwrapSessionKey {keys : KeyMaterial P} {wrapped : Bytes}
    {R : P.Call → Prop} :
    Emits (unwrapSessionKey P keys wrapped) R ↔
      R (.sm2Decrypt wrapped (P.sm2Decrypt keys.localDecryption wrapped)) := by
  simp [Emits]

/-- The helpers of the opening path never panic and know one error only. -/
theorem ends_unwrapSessionKey {keys : KeyMaterial P} {wrapped : Bytes} {Q : SessionKey → Prop}
    {S : Error → Prop} (hq : ∀ key, Q key) (hs : S .invalidEnvelope) :
    Ends (unwrapSessionKey P keys wrapped) Q S := by
  simp only [unwrapSessionKey, ends_bind, ends_call, ends_orFail, ends_ensure, ends_copyFromSlice]
  refine ⟨fun b hb => ⟨fun hlen => ⟨hlen, hq _⟩, fun _ => hs⟩, fun _ => hs⟩

@[simp] theorem ends_encodeBase64 {value : Bytes} {Q : String → Prop} {S : Error → Prop} :
    Ends (encodeBase64 P value) Q S ↔
      EncodedFits P.toTarget value ∧ Q (P.base64Encode value) := by
  by_cases h : EncodedFits P.toTarget value <;> simp [encodeBase64, h]

/-- What fits an allocation, with a frame around it, can be encoded. -/
theorem encodedFits_of_le_isizeMax {T : Target} {value : Bytes}
    (h : value.length ≤ T.isizeMax + 30) : EncodedFits T value := by
  have hM := T.le_usizeMax
  have hmax := T.usizeMax_eq
  unfold EncodedFits
  omega

theorem ends_decodeBase64 {value : String} {Q : Bytes → Prop} {S : Error → Prop}
    (hq : ∀ b, Q b) (hs : S .invalidEnvelope) : Ends (decodeBase64 P value) Q S := by
  simp only [decodeBase64, ends_bind, ends_call, ends_orFail]
  exact ⟨fun b _ => hq b, fun _ => hs⟩

theorem base64Len_eq (T : Target) (n : Nat) :
    base64Len T n = min (4 * ((n + 2) / 3)) T.usizeMax := by
  have hM := T.le_usizeMax
  rw [base64Len, roundUp_getD, Nat.mul_comm]
  intro h
  omega

end EnvelopeLite.EnvelopeCrypto
