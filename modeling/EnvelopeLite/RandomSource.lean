import EnvelopeLite.Client
import EnvelopeLite.Metadata
import EnvelopeLite.Supply

namespace EnvelopeLite.RandomSource

open EnvelopeLite.Auth EnvelopeLite.ByteFields EnvelopeLite.CallTrace EnvelopeLite.Client
open EnvelopeLite.Common EnvelopeLite.Config EnvelopeLite.EnvelopeCrypto EnvelopeLite.Message
open EnvelopeLite.Primitives EnvelopeLite.Supply EnvelopeLite.Timestamp

variable {P : Platform}

/-- The random source of the process. The answer to each request depends on how many
have been made before; it is a failure, some bytes, or the coins of an SM2 operation. -/
structure Source (P : Platform) where
  bytes : Nat → (n : Nat) → Option (FixedBytes n)
  coins : Nat → P.Coins

abbrev Draw (P : Platform) := Drawing P.Call Error

def usesSource : P.Call → Bool
  | .fillRandom _ => true
  | .sm2Encrypt _ _ => true
  | .signWithId _ _ _ _ => true
  | _ => false

namespace Source

variable (source : Source P)

/-- What one sealing finds if the source stands at a place, in the order of `drawCalls`:
the nonce is drawn between the session key and the coins, in the AEAD modes only. -/
def randomness (mode : EnvelopeMode) (place : Nat) : Randomness P :=
  match mode with
  | .legacyCbc => ⟨source.bytes place 16, none, source.coins (place + 1), source.coins (place + 2)⟩
  | .aead _ => ⟨source.bytes place 16, source.bytes (place + 1) 12, source.coins (place + 2),
      source.coins (place + 3)⟩

def sealEnvelope (config : ClientConfig P.toTarget) (keys : KeyMaterial P) (plaintext : Bytes)
    (context : AuthenticationContext) : Draw P SecureEnvelope :=
  draws usesSource fun place => SealPath.sealEnvelope P config keys
    (source.randomness config.envelopeMode place) plaintext context

def generate (sinceEpoch : Option Duration) : Draw P RequestMetadata :=
  draws usesSource fun place => Metadata.generate P (source.bytes place 16) sinceEpoch

def buildRequest (client : SecureClient P) (plaintext : Bytes) (request : RequestContext) :
    Draw P RequestParts :=
  draws usesSource fun place => client.buildRequest
    (source.randomness client.config.envelopeMode place) plaintext request

theorem sessionKey_randomness (mode : EnvelopeMode) (place : Nat) :
    (source.randomness mode place).sessionKey = source.bytes place 16 := by
  cases mode <;> rfl

end Source

section Following

variable {source : Source P} {place : Nat}

theorem follows_sealEnvelope (config : ClientConfig P.toTarget) (keys : KeyMaterial P)
    (plaintext : Bytes) (context : AuthenticationContext) :
    Follows usesSource (source.sealEnvelope config keys plaintext context) place
      (SealPath.sealEnvelope P config keys (source.randomness config.envelopeMode place) plaintext
        context) :=
  follows_draws _ place

theorem follows_generate (sinceEpoch : Option Duration) :
    Follows usesSource (source.generate sinceEpoch) place
      (Metadata.generate P (source.bytes place 16) sinceEpoch) :=
  follows_draws _ place

theorem follows_buildRequest (client : SecureClient P) (plaintext : Bytes)
    (request : RequestContext) :
    Follows usesSource (source.buildRequest client plaintext request) place
      (client.buildRequest (source.randomness client.config.envelopeMode place) plaintext
        request) :=
  follows_draws _ place

end Following

section Order

variable {config : ClientConfig P.toTarget} {keys : KeyMaterial P} {random : Randomness P}

def drawCalls (config : ClientConfig P.toTarget) (keys : KeyMaterial P) (random : Randomness P)
    (p : Bytes) (context : AuthenticationContext) : List P.Call :=
  let wrapAndSign : List P.Call :=
    match random.sessionKey,
      config.authenticationMode.authenticationInput P.toTarget context p with
    | some key, .ok input =>
      [.sm2Encrypt key.1 (P.sm2Encrypt keys.remoteEncryption key.1 random.wrap),
        .signWithId keys.localSigning config.localSignerId.1 input
          (P.signWithId keys.localSigning config.localSignerId.1 input random.sign)]
    | _, _ => []
  match config.envelopeMode with
  | .legacyCbc => .fillRandom 16 :: wrapAndSign
  | .aead _ => .fillRandom 16 :: .fillRandom 12 :: wrapAndSign

theorem prefix_generateSessionKey {α : Type} {f : SessionKey → Run P α} {l : List P.Call}
    (hf : ∀ key, random.sessionKey = some key → (f key).log.filter usesSource <+: l) :
    (generateSessionKey P random >>= f).log.filter usesSource <+: .fillRandom 16 :: l := by
  rw [generateSessionKey, bind_assoc]
  refine prefix_call_bind rfl (prefix_silent_bind emits_orFail fun key hkey => ?_)
  exact hf key (orFail_ok_iff.mp hkey)

theorem prefix_wrapAndSign {α : Type} {key : SessionKey} {input : Bytes}
    {f : Bytes × Bytes → Run P α} (hf : ∀ r, Emits (f r) (usesSource · = false)) :
    (wrapAndSign P config keys random key input >>= f).log.filter usesSource <+:
      [.sm2Encrypt key.1 (P.sm2Encrypt keys.remoteEncryption key.1 random.wrap),
        .signWithId keys.localSigning config.localSignerId.1 input
          (P.signWithId keys.localSigning config.localSignerId.1 input random.sign)] := by
  rw [filter_log_bind_silent hf, wrapAndSign]
  refine prefix_call_bind rfl (prefix_silent_bind emits_orFail fun wrapped _ => ?_)
  refine prefix_call_bind rfl (prefix_silent_bind emits_orFail fun signature _ => ?_)
  exact List.nil_prefix

/-- A sealing draws in one order: the session key, the nonce in the AEAD modes, the coins
for wrapping the key and the coins for signing. -/
theorem sealEnvelope_draws_in_order (config : ClientConfig P.toTarget) (keys : KeyMaterial P)
    (random : Randomness P) (p : Bytes) (context : AuthenticationContext) :
    (SealPath.sealEnvelope P config keys random p context).log.filter usesSource <+:
      drawCalls config keys random p context := by
  -- Each step of the source either is the next draw of the list or draws nothing.
  refine prefix_silent_bind emits_ensure fun _ _ => ?_
  cases hmode : config.envelopeMode with
  | legacyCbc =>
    simp only [drawCalls, hmode]
    refine prefix_silent_bind emits_ofExcept fun input hinput => ?_
    refine prefix_generateSessionKey fun key hkey => ?_
    refine prefix_silent_bind (emits_call.mpr rfl) fun cipher _ => ?_
    rw [hkey, ofExcept_ok_iff.mp hinput]
    exact prefix_wrapAndSign fun r => by simp
  | aead algorithm =>
    simp only [drawCalls, hmode]
    refine prefix_silent_bind emits_ofExcept fun input hinput => ?_
    refine prefix_generateSessionKey fun key hkey => prefix_call_bind rfl ?_
    refine prefix_silent_bind emits_orFail fun nonce _ => ?_
    refine prefix_silent_bind emits_ofExcept fun aad _ => ?_
    refine prefix_silent_bind (Aead.emits_aeadEncrypt rfl fun _ => rfl) fun sealed _ => ?_
    refine prefix_silent_bind emits_orFail fun frameLen _ => ?_
    rw [hkey, ofExcept_ok_iff.mp hinput]
    exact prefix_wrapAndSign fun r => by simp

theorem log_formatUtcTimestamp (sinceEpoch : Duration) :
    (formatUtcTimestamp P sinceEpoch).log = [] := by
  rw [List.eq_nil_iff_forall_not_mem]
  simp [formatUtcTimestamp]

theorem log_generate (random : Option (FixedBytes 16)) (sinceEpoch : Option Duration) :
    (Metadata.generate P random sinceEpoch).log = [.fillRandom 16] := by
  rw [Metadata.generate, log_call_bind]
  congr 1
  rw [List.eq_nil_iff_forall_not_mem]
  simp [log_formatUtcTimestamp]

end Order

end EnvelopeLite.RandomSource
