import EnvelopeLite.RoundTrip

namespace EnvelopeLite.Keys

open EnvelopeLite.Auth EnvelopeLite.ByteFields EnvelopeLite.CallTrace EnvelopeLite.Common
open EnvelopeLite.Config EnvelopeLite.EnvelopeCrypto.OpenPath EnvelopeLite.EnvelopeCrypto.SealPath
open EnvelopeLite.Peers EnvelopeLite.Primitives EnvelopeLite.ReferencePrimitives
open EnvelopeLite.RoundTrip EnvelopeLite.Text

inductive KeyKind
  | localPrivate
  | peerPublic
  deriving DecidableEq, Repr

/-- The variants of the crate's error that only the keys use, and the one for a
configuration. -/
inductive KeyError (I : Type)
  | configuration (field : String)
  | keyMaterial (kind : KeyKind)
  | io (operation path : String) (source : I)
  deriving DecidableEq, Repr

/-- The file system, and the containers of `gmcrypto-core`. The SEC1 encoding of a public
key panics at the identity point. -/
structure KeyLibrary (P : Platform) where
  IoError : Type
  Certificate : Type
  read : String → Except IoError Bytes
  pemDecode : String → String → Option Bytes
  pkcs8Decrypt : Bytes → Bytes → Option P.PrivateKey
  spkiDecode : Bytes → Option P.PublicKey
  certificateFromDer : Bytes → Option Certificate
  subjectPublicKey : Certificate → P.PublicKey
  toBytesBe : P.PrivateKey → Bytes
  toSec1Uncompressed : P.PublicKey → Option Bytes

inductive KeyCall
  | read (path : String)
  | pemDecode (text label : String)
  | pkcs8Decrypt (der password : Bytes)
  | spkiDecode (der : Bytes)
  | certificateFromDer (der : Bytes)
  deriving DecidableEq, Repr

variable {P : Platform}

abbrev Load (L : KeyLibrary P) := Traced KeyCall (KeyError L.IoError)

def isPem (input : Bytes) : Bool := (utf8 "-----BEGIN ").isPrefixOf input

def fromUtf8 (input : Bytes) : Option String := String.fromUTF8? ⟨input.toArray⟩

def containsText (text part : String) : Bool :=
  text.toList.tails.any part.toList.isPrefixOf

variable (L : KeyLibrary P)

def privateKeyError : KeyError L.IoError := .keyMaterial .localPrivate

def publicKeyError : KeyError L.IoError := .keyMaterial .peerPublic

def readFile (operation path : String) : Load L Bytes := do
  let contents ← call (.read path) (L.read path)
  ofExcept (contents.mapError (KeyError.io operation path))

structure PrivateKey (P : Platform) where
  inner : P.PrivateKey

namespace PrivateKey

def fromEncryptedDer (privateDer password : Bytes) : Load L (PrivateKey P) := do
  let inner ← call (.pkcs8Decrypt privateDer password) (L.pkcs8Decrypt privateDer password)
  let inner ← orFail inner (privateKeyError L)
  pure ⟨inner⟩

def fromEncryptedPem (privatePem password : Bytes) : Load L (PrivateKey P) := do
  let privateText ← orFail (fromUtf8 privatePem) (privateKeyError L)
  let privateDer ← call (.pemDecode privateText "ENCRYPTED PRIVATE KEY")
    (L.pemDecode privateText "ENCRYPTED PRIVATE KEY")
  let privateDer ← orFail privateDer (privateKeyError L)
  fromEncryptedDer L privateDer password

/-- The choice between the two formats that a file may have. -/
def fromEncryptedContents (contents password : Bytes) : Load L (PrivateKey P) :=
  if isPem contents then fromEncryptedPem L contents password
  else fromEncryptedDer L contents password

def fromEncryptedFile (path : String) (password : Bytes) : Load L (PrivateKey P) := do
  let contents ← readFile L "read private key" path
  fromEncryptedContents L contents password

end PrivateKey

inductive PeerKeySource
  | spki
  | certificate
  deriving DecidableEq, Repr

structure PublicKey (P : Platform) where
  inner : P.PublicKey
  source : PeerKeySource

namespace PublicKey

def fromSpkiDer (publicDer : Bytes) : Load L (PublicKey P) := do
  let inner ← call (.spkiDecode publicDer) (L.spkiDecode publicDer)
  let inner ← orFail inner (publicKeyError L)
  pure ⟨inner, .spki⟩

def fromCertificateDer (certificateDer : Bytes) : Load L (PublicKey P) := do
  let certificate ← call (.certificateFromDer certificateDer) (L.certificateFromDer certificateDer)
  let certificate ← orFail certificate (publicKeyError L)
  pure ⟨L.subjectPublicKey certificate, .certificate⟩

def fromPem (publicPem : Bytes) : Load L (PublicKey P) := do
  let publicText ← orFail (fromUtf8 publicPem) (publicKeyError L)
  if containsText publicText "-----BEGIN PUBLIC KEY-----" then
    let publicDer ← call (.pemDecode publicText "PUBLIC KEY") (L.pemDecode publicText "PUBLIC KEY")
    let publicDer ← orFail publicDer (publicKeyError L)
    fromSpkiDer L publicDer
  else if containsText publicText "-----BEGIN CERTIFICATE-----" then
    let certificateDer ← call (.pemDecode publicText "CERTIFICATE")
      (L.pemDecode publicText "CERTIFICATE")
    let certificateDer ← orFail certificateDer (publicKeyError L)
    fromCertificateDer L certificateDer
  else fail (publicKeyError L)

def fromDer (publicDer : Bytes) : Load L (PublicKey P) := do
  let inner ← call (.spkiDecode publicDer) (L.spkiDecode publicDer)
  match inner with
  | some inner => pure ⟨inner, .spki⟩
  | none =>
    let certificate ← call (.certificateFromDer publicDer) (L.certificateFromDer publicDer)
    match certificate with
    | some certificate => pure ⟨L.subjectPublicKey certificate, .certificate⟩
    | none => fail (publicKeyError L)

def fromContents (contents : Bytes) : Load L (PublicKey P) :=
  if isPem contents then fromPem L contents else fromDer L contents

def fromFile (path : String) : Load L (PublicKey P) := do
  let contents ← readFile L "read peer key" path
  fromContents L contents

end PublicKey

def privateRolesOverlap (left right : P.PrivateKey) : Bool :=
  L.toBytesBe left == L.toBytesBe right

/-- Keys in their four roles. Roles are reused on both sides or on none, and the flag
tells which. -/
structure KeyMaterial where
  localSigning : P.PrivateKey
  localDecryption : P.PrivateKey
  remoteVerification : P.PublicKey
  remoteEncryption : P.PublicKey
  remoteVerificationSource : PeerKeySource
  remoteEncryptionSource : PeerKeySource
  sharedRoles : Bool
  shared_eq : sharedRoles = true → localSigning = localDecryption ∧
    remoteVerification = remoteEncryption ∧ remoteVerificationSource = remoteEncryptionSource
  distinct : sharedRoles = false →
    L.toBytesBe localSigning ≠ L.toBytesBe localDecryption ∧
    L.toSec1Uncompressed remoteVerification ≠ L.toSec1Uncompressed remoteEncryption

namespace KeyMaterial

/-- The public keys are compared only if the private keys differ. -/
def new (localSigning localDecryption : PrivateKey P)
    (remoteVerification remoteEncryption : PublicKey P) : Load L (KeyMaterial L) :=
  if hlocal : privateRolesOverlap L localSigning.inner localDecryption.inner = true then
    fail (.configuration "key_roles")
  else
    match hleft : L.toSec1Uncompressed remoteVerification.inner,
      hright : L.toSec1Uncompressed remoteEncryption.inner with
    | some left, some right =>
      if hremote : left = right then fail (.configuration "key_roles")
      else pure {
        localSigning := localSigning.inner
        localDecryption := localDecryption.inner
        remoteVerification := remoteVerification.inner
        remoteEncryption := remoteEncryption.inner
        remoteVerificationSource := remoteVerification.source
        remoteEncryptionSource := remoteEncryption.source
        sharedRoles := false
        shared_eq := fun h => Bool.noConfusion h
        distinct := by
          intro _
          refine ⟨fun h => hlocal (beq_iff_eq.mpr h), fun h => hremote ?_⟩
          rw [hleft, hright] at h
          exact Option.some.inj h }
    | _, _ => abort

def shared (localKey : PrivateKey P) (remote : PublicKey P) : KeyMaterial L where
  localSigning := localKey.inner
  localDecryption := localKey.inner
  remoteVerification := remote.inner
  remoteEncryption := remote.inner
  remoteVerificationSource := remote.source
  remoteEncryptionSource := remote.source
  sharedRoles := true
  shared_eq := fun _ => ⟨rfl, rfl, rfl⟩
  distinct := fun h => Bool.noConfusion h

def sharedFromPem (privatePem password peerPem : Bytes) : Load L (KeyMaterial L) := do
  let localKey ← PrivateKey.fromEncryptedPem L privatePem password
  let remote ← PublicKey.fromPem L peerPem
  pure (shared L localKey remote)

def sharedFromDer (privateDer password peerDer : Bytes) : Load L (KeyMaterial L) := do
  let localKey ← PrivateKey.fromEncryptedDer L privateDer password
  let remote ← PublicKey.fromDer L peerDer
  pure (shared L localKey remote)

def sharedFromFiles (privatePath : String) (password : Bytes) (peerPath : String) :
    Load L (KeyMaterial L) := do
  let privateContents ← readFile L "read private key" privatePath
  let peerContents ← readFile L "read peer key" peerPath
  let localKey ← PrivateKey.fromEncryptedContents L privateContents password
  let remote ← PublicKey.fromContents L peerContents
  pure (shared L localKey remote)

def roles {L : KeyLibrary P} (keys : KeyMaterial L) : Primitives.KeyMaterial P :=
  ⟨keys.localSigning, keys.localDecryption, keys.remoteVerification, keys.remoteEncryption⟩

end KeyMaterial

section Loading

variable {L}

theorem readFile_ok {operation path : String} {contents : Bytes}
    (h : L.read path = .ok contents) :
    readFile L operation path = ⟨[.read path], .ok contents⟩ := by
  rw [readFile, h]
  rfl

theorem readFile_error {operation path : String} {e : L.IoError} (h : L.read path = .error e) :
    readFile L operation path = ⟨[.read path], .err (.io operation path e)⟩ := by
  rw [readFile, h]
  rfl

theorem ends_fromEncryptedDer (der password : Bytes) :
    Ends (PrivateKey.fromEncryptedDer L der password) (fun _ => True) (· = privateKeyError L) := by
  simp [PrivateKey.fromEncryptedDer]

theorem ends_fromEncryptedPem (pem password : Bytes) :
    Ends (PrivateKey.fromEncryptedPem L pem password) (fun _ => True)
      (· = privateKeyError L) := by
  simp [PrivateKey.fromEncryptedPem, ends_fromEncryptedDer]

/-- Whatever is wrong with the contents of a private key, the error is the same. -/
theorem ends_fromEncryptedContents (contents password : Bytes) :
    Ends (PrivateKey.fromEncryptedContents L contents password) (fun _ => True)
      (· = privateKeyError L) := by
  unfold PrivateKey.fromEncryptedContents
  split
  · exact ends_fromEncryptedPem contents password
  · exact ends_fromEncryptedDer contents password

def Parses (c : KeyCall) : Prop := ∀ path, c ≠ .read path

theorem emits_fromEncryptedContents (contents password : Bytes) :
    Emits (PrivateKey.fromEncryptedContents L contents password) Parses := by
  unfold PrivateKey.fromEncryptedContents
  split <;> simp [PrivateKey.fromEncryptedPem, PrivateKey.fromEncryptedDer, Parses]

theorem emits_fromPem (pem : Bytes) : Emits (PublicKey.fromPem L pem) Parses := by
  refine emits_bind.mpr ⟨emits_orFail, fun text _ => ?_⟩
  split
  · simp [PublicKey.fromSpkiDer, Parses]
  · split
    · simp [PublicKey.fromCertificateDer, Parses]
    · exact emits_fail

theorem emits_fromDer (der : Bytes) : Emits (PublicKey.fromDer L der) Parses := by
  refine emits_bind.mpr ⟨emits_call.mpr (by simp [Parses]), fun inner _ => ?_⟩
  cases inner with
  | some inner => exact emits_pure
  | none =>
    refine emits_bind.mpr ⟨emits_call.mpr (by simp [Parses]), fun certificate _ => ?_⟩
    cases certificate with
    | some certificate => exact emits_pure
    | none => exact emits_fail

theorem emits_fromContents (contents : Bytes) :
    Emits (PublicKey.fromContents L contents) Parses := by
  unfold PublicKey.fromContents
  split
  · exact emits_fromPem contents
  · exact emits_fromDer contents

def parseShared (L : KeyLibrary P) (privateContents password peerContents : Bytes) :
    Load L (KeyMaterial L) := do
  let localKey ← PrivateKey.fromEncryptedContents L privateContents password
  let remote ← PublicKey.fromContents L peerContents
  pure (KeyMaterial.shared L localKey remote)

theorem emits_parseShared (privateContents password peerContents : Bytes) :
    Emits (parseShared L privateContents password peerContents) Parses := by
  refine emits_bind.mpr ⟨emits_fromEncryptedContents privateContents password, fun _ _ => ?_⟩
  exact emits_bind.mpr ⟨emits_fromContents peerContents, fun _ _ => emits_pure⟩

variable {privatePath peerPath : String} {password privateContents peerContents : Bytes}

theorem sharedFromFiles_eq (hprivate : L.read privatePath = .ok privateContents)
    (hpeer : L.read peerPath = .ok peerContents) :
    KeyMaterial.sharedFromFiles L privatePath password peerPath =
      ⟨.read privatePath :: .read peerPath ::
          (parseShared L privateContents password peerContents).log,
        (parseShared L privateContents password peerContents).outcome⟩ := by
  rw [KeyMaterial.sharedFromFiles, readFile_ok hprivate, readFile_ok hpeer]
  rfl

end Loading

/-- Shared keys from the two loaders of single files, one after the other. -/
def loadSeparately (privatePath : String) (password : Bytes) (peerPath : String) :
    Load L (KeyMaterial L) := do
  let localKey ← PrivateKey.fromEncryptedFile L privatePath password
  let remote ← PublicKey.fromFile L peerPath
  pure (KeyMaterial.shared L localKey remote)

section Loading

variable {L} {privatePath peerPath : String} {password privateContents peerContents : Bytes}

theorem loadSeparately_eq (hprivate : L.read privatePath = .ok privateContents) :
    loadSeparately L privatePath password peerPath =
      call (.read privatePath) () >>= fun _ =>
        PrivateKey.fromEncryptedContents L privateContents password >>= fun localKey =>
          readFile L "read peer key" peerPath >>= fun peerContents =>
            PublicKey.fromContents L peerContents >>= fun remote =>
              pure (KeyMaterial.shared L localKey remote) := by
  rw [loadSeparately, PrivateKey.fromEncryptedFile, readFile_ok hprivate]
  simp only [PublicKey.fromFile, bind_assoc]
  rfl

theorem loadSeparately_of_ok (hprivate : L.read privatePath = .ok privateContents)
    (hpeer : L.read peerPath = .ok peerContents) :
    loadSeparately L privatePath password peerPath =
      call (.read privatePath) () >>= fun _ =>
        PrivateKey.fromEncryptedContents L privateContents password >>= fun localKey =>
          call (.read peerPath) () >>= fun _ =>
            PublicKey.fromContents L peerContents >>= fun remote =>
              pure (KeyMaterial.shared L localKey remote) := by
  rw [loadSeparately_eq hprivate, readFile_ok hpeer]
  rfl

/-- If the second file cannot be read, the first is parsed only by the single loaders. -/
theorem outcomes_of_unreadable_peer (hprivate : L.read privatePath = .ok privateContents)
    (password : Bytes) {e : L.IoError} (hpeer : L.read peerPath = .error e) :
    KeyMaterial.sharedFromFiles L privatePath password peerPath =
      ⟨[.read privatePath, .read peerPath], .err (.io "read peer key" peerPath e)⟩ ∧
    ((loadSeparately L privatePath password peerPath).outcome =
        .err (.io "read peer key" peerPath e) ∨
      (loadSeparately L privatePath password peerPath).outcome =
        .err (.keyMaterial .localPrivate)) := by
  constructor
  · rw [KeyMaterial.sharedFromFiles, readFile_ok hprivate, readFile_error hpeer]
    rfl
  · rw [loadSeparately_eq hprivate, readFile_error hpeer]
    have hends : Ends (PrivateKey.fromEncryptedContents L privateContents password) (fun _ => True)
      (· = privateKeyError L) := ends_fromEncryptedContents privateContents password
    cases hlocal : (PrivateKey.fromEncryptedContents L privateContents password).outcome with
    | ok localKey =>
      left
      rw [Traced.bind_ok hlocal]
      rfl
    | err e' =>
      right
      rw [Traced.bind_err hlocal]
      rw [Ends, hlocal] at hends
      exact congrArg Outcome.err hends
    | panic => exact absurd hlocal hends.ne_panic

end Loading

/-- `shared_from_files` reads both files before it parses either. It ends as the loaders
of the single files do, but for a private key that is bad beside a peer key that cannot be
read: then the password is not tried, and the error is about the file. -/
theorem key_files_are_read_before_they_are_parsed (P : Platform) (L : KeyLibrary P)
    (privatePath : String) (password : Bytes) (peerPath : String) :
    let together := KeyMaterial.sharedFromFiles L privatePath password peerPath
    let separately := loadSeparately L privatePath password peerPath
    (∃ reads parses, together.log = reads ++ parses ∧
      (reads = [.read privatePath] ∧ parses = [] ∨
        reads = [.read privatePath, .read peerPath]) ∧
      (∀ c ∈ parses, Parses c) ∧
      (parses ≠ [] → ∃ privateContents peerContents, L.read privatePath = .ok privateContents ∧
        L.read peerPath = .ok peerContents)) ∧
    (together.outcome = separately.outcome ∨
      ∃ e, L.read peerPath = .error e ∧
        together.outcome = .err (.io "read peer key" peerPath e) ∧
        separately.outcome = .err (.keyMaterial .localPrivate)) ∧
    ∀ keys, together.outcome = .ok keys → together.log.Perm separately.log := by
  intro together separately
  cases hprivate : L.read privatePath with
  | error e =>
    have htogether : together =
        ⟨[.read privatePath], .err (.io "read private key" privatePath e)⟩ := by
      simp only [together, KeyMaterial.sharedFromFiles, readFile_error hprivate]
      rfl
    have hseparately : separately = together := by
      simp only [htogether, separately, loadSeparately, PrivateKey.fromEncryptedFile,
        readFile_error hprivate]
      rfl
    rw [hseparately]
    refine ⟨⟨[.read privatePath], [], ?_, .inl ⟨rfl, rfl⟩, by simp, by simp⟩, .inl rfl,
      fun _ _ => .refl _⟩
    rw [htogether]
    rfl
  | ok privateContents =>
    cases hpeer : L.read peerPath with
    | error e =>
      obtain ⟨htogether, hseparately⟩ := outcomes_of_unreadable_peer hprivate password hpeer
      change together = _ at htogether
      rw [htogether]
      refine ⟨⟨[.read privatePath, .read peerPath], [], rfl, .inr rfl, by simp, by simp⟩, ?_, ?_⟩
      · obtain hsame | hother := hseparately
        · exact .inl hsame.symm
        · exact .inr ⟨e, rfl, rfl, hother⟩
      · intro keys hkeys
        cases hkeys
    | ok peerContents =>
      have htogether : together = _ := sharedFromFiles_eq hprivate hpeer
      have hseparately : separately = _ := loadSeparately_of_ok hprivate hpeer
      rw [htogether, hseparately]
      refine ⟨⟨[.read privatePath, .read peerPath], _, rfl, .inr rfl,
        emits_parseShared privateContents password peerContents,
        fun _ => ⟨_, _, rfl, rfl⟩⟩, .inl ?_, ?_⟩
      · exact outcome_bind_call.symm
      · intro keys hkeys
        exact (log_bind_call hkeys).cons _

/-- What is known of the containers: their DER encodings start with the tag of a sequence,
no DER encoding is both a key and a certificate, and the keys in them are not the identity
point. -/
structure ContainerLaws : Prop where
  pkcs8_tag : ∀ der password key, L.pkcs8Decrypt der password = some key → der.head? = some 0x30
  spki_tag : ∀ der key, L.spkiDecode der = some key → der.head? = some 0x30
  certificate_tag : ∀ der certificate, L.certificateFromDer der = some certificate →
    der.head? = some 0x30
  exclusive : ∀ der certificate, L.certificateFromDer der = some certificate →
    L.spkiDecode der = none
  spki_point : ∀ der key, L.spkiDecode der = some key →
    (L.toSec1Uncompressed key).isSome = true
  certificate_point : ∀ der certificate, L.certificateFromDer der = some certificate →
    (L.toSec1Uncompressed (L.subjectPublicKey certificate)).isSome = true

section Containers

variable {L}

theorem not_isPem_of_tag {input : Bytes} (h : input.head? = some 0x30) : isPem input = false := by
  by_contra hpem
  rw [Bool.not_eq_false, isPem, List.isPrefixOf_iff_prefix] at hpem
  obtain ⟨rest, rfl⟩ := hpem
  have hdash : (utf8 "-----BEGIN " ++ rest).head? = some 0x2d := rfl
  rw [hdash] at h
  cases h

theorem fromEncryptedDer_ok_iff {der password : Bytes} {key : PrivateKey P} :
    (PrivateKey.fromEncryptedDer L der password).outcome = .ok key ↔
      L.pkcs8Decrypt der password = some key.inner := by
  simp only [PrivateKey.fromEncryptedDer, bind_ok_iff, call_ok_iff, orFail_ok_iff, pure_ok_iff]
  constructor
  · rintro ⟨_, rfl, inner, hinner, rfl⟩
    exact hinner
  · intro h
    exact ⟨_, rfl, key.inner, h, rfl⟩

/-- A public key comes from the container that its source tells. -/
inductive InContainer (L : KeyLibrary P) (der : Bytes) : PublicKey P → Prop
  | spki {inner : P.PublicKey} : L.spkiDecode der = some inner → InContainer L der ⟨inner, .spki⟩
  | certificate {certificate : L.Certificate} : L.certificateFromDer der = some certificate →
      InContainer L der ⟨L.subjectPublicKey certificate, .certificate⟩

theorem inContainer_of_fromDer {der : Bytes} {key : PublicKey P}
    (h : (PublicKey.fromDer L der).outcome = .ok key) : InContainer L der key := by
  rw [PublicKey.fromDer, bind_ok_iff] at h
  obtain ⟨inner, hinner, h⟩ := h
  rw [call_ok_iff] at hinner
  cases inner with
  | some inner =>
    rw [pure_ok_iff] at h
    subst h
    exact .spki hinner
  | none =>
    obtain ⟨certificate, hcertificate, h⟩ := bind_ok_iff.mp h
    rw [call_ok_iff] at hcertificate
    cases certificate with
    | some certificate =>
      rw [pure_ok_iff] at h
      subst h
      exact .certificate hcertificate
    | none => cases h

theorem InContainer.fromDer_ok (laws : ContainerLaws L) {der : Bytes} {key : PublicKey P}
    (h : InContainer L der key) : (PublicKey.fromDer L der).outcome = .ok key := by
  cases h with
  | spki hinner =>
    rw [PublicKey.fromDer, hinner]
    rfl
  | certificate hcertificate =>
    rw [PublicKey.fromDer, laws.exclusive _ _ hcertificate, hcertificate]
    rfl

theorem InContainer.not_isPem (laws : ContainerLaws L) {der : Bytes} {key : PublicKey P}
    (h : InContainer L der key) : isPem der = false := by
  cases h with
  | spki hinner => exact not_isPem_of_tag (laws.spki_tag _ _ hinner)
  | certificate hcertificate => exact not_isPem_of_tag (laws.certificate_tag _ _ hcertificate)

theorem InContainer.point (laws : ContainerLaws L) {der : Bytes} {key : PublicKey P}
    (h : InContainer L der key) : (L.toSec1Uncompressed key.inner).isSome = true := by
  cases h with
  | spki hinner => exact laws.spki_point _ _ hinner
  | certificate hcertificate => exact laws.certificate_point _ _ hcertificate

theorem fromEncryptedContents_of_der (laws : ContainerLaws L) {contents password : Bytes}
    {key : PrivateKey P}
    (h : (PrivateKey.fromEncryptedDer L contents password).outcome = .ok key) :
    (PrivateKey.fromEncryptedContents L contents password).outcome = .ok key := by
  have hder := not_isPem_of_tag (laws.pkcs8_tag _ _ _ (fromEncryptedDer_ok_iff.mp h))
  rw [PrivateKey.fromEncryptedContents, if_neg (Bool.eq_false_iff.mp hder)]
  exact h

theorem fromContents_of_der (laws : ContainerLaws L) {contents : Bytes} {key : PublicKey P}
    (h : (PublicKey.fromDer L contents).outcome = .ok key) :
    (PublicKey.fromContents L contents).outcome = .ok key := by
  have hder := (inContainer_of_fromDer h).not_isPem laws
  rw [PublicKey.fromContents, if_neg (Bool.eq_false_iff.mp hder)]
  exact h

theorem sharedFromFiles_agrees (laws : ContainerLaws L) {privatePath peerPath : String}
    {privateContents peerContents : Bytes} (hprivate : L.read privatePath = .ok privateContents)
    (hpeer : L.read peerPath = .ok peerContents) (password : Bytes) :
    (isPem privateContents = true → isPem peerContents = true →
      (KeyMaterial.sharedFromFiles L privatePath password peerPath).outcome =
        (KeyMaterial.sharedFromPem L privateContents password peerContents).outcome) ∧
    ∀ keys, (KeyMaterial.sharedFromDer L privateContents password peerContents).outcome = .ok keys →
      (KeyMaterial.sharedFromFiles L privatePath password peerPath).outcome = .ok keys := by
  rw [sharedFromFiles_eq hprivate hpeer]
  refine ⟨fun hlocal hremote => ?_, fun keys hkeys => ?_⟩
  · rw [parseShared, PrivateKey.fromEncryptedContents, if_pos hlocal, PublicKey.fromContents,
      if_pos hremote]
    rfl
  · simp only [KeyMaterial.sharedFromDer, bind_ok_iff] at hkeys
    obtain ⟨localKey, hlocal, remote, hremote, hkeys⟩ := hkeys
    simp only [parseShared, bind_ok_iff]
    exact ⟨localKey, fromEncryptedContents_of_der laws hlocal, remote,
      fromContents_of_der laws hremote, hkeys⟩

theorem fromEncryptedPem_ok_iff {pem password : Bytes} {key : PrivateKey P} :
    (PrivateKey.fromEncryptedPem L pem password).outcome = .ok key ↔
      ∃ text der, fromUtf8 pem = some text ∧ L.pemDecode text "ENCRYPTED PRIVATE KEY" = some der ∧
        (PrivateKey.fromEncryptedDer L der password).outcome = .ok key := by
  rw [PrivateKey.fromEncryptedPem, bind_ok_iff]
  constructor
  · rintro ⟨text, htext, h⟩
    simp only [bind_ok_iff, call_ok_iff, orFail_ok_iff] at h
    obtain ⟨_, rfl, der, hder, h⟩ := h
    exact ⟨text, der, orFail_ok_iff.mp htext, hder, h⟩
  · rintro ⟨text, der, htext, hder, h⟩
    simp only [bind_ok_iff, call_ok_iff, orFail_ok_iff]
    exact ⟨text, htext, _, rfl, der, hder, h⟩

/-- The first marker that the text contains decides about the container. -/
theorem inContainer_of_fromPem {pem : Bytes} {key : PublicKey P}
    (h : (PublicKey.fromPem L pem).outcome = .ok key) :
    ∃ text der, fromUtf8 pem = some text ∧ InContainer L der key ∧
      ((key.source = .spki ∧ containsText text "-----BEGIN PUBLIC KEY-----" = true ∧
          L.pemDecode text "PUBLIC KEY" = some der) ∨
        (key.source = .certificate ∧ containsText text "-----BEGIN PUBLIC KEY-----" = false ∧
          containsText text "-----BEGIN CERTIFICATE-----" = true ∧
          L.pemDecode text "CERTIFICATE" = some der)) := by
  rw [PublicKey.fromPem, bind_ok_iff] at h
  obtain ⟨text, htext, h⟩ := h
  rw [orFail_ok_iff] at htext
  split at h
  · next hmarker =>
    simp only [PublicKey.fromSpkiDer, bind_ok_iff, call_ok_iff, orFail_ok_iff, pure_ok_iff] at h
    obtain ⟨_, rfl, der, hder, _, rfl, inner, hinner, rfl⟩ := h
    exact ⟨text, der, htext, .spki hinner, .inl ⟨rfl, hmarker, hder⟩⟩
  · next hmarker =>
    split at h
    · next hcertificate =>
      simp only [PublicKey.fromCertificateDer, bind_ok_iff, call_ok_iff, orFail_ok_iff,
        pure_ok_iff] at h
      obtain ⟨_, rfl, der, hder, _, rfl, certificate, hparsed, rfl⟩ := h
      exact ⟨text, der, htext, .certificate hparsed,
        .inr ⟨rfl, Bool.eq_false_iff.mpr hmarker, hcertificate, hder⟩⟩
    · cases h

end Containers

/-- A key is the same from a DER encoding, from a PEM text around it and from a file with
either. A file is taken for a PEM text by its first bytes alone: one with anything before
its first marker is read as DER. The source that a public key tells is the container that
it was taken from. -/
theorem loaders_agree_across_containers (P : Platform) (L : KeyLibrary P)
    (laws : ContainerLaws L) (path : String) (contents : Bytes)
    (hread : L.read path = .ok contents) :
    (∀ password key, (PrivateKey.fromEncryptedDer L contents password).outcome = .ok key →
      (PrivateKey.fromEncryptedFile L path password).outcome = .ok key) ∧
    (∀ key, (PublicKey.fromDer L contents).outcome = .ok key →
      (PublicKey.fromFile L path).outcome = .ok key) ∧
    (isPem contents = true →
      (∀ password, (PrivateKey.fromEncryptedFile L path password).outcome =
        (PrivateKey.fromEncryptedPem L contents password).outcome) ∧
      (PublicKey.fromFile L path).outcome = (PublicKey.fromPem L contents).outcome) ∧
    (∀ password key, (PrivateKey.fromEncryptedPem L contents password).outcome = .ok key ↔
      ∃ text der, fromUtf8 contents = some text ∧
        L.pemDecode text "ENCRYPTED PRIVATE KEY" = some der ∧
        (PrivateKey.fromEncryptedDer L der password).outcome = .ok key) ∧
    (∀ key, (PublicKey.fromPem L contents).outcome = .ok key →
      ∃ text der, fromUtf8 contents = some text ∧
        (PublicKey.fromDer L der).outcome = .ok key ∧
        ((key.source = .spki ∧ L.pemDecode text "PUBLIC KEY" = some der) ∨
          (key.source = .certificate ∧ L.pemDecode text "CERTIFICATE" = some der ∧
            containsText text "-----BEGIN PUBLIC KEY-----" = false))) ∧
    ∀ peerPath peerContents password, L.read peerPath = .ok peerContents →
      (isPem contents = true → isPem peerContents = true →
        (KeyMaterial.sharedFromFiles L path password peerPath).outcome =
          (KeyMaterial.sharedFromPem L contents password peerContents).outcome) ∧
      ∀ keys, (KeyMaterial.sharedFromDer L contents password peerContents).outcome = .ok keys →
        (KeyMaterial.sharedFromFiles L path password peerPath).outcome = .ok keys := by
  have hprivate : ∀ password, (PrivateKey.fromEncryptedFile L path password).outcome =
      (PrivateKey.fromEncryptedContents L contents password).outcome := by
    intro password
    rw [PrivateKey.fromEncryptedFile, readFile_ok hread]
    rfl
  have hpublic : (PublicKey.fromFile L path).outcome =
      (PublicKey.fromContents L contents).outcome := by
    rw [PublicKey.fromFile, readFile_ok hread]
    rfl
  refine ⟨?_, ?_, ?_, fun password key => fromEncryptedPem_ok_iff, ?_,
    fun peerPath peerContents password hpeer => sharedFromFiles_agrees laws hread hpeer password⟩
  · intro password key hkey
    rw [hprivate]
    exact fromEncryptedContents_of_der laws hkey
  · intro key hkey
    rw [hpublic]
    exact fromContents_of_der laws hkey
  · intro hpem
    refine ⟨fun password => ?_, ?_⟩
    · rw [hprivate, PrivateKey.fromEncryptedContents, if_pos hpem]
    · rw [hpublic, PublicKey.fromContents, if_pos hpem]
  · intro key hkey
    obtain ⟨text, der, htext, hder, hlabel⟩ := inContainer_of_fromPem hkey
    refine ⟨text, der, htext, hder.fromDer_ok laws, ?_⟩
    obtain ⟨hsource, -, hdecode⟩ | ⟨hsource, hmarker, -, hdecode⟩ := hlabel
    · exact .inl ⟨hsource, hdecode⟩
    · exact .inr ⟨hsource, hdecode, hmarker⟩

def sampleContained (length : Nat) (der : Bytes) : Option UInt8 :=
  if der.head? = some 0x30 ∧ der.length = length ∧ der.getLast? ≠ some 0 then der.getLast?
  else none

def sampleLibrary : KeyLibrary (reference checksumSignature) where
  IoError := Unit
  Certificate := UInt8
  read path := if path = "peer.der" then .ok [0x30, 9] else .error ()
  pemDecode _ _ := none
  pkcs8Decrypt der _ := sampleContained 4 der
  spkiDecode := sampleContained 2
  certificateFromDer := sampleContained 3
  subjectPublicKey certificate := certificate
  toBytesBe key := [key]
  toSec1Uncompressed (key : UInt8) := if key = 0 then none else some [4, key]

theorem sampleContained_eq_some {length : Nat} {der : Bytes} {key : UInt8}
    (h : sampleContained length der = some key) :
    der.head? = some 0x30 ∧ der.length = length ∧ key ≠ 0 := by
  rw [sampleContained, Option.ite_none_right_eq_some] at h
  obtain ⟨⟨htag, hlength, hkey⟩, hlast⟩ := h
  refine ⟨htag, hlength, ?_⟩
  rintro rfl
  exact hkey hlast

theorem sampleLibrary_laws : ContainerLaws sampleLibrary := by
  have hpoint : ∀ {length der} {key : UInt8}, sampleContained length der = some key →
      (sampleLibrary.toSec1Uncompressed key).isSome = true := by
    intro length der key h
    have hkey := (sampleContained_eq_some h).2.2
    change (if key = 0 then none else some [4, key]).isSome = true
    rw [if_neg hkey]
    rfl
  constructor
  · intro der password key h
    exact (sampleContained_eq_some h).1
  · intro der key h
    exact (sampleContained_eq_some h).1
  · intro der certificate h
    exact (sampleContained_eq_some h).1
  · intro der certificate h
    have hlength := (sampleContained_eq_some h).2.1
    exact if_neg fun hkey => absurd (hlength.symm.trans hkey.2.1) (by decide)
  · intro der key h
    exact hpoint h
  · intro der certificate h
    exact hpoint h

theorem sample_loaders_agree :
    sampleLibrary.read "peer.der" = .ok [0x30, 9] ∧
    (PublicKey.fromFile sampleLibrary "peer.der").outcome = .ok ⟨(9 : UInt8), .spki⟩ :=
  ⟨rfl, (loaders_agree_across_containers (reference checksumSignature) sampleLibrary
    sampleLibrary_laws "peer.der" [0x30, 9] rfl).2.1 _ rfl⟩

inductive Loaded : PublicKey P → Prop
  | pem {key : PublicKey P} (pem : Bytes) : (PublicKey.fromPem L pem).outcome = .ok key → Loaded key
  | der {key : PublicKey P} (der : Bytes) : (PublicKey.fromDer L der).outcome = .ok key → Loaded key
  | file {key : PublicKey P} (path : String) : (PublicKey.fromFile L path).outcome = .ok key →
      Loaded key

section Roles

variable {L}

theorem inContainer_of_loaded {key : PublicKey P} (h : Loaded L key) :
    ∃ der, InContainer L der key := by
  have hpem : ∀ pem, (PublicKey.fromPem L pem).outcome = .ok key →
      ∃ der, InContainer L der key := by
    intro pem hkey
    obtain ⟨text, der, -, hder, -⟩ := inContainer_of_fromPem hkey
    exact ⟨der, hder⟩
  cases h with
  | pem pem hkey => exact hpem pem hkey
  | der der hkey => exact ⟨der, inContainer_of_fromDer hkey⟩
  | file path hkey =>
    obtain ⟨contents, -, hkey⟩ := bind_ok_iff.mp hkey
    unfold PublicKey.fromContents at hkey
    split at hkey
    · exact hpem contents hkey
    · exact ⟨contents, inContainer_of_fromDer hkey⟩

variable {localSigning localDecryption : PrivateKey P}
variable {remoteVerification remoteEncryption : PublicKey P}

def Overlap (L : KeyLibrary P) (localSigning localDecryption : PrivateKey P)
    (remoteVerification remoteEncryption : PublicKey P) : Prop :=
  L.toBytesBe localSigning.inner = L.toBytesBe localDecryption.inner ∨
    L.toSec1Uncompressed remoteVerification.inner = L.toSec1Uncompressed remoteEncryption.inner

theorem new_of_overlap {left right : Bytes}
    (hleft : L.toSec1Uncompressed remoteVerification.inner = some left)
    (hright : L.toSec1Uncompressed remoteEncryption.inner = some right)
    (h : Overlap L localSigning localDecryption remoteVerification remoteEncryption) :
    KeyMaterial.new L localSigning localDecryption remoteVerification remoteEncryption =
      fail (.configuration "key_roles") := by
  unfold KeyMaterial.new
  split
  · rfl
  · next hlocal =>
    have hsame : left = right := by
      obtain hlocal' | hremote := h
      · exact absurd (beq_iff_eq.mpr hlocal') hlocal
      · rw [hleft, hright] at hremote
        exact Option.some.inj hremote
    split
    · next left' right' hleft' hright' =>
      cases hleft.symm.trans hleft'
      cases hright.symm.trans hright'
      exact dif_pos hsame
    · next hnone => exact absurd hright (hnone left right hleft)

theorem new_of_not_overlap {left right : Bytes}
    (hleft : L.toSec1Uncompressed remoteVerification.inner = some left)
    (hright : L.toSec1Uncompressed remoteEncryption.inner = some right)
    (h : ¬ Overlap L localSigning localDecryption remoteVerification remoteEncryption) :
    ∃ keys, (KeyMaterial.new L localSigning localDecryption remoteVerification
        remoteEncryption).outcome = .ok keys ∧ keys.sharedRoles = false ∧
      keys.roles = ⟨localSigning.inner, localDecryption.inner, remoteVerification.inner,
        remoteEncryption.inner⟩ := by
  unfold KeyMaterial.new
  split
  · next hlocal => exact absurd (.inl (beq_iff_eq.mp hlocal)) h
  · split
    · next left' right' hleft' hright' =>
      have hdiffer : left' ≠ right' := by
        rintro rfl
        exact h (.inr (hleft'.trans hright'.symm))
      rw [dif_neg hdiffer]
      exact ⟨_, rfl, rfl, rfl⟩
    · next hnone => exact absurd hright (hnone left right hleft)

end Roles

/-- Keys that were loaded are refused exactly if a side has the same bytes in both of its
roles. Whatever key material there is, its flag is set if and only if the local keys are
the same, and if and only if the remote keys are. -/
theorem roles_are_reused_on_both_sides_or_on_none (P : Platform) (L : KeyLibrary P)
    (laws : ContainerLaws L) (localSigning localDecryption : PrivateKey P)
    (remoteVerification remoteEncryption : PublicKey P)
    (hverification : Loaded L remoteVerification) (hencryption : Loaded L remoteEncryption) :
    let result := (KeyMaterial.new L localSigning localDecryption remoteVerification
      remoteEncryption).outcome
    (Overlap L localSigning localDecryption remoteVerification remoteEncryption →
      result = .err (.configuration "key_roles")) ∧
    (¬ Overlap L localSigning localDecryption remoteVerification remoteEncryption →
      ∃ keys, result = .ok keys ∧ keys.sharedRoles = false ∧
        keys.roles = ⟨localSigning.inner, localDecryption.inner, remoteVerification.inner,
          remoteEncryption.inner⟩) ∧
    ∀ keys : KeyMaterial L,
      (keys.sharedRoles = true ↔
        L.toBytesBe keys.localSigning = L.toBytesBe keys.localDecryption) ∧
      (keys.sharedRoles = true ↔ L.toSec1Uncompressed keys.remoteVerification =
        L.toSec1Uncompressed keys.remoteEncryption) := by
  intro result
  obtain ⟨_, hverified⟩ := inContainer_of_loaded hverification
  obtain ⟨_, hencrypted⟩ := inContainer_of_loaded hencryption
  obtain ⟨left, hleft⟩ := Option.isSome_iff_exists.mp (hverified.point laws)
  obtain ⟨right, hright⟩ := Option.isSome_iff_exists.mp (hencrypted.point laws)
  refine ⟨fun h => ?_, new_of_not_overlap hleft hright, fun keys => ?_⟩
  · exact congrArg Traced.outcome (new_of_overlap hleft hright h)
  · cases hshared : keys.sharedRoles with
    | true =>
      obtain ⟨hlocal, hremote, -⟩ := keys.shared_eq hshared
      simp [hlocal, hremote]
    | false =>
      obtain ⟨hlocal, hremote⟩ := keys.distinct hshared
      simp [hlocal, hremote]

theorem sample_roles_are_apart :
    ∃ keys, (KeyMaterial.new sampleLibrary ⟨(1 : UInt8)⟩ ⟨(2 : UInt8)⟩ ⟨(9 : UInt8), .spki⟩
        ⟨(8 : UInt8), .certificate⟩).outcome = .ok keys ∧ keys.sharedRoles = false := by
  have hroles := roles_are_reused_on_both_sides_or_on_none (reference checksumSignature)
    sampleLibrary sampleLibrary_laws ⟨(1 : UInt8)⟩ ⟨(2 : UInt8)⟩ ⟨(9 : UInt8), .spki⟩
    ⟨(8 : UInt8), .certificate⟩ (.file "peer.der" rfl) (.der [0x30, 0, 8] rfl)
  have happart : ¬ Overlap sampleLibrary ⟨(1 : UInt8)⟩ ⟨(2 : UInt8)⟩ ⟨(9 : UInt8), .spki⟩
      ⟨(8 : UInt8), .certificate⟩ := by
    rintro (h | h) <;> cases h
  obtain ⟨keys, hkeys, hshared, -⟩ := hroles.2.1 happart
  exact ⟨keys, hkeys, hshared⟩

structure Mirrored (config peer : ClientConfig P.toTarget) : Prop where
  localSigner : peer.expectedRemoteSignerId = config.localSignerId
  remoteSigner : config.expectedRemoteSignerId = peer.localSignerId
  authentication : peer.authenticationMode = config.authenticationMode
  envelope : peer.envelopeMode = config.envelopeMode
  iv : config.envelopeMode = .legacyCbc → peer.iv = config.iv

theorem Mirrored.symm {config peer : ClientConfig P.toTarget} (h : Mirrored config peer) :
    Mirrored peer config where
  localSigner := h.remoteSigner
  remoteSigner := h.localSigner
  authentication := h.authentication.symm
  envelope := h.envelope.symm
  iv := by
    intro hcbc
    rw [h.envelope] at hcbc
    exact (h.iv hcbc).symm

theorem matched_of_shared {L L' : KeyLibrary P} {config peer : ClientConfig P.toTarget}
    (hmirrored : Mirrored config peer) {keys : KeyMaterial L} {peerKeys : KeyMaterial L'}
    (hshared : keys.sharedRoles = true) (hshared' : peerKeys.sharedRoles = true)
    (hknows : keys.remoteVerification = P.publicKey peerKeys.localSigning)
    (hknown : peerKeys.remoteVerification = P.publicKey keys.localSigning) :
    Matched P config keys.roles peer peerKeys.roles := by
  obtain ⟨-, hremote, -⟩ := keys.shared_eq hshared
  obtain ⟨hlocal, -, -⟩ := peerKeys.shared_eq hshared'
  refine ⟨⟨⟨hknown, hmirrored.localSigner⟩, ?_, hmirrored.authentication⟩, hmirrored.envelope,
    hmirrored.iv⟩
  change keys.remoteEncryption = P.publicKey peerKeys.localDecryption
  rw [← hremote, ← hlocal]
  exact hknows

/-- Between parties with shared roles one public key each way is enough: each opens what
the other seals, though neither public key was given for encryption. -/
theorem shared_keys_work_in_both_directions (P : Platform) (laws : RoundTripLaws P)
    (L L' : KeyLibrary P) (config peer : ClientConfig P.toTarget)
    (hmirrored : Mirrored config peer) (keys : KeyMaterial L) (peerKeys : KeyMaterial L')
    (hshared : keys.sharedRoles = true) (hshared' : peerKeys.sharedRoles = true)
    (hknows : keys.remoteVerification = P.publicKey peerKeys.localSigning)
    (hknown : peerKeys.remoteVerification = P.publicKey keys.localSigning)
    (random : Randomness P) (p : Bytes) (context : AuthenticationContext)
    (envelope : SecureEnvelope) :
    ((sealEnvelope P config keys.roles random p context).outcome = .ok envelope →
      p.length ≤ peer.maxPlaintextBytes.1 →
      (openEnvelope P peer peerKeys.roles envelope context).outcome = .ok p) ∧
    ((sealEnvelope P peer peerKeys.roles random p context).outcome = .ok envelope →
      p.length ≤ config.maxPlaintextBytes.1 →
      (openEnvelope P config keys.roles envelope context).outcome = .ok p) := by
  have hthere := matched_of_shared hmirrored hshared hshared' hknows hknown
  have hback := matched_of_shared hmirrored.symm hshared' hshared hknown hknows
  exact ⟨open_ok_of_within_limit laws hthere, open_ok_of_within_limit laws hback⟩

def sampleShared : KeyMaterial sampleLibrary :=
  .shared sampleLibrary ⟨(7 : UInt8)⟩ ⟨(7 : UInt8), .spki⟩

theorem sample_shared_keys_work :
    ∃ envelope, (sealEnvelope (reference checksumSignature) sampleCcm sampleShared.roles
        (sampleRandomness _) [1, 2, 3] sampleContext).outcome = .ok envelope ∧
      (openEnvelope (reference checksumSignature) sampleCcm sampleShared.roles envelope
        sampleContext).outcome = .ok [1, 2, 3] := by
  have hseal := sample_sealed_aead checksumSignature rfl (by decide) (by decide)
    sampleCcm_input sampleCcm_aad (by decide)
  exact ⟨_, hseal, (shared_keys_work_in_both_directions (reference checksumSignature)
    reference_laws sampleLibrary sampleLibrary sampleCcm sampleCcm
    ⟨rfl, rfl, rfl, rfl, fun _ => rfl⟩ sampleShared sampleShared rfl rfl rfl rfl _ _ _ _).1 hseal
    (by decide)⟩

end EnvelopeLite.Keys
