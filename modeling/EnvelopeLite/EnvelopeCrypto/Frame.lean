import EnvelopeLite.EnvelopeCrypto.Shared

namespace EnvelopeLite.EnvelopeCrypto.Frame

open EnvelopeLite.ByteFields EnvelopeLite.CallTrace EnvelopeLite.Common EnvelopeLite.Config
open EnvelopeLite.Primitives EnvelopeLite.SliceOps

def frameVersion : UInt8 := 0x01

def algorithmSm4Gcm : UInt8 := 0x01

def algorithmSm4Ccm : UInt8 := 0x02

def frameHeaderBytes : Nat := 14

def nonceBytes : Nat := 12

def tagBytes : Nat := 16

def frameOverheadBytes : Nat := frameHeaderBytes + tagBytes

def algorithmByte : AeadAlgorithm → UInt8
  | .sm4Gcm => algorithmSm4Gcm
  | .sm4Ccm => algorithmSm4Ccm

def frameHeader (algorithm : AeadAlgorithm) (nonce : Nonce) : FixedBytes 14 :=
  ⟨frameVersion :: algorithmByte algorithm :: nonce.1, by simp [nonce.2]⟩

variable (P : Platform)

/-- The part of `openEnvelope` that takes a decoded frame apart. -/
def parseFrame (algorithm : AeadAlgorithm) (plaintextLimit : Nat) (frame : Bytes) :
    Run P (FixedBytes 14 × Bytes × Tag) := do
  ensure (¬ frame.length < frameOverheadBytes) .invalidEnvelope
  let version ← index frame 0
  ensure (version = frameVersion) .invalidEnvelope
  let algorithmId ← index frame 1
  ensure (algorithmId = algorithmByte algorithm) .invalidEnvelope
  let (headerBytes, body) ← splitAt frame frameHeaderBytes
  let ciphertextLen ← checkedSub body.length tagBytes
  ensure (¬ ciphertextLen > plaintextLimit) .invalidEnvelope
  let (ciphertext, tagSlice) ← splitAt body ciphertextLen
  let header ← copyFromSlice frameHeaderBytes headerBytes
  let tag ← copyFromSlice tagBytes tagSlice
  pure (header, ciphertext, tag)

def frameBytes (algorithm : AeadAlgorithm) (nonce : Nonce) (ciphertext : Bytes) (tag : Tag) :
    Bytes :=
  (frameHeader algorithm nonce).1 ++ ciphertext ++ tag.1

theorem length_frameBytes {algorithm : AeadAlgorithm} {nonce : Nonce} {ciphertext : Bytes}
    {tag : Tag} :
    (frameBytes algorithm nonce ciphertext tag).length = ciphertext.length + 30 := by
  have hh := (frameHeader algorithm nonce).2
  have ht := tag.2
  simp only [frameBytes, List.length_append, hh, ht]
  omega

theorem exists_nonce_iff {algorithm : AeadAlgorithm} {header : FixedBytes 14} :
    (∃ nonce, header = frameHeader algorithm nonce) ↔
      header.1[0]? = some frameVersion ∧ header.1[1]? = some (algorithmByte algorithm) := by
  obtain ⟨b, hb⟩ := header
  constructor
  · rintro ⟨nonce, h⟩
    rw [h]
    exact ⟨rfl, rfl⟩
  · rintro ⟨h0, h1⟩
    match b, hb with
    | v :: a :: rest, hb =>
      obtain rfl : v = frameVersion := by simpa using h0
      obtain rfl : a = algorithmByte algorithm := by simpa using h1
      exact ⟨⟨rest, by simpa using hb⟩, rfl⟩

variable {P}

theorem parseFrame_ok_iff {algorithm : AeadAlgorithm} {limit : Nat} {frame ciphertext : Bytes}
    {header : FixedBytes 14} {tag : Tag} :
    (parseFrame P algorithm limit frame).outcome = .ok (header, ciphertext, tag) ↔
      ∃ nonce, header = frameHeader algorithm nonce ∧
        frame = frameBytes algorithm nonce ciphertext tag ∧ ciphertext.length ≤ limit := by
  have hh := header.2
  have ht := tag.2
  simp only [parseFrame, bind_ok_iff, ensure_ok_iff, index_ok_iff, splitAt_ok_iff,
    checkedSub_ok_iff, copyFromSlice_ok_iff, pure_ok_iff, not_lt]
  constructor
  · rintro ⟨-, hlen, v, hv, -, rfl, a, ha, -, rfl, ⟨headerBytes, body⟩, ⟨-, hsplit⟩, n,
      ⟨-, rfl⟩, -, hlimit, ⟨c, t⟩, ⟨-, hbody⟩, h, hheader, t', htag, hr⟩
    simp only [Prod.mk.injEq] at hsplit hbody hr
    obtain ⟨rfl, rfl, rfl⟩ := hr
    dsimp only at hheader htag hlimit hbody
    have hframe : frame = header.1 ++ (ciphertext ++ tag.1) := by
      rw [← hheader, ← htag, ← hbody.1, ← hbody.2, List.take_append_drop, ← hsplit.1, ← hsplit.2,
        List.take_append_drop]
    have hids : header.1[0]? = some frameVersion ∧
        header.1[1]? = some (algorithmByte algorithm) := by
      rw [hframe, List.getElem?_append_left (by omega)] at hv ha
      exact ⟨hv, ha⟩
    obtain ⟨nonce, rfl⟩ := exists_nonce_iff.mpr hids
    refine ⟨nonce, rfl, by rw [hframe, frameBytes, List.append_assoc], ?_⟩
    rw [← hbody.1, List.length_take]
    omega
  · rintro ⟨nonce, rfl, rfl, hlimit⟩
    have hlen : 30 ≤ (frameBytes algorithm nonce ciphertext tag).length := by
      rw [length_frameBytes]
      omega
    have htake : (frameBytes algorithm nonce ciphertext tag).take 14 =
        (frameHeader algorithm nonce).1 := by
      rw [frameBytes, List.append_assoc, List.take_left' hh]
    have hdrop : (frameBytes algorithm nonce ciphertext tag).drop 14 = ciphertext ++ tag.1 := by
      rw [frameBytes, List.append_assoc, List.drop_left' hh]
    have hbody : (ciphertext ++ tag.1).length = ciphertext.length + 16 := by
      rw [List.length_append, ht]
    refine ⟨(), hlen, _, rfl, (), rfl, _, rfl, (), rfl, (_, _), ⟨?_, rfl⟩, ciphertext.length,
      ⟨?_, ?_⟩, (), hlimit, (ciphertext, tag.1), ⟨?_, ?_⟩, _, htake, _, rfl, rfl⟩
    · exact le_trans (by decide) hlen
    all_goals simp [frameHeaderBytes, tagBytes, hdrop, hbody]

theorem log_parseFrame {algorithm : AeadAlgorithm} {limit : Nat} {frame : Bytes} :
    (parseFrame P algorithm limit frame).log = [] := by
  rw [List.eq_nil_iff_forall_not_mem]
  simp [parseFrame]

/-- No slice operation of the parser can fail once the length check has passed. -/
theorem ends_parseFrame {algorithm : AeadAlgorithm} {limit : Nat} {frame : Bytes}
    {Q : FixedBytes 14 × Bytes × Tag → Prop} {S : Error → Prop}
    (hq : ∀ header ciphertext tag, ciphertext.length ≤ limit → Q (header, ciphertext, tag))
    (hs : S .invalidEnvelope) : Ends (parseFrame P algorithm limit frame) Q S := by
  simp only [parseFrame, frameOverheadBytes, frameHeaderBytes, tagBytes, ends_bind, ends_ensure,
    ends_index, ends_splitAt, ends_checkedSub, ends_copyFromSlice, ends_pure, not_lt]
  refine ⟨fun hlen => ?_, fun _ => hs⟩
  refine ⟨frame[0], List.getElem?_eq_getElem (by omega), fun _ => ?_, fun _ => hs⟩
  refine ⟨frame[1], List.getElem?_eq_getElem (by omega), fun _ => ?_, fun _ => hs⟩
  have hbody : (frame.drop 14).length = frame.length - 14 := List.length_drop
  refine ⟨by omega, by omega, fun hlimit => ?_, fun _ => hs⟩
  refine ⟨by omega, by rw [List.length_take]; omega, by rw [List.length_drop]; omega, ?_⟩
  apply hq
  rw [List.length_take]
  omega

end EnvelopeLite.EnvelopeCrypto.Frame
