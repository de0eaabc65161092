import EnvelopeLite.HeaderContext
import EnvelopeLite.Message
import EnvelopeLite.Timestamp

namespace EnvelopeLite.Metadata

open EnvelopeLite.ByteFields EnvelopeLite.CallTrace EnvelopeLite.Common EnvelopeLite.Header
open EnvelopeLite.HeaderContext EnvelopeLite.Message EnvelopeLite.Numerals EnvelopeLite.Primitives
open EnvelopeLite.Text EnvelopeLite.Timestamp

def hexByte (byte : UInt8) : String := String.ofList (zeroPadded 16 2 byte.toNat)

def requestId (random : FixedBytes 16) : String :=
  random.1.foldl (fun id byte => id ++ hexByte byte) ""

/-- `RequestMetadata::generate`, given what the random source and the clock answer.
There is no duration if the clock is set before the epoch. -/
def generate (P : Platform) (random : Option (FixedBytes 16)) (sinceEpoch : Option Duration) :
    Run P RequestMetadata := do
  let filled ← call (.fillRandom 16) random
  let random ← orFail filled .encryption
  let requestId := requestId random
  let sinceEpoch ← orFail sinceEpoch .serialization
  let requestTime ← formatUtcTimestamp P sinceEpoch
  ofExcept (RequestMetadata.new requestId requestTime)

section RequestIds

def hexDigits (bytes : Bytes) : List Char := bytes.flatMap fun byte => zeroPadded 16 2 byte.toNat

theorem toList_foldl_hexByte (bytes : Bytes) (id : String) :
    (bytes.foldl (fun id byte => id ++ hexByte byte) id).toList = id.toList ++ hexDigits bytes := by
  induction bytes generalizing id with
  | nil => simp [hexDigits]
  | cons byte bytes ih =>
    rw [List.foldl_cons, ih, String.toList_append, hexByte, String.toList_ofList, List.append_assoc]
    rfl

theorem toList_requestId (random : FixedBytes 16) :
    (requestId random).toList = hexDigits random.1 :=
  toList_foldl_hexByte random.1 ""

theorem length_hexByte (byte : UInt8) : (zeroPadded 16 2 byte.toNat).length = 2 :=
  length_zeroPadded (by decide) (by decide) byte.toNat_lt

theorem length_hexDigits (bytes : Bytes) : (hexDigits bytes).length = 2 * bytes.length := by
  induction bytes with
  | nil => rfl
  | cons byte bytes ih =>
    change (zeroPadded 16 2 byte.toNat ++ hexDigits bytes).length = _
    rw [List.length_append, length_hexByte, ih, List.length_cons]
    omega

theorem length_eq_of_hexDigits_eq {bytes bytes' : Bytes} (h : hexDigits bytes = hexDigits bytes') :
    bytes.length = bytes'.length := by
  have hlen := congrArg List.length h
  rw [length_hexDigits, length_hexDigits] at hlen
  omega

theorem hexDigits_inj {bytes bytes' : Bytes} (h : hexDigits bytes = hexDigits bytes') :
    bytes = bytes' := by
  induction bytes generalizing bytes' with
  | nil => exact (List.length_eq_zero_iff.mp (length_eq_of_hexDigits_eq h).symm).symm
  | cons byte bytes ih =>
    cases bytes' with
    | nil => exact absurd (length_eq_of_hexDigits_eq h) (Nat.succ_ne_zero _)
    | cons byte' bytes' =>
      have hlen : (zeroPadded 16 2 byte.toNat).length = (zeroPadded 16 2 byte'.toNat).length := by
        rw [length_hexByte, length_hexByte]
      obtain ⟨hbyte, hrest⟩ := List.append_inj h hlen
      have hvalue := (zeroPadded_inj (b := 16) (w := 2) (by decide) (by decide) (by decide)
        byte.toNat_lt byte'.toNat_lt).mp hbyte
      rw [UInt8.toNat_inj.mp hvalue, ih hrest]

theorem requestId_injective : Function.Injective requestId := by
  intro random random' h
  apply Subtype.ext
  apply hexDigits_inj
  rw [← toList_requestId, ← toList_requestId, h]

end RequestIds

section Acceptance

end Acceptance

example (P : Platform) :
    (formatUtcTimestamp P ⟨1709210096, 123456000, by decide, by decide⟩).outcome =
    .ok "2024-02-29-12.34.56.123456" := rfl

end EnvelopeLite.Metadata
