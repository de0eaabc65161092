import EnvelopeLite.Text
import Mathlib.Tactic.IntervalCases

namespace EnvelopeLite.Base64

open EnvelopeLite.ByteFields EnvelopeLite.Text

section Alphabet

def digit (n : Nat) : Char :=
  if n < 26 then Char.ofNat (n + 65)
  else if n < 52 then Char.ofNat (n + 71)
  else if n < 62 then Char.ofNat (n - 4)
  else if n = 62 then '+' else '/'

def value (c : Char) : Option Nat :=
  if 65 ≤ c.toNat ∧ c.toNat ≤ 90 then some (c.toNat - 65)
  else if 97 ≤ c.toNat ∧ c.toNat ≤ 122 then some (c.toNat - 71)
  else if 48 ≤ c.toNat ∧ c.toNat ≤ 57 then some (c.toNat + 4)
  else if c = '+' then some 62
  else if c = '/' then some 63 else none

theorem value_digit {n : Nat} (h : n < 64) : value (digit n) = some n := by
  interval_cases n <;> rfl

theorem digit_of_value {c : Char} {n : Nat} (h : value c = some n) : n < 64 ∧ c = digit n := by
  unfold value at h
  split_ifs at h with h1 h2 h3 h4 h5
  · obtain rfl := Option.some.inj h
    refine ⟨by omega, ?_⟩
    rw [digit, if_pos (by omega), Nat.sub_add_cancel h1.1, Char.ofNat_toNat]
  · obtain rfl := Option.some.inj h
    refine ⟨by omega, ?_⟩
    rw [digit, if_neg (by omega), if_pos (by omega), Nat.sub_add_cancel (by omega),
      Char.ofNat_toNat]
  · obtain rfl := Option.some.inj h
    refine ⟨by omega, ?_⟩
    rw [digit, if_neg (by omega), if_neg (by omega), if_pos (by omega), Nat.add_sub_cancel,
      Char.ofNat_toNat]
  · obtain rfl := Option.some.inj h
    exact ⟨by decide, h4⟩
  · obtain rfl := Option.some.inj h
    exact ⟨by decide, h5⟩

theorem value_eq_some_iff {c : Char} {n : Nat} : value c = some n ↔ n < 64 ∧ c = digit n := by
  constructor
  · exact digit_of_value
  · rintro ⟨hn, rfl⟩
    exact value_digit hn

theorem digit_ne_pad {n : Nat} (h : n < 64) : digit n ≠ '=' := by
  intro he
  have hv := value_digit h
  rw [he] at hv
  cases hv

def isCharacter (c : Char) : Bool := (value c).isSome || c == '='

theorem isCharacter_digit {n : Nat} (h : n < 64) : isCharacter (digit n) = true := by
  rw [isCharacter, value_digit h]
  rfl

/-- Such a character is printable ASCII: no control character and no white space. -/
theorem toNat_of_isCharacter {c : Char} (h : isCharacter c = true) :
    33 ≤ c.toNat ∧ c.toNat ≤ 122 := by
  by_cases hpad : c = '='
  · rw [hpad]
    decide
  · have hvalue : (value c).isSome = true := by simpa [isCharacter, hpad] using h
    unfold value at hvalue
    split_ifs at hvalue with h1 h2 h3 h4 h5
    · omega
    · omega
    · omega
    · rw [h4]
      decide
    · rw [h5]
      decide
    · cases hvalue

end Alphabet

section Groups

def one (w x : Char) : Option Bytes := do
  let i ← value w
  let j ← value x
  if j % 16 = 0 then some [UInt8.ofNat (i * 4 + j / 16)] else none

def two (w x y : Char) : Option Bytes := do
  let i ← value w
  let j ← value x
  let k ← value y
  let n := i * 1024 + j * 16 + k / 4
  if k % 4 = 0 then some [UInt8.ofNat (n / 256), UInt8.ofNat (n % 256)] else none

def three (w x y z : Char) : Option Bytes := do
  let i ← value w
  let j ← value x
  let k ← value y
  let l ← value z
  let n := i * 262144 + j * 4096 + k * 64 + l
  some [UInt8.ofNat (n / 65536), UInt8.ofNat (n / 256 % 256), UInt8.ofNat (n % 256)]

def encodeOne (a : Nat) : List Char := [digit (a / 4), digit (a % 4 * 16), '=', '=']

def encodeTwo (n : Nat) : List Char :=
  [digit (n / 1024), digit (n / 16 % 64), digit (n % 16 * 4), '=']

def encodeThree (n : Nat) : List Char :=
  [digit (n / 262144), digit (n / 4096 % 64), digit (n / 64 % 64), digit (n % 64)]

theorem toNat_ofNat {n : Nat} (h : n < 256) : (UInt8.ofNat n).toNat = n := by
  rw [UInt8.toNat_ofNat']
  exact Nat.mod_eq_of_lt h

theorem one_eq_some_iff {w x : Char} {b : Bytes} :
    one w x = some b ↔ ∃ a : UInt8, b = [a] ∧ [w, x, '=', '='] = encodeOne a.toNat := by
  simp only [one, Option.bind_eq_bind, Option.bind_eq_some_iff, value_eq_some_iff,
    Option.ite_none_right_eq_some, Option.some.injEq, encodeOne, List.cons.injEq, and_true]
  constructor
  · rintro ⟨i, ⟨hi, rfl⟩, j, ⟨hj, rfl⟩, hmod, rfl⟩
    refine ⟨_, rfl, ?_⟩
    rw [toNat_ofNat (by omega)]
    exact ⟨congrArg digit (by omega), congrArg digit (by omega)⟩
  · rintro ⟨a, rfl, rfl, rfl⟩
    have ha := a.toNat_lt
    refine ⟨_, ⟨by omega, rfl⟩, _, ⟨by omega, rfl⟩, by omega, ?_⟩
    have hn : a.toNat / 4 * 4 + a.toNat % 4 * 16 / 16 = a.toNat := by omega
    rw [hn, UInt8.ofNat_toNat]

theorem two_eq_some_iff {w x y : Char} {b : Bytes} :
    two w x y = some b ↔ ∃ a c : UInt8, b = [a, c] ∧
      [w, x, y, '='] = encodeTwo (a.toNat * 256 + c.toNat) := by
  simp only [two, Option.bind_eq_bind, Option.bind_eq_some_iff, value_eq_some_iff,
    Option.ite_none_right_eq_some, Option.some.injEq, encodeTwo, List.cons.injEq, and_true]
  constructor
  · rintro ⟨i, ⟨hi, rfl⟩, j, ⟨hj, rfl⟩, k, ⟨hk, rfl⟩, hmod, rfl⟩
    refine ⟨_, _, rfl, ?_⟩
    rw [toNat_ofNat (by omega), toNat_ofNat (by omega)]
    exact ⟨congrArg digit (by omega), congrArg digit (by omega), congrArg digit (by omega)⟩
  · rintro ⟨a, c, rfl, rfl, rfl, rfl⟩
    have ha := a.toNat_lt
    have hc := c.toNat_lt
    refine ⟨_, ⟨by omega, rfl⟩, _, ⟨by omega, rfl⟩, _, ⟨by omega, rfl⟩, by omega, ?_⟩
    obtain ⟨n, hn⟩ : ∃ n, n = a.toNat * 256 + c.toNat := ⟨_, rfl⟩
    rw [← hn]
    have hsum : n / 1024 * 1024 + n / 16 % 64 * 16 + n % 16 * 4 / 4 = n := by omega
    have hhigh : n / 256 = a.toNat := by omega
    have hlow : n % 256 = c.toNat := by omega
    rw [hsum, hhigh, hlow, UInt8.ofNat_toNat, UInt8.ofNat_toNat]

theorem three_eq_some_iff {w x y z : Char} {b : Bytes} :
    three w x y z = some b ↔ ∃ a c d : UInt8, b = [a, c, d] ∧
      [w, x, y, z] = encodeThree (a.toNat * 65536 + c.toNat * 256 + d.toNat) := by
  simp only [three, Option.bind_eq_bind, Option.bind_eq_some_iff, value_eq_some_iff,
    Option.some.injEq, encodeThree, List.cons.injEq, and_true]
  constructor
  · rintro ⟨i, ⟨hi, rfl⟩, j, ⟨hj, rfl⟩, k, ⟨hk, rfl⟩, l, ⟨hl, rfl⟩, rfl⟩
    refine ⟨_, _, _, rfl, ?_⟩
    rw [toNat_ofNat (by omega), toNat_ofNat (by omega), toNat_ofNat (by omega)]
    exact ⟨congrArg digit (by omega), congrArg digit (by omega), congrArg digit (by omega),
      congrArg digit (by omega)⟩
  · rintro ⟨a, c, d, rfl, rfl, rfl, rfl, rfl⟩
    have ha := a.toNat_lt
    have hc := c.toNat_lt
    have hd := d.toNat_lt
    refine ⟨_, ⟨by omega, rfl⟩, _, ⟨by omega, rfl⟩, _, ⟨by omega, rfl⟩, _, ⟨by omega, rfl⟩, ?_⟩
    obtain ⟨n, hn⟩ : ∃ n, n = a.toNat * 65536 + c.toNat * 256 + d.toNat := ⟨_, rfl⟩
    rw [← hn]
    have hsum : n / 262144 * 262144 + n / 4096 % 64 * 4096 + n / 64 % 64 * 64 + n % 64 = n := by
      omega
    have hhigh : n / 65536 = a.toNat := by omega
    have hmid : n / 256 % 256 = c.toNat := by omega
    have hlow : n % 256 = d.toNat := by omega
    rw [hsum, hhigh, hmid, hlow, UInt8.ofNat_toNat, UInt8.ofNat_toNat, UInt8.ofNat_toNat]

end Groups

section Codec

def encodeChars : Bytes → List Char
  | [] => []
  | [a] => encodeOne a.toNat
  | [a, b] => encodeTwo (a.toNat * 256 + b.toNat)
  | a :: b :: c :: rest =>
    encodeThree (a.toNat * 65536 + b.toNat * 256 + c.toNat) ++ encodeChars rest

def decodeChars : List Char → Option Bytes
  | [] => some []
  | w :: x :: y :: z :: rest =>
    if z = '=' then
      if rest ≠ [] then none else if y = '=' then one w x else two w x y
    else do
      let group ← three w x y z
      let tail ← decodeChars rest
      some (group ++ tail)
  | _ => none

theorem decodeChars_encodeChars (b : Bytes) : decodeChars (encodeChars b) = some b := by
  induction b using encodeChars.induct with
  | case1 => rfl
  | case2 a =>
    exact one_eq_some_iff.mpr ⟨a, rfl, rfl⟩
  | case3 a b =>
    have hb := b.toNat_lt
    have hpad : digit ((a.toNat * 256 + b.toNat) % 16 * 4) ≠ '=' := digit_ne_pad (by omega)
    change (if digit ((a.toNat * 256 + b.toNat) % 16 * 4) = '=' then _ else two _ _ _) = _
    rw [if_neg hpad]
    exact two_eq_some_iff.mpr ⟨a, b, rfl, rfl⟩
  | case4 a b c rest ih =>
    have hc := c.toNat_lt
    generalize hn : a.toNat * 65536 + b.toNat * 256 + c.toNat = n
    have hthree : three (digit (n / 262144)) (digit (n / 4096 % 64)) (digit (n / 64 % 64))
        (digit (n % 64)) = some [a, b, c] :=
      three_eq_some_iff.mpr ⟨a, b, c, rfl, by rw [hn]; rfl⟩
    have hpad : digit (n % 64) ≠ '=' := digit_ne_pad (by omega)
    rw [encodeChars, hn]
    simp only [encodeThree, List.cons_append, List.nil_append, decodeChars, if_neg hpad, hthree, ih,
      Option.bind_eq_bind, Option.bind_some]

theorem encodeChars_of_decodeChars {cs : List Char} {b : Bytes} (h : decodeChars cs = some b) :
    cs = encodeChars b := by
  induction cs using decodeChars.induct generalizing b with
  | case1 =>
    cases h
    rfl
  | case2 w x y rest hrest =>
    rw [decodeChars, if_pos rfl, if_pos hrest] at h
    cases h
  | case3 w x rest hrest =>
    rw [decodeChars, if_pos rfl, if_neg hrest, if_pos rfl] at h
    obtain rfl : rest = [] := not_not.mp hrest
    obtain ⟨a, rfl, hcs⟩ := one_eq_some_iff.mp h
    exact hcs
  | case4 w x y rest hrest hy =>
    rw [decodeChars, if_pos rfl, if_neg hrest, if_neg hy] at h
    obtain rfl : rest = [] := not_not.mp hrest
    obtain ⟨a, c, rfl, hcs⟩ := two_eq_some_iff.mp h
    exact hcs
  | case5 w x y z rest hz ih =>
    rw [decodeChars, if_neg hz] at h
    simp only [Option.bind_eq_bind, Option.bind_eq_some_iff, Option.some.injEq] at h
    obtain ⟨group, hgroup, tail, htail, rfl⟩ := h
    obtain ⟨a, c, d, rfl, hcs⟩ := three_eq_some_iff.mp hgroup
    change [w, x, y, z] ++ rest = _ ++ encodeChars tail
    rw [hcs, ih htail]
  | case6 cs => simp_all [decodeChars]

theorem length_encodeChars (b : Bytes) : (encodeChars b).length = 4 * ((b.length + 2) / 3) := by
  induction b using encodeChars.induct with
  | case1 => rfl
  | case2 a => simp [encodeChars, encodeOne]
  | case3 a b => simp [encodeChars, encodeTwo]
  | case4 a b c rest ih =>
    rw [encodeChars, List.length_append, ih]
    simp only [encodeThree, List.length_cons, List.length_nil]
    omega

theorem isCharacter_encodeChars (b : Bytes) : ∀ c ∈ encodeChars b, isCharacter c = true := by
  induction b using encodeChars.induct with
  | case1 => simp [encodeChars]
  | case2 a =>
    have ha := a.toNat_lt
    simp only [encodeChars, encodeOne, List.forall_mem_cons]
    exact ⟨isCharacter_digit (by omega), isCharacter_digit (by omega), rfl, rfl, by simp⟩
  | case3 a b =>
    have ha := a.toNat_lt
    have hb := b.toNat_lt
    simp only [encodeChars, encodeTwo, List.forall_mem_cons]
    exact ⟨isCharacter_digit (by omega), isCharacter_digit (by omega),
      isCharacter_digit (by omega), rfl, by simp⟩
  | case4 a b c rest ih =>
    have ha := a.toNat_lt
    have hb := b.toNat_lt
    have hc := c.toNat_lt
    simp only [encodeChars, encodeThree, List.forall_mem_append, List.forall_mem_cons]
    exact ⟨⟨isCharacter_digit (by omega), isCharacter_digit (by omega),
      isCharacter_digit (by omega), isCharacter_digit (by omega), by simp⟩, ih⟩

theorem utf8Size_encodeChars (b : Bytes) : ∀ c ∈ encodeChars b, c.utf8Size = 1 := by
  intro c hc
  have hascii := toNat_of_isCharacter (isCharacter_encodeChars b c hc)
  exact utf8Size_of_ascii (by omega)

end Codec

section Text

/-- The standard alphabet with padding. -/
def encode (b : Bytes) : String := String.ofList (encodeChars b)

/-- Accepts canonical text only: full groups, and no stray bits before the padding. -/
def decode (s : String) : Option Bytes := decodeChars s.toList

theorem decode_encode (b : Bytes) : decode (encode b) = some b := by
  rw [decode, encode, String.toList_ofList, decodeChars_encodeChars]

theorem encode_of_decode {s : String} {b : Bytes} (h : decode s = some b) : s = encode b := by
  rw [encode, ← encodeChars_of_decodeChars h, String.ofList_toList]

theorem isCharacter_encode (b : Bytes) : ∀ c ∈ (encode b).toList, isCharacter c = true := by
  rw [encode, String.toList_ofList]
  exact isCharacter_encodeChars b

theorem utf8ByteSize_encode (b : Bytes) : (encode b).utf8ByteSize = 4 * ((b.length + 2) / 3) := by
  rw [encode, utf8ByteSize_ofList (utf8Size_encodeChars b), length_encodeChars]

example : encode [0x66, 0x6f, 0x6f, 0x62] = "Zm9vYg==" := by decide

end Text

end EnvelopeLite.Base64
