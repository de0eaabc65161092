import EnvelopeLite.ByteFields
import Mathlib.Data.List.DropRight
import Mathlib.Data.String.Basic

namespace EnvelopeLite.Text

open EnvelopeLite.ByteFields

def utf8 (s : String) : Bytes := s.toUTF8.data.toList

@[simp] theorem length_utf8 (s : String) : (utf8 s).length = s.utf8ByteSize := by
  change s.toByteArray.data.toList.length = s.toByteArray.size
  rw [Array.length_toList, ByteArray.size_data]

theorem utf8_inj {s t : String} (h : utf8 s = utf8 t) : s = t := by
  apply String.toByteArray_inj.mp
  apply ByteArray.ext
  exact Array.toList_inj.mp h

theorem utf8Size_of_ascii {c : Char} (h : c.toNat ≤ 127) : c.utf8Size = 1 := by
  rw [Char.utf8Size_eq_one_iff, UInt32.le_iff_toNat_le]
  exact h

theorem utf8ByteSize_ofList {cs : List Char} (h : ∀ c ∈ cs, c.utf8Size = 1) :
    (String.ofList cs).utf8ByteSize = cs.length := by
  induction cs with
  | nil => rfl
  | cons c cs ih =>
    rw [List.forall_mem_cons] at h
    rw [String.ofList_cons, String.utf8ByteSize_append, String.utf8ByteSize_singleton, h.1, ih h.2,
      List.length_cons, Nat.add_comm]

/-- The Unicode property `White_Space`, which `str::trim` strips. -/
def isWhitespace (c : Char) : Bool :=
  (0x09 ≤ c.val && c.val ≤ 0x0d) || c.val == 0x20 || c.val == 0x85 || c.val == 0xa0 ||
    c.val == 0x1680 || (0x2000 ≤ c.val && c.val ≤ 0x200a) || c.val == 0x2028 ||
    c.val == 0x2029 || c.val == 0x202f || c.val == 0x205f || c.val == 0x3000

theorem isWhitespace_of_graphic {c : Char} (hlow : 33 ≤ c.toNat) (hhigh : c.toNat ≤ 126) :
    isWhitespace c = false := by
  simp [isWhitespace, UInt32.le_iff_toNat_le, ← UInt32.toNat_inj]
  omega

def trim (s : String) : String :=
  String.ofList ((s.toList.dropWhile isWhitespace).reverse.dropWhile isWhitespace).reverse

theorem mem_of_mem_trim {s : String} {c : Char} (h : c ∈ (trim s).toList) : c ∈ s.toList := by
  rw [trim, String.toList_ofList] at h
  have hkept := List.rdropWhile_prefix isWhitespace (s.toList.dropWhile isWhitespace)
  have hleft : c ∈ s.toList.dropWhile isWhitespace := hkept.subset h
  exact (List.dropWhile_suffix isWhitespace).subset hleft

theorem trim_eq_self_of_forall {s : String} (h : ∀ c ∈ s.toList, isWhitespace c = false) :
    trim s = s := by
  have hleft : s.toList.dropWhile isWhitespace = s.toList := by
    rw [List.dropWhile_eq_self_iff]
    intro hpos
    rw [h _ (List.getElem_mem hpos)]
    exact Bool.false_ne_true
  have hright : s.toList.rdropWhile isWhitespace = s.toList := by
    rw [List.rdropWhile_eq_self_iff]
    intro hne
    rw [h _ (List.getLast_mem hne)]
    exact Bool.false_ne_true
  rw [trim, hleft]
  change String.ofList (s.toList.rdropWhile isWhitespace) = s
  rw [hright, String.ofList_toList]

theorem trim_trim (s : String) : trim (trim s) = trim s := by
  let left := s.toList.dropWhile isWhitespace
  have htrim : trim s = String.ofList (left.rdropWhile isWhitespace) := rfl
  have hkeeps : (left.rdropWhile isWhitespace).dropWhile isWhitespace =
      left.rdropWhile isWhitespace := by
    rw [List.dropWhile_eq_self_iff]
    intro hpos
    have hkept := List.rdropWhile_prefix isWhitespace left
    have hleft : 0 < left.length := Nat.lt_of_lt_of_le hpos hkept.length_le
    rw [hkept.getElem hpos]
    exact List.dropWhile_get_zero_not isWhitespace s.toList hleft
  rw [htrim, trim, String.toList_ofList, hkeeps]
  change String.ofList ((left.rdropWhile isWhitespace).rdropWhile isWhitespace) = _
  rw [List.rdropWhile_idempotent]

def toAsciiLowercase (s : String) : String := String.ofList (s.toList.map Char.toLower)

def eqIgnoreAsciiCase (s t : String) : Bool := toAsciiLowercase s == toAsciiLowercase t

@[simp] theorem eqIgnoreAsciiCase_iff {s t : String} :
    eqIgnoreAsciiCase s t = true ↔ toAsciiLowercase s = toAsciiLowercase t := by
  simp [eqIgnoreAsciiCase]

/-- Not blank, and without a carriage return or a line feed. -/
def lineSafe (s : String) : Bool :=
  trim s != "" && !s.toList.any (fun c => c == '\r' || c == '\n')

abbrev LineSafe := {s : String // lineSafe s = true}

theorem trim_ne_empty_of_lineSafe {s : String} (h : lineSafe s = true) : trim s ≠ "" := by
  rw [lineSafe, Bool.and_eq_true, bne_iff_ne] at h
  exact h.1

structure Graphic (s : String) : Prop where
  nonempty : s ≠ ""
  visible : ∀ c ∈ s.toList, 33 ≤ c.toNat ∧ c.toNat ≤ 126

theorem Graphic.trim_eq {s : String} (h : Graphic s) : trim s = s :=
  trim_eq_self_of_forall fun c hc => isWhitespace_of_graphic (h.visible c hc).1 (h.visible c hc).2

theorem Graphic.lineSafe {s : String} (h : Graphic s) : lineSafe s = true := by
  have hbreak : ∀ c ∈ s.toList, ¬ (c == '\r' || c == '\n') = true := by
    intro c hc hbreak
    have hlow := (h.visible c hc).1
    rw [Bool.or_eq_true, beq_iff_eq, beq_iff_eq] at hbreak
    obtain rfl | rfl := hbreak <;> exact absurd hlow (by decide)
  rw [Text.lineSafe, h.trim_eq, Bool.and_eq_true, bne_iff_ne, Bool.not_eq_true', List.any_eq_false]
  exact ⟨h.nonempty, hbreak⟩

def validateLine {ε : Type} (e : ε) (s : String) : Except ε LineSafe :=
  if h : lineSafe s = true then .ok ⟨s, h⟩ else .error e

@[simp] theorem validateLine_ok_iff {ε : Type} {e : ε} {s : String} {v : LineSafe} :
    validateLine e s = .ok v ↔ s = v.1 := by
  unfold validateLine
  split
  · rw [Except.ok.injEq, Subtype.ext_iff]
  · next h =>
    simp only [reduceCtorEq, false_iff]
    rintro rfl
    exact h v.2

end EnvelopeLite.Text
